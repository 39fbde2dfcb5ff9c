/-! # How a program ended

    The system packs the end of a program into one word: the exit code, or
    the signal that killed it and whether its memory was saved, or that it was
    only stopped or continued. -/

namespace RenderCheck.Tool

/-- The word that tells how a program ended. -/
structure Status where
  word : UInt32
  deriving DecidableEq, Inhabited

namespace Status

/-- The status of a program that exited with a code. -/
def exited (code : Nat) : Status :=
  ⟨UInt32.ofNat (code % 256 * 256)⟩

/-- The status of a program that a signal killed. -/
def killed (signal : Nat) : Status :=
  ⟨UInt32.ofNat (signal % 128)⟩

/-- The lowest seven bits: 0 after an exit, 127 for a program that still
    lives, else the signal that killed it. -/
def ending (s : Status) : Nat :=
  s.word.toNat % 128

/-- The second byte: the exit code, or the signal that stopped the program. -/
def detail (s : Status) : Nat :=
  s.word.toNat / 256 % 256

/-- The exit code, if the program exited. -/
def code? (s : Status) : Option Nat :=
  if s.ending = 0 then some s.detail else none

/-- Nothing went wrong: the word says nothing but that the program exited, with
    0. -/
def success (s : Status) : Bool :=
  s.word = 0

/-- The signal that killed the program, if one did. -/
def signal? (s : Status) : Option Nat :=
  if 0 < s.ending ∧ s.ending < 127 then some s.ending else none

/-- The killed program's memory was saved. -/
def dumpedCore (s : Status) : Bool :=
  s.word.toNat / 128 % 2 = 1

/-- The signal that stopped the program, if it is only stopped. -/
def stopSignal? (s : Status) : Option Nat :=
  if s.word.toNat % 256 = 127 then some s.detail else none

/-- The program was continued. -/
def continued (s : Status) : Bool :=
  s.word = 0xFFFF

/-- The names of the signals from 1 to 31. -/
def signalNames : List String :=
  ["SIGHUP", "SIGINT", "SIGQUIT", "SIGILL", "SIGTRAP", "SIGABRT", "SIGBUS", "SIGFPE",
   "SIGKILL", "SIGUSR1", "SIGSEGV", "SIGUSR2", "SIGPIPE", "SIGALRM", "SIGTERM", "SIGSTKFLT",
   "SIGCHLD", "SIGCONT", "SIGSTOP", "SIGTSTP", "SIGTTIN", "SIGTTOU", "SIGURG", "SIGXCPU",
   "SIGXFSZ", "SIGVTALRM", "SIGPROF", "SIGWINCH", "SIGIO", "SIGPWR", "SIGSYS"]

/-- A signal by number and, if it has one, by name. -/
def signalText (signal : Nat) : String :=
  toString signal ++
    match signal with
    | 0 => ""
    | index + 1 =>
      match signalNames[index]? with
      | some name => " (" ++ name ++ ")"
      | none => ""

/-- The status in words. -/
def text (s : Status) : String :=
  match s.code?, s.signal?, s.stopSignal? with
  | some code, _, _ => "exit status: " ++ toString code
  | none, some signal, _ =>
    "signal: " ++ signalText signal ++ if s.dumpedCore then " (core dumped)" else ""
  | none, none, some signal => "stopped (not terminated) by signal: " ++ signalText signal
  | none, none, none =>
    if s.continued then "continued (WIFCONTINUED)"
    else "unrecognised wait status: " ++ toString s.word.toInt32.toInt ++ " 0x"
      ++ String.ofList (Nat.toDigits 16 s.word.toNat)

end Status

end RenderCheck.Tool
