import RenderCheck.IoError

/-! # Where a report goes

    A sink takes bytes up to its capacity, if it has one. Of a write that does
    not fit it keeps the bytes that do, and the write fails; and flushing it
    may fail as well. -/

namespace RenderCheck

/-- Something that a report is written to. -/
structure Sink where
  /-- The most bytes it takes in all. -/
  capacity : Option Nat := none
  /-- Flushing it fails. -/
  flushFails : Bool := false
  /-- The bytes it took. -/
  written : List UInt8 := []
  deriving DecidableEq, Inhabited

namespace Sink

/-- The failure of a write to a sink that is full. -/
def full : IoError := .custom "writer full"

/-- The failure of flushing. -/
def notFlushed : IoError := .custom "flush failed"

/-- Writes bytes. -/
def write (s : Sink) (bytes : List UInt8) : Except IoError Unit × Sink :=
  match s.capacity with
  | none => (.ok (), { s with written := s.written ++ bytes })
  | some capacity =>
    let room := capacity - s.written.length
    (if bytes.length ≤ room then .ok () else .error full,
      { s with written := s.written ++ bytes.take room })

/-- Flushes what was written. -/
def flush (s : Sink) : Except IoError Unit :=
  if s.flushFails then .error notFlushed else .ok ()

end Sink

end RenderCheck
