import RenderCheck.Facsimile.Word

/-! # Rows of facsimile images

    A row begins white and is given by its changes: the columns at which it
    turns black, white, black and so on. Each row is written in view of the one
    above it; above the first one all is white.

    Where the changes of a row do not increase, as malformed data can have it,
    a run that would end before it begins is left out. -/

namespace RenderCheck.Facsimile

/-! ## Changes of the row above -/

/-- The changes of the row above from a position on. -/
structure Above where
  changes : Array Nat
  /-- How many changes have been passed. -/
  position : Nat := 0
  deriving DecidableEq

namespace Above

/-- Takes the next change, if there is one. -/
def next (a : Above) : Option Nat × Above :=
  match a.changes[a.position]? with
  | some change => (some change, { a with position := a.position + 1 })
  | none => (none, a)

/-- The position from one on of the first change behind a column. -/
def positionBehind (changes : Array Nat) (column : Nat) : (fuel position : Nat) → Nat
  | 0, position => position
  | fuel + 1, position =>
    match changes[position]? with
    | some change =>
      if change ≤ column then positionBehind changes column fuel (position + 1) else position
    | none => position

/-- Goes on to the first change behind a column at which the row turns black, or
    white, and takes it. -/
def nextBehind (a : Above) (column : Nat) (black : Bool) : Option Nat × Above :=
  let position := positionBehind a.changes column a.changes.size a.position
  let turnsBlack : Bool := position % 2 = 0
  next { a with position := if turnsBlack = black then position else position + 1 }

/-- Goes on to the first change at which the row turns black, or white, and
    takes it. -/
def first (a : Above) (black : Bool) : Option Nat × Above :=
  next { a with position := if black then 0 else 1 }

/-- Goes back to the last change behind which a column does not lie. -/
def backTo (changes : Array Nat) (column : Nat) : (position : Nat) → Nat
  | 0 => 0
  | position + 1 =>
    if column < changes.getD position 0 then backTo changes column position else position + 1

/-- Goes back so that no change behind a column has been passed. -/
def back (a : Above) (column : Nat) : Above :=
  { a with position := backTo a.changes column (min a.position (a.changes.size - 1)) }

end Above

/-! ## Rows -/

/-- What has been read of a row. -/
structure Row where
  above : Above
  /-- Where the run begins that has not ended yet. -/
  column : Nat := 0
  black : Bool := false
  /-- Nothing of the row has been read. -/
  fresh : Bool := true
  /-- The changes, the last one first. -/
  changes : List Nat := []

namespace Row

/-- The first change above at which the row there turns to the other color than
    the one of the run. -/
def changeAbove (row : Row) : Option Nat × Above :=
  if row.fresh then row.above.first !row.black
  else row.above.nextBehind row.column !row.black

/-- Passes the run of the other color above: the run goes on below its end. -/
def pass (row : Row) : Option Row :=
  let passed? : Option Above :=
    if row.fresh then some { row.above with position := row.above.position + 1 }
    else
      match row.above.nextBehind row.column !row.black with
      | (some _, above) => some above
      | (none, _) => none
  passed?.map fun above =>
    let (change, above) := above.next
    { row with above, column := change.getD row.column, fresh := false }

/-- Ends the run `shift` columns behind the change above; `none` if that is not
    inside the row. -/
def turn (width : Nat) (shift : Int) (row : Row) : Option Row :=
  let (change, above) := row.changeAbove
  let column : Int := change.getD width + shift
  if column < 0 ∨ width ≤ column then none
  else
    let column := column.toNat
    some { above := if shift < 0 then above.back column else above
           column, black := !row.black, fresh := false, changes := column :: row.changes }

/-- How a row goes on. -/
inductive Step where
  | goesOn (row : Row)
  /-- The row is complete. -/
  | complete (row : Row)
  /-- There is no such row. -/
  | ending

/-- The row is complete once it reaches its width. -/
def step (width : Nat) (row : Row) : Step :=
  if width ≤ row.column then .complete row else .goesOn row

/-- Reads one mode and what belongs to it. -/
def readMode (width : Nat) (row : Row) (bits : HighBits) : Option (Step × HighBits) := do
  let (mode, bits) ← readWord modeWords bits
  match mode with
  | .pass => return ((← row.pass).step width, bits)
  | .vertical shift =>
    match row.turn width shift with
    | some row => return (.goesOn row, bits)
    | none => return (.complete row, bits)
  | .runs =>
    let (first, bits) ← readRun row.black bits
    let (second, bits) ← readRun (!row.black) bits
    let middle := row.column + first
    if width ≤ middle then return (.complete { row with changes := middle :: row.changes }, bits)
    let column := middle + second
    let changes := column :: middle :: row.changes
    return (step width { row with column, fresh := false, changes }, bits)
  | .extension => none
  | .ending => return (.ending, bits)

/-- Reads a row: its changes, or nothing if the rows have ended. Each mode takes
    at least one bit, so their number is fuel enough. -/
def read (width : Nat) : (fuel : Nat) → Row → HighBits → Option (Option (Array Nat) × HighBits)
  | 0, _, _ => none
  | fuel + 1, row, bits =>
    match row.readMode width bits with
    | none => none
    | some (.ending, bits) => some (none, bits)
    | some (.complete row, bits) => some (some row.changes.reverse.toArray, bits)
    | some (.goesOn row, bits) => read width fuel row bits

end Row

/-! ## Colors -/

/-- The colors from one column on up to the width, black as true. -/
def colorsFrom (width : Nat) : (column : Nat) → (black : Bool) → (changes : List Nat) → List Bool
  | column, black, [] => List.replicate (width - column) black
  | column, black, change :: changes =>
    List.replicate (change - column) black ++ colorsFrom width change (!black) changes

/-- The colors of a row that has some changes. -/
def colors (width : Nat) (changes : Array Nat) : List Bool :=
  (colorsFrom width 0 false changes.toList).take width

/-- The colors of the rows of an image, as many as can be read of `count`. -/
def readRows (width : Nat) : (count : Nat) → (above : Array Nat) → HighBits →
    Option (List (List Bool))
  | 0, _, _ => some []
  | count + 1, above, bits =>
    match Row.read width (8 * bits.bytes.length + 1) { above := { changes := above } } bits with
    | none => none
    | some (none, _) => some []
    | some (some changes, bits) =>
      (readRows width count changes bits).map (colors width changes :: ·)

end RenderCheck.Facsimile
