/-! # Paths

    A path is the text it was given as; what it means is its components.
    Repeated separators, separators at the end and every `.` but a leading one
    say nothing, so different texts can have the same components. -/

namespace RenderCheck

/-- A path, as text. -/
structure Path where
  text : String
  deriving DecidableEq, Inhabited

/-- One meaningful part of a path. -/
inductive Component where
  /-- The root that an absolute path begins at. -/
  | root
  /-- A leading `.`. -/
  | current
  /-- The parent directory. -/
  | parent
  /-- An entry by its name. -/
  | name (text : String)
  deriving DecidableEq

/-- The component as it is written. -/
def Component.text : Component → String
  | root => "/"
  | current => "."
  | parent => ".."
  | name text => text

namespace Path

/-! ## Parts between separators -/

/-- Cuts a text at every separator; a text without one is a single part. -/
def split : List Char → List (List Char)
  | [] => [[]]
  | '/' :: rest => [] :: split rest
  | c :: rest =>
    match split rest with
    | part :: parts => (c :: part) :: parts
    | [] => [[c]]

/-- Puts separators between parts. -/
def unsplit (parts : List (List Char)) : List Char :=
  ['/'].intercalate parts

/-- The parts of a path. -/
def parts (p : Path) : List (List Char) :=
  split p.text.toList

/-- A part that says nothing: an empty one or `.`. -/
def isHollow (part : List Char) : Bool :=
  part = [] || part = ['.']

/-- What the first part says if it is hollow: with further parts after it an
    empty one is the root; `.` is the current directory. -/
def lead? : List (List Char) → Option Component
  | [] :: _ :: _ => some .root
  | ['.'] :: _ => some .current
  | _ => none

/-- What a part says anywhere in a path. -/
def ofPart? (part : List Char) : Option Component :=
  if isHollow part then none
  else if part = ['.', '.'] then some .parent
  else some (.name (String.ofList part))

/-- The components of a path in order. -/
def components (p : Path) : List Component :=
  (lead? p.parts).toList ++ p.parts.filterMap ofPart?

/-- The path begins at the root. -/
def isAbsolute (p : Path) : Bool :=
  p.text.toList.head? = some '/'

/-! ## Taking paths apart -/

/-- The name of the entry a path leads to, if its last component is a name. -/
def fileName? (p : Path) : Option String :=
  match p.components.getLast? with
  | some (.name text) => some text
  | _ => none

/-- What follows the last dot of the file name. A dot that begins the name
    does not count, and neither does one that ends it. -/
def extension? (p : Path) : Option String := do
  let name ← p.fileName?
  let backwards := name.toList.reverse
  let extension := (backwards.takeWhile (· ≠ '.')).reverse
  let stem := (backwards.dropWhile (· ≠ '.')).drop 1
  if stem = [] ∨ extension = [] then none else some (String.ofList extension)

/-- Takes hollow parts off the end. -/
def dropHollowEnd (parts : List (List Char)) : List (List Char) :=
  (parts.reverse.dropWhile isHollow).reverse

/-- The text of parts up to the last that says something. If only the leading
    one does, it stands alone. -/
def textOfParts (parts : List (List Char)) : String :=
  match dropHollowEnd parts with
  | [] => ((lead? parts).map Component.text).getD ""
  | kept => String.ofList (unsplit kept)

/-- Drops parts up to and including the given number of solid ones. -/
def dropSolid : Nat → List (List Char) → List (List Char)
  | 0, parts => parts
  | _ + 1, [] => []
  | n + 1, part :: parts => if isHollow part then dropSolid (n + 1) parts else dropSolid n parts

/-- The rest of a path after its first components: from the next part that
    says something to the last one. -/
def dropComponents (p : Path) (count : Nat) : Path :=
  if count = 0 then ⟨textOfParts p.parts⟩
  else
    let solid := count - (lead? p.parts).toList.length
    ⟨String.ofList (unsplit (dropHollowEnd ((dropSolid solid p.parts).dropWhile isHollow)))⟩

/-- The path relative to a base whose components it begins with. -/
def stripPrefix? (p base : Path) : Option Path :=
  if base.components.isPrefixOf p.components then some (p.dropComponents base.components.length)
  else none

/-- Drops the last part that says something, and hollow ones after it. -/
def dropLastSolid (parts : List (List Char)) : List (List Char) :=
  (dropHollowEnd parts).dropLast

/-- The path without its last component; the root and the empty path have
    none. -/
def parent? (p : Path) : Option Path :=
  match p.components.getLast? with
  | none => none
  | some .root => none
  | some .current => some ⟨""⟩
  | some _ => some ⟨textOfParts (dropLastSolid p.parts)⟩

/-! ## Putting paths together -/

/-- The other path seen from this one: an absolute one stands for itself. -/
def join (p other : Path) : Path :=
  if other.isAbsolute then other
  else if p.text = "" ∨ p.text.toList.getLast? = some '/' then ⟨p.text ++ other.text⟩
  else ⟨p.text ++ "/" ++ other.text⟩

end Path

end RenderCheck
