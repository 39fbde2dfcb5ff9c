import RenderCheck.Jpeg.Sequential

/-! # Images sent better and better

    The scans of a progressive image hold parts of the numbers of its blocks.
    When no scan is left, or where one is not well encoded, the image is shown
    with what is known of the numbers. -/

namespace RenderCheck.Jpeg

/-! ## Scans -/

/-- What is known of the blocks. -/
structure ProgressiveState where
  bits : ScanBits
  header : Header
  /-- The first number of the block before, for each component. -/
  before : Array Int
  /-- The groups up to the next restart; none if there is no restart. -/
  left : Option Nat
  /-- The blocks that a run of zeros has still to cover. -/
  run : Nat
  /-- The blocks of each component, row by row. -/
  blocks : Array (Array (Array Int))

namespace ProgressiveState

/-- Before a scan: nothing is known of it yet. -/
def begin (s : ProgressiveState) : ProgressiveState :=
  { s with
    bits := s.bits.restart
    before := s.before.map fun _ => 0
    left := if s.header.interval = 0 then none else some s.header.interval
    run := 0 }

/-- Changes a block. -/
def setBlock (s : ProgressiveState) (part index : Nat) (change : Array Int → Array Int) :
    ProgressiveState :=
  { s with blocks := s.blocks.modify part fun blocks => blocks.modify index change }

/-- The block of a component. -/
def block (s : ProgressiveState) (part index : Nat) : Array Int :=
  (s.blocks.getD part #[]).getD index #[]

/-- Reads what a scan holds of the first number of a block. -/
def readFirst (s : ProgressiveState) (part index : Nat) : ProgressiveState × Bool :=
  let range := s.header.range
  let component := (s.header.components[part]?).getD ⟨0, 1, 1, 0, 0, 0⟩
  match s.header.firstCodes.lookup (component.first % 4) with
  | none => (s, false)
  | some code =>
    if range.refines then
      match refineFirst range ((s.block part index).getD 0 0) s.bits with
      | none => (s, false)
      | some (value, bits) =>
        ({ s with bits }.setBlock part index fun block => block.setIfInBounds 0 value, true)
    else
      match readDifference code s.bits with
      | none => (s, false)
      | some (difference, bits) =>
        let value := s.before.getD part 0 + difference
        let stored := wrapStored (wrapStored value * range.unit)
        ({ s with bits, before := s.before.setIfInBounds part value }.setBlock part index
          fun block => block.setIfInBounds 0 stored, true)

/-- Reads what a scan holds of the other numbers of a block. -/
def readOthers (s : ProgressiveState) (part index : Nat) : ProgressiveState × Bool :=
  let component := (s.header.components[part]?).getD ⟨0, 1, 1, 0, 0, 0⟩
  match s.header.restCodes.lookup (component.rest % 4) with
  | none => (s, false)
  | some code =>
    let progress := progressBlock code s.header.range s.run (s.block part index) s.bits
    let s := { s with run := progress.run }.setBlock part index fun _ => progress.block
    match progress.bits with
    | none => (s, false)
    | some bits => ({ s with bits }, true)

/-- What follows a group: where a restart is due, the bytes up to its marker
    are passed over. It is a fault if another marker stands there. -/
def endGroup (s : ProgressiveState) : ProgressiveState × Bool :=
  match s.left with
  | none => (s, true)
  | some (left + 2) => ({ s with left := some (left + 1) }, true)
  | some _ =>
    let bits :=
      if s.bits.marker.isNone then
        let (marker, bits) := s.bits.seekMarker
        { bits with marker }
      else s.bits
    let s := { s with bits, left := some s.header.interval }
    match bits.marker with
    | none => (s, true)
    | some marker =>
      if marker.isRestart then
        ({ s with bits := bits.restart, before := s.before.map fun _ => 0, run := 0 }, true)
      else (s, marker = .endOfImage)

/-- The groups of blocks that a scan holds, in order; a block is given by the
    position of its component and its place among the blocks of it. -/
def groups (s : ProgressiveState) (channels : Array Channel) : List (List (Nat × Nat)) :=
  let h := s.header
  match h.parts with
  | [part] =>
    match channels[part]? with
    | none => []
    | some c =>
      let alone := h.finestAcross = 1 && h.finestDown = 1
        || part = 0 && (c.across ≠ 1 || c.down ≠ 1)
      let (wide, high) :=
        if alone then (Header.partsOf 8 h.width, Header.partsOf 8 h.height)
        else (h.groupsAcross, h.groupsDown)
      (List.range high).flatMap fun y =>
        (List.range wide).map fun x => [(part, x + y * (c.stride / 8))]
  | parts =>
    (List.range h.groupsDown).flatMap fun y =>
      (List.range h.groupsAcross).map fun x =>
        parts.flatMap fun part =>
          match channels[part]? with
          | none => []
          | some c =>
            (List.range c.down).flatMap fun row =>
              (List.range c.across).map fun column =>
                (part, x * c.across + column + (y * c.down + row) * (c.stride / 8))

/-- Reads what a scan holds of blocks. -/
def readBlocks : List (Nat × Nat) → ProgressiveState → ProgressiveState × Bool
  | [], s => (s, true)
  | (part, index) :: blocks, s =>
    let onlyFirst := s.header.range.first = 0 || s.header.parts.length ≠ 1
    match if onlyFirst then s.readFirst part index else s.readOthers part index with
    | (s, false) => (s, false)
    | (s, true) => readBlocks blocks s

/-- Reads groups of blocks. -/
def readGroups : List (List (Nat × Nat)) → ProgressiveState → ProgressiveState × Bool
  | [], s => (s, true)
  | group :: groups, s =>
    match s.readBlocks group with
    | (s, false) => (s, false)
    | (s, true) =>
      match s.endGroup with
      | (s, false) => (s, false)
      | (s, true) => readGroups groups s

/-- The head of a scan makes sense: first numbers are not mixed with others,
    and only they are sent for several components at once, which need their
    codes. -/
def isSound (s : ProgressiveState) : Bool :=
  let h := s.header
  h.parts.length ≤ h.colors.size &&
    if h.parts.length = 1 then h.range.last = 0 || h.range.first ≠ 0
    else h.range.last = 0 && h.parts.all fun part =>
      (h.components[part]?).any fun c => (h.firstCodes.lookup (c.first % 4)).isSome

/-- Reads a scan. -/
def readScan (s : ProgressiveState) (channels : Array Channel) : ProgressiveState × Bool :=
  let s := s.begin
  if s.isSound then s.readGroups (s.groups channels) else (s, false)

/-- How many scans an image has at most. -/
def maxScans : Nat := 100

/-- Reads segments and scans from a marker on, until the image ends. -/
def readScans (channels : Array Channel) : (fuel seen : Nat) → Marker → ProgressiveState →
    Except Fault ProgressiveState
  | 0, _, _, s => .ok s
  | fuel + 1, seen, marker, s =>
    if marker = .endOfImage then .ok s
    else
      let next (seen : Nat) (s : ProgressiveState) : Except Fault ProgressiveState :=
        match s.bits.marker with
        | some marker => readScans channels fuel seen marker { s with bits := s.bits.restart }
        | none =>
          match s.bits.seekMarker with
          | (none, _) => .ok s
          | (some marker, bits) => readScans channels fuel seen marker { s with bits }
      if marker.isRestart then next seen s
      else
        match s.header.readSegment marker s.bits.bytes with
        | .error fault => .error fault
        | .ok (header, bytes) =>
          let s := { s with header, bits := { s.bits with bytes } }
          if marker = .startOfScan then
            match s.readScan channels with
            | (s, false) => .ok s
            | (s, true) =>
              if maxScans < seen + 1 then .error .scan else next (seen + 1) s
          else next seen s

end ProgressiveState

/-! ## Images -/

/-- The samples of a strip of a component, out of its blocks. -/
def samplesOfStrip (c : Channel) (blocks : Array (Array Int)) (strip : Nat) : Array Nat :=
  let across := c.stride / 8
  (List.range (across * c.down)).foldl (fun plane i =>
    let block := (blocks.getD (strip * across * c.down + i) #[]).zipWith
      (fun value (factor : Nat) => wrapNumber (value * factor)) c.factors
    placeSamples c.stride (i / across * 8 * c.stride + i % across * 8) (samplesOf block) plane)
    (Array.replicate c.size 0)

/-- What is shown of scans that make blocks better and better. The rows of all
    components must be as long as their groups are. -/
def decodeProgressive (aim : Aim) (header : Header) (bytes : List UInt8) :
    Except Fault Raster := do
  let channels ← Channel.ofHeader header
  if channels.any fun c => c.across * header.groupsAcross * 8 < c.stride then throw .scan
  let canvas := Canvas.ofHeader aim header
  let blocks := channels.map fun c =>
    Array.replicate (c.stride / 8 * c.down * canvas.strips) (Array.replicate 64 0)
  let state : ProgressiveState :=
    { bits := { bytes }, header, before := (channels.map fun _ => 0).toArray, left := none,
      run := 0, blocks := blocks.toArray }
  let state ←
    match state.readScan channels.toArray with
    | (state, false) => pure state
    | (state, true) =>
      match state.bits.marker with
      | none => throw .scan
      | some marker =>
        let state := { state with bits := state.bits.restart }
        state.readScans channels.toArray (bytes.length + 1) 1 marker
  return canvas.raster 0 (← showAll canvas channels fun strip =>
    channels.zipIdx.map fun (c, part) => samplesOfStrip c (state.blocks.getD part #[]) strip)

end RenderCheck.Jpeg
