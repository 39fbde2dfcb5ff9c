import RenderCheck.Jpeg.Strip

/-! # Images sent once

    Here each block is sent once, with all of its numbers. If the first scan
    holds all components, each strip of the image can be shown as soon as its
    groups have been read. Otherwise the scans are read one after the other,
    and the strips are shown in the end.

    A block that is not well encoded ends the image: the strip keeps the
    samples of the strip before where none have been read, and what follows is
    gray. -/

namespace RenderCheck.Jpeg

/-! ## Groups -/

/-- Where a block of a scan stands. -/
structure BlockPlace where
  /-- The position of its component. -/
  part : Nat
  /-- Its column among the blocks of the strip. -/
  column : Nat
  /-- Its row among the blocks of the strip. -/
  row : Nat

/-- What is being read of the scans. -/
structure SequentialState where
  bits : ScanBits
  header : Header
  /-- The first number of the block before, for each component. -/
  before : Array Int
  /-- The groups up to the next restart. -/
  left : Nat
  /-- The samples of each component. -/
  planes : Array (Array Nat)

/-- How the components are laid out. -/
structure Layout where
  channels : Array Channel
  canvas : Canvas
  /-- All components come in the first scan; the samples are those of one
      strip then. -/
  whole : Bool

/-- The samples with those of a block at a position. -/
def placeSamples (stride position : Nat) (block plane : Array Nat) : Array Nat :=
  (List.range 64).foldl (fun plane i =>
    plane.setIfInBounds (position + i / 8 * stride + i % 8) (block.getD i 0)) plane

namespace SequentialState

/-- The codes of a component. -/
def codes? (s : SequentialState) (part : Nat) : Option (Code × Code) :=
  match s.header.components[part]? with
  | none => none
  | some component =>
    match s.header.firstCodes.lookup (component.first % 4),
      s.header.restCodes.lookup (component.rest % 4) with
    | some first, some rest => some (first, rest)
    | _, _ => none

/-- Reads a block into its place in a strip. -/
def readAt (s : SequentialState) (layout : Layout) (strip : Nat) (place : BlockPlace) :
    Option SequentialState :=
  match s.codes? place.part, layout.channels[place.part]? with
  | some (first, rest), some channel =>
    match readBlock first rest channel.factors (s.before.getD place.part 0) s.bits with
    | none => none
    | some (block, value, bits) =>
      let start := if layout.whole then 0 else strip * channel.size
      let position := start + place.row * 8 * channel.stride + place.column * 8
      some { s with
        bits
        before := s.before.setIfInBounds place.part value
        planes := s.planes.modify place.part
          (placeSamples channel.stride position (samplesOf block)) }
  | _, _ => none

/-- Reads blocks in order. If one is not well encoded, the others are not
    read. -/
def readAll (layout : Layout) (strip : Nat) : List BlockPlace → SequentialState →
    SequentialState × Bool
  | [], s => (s, true)
  | place :: places, s =>
    match s.readAt layout strip place with
    | none => (s, false)
    | some s => readAll layout strip places s

/-- A restart: the differences begin anew. -/
def restart (s : SequentialState) : SequentialState :=
  { s with
    bits := s.bits.restart
    before := s.before.map fun _ => 0
    left := s.header.interval }

/-- What follows a group: where a restart is due, the bytes up to its marker
    are passed over. Other restarts are none. -/
def endGroup (s : SequentialState) : SequentialState :=
  let left := s.left - 1
  let due := left = 0 && s.header.interval ≠ 0
  let bits :=
    if due && s.bits.marker.isNone && !s.bits.closed then
      let (marker, bits) := s.bits.seekMarker
      { bits with marker }
    else s.bits
  let s := { s with left, bits }
  match bits.marker with
  | none => s
  | some marker =>
    if marker = .endOfImage then { s with bits := { bits with marker := none, closed := true } }
    else if marker.isRestart && due then s.restart
    else s

/-- The blocks of a group. Where a scan is made of one component among others,
    its blocks are groups of their own. -/
def groupPlaces (s : SequentialState) (layout : Layout) (group : Nat) : List BlockPlace :=
  match layout.whole, s.header.parts with
  | false, [part] => [⟨part, group, 0⟩]
  | _, parts =>
    parts.flatMap fun part =>
      match layout.channels[part]? with
      | none => []
      | some c =>
        (List.range c.down).flatMap fun row =>
          (List.range c.across).map fun column => ⟨part, group * c.across + column, row⟩

/-- How many groups of a scan stand side by side. -/
def groupsAcross (s : SequentialState) (layout : Layout) : Nat :=
  match layout.whole, s.header.parts with
  | false, [part] =>
    match layout.channels[part]? with
    | none => 0
    | some c =>
      Header.partsOf 8 (Header.partsOf s.header.finestAcross (s.header.width * c.across))
  | _, _ => s.header.groupsAcross

/-- Reads groups of a strip. -/
def readGroups (layout : Layout) (strip : Nat) : List Nat → SequentialState →
    SequentialState × Bool
  | [], s => (s, true)
  | group :: groups, s =>
    match s.readAll layout strip (s.groupPlaces layout group) with
    | (s, false) => (s, false)
    | (s, true) => readGroups layout strip groups s.endGroup

/-! ## Scans -/

/-- How reading goes on behind a strip. -/
inductive StripEnd where
  /-- With the next strip. -/
  | goesOn
  /-- With another scan. -/
  | nextScan
  /-- The image ends. -/
  | ends
  /-- A block was not well encoded. -/
  | broken

/-- Reads the segments between two scans, up to the head of the next one. -/
def readBetween : (fuel : Nat) → Header → Marker → List UInt8 →
    Option (Header × List UInt8 × Marker)
  | 0, _, _, _ => none
  | fuel + 1, header, marker, bytes =>
    if marker = .startOfScan then some (header, bytes, marker)
    else if marker = .endOfImage then none
    else
      match header.readSegment marker bytes with
      | .error _ => none
      | .ok (header, bytes) =>
        match Marker.find bytes with
        | none => none
        | some (marker, bytes) =>
          if marker.isKnown then readBetween fuel header marker bytes else none

/-- What stands behind a strip. A marker other than a restart ends the scan. -/
def endStrip (s : SequentialState) : Except Fault (SequentialState × StripEnd) :=
  match s.bits.marker with
  | none => .ok (s, .goesOn)
  | some marker =>
    if marker.isRestart then .ok (s, .goesOn)
    else
      match readBetween (s.bits.bytes.length + 1) s.header marker s.bits.bytes with
      | none => .ok (s, .ends)
      | some (header, bytes, marker) => do
        let (header, bytes) ← header.readSegment marker bytes
        return ({ s with
          header
          bits := { s.bits with bytes }.restart
          left := header.interval }, .nextScan)

/-- Reads a strip. -/
def readStrip (s : SequentialState) (layout : Layout) (strip : Nat) :
    Except Fault (SequentialState × StripEnd) :=
  match s.readGroups layout strip (List.range (s.groupsAcross layout)) with
  | (s, false) => .ok (s, .broken)
  | (s, true) => s.endStrip

/-! ## Images -/

/-- Reads and shows strips of a scan that holds all components: the rows shown,
    and whether a block was not well encoded. -/
def showStrips (layout : Layout) : List Nat → SequentialState → Shown →
    Except Fault (Shown × Bool)
  | [], _, shown => .ok (shown, false)
  | strip :: strips, s, shown => do
    let (s, reached) ← s.readStrip layout strip
    let shown ← layout.canvas.showStrip layout.channels.toList strip s.planes.toList shown
    match reached with
    | .goesOn => showStrips layout strips s shown
    | .nextScan | .ends => return (shown, false)
    | .broken => return (shown, true)

/-- Reads the strips of one scan among others. -/
def readStrips (layout : Layout) : List Nat → SequentialState →
    Except Fault (SequentialState × StripEnd)
  | [], s => .ok (s, .ends)
  | strip :: strips, s => do
    let (s, reached) ← s.readStrip layout strip
    match reached with
    | .goesOn => readStrips layout strips s
    | reached => return (s, reached)

/-- Reads scans until the image ends; none of it if a block was not well
    encoded. -/
def readScans (layout : Layout) : (fuel : Nat) → SequentialState →
    Except Fault (Option SequentialState)
  | 0, s => .ok (some s)
  | fuel + 1, s => do
    let (s, reached) ← s.readStrips layout (List.range layout.canvas.strips)
    match reached with
    | .nextScan => readScans layout fuel s
    | .broken => return none
    | _ => return some s

end SequentialState

/-- The samples of a strip, out of those of the whole image. -/
def stripOf (channels : List Channel) (planes : Array (Array Nat)) (strip : Nat) :
    List (Array Nat) :=
  channels.zipIdx.map fun (c, part) =>
    (planes.getD part #[]).extract (strip * c.size) ((strip + 1) * c.size)

/-- Shows all strips of an image. -/
def showAll (canvas : Canvas) (channels : List Channel) (strips : Nat → List (Array Nat)) :
    Except Fault Shown :=
  (List.range canvas.strips).foldlM (fun shown strip =>
    canvas.showStrip channels strip (strips strip) shown)
    { carried := channels.map fun _ => {} }

/-- All components have both of their codes. -/
def Header.hasCodes (h : Header) : Bool :=
  h.components.all fun c =>
    c.first ≤ 3 && c.rest ≤ 3 && (h.firstCodes.lookup c.first).isSome
      && (h.restCodes.lookup c.rest).isSome

/-- What is shown of scans that send each block once. -/
def decodeSequential (aim : Aim) (header : Header) (bytes : List UInt8) :
    Except Fault Raster := do
  let channels ← Channel.ofHeader header
  if !header.hasCodes then throw .missingTable
  let canvas := Canvas.ofHeader aim header
  let whole := header.parts.length = channels.length
  let layout : Layout := ⟨channels.toArray, canvas, whole⟩
  let planes := channels.map fun c =>
    Array.replicate (if whole then c.size else c.size * canvas.strips) 0
  let state : SequentialState :=
    { bits := { bytes }, header, before := (channels.map fun _ => 0).toArray,
      left := header.interval, planes := planes.toArray }
  if whole then
    let (shown, broken) ← state.showStrips layout (List.range canvas.strips)
      { carried := channels.map fun _ => {} }
    return canvas.raster (if broken then 128 else 0) shown
  else
    match ← state.readScans layout (bytes.length + 1) with
    | none => return canvas.raster 128 { carried := channels.map fun _ => {} }
    | some state =>
      return canvas.raster 0 (← showAll canvas channels (stripOf channels state.planes))

end RenderCheck.Jpeg
