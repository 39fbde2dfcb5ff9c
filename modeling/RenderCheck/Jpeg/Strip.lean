import RenderCheck.Jpeg.Color

/-! # Strips of an image

    A row of groups is a strip of the image. The components of a strip may be
    coarser than the finest one and are made as fine before they are shown:
    twice as fine by mixing each sample with its neighbors, more than that by
    repeating samples. Where rows are mixed, the last rows of a strip wait for
    the first row of the next one. -/

namespace RenderCheck.Jpeg

/-! ## Channels -/

/-- A component with what it takes to read it and to show it. -/
structure Channel where
  /-- How many blocks stand side by side in a group. -/
  across : Nat
  /-- How many rows of blocks there are in a group. -/
  down : Nat
  /-- How many samples there are in a row. -/
  stride : Nat
  /-- How many times as fine the finest component is in a row. -/
  wide : Nat
  /-- How many times as many rows the finest component has. -/
  high : Nat
  /-- How many rows are made finer at most. -/
  capacity : Nat
  /-- The factors of its numbers. -/
  factors : Array Nat

namespace Channel

/-- Samples are mixed with those above and below. -/
def mixesRows (c : Channel) : Bool :=
  c.high = 2 && c.wide ≤ 2

/-- Samples are mixed with those beside them alone. -/
def mixesColumns (c : Channel) : Bool :=
  c.high = 1 && c.wide = 2

/-- The component is as fine as the finest one. -/
def isFinest (c : Channel) : Bool :=
  c.high = 1 && c.wide = 1

/-- The number of samples of a strip. -/
def size (c : Channel) : Nat :=
  c.stride * c.down * 8

/-- The channels of an image, one for each component. All need their factors.
    The rows of a component have room for groups as fine as the components up
    to it are. -/
def ofHeader (h : Header) : Except Fault (List Channel) :=
  let refined := h.components.head?.any fun c => c.across = 2 || c.down = 2
  h.components.zipIdx.mapM fun (c, i) =>
    match h.factors.lookup c.factors with
    | none => .error .missingTable
    | some factors =>
      let finest := Header.finest ((h.components.take (i + 1)).map (·.across))
      .ok {
        across := c.across, down := c.down, factors
        stride := c.across * Header.partsOf (8 * finest) h.width * 8
        wide := h.finestAcross / c.across
        high := h.finestDown / c.down
        capacity := if refined && i ≠ 0 && (c.across ≠ 1 || c.down ≠ 1) then 16 else 8 }

end Channel

/-! ## Mixing -/

/-- A sample and a neighbor, the sample with three times the weight. -/
def mix (near far : Nat) : Nat :=
  (3 * near + far + 2) / 4

/-- A row with twice as many samples. The first and the last one have no
    neighbor outside. -/
def stretch (row : Array Nat) : Array Nat :=
  Array.ofFn (n := 2 * row.size) fun i =>
    let place := i.val / 2
    let near := row.getD place 0
    if i.val % 2 = 0 then
      if place = 0 then near else mix near (row.getD (place - 1) 0)
    else mix near (row.getD (place + 1) near)

/-- Two rows out of one: mixed with the row above, and with the row below. -/
def mixRows (wide : Nat) (row above below : Array Nat) : Array Nat :=
  let upper := row.zipWith mix above
  let lower := row.zipWith mix below
  if wide = 2 then stretch upper ++ stretch lower else upper ++ lower

/-- A row with each sample so many times. -/
def widen (count : Nat) (row : Array Nat) : Array Nat :=
  row.flatMap fun sample => Array.replicate count sample

/-- Rows of so many samples. -/
def rowsOf (stride : Nat) (samples : Array Nat) : List (Array Nat) :=
  (List.range (samples.size / stride)).map fun y =>
    samples.extract (y * stride) ((y + 1) * stride)

/-- Rows one after the other. -/
def joinRows (rows : List (Array Nat)) : Array Nat :=
  rows.foldl (· ++ ·) #[]

/-- The last samples. -/
def lastOf (count : Nat) (samples : Array Nat) : Array Nat :=
  samples.extract (samples.size - count) samples.size

/-! ## One component -/

/-- What a component keeps of the strip before. -/
structure Carried where
  /-- Its last rows, as fine as the finest component. -/
  head : Array Nat := #[]
  /-- The rows of the strip, as fine as the finest component. -/
  body : Array Nat := #[]
  /-- Its last row, as it was read. -/
  last : Array Nat := #[]
  /-- The row before. -/
  beforeLast : Array Nat := #[]

/-- Where a strip stands in the image. -/
structure StripPlace where
  isFirst : Bool
  isLast : Bool

/-- The rows of a component that is mixed row by row. The last row has to wait
    unless the strip is the last one. -/
def Channel.mixed (c : Channel) (place : StripPlace) (carried : Carried)
    (rows : Array (Array Nat)) : Carried :=
  let head :=
    if place.isFirst then carried.head
    else mixRows c.wide carried.last carried.beforeLast (rows.getD 0 #[])
  let count := if place.isLast then rows.size else rows.size - 1
  let body := (List.range count).map fun y =>
    let row := rows.getD y #[]
    let above :=
      if y = 0 then if place.isFirst then row else carried.last else rows.getD (y - 1) #[]
    mixRows c.wide row above (rows.getD (y + 1) row)
  { head
    body := joinRows body
    last := rows.getD (rows.size - 1) #[]
    beforeLast := rows.getD (rows.size - 2) #[] }

/-- The rows of a component made as fine as the finest one; `waits` says that
    some component of the image is mixed row by row. -/
def Channel.enlarge (c : Channel) (place : StripPlace) (waits : Bool) (carried : Carried)
    (samples : Array Nat) : Except Fault Carried :=
  if c.isFinest then .ok { carried with body := samples }
  else
    let rows := rowsOf c.stride samples
    if c.mixesRows then
      if c.down ≠ 1 then .error .colors else .ok (c.mixed place carried rows.toArray)
    else if c.mixesColumns then
      let head := if waits then lastOf (c.down * c.stride * 2) carried.body else carried.head
      .ok { carried with head, body := joinRows ((rows.take c.capacity).map stretch) }
    else
      .ok { carried with
        body := joinRows ((rows.take c.capacity).map fun row =>
          joinRows (List.replicate c.high (widen c.wide row))) }

/-- What a component keeps as its last rows once the strip before has been
    shown. -/
def Channel.keep (c : Channel) (carried : Carried) (samples : Array Nat) : Carried :=
  if c.mixesColumns then carried
  else { carried with head := lastOf (c.down * c.stride * c.wide * c.high) samples }

/-! ## The image -/

/-- Rows of points, each with so many channels. -/
structure Raster where
  width : Nat
  height : Nat
  /-- How many channels a point has. -/
  count : Nat
  /-- The channels of each row, point by point. -/
  rows : Array (Array Nat)

namespace Raster

/-- The pixels that the channels stand for. -/
def image (r : Raster) : Image :=
  .ofFn r.width r.height fun x y =>
    let row := r.rows.getD y #[]
    pixelOf ((List.range r.count).map fun k => row.getD (r.count * x + k) 0)

/-- The channels as bytes, row by row. -/
def bytes (r : Raster) : List UInt8 :=
  r.rows.toList.flatMap fun row => row.toList.map Nat.toUInt8

end Raster

/-- How an image is shown. -/
structure Canvas where
  aim : Aim
  width : Nat
  height : Nat
  colors : ColorSpace
  /-- How many samples the rows of the finest component have. -/
  stride : Nat
  /-- How many rows of blocks a group has at the finest component. -/
  down : Nat
  /-- The number of strips. -/
  strips : Nat

/-- The rows shown so far, and what the components keep for the next strip. -/
structure Shown where
  /-- The channels of each row. -/
  rows : Array (List Nat) := #[]
  carried : List Carried

namespace Canvas

/-- The canvas for an image. -/
def ofHeader (aim : Aim) (h : Header) : Canvas where
  aim
  width := h.width
  height := h.height
  colors := h.colors
  stride := h.groupsAcross * h.finestAcross * 8
  down := h.finestDown
  strips := h.groupsDown

/-- Shows rows, from one on, up to the height of the image. -/
def showRows (canvas : Canvas) (samples : List (Array Nat)) : (count y : Nat) →
    Array (List Nat) → Except Fault (Array (List Nat))
  | 0, _, rows => .ok rows
  | count + 1, y, rows =>
    if canvas.height ≤ rows.size then .ok rows
    else
      let lines := samples.map fun s => s.extract (y * canvas.stride) ((y + 1) * canvas.stride)
      if lines.any (·.size < canvas.stride) then .error .colors
      else
        match channelsOf canvas.aim canvas.colors canvas.width lines with
        | .error fault => .error fault
        | .ok channels => canvas.showRows samples count (y + 1) (rows.push channels)

/-- Shows a strip: the samples of all components. -/
def showStrip (canvas : Canvas) (channels : List Channel) (strip : Nat)
    (samples : List (Array Nat)) (shown : Shown) : Except Fault Shown := do
  let place : StripPlace := ⟨strip = 0, strip + 1 = canvas.strips⟩
  let waits := channels.any Channel.mixesRows
  let carried ← ((channels.zip shown.carried).zip samples).mapM fun ((c, carried), samples) =>
    c.enlarge place waits carried samples
  let rows ←
    if waits && !place.isFirst then
      canvas.showRows (carried.map Carried.head) canvas.down 0 shown.rows
    else pure shown.rows
  let carried :=
    if waits then
      ((channels.zip carried).zip samples).map fun ((c, carried), samples) =>
        c.keep carried samples
    else carried
  let blocks := if waits && !place.isLast then 7 else 8
  let rows ← canvas.showRows (carried.map Carried.body) (blocks * canvas.down) 0 rows
  return { rows, carried }

/-- How many channels a point has that is made of so many components. -/
def channelCount (canvas : Canvas) (components : Nat) : Nat :=
  if components = 1 then 1
  else
    match canvas.aim with
    | .light => if canvas.colors = .gray then 1 else 3
    | .components => canvas.colors.size

/-- The rows shown, followed by those that are missing: their channels are all
    `missing`. -/
def raster (canvas : Canvas) (missing : Nat) (shown : Shown) : Raster :=
  let count := canvas.channelCount shown.carried.length
  let length := count * canvas.width
  { width := canvas.width, height := canvas.height, count
    rows := (shown.rows.map fun row =>
        (row ++ List.replicate (length - row.length) 0).toArray)
      ++ Array.replicate (canvas.height - shown.rows.size) (Array.replicate length missing) }

end Canvas

/-! ## Laws -/

/-- A row gets twice as many samples. -/
@[simp] theorem size_stretch (row : Array Nat) : (stretch row).size = 2 * row.size := by
  simp [stretch]

end RenderCheck.Jpeg
