/-! # What files hold

    The bytes of a file may be many, and most readers see from the first few
    that they do not want the others. So the first bytes are at hand, and all of
    them are worked out when they are first asked for. -/

namespace RenderCheck

/-- How many bytes are at hand: as many as tell the size of a PNG image, up to
    the pixels. -/
def Content.headLength : Nat := 41

/-- The bytes of a file. -/
structure Content where
  /-- The first bytes. -/
  head : List UInt8
  /-- All bytes, the first ones among them. -/
  store : Thunk (List UInt8)
  head_eq : head = store.get.take Content.headLength

namespace Content

/-- All bytes. -/
def bytes (content : Content) : List UInt8 :=
  content.store.get

/-- The content of bytes that are known. -/
def ofBytes (bytes : List UInt8) : Content :=
  ⟨bytes.take headLength, .pure bytes, rfl⟩

/-- No bytes. -/
def empty : Content :=
  ofBytes []

instance : Coe (List UInt8) Content := ⟨ofBytes⟩

instance : Coe Content (List UInt8) := ⟨bytes⟩

@[simp] theorem bytes_ofBytes (bytes : List UInt8) : (ofBytes bytes).bytes = bytes := rfl

theorem head_eq_take (content : Content) : content.head = content.bytes.take headLength :=
  content.head_eq

/-- Contents are alike if their bytes are, whenever these are worked out. -/
@[ext] theorem ext {a b : Content} (hbytes : a.bytes = b.bytes) : a = b := by
  have hhead : a.head = b.head := by rw [head_eq_take, head_eq_take, hbytes]
  cases a
  cases b
  cases hhead
  cases Thunk.ext hbytes
  rfl

@[simp] theorem ofBytes_bytes (content : Content) : ofBytes content.bytes = content :=
  ext rfl

instance : DecidableEq Content := fun a b =>
  decidable_of_iff (a.bytes = b.bytes) Content.ext_iff.symm

end Content

end RenderCheck
