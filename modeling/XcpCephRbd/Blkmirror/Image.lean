import Mathlib.Data.List.Basic
import Mathlib.Tactic.Common

/-!
# RBD image contents and the whole-object diff

An RBD image is a partial map from object numbers to objects. An object that does not exist
reads as zeros, and a guest discard that covers an object removes it. `ObjectDiff` is what
`copy_delta` relies on from the backend's `image_diff(whole_object=True)`: the answer lists
exactly the objects whose content differs between the two states, and the `exists` flag of an
entry says whether the object exists in the later state. `ObjectDiff.exact` is an executable
backend that behaves so.
-/

namespace XcpCephRbd.Blkmirror

/-- The fixed shape of an image: its object size and its size in bytes. -/
structure Geometry where
  objectSize : Nat
  size : Nat
  objectSize_pos : 0 < objectSize

/-- The objects of one state of an image; `none` is an object that does not exist. -/
abbrev Objects := Nat → Option (Nat → UInt8)

/-- The image as created, with no object allocated. -/
def Objects.empty : Objects := fun _ => none

namespace Geometry

variable (g : Geometry)

/-- The number of objects that a byte of the image can lie in. -/
def objectCount : Nat := (g.size + g.objectSize - 1) / g.objectSize

/-- The byte at `pos`; an object that does not exist reads as zeros. -/
def read (img : Objects) (pos : Nat) : UInt8 :=
  match img (pos / g.objectSize) with
  | none => 0
  | some bytes => bytes (pos % g.objectSize)

/-- A guest write of `data` at `off`. Every object it touches exists afterwards. -/
def write (img : Objects) (off : Nat) (data : List UInt8) : Objects := fun o =>
  if 0 < data.length ∧ o * g.objectSize < off + data.length ∧ off < (o + 1) * g.objectSize then
    some fun i =>
      let pos := o * g.objectSize + i
      if off ≤ pos ∧ pos < off + data.length then data.getD (pos - off) 0
      else ((img o).map fun bytes => bytes i).getD 0
  else img o

/-- A guest discard of `[off, off + len)`. An object it covers up to the image end is removed,
an existing object it covers in part has that part zeroed. -/
def discard (img : Objects) (off len : Nat) : Objects := fun o =>
  if off ≤ o * g.objectSize ∧ min ((o + 1) * g.objectSize) g.size ≤ off + len then none
  else (img o).map fun bytes i =>
    let pos := o * g.objectSize + i
    if off ≤ pos ∧ pos < off + len then 0 else bytes i

/-- The content of object `o` differs between two states of the image. -/
def differs (before after : Objects) (o : Nat) : Bool :=
  (List.range g.size).any fun pos =>
    pos / g.objectSize == o && g.read before pos != g.read after pos

variable {g}

/-- Two states differ in an object exactly when some byte of the image in it differs. -/
theorem differs_iff {before after : Objects} {o : Nat} :
    g.differs before after o = true ↔
      ∃ pos < g.size, pos / g.objectSize = o ∧ g.read before pos ≠ g.read after pos := by
  simp [differs]

/-- In an object that does not differ every byte of the image reads the same. -/
theorem read_eq_of_not_differs {before after : Objects} {pos : Nat} (hpos : pos < g.size)
    (h : g.differs before after (pos / g.objectSize) = false) :
    g.read before pos = g.read after pos := by
  by_contra hne
  have hdiff := differs_iff.mpr ⟨pos, hpos, rfl, hne⟩
  simp [h] at hdiff

/-- Every byte of an object that does not exist reads as zero. -/
theorem read_eq_zero {img : Objects} {pos : Nat} (h : img (pos / g.objectSize) = none) :
    g.read img pos = 0 := by
  simp [read, h]

end Geometry

/-- One entry of the backend's diff; `present` is the entry's `exists` flag. -/
structure Diff where
  offset : Nat
  length : Nat
  present : Bool
  deriving DecidableEq, Repr

/-- The backend's `image_diff(whole_object=True)` between two states of an image. -/
structure ObjectDiff (g : Geometry) where
  imageDiff : Objects → Objects → List Diff
  /-- Every object whose content differs is listed. -/
  complete : ∀ before after o, g.differs before after o = true →
    ∃ d ∈ imageDiff before after, d.offset = o * g.objectSize
  /-- Every entry is an object that differs, as a whole, and says whether it still exists. -/
  sound : ∀ before after, ∀ d ∈ imageDiff before after, ∃ o,
    d.offset = o * g.objectSize ∧ g.differs before after o = true ∧
      min g.objectSize (g.size - o * g.objectSize) ≤ d.length ∧ d.length ≤ g.objectSize ∧
      d.present = (after o).isSome

/-- A backend that compares the two states object by object. -/
def ObjectDiff.exact (g : Geometry) : ObjectDiff g where
  imageDiff before after :=
    ((List.range g.objectCount).filter (g.differs before after)).map fun o =>
      ⟨o * g.objectSize, g.objectSize, (after o).isSome⟩
  complete before after o h := by
    obtain ⟨pos, hpos, rfl, -⟩ := Geometry.differs_iff.mp h
    have hcount : pos / g.objectSize < g.objectCount := by
      have hbound : pos < g.size + g.objectSize - 1 := by
        have := g.objectSize_pos
        omega
      rw [Geometry.objectCount, Nat.div_lt_iff_lt_mul g.objectSize_pos]
      have := Nat.div_add_mod (g.size + g.objectSize - 1) g.objectSize
      have := Nat.mod_lt (g.size + g.objectSize - 1) g.objectSize_pos
      rw [Nat.mul_comm]
      omega
    exact ⟨_, List.mem_map_of_mem (List.mem_filter.mpr ⟨List.mem_range.mpr hcount, h⟩), rfl⟩
  sound before after d hd := by
    obtain ⟨o, ho, rfl⟩ := List.mem_map.mp hd
    exact ⟨o, rfl, (List.mem_filter.mp ho).2, Nat.min_le_left _ _, Nat.le_refl _, rfl⟩

/-- An image of one sector with the default object size. -/
def sector : Geometry := ⟨4194304, 512, by decide⟩

/-- The image of a disk whose first object holds the byte 7 throughout. -/
def filled : Objects := fun o => if o = 0 then some fun _ => 7 else none

end XcpCephRbd.Blkmirror
