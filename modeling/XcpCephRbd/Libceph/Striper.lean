import Mathlib.Algebra.Ring.Nat
import Mathlib.Data.List.Perm.Basic
import Mathlib.Tactic.Ring

/-!
# Striping

`striper.c`: a file is cut into stripe units, which are laid out over the objects of object sets. A
byte of the file is one byte of one object (`Layout.locate`), and every byte of an object is one of
the file (`Layout.fileByte`). `mapExtents_bytes` says that the object extents of successive file
extents, mapped back, are the bytes of the file extents, each one once; `iteratePass_actions` that
the second pass over them calls its action for the object extents of the first pass.

File offsets are `u64` in the source and natural numbers here: in a file of at most `2 ^ 64` bytes
no step of the mapping wraps, since the three numbers of a layout are `u32`. Where the source can
wrap on such a file, in `ceph_get_num_objects` and in the `u32` count of `ceph_extent_to_file`, the
definition does. Allocations succeed.
-/

namespace XcpCephRbd.Striper

/-- A quotient and a remainder are found again. -/
theorem div_mod_of_lt {q r n : Nat} (h : r < n) : (q * n + r) / n = q ∧ (q * n + r) % n = r := by
  have hpos : 0 < n := by omega
  rw [Nat.mul_comm q n]
  exact ⟨by rw [Nat.mul_add_div hpos, Nat.div_eq_of_lt h, Nat.add_zero],
    by rw [Nat.mul_add_mod, Nat.mod_eq_of_lt h]⟩

/-- A `ceph_file_layout` of three `u32` whose objects are a whole number of stripe units. -/
structure Layout where
  stripeUnit : Nat
  stripeCount : Nat
  objectSize : Nat
  unit_pos : 0 < stripeUnit
  count_pos : 0 < stripeCount
  size_pos : 0 < objectSize
  unit_dvd : stripeUnit ∣ objectSize
  count_lt : stripeCount < 2 ^ 32 := by decide
  size_lt : objectSize < 2 ^ 32 := by decide

/-- An object extent; in a list of them the place of an extent is its object and its offset. -/
structure ObjectExtent where
  objno : Nat
  off : Nat
  len : Nat
  deriving DecidableEq, Repr

/-- A `ceph_file_extent`. -/
structure FileExtent where
  off : Nat
  len : Nat
  deriving DecidableEq, Repr

/-- A call of the action: the object and the offset of its extent, and the bytes that are mapped. An
extent grows at its end only, so these two name it. -/
structure Action where
  objno : Nat
  off : Nat
  bytes : Nat
  deriving DecidableEq, Repr

namespace Layout

variable (l : Layout)

/-- `stripes_per_object`. -/
def stripesPerObject : Nat := l.objectSize / l.stripeUnit

/-- `ceph_calc_file_object_mapping`: the object, the offset in it and the length that is mapped. -/
def calcFileObjectMapping (off len : Nat) : ObjectExtent :=
  let blockno := off / l.stripeUnit
  let blockoff := off % l.stripeUnit
  let stripeno := blockno / l.stripeCount
  let stripepos := blockno % l.stripeCount
  let objsetno := stripeno / l.stripesPerObject
  let objsetpos := stripeno % l.stripesPerObject
  { objno := objsetno * l.stripeCount + stripepos
    off := objsetpos * l.stripeUnit + blockoff
    len := min len (l.stripeUnit - blockoff) }

/-- The object and the offset in it of a byte of the file. -/
def locate (b : Nat) : Nat × Nat :=
  let m := l.calcFileObjectMapping b 1
  (m.objno, m.off)

/-- The byte of the file that a byte of an object is, as `ceph_extent_to_file` computes it. -/
def fileByte (objno objoff : Nat) : Nat :=
  let objsetno := objno / l.stripeCount
  let stripepos := objno % l.stripeCount
  let stripeno := objoff / l.stripeUnit + objsetno * l.stripesPerObject
  let blockno := stripeno * l.stripeCount + stripepos
  blockno * l.stripeUnit + objoff % l.stripeUnit

theorem objectSize_eq : l.objectSize = l.stripesPerObject * l.stripeUnit :=
  (Nat.div_mul_cancel l.unit_dvd).symm

theorem stripesPerObject_pos : 0 < l.stripesPerObject :=
  Nat.div_pos (Nat.le_of_dvd l.size_pos l.unit_dvd) l.unit_pos

@[simp] theorem calc_objno (off len : Nat) :
    (l.calcFileObjectMapping off len).objno = (l.locate off).1 := rfl

@[simp] theorem calc_off (off len : Nat) :
    (l.calcFileObjectMapping off len).off = (l.locate off).2 := rfl

theorem calc_len (off len : Nat) :
    (l.calcFileObjectMapping off len).len = min len (l.stripeUnit - off % l.stripeUnit) := rfl

/-- A unit of a range that is not empty is not empty. -/
theorem calc_len_pos (off : Nat) {len : Nat} (h : len ≠ 0) :
    0 < (l.calcFileObjectMapping off len).len := by
  have hlt := Nat.mod_lt off l.unit_pos
  rw [calc_len]
  omega

/-- The bytes of a file lie in its objects. -/
theorem locate_lt (b : Nat) : (l.locate b).2 < l.objectSize := by
  have hblock := Nat.mod_lt b l.unit_pos
  have hset := Nat.mod_lt (b / l.stripeUnit / l.stripeCount) l.stripesPerObject_pos
  show (b / l.stripeUnit / l.stripeCount) % l.stripesPerObject * l.stripeUnit +
    b % l.stripeUnit < l.objectSize
  rw [objectSize_eq]
  calc (b / l.stripeUnit / l.stripeCount) % l.stripesPerObject * l.stripeUnit + b % l.stripeUnit
      < (b / l.stripeUnit / l.stripeCount) % l.stripesPerObject * l.stripeUnit + l.stripeUnit := by
        omega
    _ = ((b / l.stripeUnit / l.stripeCount) % l.stripesPerObject + 1) * l.stripeUnit := by
        rw [Nat.add_mul, Nat.one_mul]
    _ ≤ l.stripesPerObject * l.stripeUnit := Nat.mul_le_mul_right _ hset

/-- A byte of the file is found again in its object. -/
theorem fileByte_locate (b : Nat) : l.fileByte (l.locate b).1 (l.locate b).2 = b := by
  have hpos := div_mod_of_lt (q := b / l.stripeUnit / l.stripeCount / l.stripesPerObject)
    (Nat.mod_lt (b / l.stripeUnit) l.count_pos)
  have hoff := div_mod_of_lt (q := b / l.stripeUnit / l.stripeCount % l.stripesPerObject)
    (Nat.mod_lt b l.unit_pos)
  simp only [fileByte, locate, calcFileObjectMapping]
  rw [hpos.1, hpos.2, hoff.1, hoff.2, Nat.mod_add_div', Nat.div_add_mod', Nat.div_add_mod']

/-- A byte of an object is one of the file. -/
theorem locate_fileByte {objno objoff : Nat} (h : objoff < l.objectSize) :
    l.locate (l.fileByte objno objoff) = (objno, objoff) := by
  have hstripe : objoff / l.stripeUnit < l.stripesPerObject := by
    rw [Nat.div_lt_iff_lt_mul l.unit_pos, ← objectSize_eq]
    exact h
  have hunit := div_mod_of_lt (q := (objoff / l.stripeUnit + objno / l.stripeCount *
    l.stripesPerObject) * l.stripeCount + objno % l.stripeCount) (Nat.mod_lt objoff l.unit_pos)
  have hcount := div_mod_of_lt (q := objoff / l.stripeUnit + objno / l.stripeCount *
    l.stripesPerObject) (Nat.mod_lt objno l.count_pos)
  have hset := div_mod_of_lt (q := objno / l.stripeCount) hstripe
  rw [Nat.add_comm] at hset
  have hfst : (l.locate (l.fileByte objno objoff)).1 = objno := by
    show (l.fileByte objno objoff / l.stripeUnit / l.stripeCount / l.stripesPerObject) *
      l.stripeCount + l.fileByte objno objoff / l.stripeUnit % l.stripeCount = objno
    rw [fileByte, hunit.1, hcount.1, hcount.2, hset.1, Nat.div_add_mod']
  have hsnd : (l.locate (l.fileByte objno objoff)).2 = objoff := by
    show (l.fileByte objno objoff / l.stripeUnit / l.stripeCount % l.stripesPerObject) *
      l.stripeUnit + l.fileByte objno objoff % l.stripeUnit = objoff
    rw [fileByte, hunit.1, hunit.2, hcount.1, hset.2, Nat.div_add_mod']
  exact Prod.ext hfst hsnd

/-- The bytes of an object follow one another in the file. -/
theorem fileByte_lt {objno x y : Nat} (h : x < y) : l.fileByte objno x < l.fileByte objno y := by
  have hdiv : x / l.stripeUnit ≤ y / l.stripeUnit := Nat.div_le_div_right (by omega)
  have hx := Nat.mod_lt x l.unit_pos
  rcases Nat.lt_or_eq_of_le hdiv with hlt | heq
  · -- a later stripe unit of the object is in a later block of the file
    have hblock : (x / l.stripeUnit + objno / l.stripeCount * l.stripesPerObject) * l.stripeCount +
        objno % l.stripeCount + 1 ≤
        (y / l.stripeUnit + objno / l.stripeCount * l.stripesPerObject) * l.stripeCount +
          objno % l.stripeCount := by
      have hmul : (x / l.stripeUnit + objno / l.stripeCount * l.stripesPerObject + 1) *
          l.stripeCount ≤
          (y / l.stripeUnit + objno / l.stripeCount * l.stripesPerObject) * l.stripeCount :=
        Nat.mul_le_mul_right _ (by omega)
      have hpos := l.count_pos
      rw [Nat.add_mul, Nat.one_mul] at hmul
      omega
    have hmul := Nat.mul_le_mul_right l.stripeUnit hblock
    rw [Nat.add_mul, Nat.one_mul] at hmul
    simp only [fileByte]
    omega
  · have hxdiv := Nat.div_add_mod x l.stripeUnit
    have hydiv := Nat.div_add_mod y l.stripeUnit
    rw [heq] at hxdiv
    simp only [fileByte, heq]
    omega

/-- The units of a range: what the loops of `ceph_file_to_extents` and `ceph_iterate_extents` get
from `ceph_calc_file_object_mapping`, one after the other. -/
def units (off len : Nat) : List ObjectExtent :=
  if _h : len = 0 then []
  else
    l.calcFileObjectMapping off len ::
      units (off + (l.calcFileObjectMapping off len).len)
        (len - (l.calcFileObjectMapping off len).len)
  termination_by len
  decreasing_by
    have hpos := l.calc_len_pos off _h
    omega

/-- The bytes of a unit follow one another in the object as they do in the file. -/
theorem locate_add {off len i : Nat} (h : i < (l.calcFileObjectMapping off len).len) :
    l.locate (off + i) = ((l.locate off).1, (l.locate off).2 + i) := by
  have hlt : off % l.stripeUnit + i < l.stripeUnit := by
    rw [calc_len] at h
    omega
  have hunit := div_mod_of_lt (q := off / l.stripeUnit) hlt
  have hsum : off / l.stripeUnit * l.stripeUnit + (off % l.stripeUnit + i) = off + i := by
    rw [← Nat.add_assoc, Nat.div_add_mod']
  rw [hsum] at hunit
  simp only [locate, calcFileObjectMapping, hunit.1, hunit.2]
  rw [Nat.add_assoc]

end Layout

/-- The bytes of an object extent: the object and the offset of each. -/
def ObjectExtent.bytes (ex : ObjectExtent) : List (Nat × Nat) :=
  (List.range ex.len).map fun i => (ex.objno, ex.off + i)

/-- The bytes of a file extent. -/
def FileExtent.bytes (fe : FileExtent) : List Nat := (List.range fe.len).map fun i => fe.off + i

/-- A file extent is its beginning and its rest. -/
theorem FileExtent.bytes_add (off m n : Nat) :
    (FileExtent.mk off (m + n)).bytes = (FileExtent.mk off m).bytes ++
      (FileExtent.mk (off + m) n).bytes := by
  simp only [FileExtent.bytes, List.range_add, List.map_append, List.map_map]
  congr 1
  apply List.map_congr_left
  intro i _
  show off + (m + i) = off + m + i
  omega

/-- An extent that has grown has its old bytes and the new ones. -/
theorem ObjectExtent.bytes_grow (ex : ObjectExtent) (n : Nat) :
    ({ ex with len := ex.len + n } : ObjectExtent).bytes =
      ex.bytes ++ (ObjectExtent.mk ex.objno (ex.off + ex.len) n).bytes := by
  simp only [ObjectExtent.bytes, List.range_add, List.map_append, List.map_map]
  congr 1
  apply List.map_congr_left
  intro i _
  show (ex.objno, ex.off + (ex.len + i)) = (ex.objno, ex.off + ex.len + i)
  rw [Nat.add_assoc]

namespace Layout

variable (l : Layout)

/-- The units of a range are its bytes, in their order. -/
theorem units_bytes (off len : Nat) :
    (l.units off len).flatMap ObjectExtent.bytes =
      (FileExtent.mk off len).bytes.map l.locate := by
  induction off, len using units.induct l with
  | case1 off => simp [units, FileExtent.bytes]
  | case2 off len h ih =>
      rw [units, dif_neg h, List.flatMap_cons, ih]
      have hle : (l.calcFileObjectMapping off len).len ≤ len := by
        rw [calc_len]
        omega
      have hhead : (l.calcFileObjectMapping off len).bytes =
          (FileExtent.mk off (l.calcFileObjectMapping off len).len).bytes.map l.locate := by
        simp only [ObjectExtent.bytes, FileExtent.bytes, List.map_map]
        apply List.map_congr_left
        intro i hi
        show _ = l.locate (off + i)
        rw [l.locate_add (List.mem_range.mp hi), calc_objno, calc_off]
      rw [hhead, ← List.map_append, ← FileExtent.bytes_add, Nat.add_sub_cancel' hle]

end Layout

/-! ## The list of object extents

`object_extents` is searched from its end, so it is read from its end here. -/

/-- `lookup_last`: the last extent with an object number, in the list read from its end. -/
def lookupLast (objno : Nat) : List ObjectExtent → Option ObjectExtent
  | [] => none
  | ex :: rest =>
      if ex.objno = objno then some ex
      else if ex.objno < objno then none
      else lookupLast objno rest

/-- The list after a unit: it grows the last extent of its object, when it starts where this one
ends, and is a new extent otherwise. -/
def addUnit (u : ObjectExtent) : List ObjectExtent → List ObjectExtent
  | [] => [u]
  | ex :: rest =>
      if ex.objno = u.objno then
        if ex.off + ex.len ≠ u.off then u :: ex :: rest
        else { ex with len := ex.len + u.len } :: rest
      else if ex.objno < u.objno then u :: ex :: rest
      else ex :: addUnit u rest

/-- The call of the action for a unit. -/
def unitAction (u : ObjectExtent) (rev : List ObjectExtent) : Action :=
  match lookupLast u.objno rev with
  | none => ⟨u.objno, u.off, u.len⟩
  | some ex => ⟨u.objno, if ex.off + ex.len ≠ u.off then u.off else ex.off, u.len⟩

/-- What a unit does: it grows an extent of its object that it starts at the end of, or it is a new
extent somewhere in the list; the action is called with this extent. -/
theorem addUnit_cases (u : ObjectExtent) (rev : List ObjectExtent) :
    (∃ pre old post, rev = pre ++ old :: post ∧ old.objno = u.objno ∧ old.off + old.len = u.off ∧
      addUnit u rev = pre ++ { old with len := old.len + u.len } :: post ∧
      unitAction u rev = ⟨u.objno, old.off, u.len⟩) ∨
    (∃ pre post, rev = pre ++ post ∧ addUnit u rev = pre ++ u :: post ∧
      unitAction u rev = ⟨u.objno, u.off, u.len⟩) := by
  induction rev with
  | nil => exact .inr ⟨[], [], rfl, rfl, rfl⟩
  | cons first rest ih =>
      rw [unitAction, lookupLast, addUnit]
      by_cases hobj : first.objno = u.objno
      · rw [if_pos hobj, if_pos hobj]
        by_cases hend : first.off + first.len ≠ u.off
        · rw [if_pos hend]
          exact .inr ⟨[], first :: rest, rfl, rfl, by simp [hend]⟩
        · rw [if_neg hend]
          exact .inl ⟨[], first, rest, rfl, hobj, not_not.mp hend, rfl, by simp [hend]⟩
      · rw [if_neg hobj, if_neg hobj]
        by_cases hlt : first.objno < u.objno
        · rw [if_pos hlt, if_pos hlt]
          exact .inr ⟨[], first :: rest, rfl, rfl, rfl⟩
        · rw [if_neg hlt, if_neg hlt]
          rcases ih with ⟨pre, old, post, rfl, hold, hend, hadd, hact⟩ |
            ⟨pre, post, rfl, hadd, hact⟩
          · exact .inl ⟨first :: pre, old, post, rfl, hold, hend, by rw [hadd]; rfl, hact⟩
          · exact .inr ⟨first :: pre, post, rfl, by rw [hadd]; rfl, hact⟩

/-- The action is called for the unit's object and for all of its bytes. -/
theorem unitAction_eq (u : ObjectExtent) (rev : List ObjectExtent) :
    (unitAction u rev).objno = u.objno ∧ (unitAction u rev).bytes = u.len := by
  rw [unitAction]
  split
  · exact ⟨rfl, rfl⟩
  · exact ⟨rfl, rfl⟩

/-- The list grows by the bytes of the unit. -/
theorem addUnit_bytes (u : ObjectExtent) (rev : List ObjectExtent) :
    ((addUnit u rev).flatMap ObjectExtent.bytes).Perm
      (rev.flatMap ObjectExtent.bytes ++ u.bytes) := by
  rcases addUnit_cases u rev with ⟨pre, old, post, rfl, hobj, hend, hadd, -⟩ |
    ⟨pre, post, rfl, hadd, -⟩
  · have hu : u = ⟨old.objno, old.off + old.len, u.len⟩ := by rw [hobj, hend]
    rw [hadd, List.flatMap_append, List.flatMap_append, List.flatMap_cons, List.flatMap_cons,
      ObjectExtent.bytes_grow, ← hu, List.append_assoc, List.append_assoc, List.append_assoc]
    exact ((List.perm_append_comm).append_left _).append_left _
  · rw [hadd, List.flatMap_append, List.flatMap_append, List.flatMap_cons, List.append_assoc]
    exact (List.perm_append_comm).append_left _

/-- One extent stands after another, and not at its end. -/
def Follows (a b : ObjectExtent) : Prop :=
  b.objno < a.objno ∨ b.objno = a.objno ∧ b.off + b.len < a.off

/-- What the loops keep of the list: it is sorted, nothing of it is left to be merged, and it lies
before a byte of the file. -/
structure Placed (l : Layout) (bound : Nat) (rev : List ObjectExtent) : Prop where
  sorted : rev.Pairwise Follows
  len_pos : ∀ ex ∈ rev, 0 < ex.len
  before : ∀ ex ∈ rev, l.fileByte ex.objno (ex.off + ex.len - 1) < bound

/-- A unit whose first byte is a byte of the file, and whose others follow it there. -/
structure Starts (l : Layout) (off : Nat) (u : ObjectExtent) : Prop where
  len_pos : 0 < u.len
  first : l.fileByte u.objno u.off = off
  last : l.fileByte u.objno (u.off + u.len - 1) < off + u.len

/-- The units of the loops. -/
theorem starts_calc (l : Layout) (off : Nat) {len : Nat} (h : len ≠ 0) :
    Starts l off (l.calcFileObjectMapping off len) := by
  have hpos := l.calc_len_pos off h
  have hlast : l.locate (off + ((l.calcFileObjectMapping off len).len - 1)) =
      ((l.locate off).1, (l.locate off).2 + ((l.calcFileObjectMapping off len).len - 1)) :=
    l.locate_add (Nat.sub_one_lt_of_lt hpos)
  have hback := l.fileByte_locate (off + ((l.calcFileObjectMapping off len).len - 1))
  refine ⟨hpos, l.fileByte_locate off, ?_⟩
  rw [hlast] at hback
  rw [l.calc_objno, l.calc_off, Nat.add_sub_assoc hpos, hback]
  omega

section Placed

variable {l : Layout} {bound off : Nat} {u : ObjectExtent} {rev : List ObjectExtent}

/-- What is placed before a byte is placed before the bytes after it. -/
theorem Placed.mono {later : Nat} (h : Placed l bound rev) (hle : bound ≤ later) :
    Placed l later rev :=
  ⟨h.sorted, h.len_pos, fun ex hex => Nat.lt_of_lt_of_le (h.before ex hex) hle⟩

/-- The extents of an object end where a later unit of it starts, or before. -/
theorem Placed.end_le (h : Placed l bound rev) (hu : Starts l off u) (hle : bound ≤ off)
    {ex : ObjectExtent} (hex : ex ∈ rev) (hobj : ex.objno = u.objno) : ex.off + ex.len ≤ u.off := by
  by_contra hlt
  have hpos := h.len_pos ex hex
  have hbefore := h.before ex hex
  have hfirst := hu.first
  rw [hobj] at hbefore
  -- the bytes of an object are in the order of the file
  have hmono : l.fileByte u.objno u.off ≤ l.fileByte u.objno (ex.off + ex.len - 1) := by
    rcases Nat.lt_or_eq_of_le (show u.off ≤ ex.off + ex.len - 1 by omega) with hlt | heq
    · exact Nat.le_of_lt (l.fileByte_lt hlt)
    · rw [heq]
  omega

/-- An extent after a unit is one that was there, or grown, or the unit's own. -/
theorem mem_addUnit {ex : ObjectExtent} (h : ex ∈ addUnit u rev) :
    ex ∈ rev ∨ ex = u ∨ ∃ old ∈ rev, old.objno = u.objno ∧ old.off + old.len = u.off ∧
      ex = { old with len := old.len + u.len } := by
  rcases addUnit_cases u rev with ⟨pre, old, post, rfl, hobj, hend, hadd, -⟩ |
    ⟨pre, post, rfl, hadd, -⟩
  · rw [hadd, List.mem_append, List.mem_cons] at h
    rcases h with hpre | heq | hpost
    · exact .inl (List.mem_append_left _ hpre)
    · exact .inr (.inr ⟨old, by simp, hobj, hend, heq⟩)
    · exact .inl (List.mem_append_right _ (List.mem_cons_of_mem _ hpost))
  · rw [hadd, List.mem_append, List.mem_cons] at h
    rcases h with hpre | heq | hpost
    · exact .inl (List.mem_append_left _ hpre)
    · exact .inr (.inl heq)
    · exact .inl (List.mem_append_right _ hpost)

/-- A new extent goes before what it follows. -/
theorem sorted_cons {ex : ObjectExtent} {rest : List ObjectExtent}
    (hsorted : (ex :: rest).Pairwise Follows) (hex : Follows u ex) :
    (u :: ex :: rest).Pairwise Follows := by
  refine List.pairwise_cons.mpr ⟨?_, hsorted⟩
  intro b hb
  rcases List.mem_cons.mp hb with rfl | hrest
  · exact hex
  · have hfollows := (List.pairwise_cons.mp hsorted).1 b hrest
    simp only [Follows] at hex hfollows ⊢
    omega

/-- The list stays sorted. -/
theorem sorted_addUnit (hsorted : rev.Pairwise Follows)
    (hend : ∀ ex ∈ rev, ex.objno = u.objno → ex.off + ex.len ≤ u.off) :
    (addUnit u rev).Pairwise Follows := by
  induction rev with
  | nil => exact List.pairwise_singleton _ _
  | cons ex rest ih =>
      have hrest := List.pairwise_cons.mp hsorted
      have hle := hend ex List.mem_cons_self
      rw [addUnit]
      split
      · rename_i hobj
        split
        · refine sorted_cons hsorted (.inr ⟨hobj, ?_⟩)
          have := hle hobj
          omega
        · exact List.pairwise_cons.mpr ⟨fun b hb => hrest.1 b hb, hrest.2⟩
      · rename_i hne
        split
        · exact sorted_cons hsorted (.inl (by assumption))
        · have hlt : u.objno < ex.objno := by omega
          refine List.pairwise_cons.mpr
            ⟨?_, ih hrest.2 fun b hb => hend b (List.mem_cons_of_mem _ hb)⟩
          intro b hb
          rcases mem_addUnit hb with hold | rfl | ⟨old, -, hobj, -, rfl⟩
          · exact hrest.1 b hold
          · exact .inl hlt
          · exact .inl (by rw [hobj]; exact hlt)

/-- One turn of the loop of `ceph_file_to_extents`. -/
theorem Placed.addUnit (h : Placed l bound rev) (hu : Starts l off u) (hle : bound ≤ off) :
    Placed l (off + u.len) (addUnit u rev) := by
  have hold := h.mono (show bound ≤ off + u.len by omega)
  refine ⟨sorted_addUnit h.sorted fun ex hex hobj => h.end_le hu hle hex hobj, ?_, ?_⟩
  · intro ex hex
    rcases mem_addUnit hex with hmem | rfl | ⟨old, hmem, -, -, rfl⟩
    · exact h.len_pos ex hmem
    · exact hu.len_pos
    · exact Nat.lt_of_lt_of_le (h.len_pos old hmem) (Nat.le_add_right _ _)
  · intro ex hex
    rcases mem_addUnit hex with hmem | rfl | ⟨old, hmem, hobj, hend, rfl⟩
    · exact hold.before ex hmem
    · exact hu.last
    · have hlast := hu.last
      show l.fileByte old.objno (old.off + (old.len + u.len) - 1) < off + u.len
      rw [hobj, ← Nat.add_assoc, hend]
      exact hlast

end Placed

/-- The units of a loop, one after the other: the calls of the action and the list. -/
def addUnits : List ObjectExtent → List ObjectExtent → List Action × List ObjectExtent
  | [], rev => ([], rev)
  | u :: us, rev => (unitAction u rev :: (addUnits us (addUnit u rev)).1,
      (addUnits us (addUnit u rev)).2)

/-- The check at the end of `ceph_file_to_extents`, over neighbours of the list in its order. -/
def extentsSorted : List ObjectExtent → Bool
  | last :: ex :: rest =>
      if last.objno > ex.objno ∨ last.objno = ex.objno ∧ last.off + last.len ≥ ex.off then false
      else extentsSorted (ex :: rest)
  | _ => true

/-- `ceph_file_to_extents`; nothing is returned where the code returns `-EINVAL`. -/
def fileToExtents (l : Layout) (fe : FileExtent) (rev : List ObjectExtent) :
    Option (List Action × List ObjectExtent) :=
  let result := addUnits (l.units fe.off fe.len) rev
  if extentsSorted result.2.reverse then some result else none

/-- The first pass of `rbd_img_fill_request`: `ceph_file_to_extents` for each image extent. -/
def mapExtents (l : Layout) : List FileExtent → List ObjectExtent →
    Option (List Action × List ObjectExtent)
  | [], rev => some ([], rev)
  | fe :: fes, rev => do
      let first ← fileToExtents l fe rev
      let rest ← mapExtents l fes first.2
      return (first.1 ++ rest.1, rest.2)

/-- `lookup_containing`, in the list in its order. -/
def lookupContaining (u : ObjectExtent) : List ObjectExtent → Option ObjectExtent
  | [] => none
  | ex :: rest =>
      if ex.objno = u.objno ∧ ex.off ≤ u.off ∧ ex.off + ex.len ≥ u.off + u.len then some ex
      else if ex.objno > u.objno then none
      else lookupContaining u rest

/-- The loop of `ceph_iterate_extents`, over the units of its range. -/
def iterateUnits (exts : List ObjectExtent) : List ObjectExtent → Option (List Action)
  | [] => some []
  | u :: us => do
      let ex ← lookupContaining u exts
      let rest ← iterateUnits exts us
      return ⟨ex.objno, ex.off, u.len⟩ :: rest

/-- `ceph_iterate_extents`; nothing is returned where the code returns `-EINVAL`. -/
def iterateExtents (l : Layout) (exts : List ObjectExtent) (fe : FileExtent) :
    Option (List Action) :=
  iterateUnits exts (l.units fe.off fe.len)

/-- The second pass of `rbd_img_fill_request`. -/
def iteratePass (l : Layout) (exts : List ObjectExtent) : List FileExtent → Option (List Action)
  | [] => some []
  | fe :: fes => do
      let first ← iterateExtents l exts fe
      let rest ← iteratePass l exts fes
      return first ++ rest

/-! ## The first pass -/

/-- Units that start one after the other in the file, from a byte up to another one. -/
def Chained (l : Layout) : Nat → List ObjectExtent → Nat → Prop
  | bound, [], final => bound ≤ final
  | bound, u :: us, final => ∃ off, bound ≤ off ∧ Starts l off u ∧ Chained l (off + u.len) us final

section Pass

variable {l : Layout} {bound final : Nat} {us : List ObjectExtent} {rev : List ObjectExtent}

/-- Chains of units one after the other. -/
theorem Chained.append {mid : Nat} {vs : List ObjectExtent} (h : Chained l bound us mid)
    (hvs : Chained l mid vs final) : Chained l bound (us ++ vs) final := by
  induction us generalizing bound with
  | nil =>
      cases vs with
      | nil => exact Nat.le_trans h hvs
      | cons v vs =>
          obtain ⟨off, hle, hrest⟩ := hvs
          exact ⟨off, Nat.le_trans h hle, hrest⟩
  | cons u us ih =>
      obtain ⟨off, hle, hu, hrest⟩ := h
      exact ⟨off, hle, hu, ih hrest⟩

/-- The units of a range. -/
theorem chained_units (l : Layout) (off len : Nat) :
    Chained l off (l.units off len) (off + len) := by
  induction off, len using Layout.units.induct l with
  | case1 off =>
      rw [Layout.units, dif_pos rfl]
      exact Nat.le_refl _
  | case2 off len h ih =>
      have hle : (l.calcFileObjectMapping off len).len ≤ len := by
        rw [Layout.calc_len]
        omega
      rw [Layout.units, dif_neg h]
      refine ⟨off, Nat.le_refl _, starts_calc l off h, ?_⟩
      rw [Nat.add_assoc, Nat.add_sub_cancel' hle] at ih
      exact ih

/-- The units of successive file extents. -/
theorem chained_flatMap {fes : List FileExtent}
    (h : fes.Pairwise fun a b => a.off + a.len ≤ b.off) (hbound : ∀ fe ∈ fes, bound ≤ fe.off) :
    ∃ final, Chained l bound (fes.flatMap fun fe => l.units fe.off fe.len) final := by
  induction fes generalizing bound with
  | nil => exact ⟨bound, Nat.le_refl _⟩
  | cons fe fes ih =>
      obtain ⟨hfe, hfes⟩ := List.pairwise_cons.mp h
      obtain ⟨final, hrest⟩ := ih hfes hfe
      have hfirst : Chained l bound (l.units fe.off fe.len) (fe.off + fe.len) :=
        @Chained.append l bound _ [] _ _ (hbound fe List.mem_cons_self)
          (chained_units l fe.off fe.len)
      exact ⟨final, hfirst.append hrest⟩

theorem addUnits_append (us vs rev : List ObjectExtent) :
    addUnits (us ++ vs) rev = ((addUnits us rev).1 ++ (addUnits vs (addUnits us rev).2).1,
      (addUnits vs (addUnits us rev).2).2) := by
  induction us generalizing rev with
  | nil => rfl
  | cons u us ih => simp [addUnits, ih]

/-- The list after all units. -/
theorem Placed.addUnits (h : Placed l bound rev) (hus : Chained l bound us final) :
    Placed l final (addUnits us rev).2 := by
  induction us generalizing bound rev with
  | nil => exact h.mono hus
  | cons u us ih =>
      obtain ⟨off, hle, hu, hrest⟩ := hus
      exact ih (h.addUnit hu hle) hrest

/-- The list has grown by the bytes of the units. -/
theorem addUnits_bytes (us rev : List ObjectExtent) :
    ((addUnits us rev).2.flatMap ObjectExtent.bytes).Perm
      (rev.flatMap ObjectExtent.bytes ++ us.flatMap ObjectExtent.bytes) := by
  induction us generalizing rev with
  | nil => simp [Striper.addUnits]
  | cons u us ih =>
      rw [List.flatMap_cons, ← List.append_assoc]
      exact (ih _).trans ((addUnit_bytes u rev).append_right _)

/-- The check passes on a sorted list. -/
theorem extentsSorted_of_sorted {exts : List ObjectExtent}
    (h : exts.Pairwise fun a b => Follows b a) : extentsSorted exts = true := by
  induction exts with
  | nil => rfl
  | cons last exts ih =>
      cases exts with
      | nil => rfl
      | cons ex rest =>
          obtain ⟨hlast, hrest⟩ := List.pairwise_cons.mp h
          have hfollows := hlast ex List.mem_cons_self
          have hok : ¬(last.objno > ex.objno ∨
              last.objno = ex.objno ∧ last.off + last.len ≥ ex.off) := by
            simp only [Follows] at hfollows
            omega
          rw [extentsSorted, if_neg hok]
          exact ih hrest

/-- `ceph_file_to_extents` never finds its list out of order. -/
theorem fileToExtents_eq {fe : FileExtent} (h : Placed l bound rev) (hle : bound ≤ fe.off) :
    fileToExtents l fe rev = some (Striper.addUnits (l.units fe.off fe.len) rev) := by
  have hplaced := (h.mono hle).addUnits (chained_units l fe.off fe.len)
  rw [fileToExtents, if_pos]
  exact extentsSorted_of_sorted (List.pairwise_reverse.mpr hplaced.sorted)

/-- The first pass takes the units of all file extents. -/
theorem mapExtents_eq {fes : List FileExtent} (h : Placed l bound rev)
    (hfes : fes.Pairwise fun a b => a.off + a.len ≤ b.off) (hbound : ∀ fe ∈ fes, bound ≤ fe.off) :
    mapExtents l fes rev =
      some (Striper.addUnits (fes.flatMap fun fe => l.units fe.off fe.len) rev) := by
  induction fes generalizing bound rev with
  | nil => rfl
  | cons fe fes ih =>
      obtain ⟨hfe, hrest⟩ := List.pairwise_cons.mp hfes
      have hle := hbound fe List.mem_cons_self
      have hplaced := (h.mono hle).addUnits (chained_units l fe.off fe.len)
      rw [mapExtents, fileToExtents_eq h hle, Option.bind_eq_bind, Option.bind_some,
        ih hplaced hrest hfe, List.flatMap_cons, addUnits_append]
      rfl

end Pass

/-! ## The second pass -/

/-- The extents of one list are those of another one, grown at their ends. -/
def Grows (rev rev' : List ObjectExtent) : Prop :=
  ∀ ex ∈ rev, ∃ ex' ∈ rev', ex'.objno = ex.objno ∧ ex'.off = ex.off ∧ ex.len ≤ ex'.len

/-- An extent holds a unit. -/
def ObjectExtent.Holds (ex u : ObjectExtent) : Prop :=
  ex.objno = u.objno ∧ ex.off ≤ u.off ∧ u.off + u.len ≤ ex.off + ex.len

section Pass

variable {l : Layout} {bound final : Nat} {u : ObjectExtent} {us rev fin : List ObjectExtent}

theorem Grows.trans {rev' : List ObjectExtent} (h : Grows rev rev') (h' : Grows rev' fin) :
    Grows rev fin := by
  intro ex hex
  obtain ⟨ex', hex', hobj', hoff', hlen'⟩ := h ex hex
  obtain ⟨last, hlast, hobj, hoff, hlen⟩ := h' ex' hex'
  exact ⟨last, hlast, by omega, by omega, by omega⟩

theorem grows_self (rev : List ObjectExtent) : Grows rev rev := by
  intro ex hex
  exact ⟨ex, hex, rfl, rfl, Nat.le_refl _⟩

/-- A unit leaves the extents, or grows one of them. -/
theorem grows_addUnit (u : ObjectExtent) (rev : List ObjectExtent) : Grows rev (addUnit u rev) := by
  intro ex hex
  rcases addUnit_cases u rev with ⟨pre, old, post, rfl, -, -, hadd, -⟩ | ⟨pre, post, rfl, hadd, -⟩
  · rw [hadd]
    rw [List.mem_append, List.mem_cons] at hex
    rcases hex with hpre | rfl | hpost
    · exact ⟨ex, List.mem_append_left _ hpre, rfl, rfl, Nat.le_refl _⟩
    · exact ⟨_, List.mem_append_right _ List.mem_cons_self, rfl, rfl, Nat.le_add_right _ _⟩
    · exact ⟨ex, List.mem_append_right _ (List.mem_cons_of_mem _ hpost), rfl, rfl, Nat.le_refl _⟩
  · rw [hadd]
    refine ⟨ex, ?_, rfl, rfl, Nat.le_refl _⟩
    rw [List.mem_append] at hex
    rcases hex with hpre | hpost
    · exact List.mem_append_left _ hpre
    · exact List.mem_append_right _ (List.mem_cons_of_mem _ hpost)

theorem grows_addUnits (us rev : List ObjectExtent) : Grows rev (addUnits us rev).2 := by
  induction us generalizing rev with
  | nil => exact grows_self rev
  | cons u us ih => exact (grows_addUnit u rev).trans (ih _)

/-- The extent that the action is called with holds the unit. -/
theorem home_addUnit (u : ObjectExtent) (rev : List ObjectExtent) :
    ∃ ex ∈ addUnit u rev, ex.off = (unitAction u rev).off ∧ ex.Holds u := by
  rcases addUnit_cases u rev with ⟨pre, old, post, rfl, hobj, hend, hadd, hact⟩ |
    ⟨pre, post, rfl, hadd, hact⟩
  · rw [hadd, hact]
    refine ⟨_, List.mem_append_right _ List.mem_cons_self, rfl, hobj, ?_, ?_⟩
    · show old.off ≤ u.off
      omega
    · show u.off + u.len ≤ old.off + (old.len + u.len)
      omega
  · rw [hadd, hact]
    exact ⟨u, List.mem_append_right _ List.mem_cons_self, rfl, rfl, Nat.le_refl _, Nat.le_refl _⟩

/-- Of a sorted list, the extent that holds a unit is the one that is found. -/
theorem lookupContaining_eq {exts : List ObjectExtent} {ex : ObjectExtent}
    (hsorted : exts.Pairwise fun a b => Follows b a) (hpos : 0 < u.len) (hex : ex ∈ exts)
    (hholds : ex.Holds u) : lookupContaining u exts = some ex := by
  induction exts with
  | nil => cases hex
  | cons first rest ih =>
      obtain ⟨hfirst, hrest⟩ := List.pairwise_cons.mp hsorted
      rw [lookupContaining]
      rcases List.mem_cons.mp hex with rfl | hmem
      · exact if_pos hholds
      · -- what stands before the extent ends before the unit
        have hfollows := hfirst ex hmem
        obtain ⟨hobj, hoff, hend⟩ := hholds
        simp only [Follows] at hfollows
        rw [if_neg (by omega), if_neg (by omega)]
        exact ih hrest hmem

/-- A pass over a list that has grown from the first pass finds the extents of that pass. -/
theorem iterateUnits_eq (hus : Chained l bound us final) (hgrows : Grows (addUnits us rev).2 fin)
    (hfin : fin.Pairwise Follows) :
    iterateUnits fin.reverse us = some (addUnits us rev).1 := by
  induction us generalizing bound rev with
  | nil => rfl
  | cons u us ih =>
      obtain ⟨off, -, hu, hrest⟩ := hus
      obtain ⟨ex, hex, hoff, hobj, hle, hend⟩ := home_addUnit u rev
      obtain ⟨last, hlast, hlobj, hloff, hllen⟩ :=
        (grows_addUnits us (addUnit u rev)).trans hgrows ex hex
      have hholds : last.Holds u := ⟨by omega, by omega, by omega⟩
      have hfound := lookupContaining_eq (List.pairwise_reverse.mpr hfin) hu.len_pos
        (List.mem_reverse.mpr hlast) hholds
      have hhead : (⟨last.objno, last.off, u.len⟩ : Action) = unitAction u rev := by
        have hname := unitAction_eq u rev
        rw [hlobj, hobj, hloff, hoff, ← hname.1, ← hname.2]
      rw [iterateUnits, hfound, Option.bind_eq_bind, Option.bind_some, ih hrest hgrows,
        Option.bind_eq_bind, Option.bind_some, hhead]
      rfl

theorem iterateUnits_append (exts us vs : List ObjectExtent) :
    iterateUnits exts (us ++ vs) = (do
      let first ← iterateUnits exts us
      let rest ← iterateUnits exts vs
      return first ++ rest) := by
  induction us with
  | nil => simp [iterateUnits]
  | cons u us ih => simp [iterateUnits, ih, Option.bind_assoc]

/-- The second pass takes the units of all file extents. -/
theorem iteratePass_eq (exts : List ObjectExtent) (fes : List FileExtent) :
    iteratePass l exts fes = iterateUnits exts (fes.flatMap fun fe => l.units fe.off fe.len) := by
  induction fes with
  | nil => rfl
  | cons fe fes ih =>
      rw [iteratePass, ih, iterateExtents, List.flatMap_cons, iterateUnits_append]

end Pass

/-! ## Back to the file -/

namespace Layout

variable (l : Layout)

/-- The loop of `ceph_extent_to_file`. -/
def extentLoop (objno objoff objlen blockoff : Nat) (_hb : blockoff < l.stripeUnit) :
    List FileExtent :=
  if _h : objlen = 0 then []
  else
    let objsetno := objno / l.stripeCount
    let stripepos := objno % l.stripeCount
    let stripeno := objoff / l.stripeUnit + objsetno * l.stripesPerObject
    let blockno := stripeno * l.stripeCount + stripepos
    let len := min objlen (l.stripeUnit - blockoff)
    ⟨blockno * l.stripeUnit + blockoff, len⟩ ::
      extentLoop objno (objoff + len) (objlen - len) 0 l.unit_pos
  termination_by objlen
  decreasing_by omega

/-- `ceph_extent_to_file`. -/
def extentToFile (objno objoff objlen : Nat) : List FileExtent :=
  l.extentLoop objno objoff objlen (objoff % l.stripeUnit) (Nat.mod_lt _ l.unit_pos)

/-- The stripe units that an object extent touches. -/
def unitCount (objoff objlen : Nat) : Nat :=
  if objlen = 0 then 0
  else (objoff + objlen + l.stripeUnit - 1) / l.stripeUnit - objoff / l.stripeUnit

/-- `*num_file_extents`, the size of the array that `ceph_extent_to_file` allocates: a `u32`. -/
def numFileExtents (objoff objlen : Nat) : Nat := l.unitCount objoff objlen % 2 ^ 32

/-- The count fits its `u32` for an extent inside an object. -/
theorem numFileExtents_eq {objoff objlen : Nat} (h : objoff + objlen ≤ l.objectSize) :
    l.numFileExtents objoff objlen = l.unitCount objoff objlen := by
  apply Nat.mod_eq_of_lt
  unfold unitCount
  split
  · decide
  · have hle : (objoff + objlen + l.stripeUnit - 1) / l.stripeUnit ≤ l.stripesPerObject := by
      rw [Nat.div_le_iff_le_mul_add_pred l.unit_pos, Nat.mul_comm, ← l.objectSize_eq]
      omega
    calc (objoff + objlen + l.stripeUnit - 1) / l.stripeUnit - objoff / l.stripeUnit
        ≤ l.stripesPerObject := (Nat.sub_le _ _).trans hle
      _ ≤ l.objectSize := Nat.div_le_self _ _
      _ < 2 ^ 32 := l.size_lt

/-- The bytes of an object up to the end of a stripe unit follow one another in the file. -/
theorem fileByte_add {objno objoff i : Nat} (h : objoff % l.stripeUnit + i < l.stripeUnit) :
    l.fileByte objno (objoff + i) = l.fileByte objno objoff + i := by
  have hunit := div_mod_of_lt (q := objoff / l.stripeUnit) h
  have hsum : objoff / l.stripeUnit * l.stripeUnit + (objoff % l.stripeUnit + i) = objoff + i := by
    rw [← Nat.add_assoc, Nat.div_add_mod']
  rw [hsum] at hunit
  simp only [fileByte, hunit.1, hunit.2]
  rw [Nat.add_assoc]

/-- After a turn of the loop that is not the last, the object offset is at a unit's start. -/
theorem extent_next {objoff objlen : Nat}
    (h : objlen - min objlen (l.stripeUnit - objoff % l.stripeUnit) ≠ 0) :
    objoff + min objlen (l.stripeUnit - objoff % l.stripeUnit) =
      (objoff / l.stripeUnit + 1) * l.stripeUnit := by
  have hlt := Nat.mod_lt objoff l.unit_pos
  have hdiv := Nat.div_add_mod' objoff l.stripeUnit
  rw [Nat.add_mul, Nat.one_mul]
  omega

/-- The file extents of an object extent are its bytes, in their order. -/
theorem extentLoop_bytes (objno objoff objlen blockoff : Nat) (hb : blockoff < l.stripeUnit)
    (hoff : objlen ≠ 0 → blockoff = objoff % l.stripeUnit) :
    (l.extentLoop objno objoff objlen blockoff hb).flatMap FileExtent.bytes =
      (ObjectExtent.mk objno objoff objlen).bytes.map fun b => l.fileByte b.1 b.2 := by
  induction objoff, objlen, blockoff, hb using extentLoop.induct l objno with
  | case1 objoff blockoff hb => simp [extentLoop, ObjectExtent.bytes]
  | case2 objoff objlen blockoff hb h len ih =>
      obtain rfl := hoff h
      have hle : len ≤ objlen := Nat.min_le_left _ _
      have hhead : (FileExtent.mk (l.fileByte objno objoff) len).bytes =
          (ObjectExtent.mk objno objoff len).bytes.map fun b => l.fileByte b.1 b.2 := by
        simp only [FileExtent.bytes, ObjectExtent.bytes, List.map_map]
        apply List.map_congr_left
        intro i hi
        have hlen : len ≤ l.stripeUnit - objoff % l.stripeUnit := Nat.min_le_right _ _
        have hi' := List.mem_range.mp hi
        show l.fileByte objno objoff + i = l.fileByte objno (objoff + i)
        rw [l.fileByte_add (by omega)]
      have hrest := ih fun hne => by rw [l.extent_next hne, Nat.mul_mod_left]
      have hgrow := ObjectExtent.bytes_grow ⟨objno, objoff, len⟩ (objlen - len)
      rw [extentLoop, dif_neg h, List.flatMap_cons]
      show (FileExtent.mk (l.fileByte objno objoff) len).bytes ++
        (l.extentLoop objno (objoff + len) (objlen - len) 0 l.unit_pos).flatMap _ = _
      rw [hrest, hhead, ← List.map_append, ← hgrow]
      simp only [Nat.add_sub_cancel' hle]

/-- There is one file extent for each stripe unit. -/
theorem extentLoop_length (objno objoff objlen blockoff : Nat) (hb : blockoff < l.stripeUnit)
    (hoff : objlen ≠ 0 → blockoff = objoff % l.stripeUnit) :
    (l.extentLoop objno objoff objlen blockoff hb).length = l.unitCount objoff objlen := by
  induction objoff, objlen, blockoff, hb using extentLoop.induct l objno with
  | case1 objoff blockoff hb => simp [extentLoop, unitCount]
  | case2 objoff objlen blockoff hb h len ih =>
      obtain rfl := hoff h
      have hrest := ih fun hne => by rw [l.extent_next hne, Nat.mul_mod_left]
      rw [extentLoop, dif_neg h, List.length_cons, hrest, unitCount, unitCount, if_neg h]
      have hpos := l.unit_pos
      have hmod := Nat.mod_lt objoff hpos
      have hdiv := Nat.div_add_mod' objoff l.stripeUnit
      split
      · -- the last file extent ends in the unit that it starts in
        rename_i hlast
        have hone : (objoff + objlen + l.stripeUnit - 1) / l.stripeUnit =
            objoff / l.stripeUnit + 1 := by
          apply Nat.div_eq_of_lt_le
          · rw [Nat.add_mul, Nat.one_mul]
            omega
          · rw [Nat.add_mul, Nat.add_mul, Nat.one_mul]
            omega
        omega
      · rename_i hne
        have hnext := l.extent_next hne
        have hsum : objoff + len + (objlen - len) = objoff + objlen := by
          have hle : len ≤ objlen := Nat.min_le_left _ _
          omega
        have hstart : (objoff + len) / l.stripeUnit = objoff / l.stripeUnit + 1 := by
          rw [hnext, Nat.mul_div_cancel _ hpos]
        have hmore : objoff / l.stripeUnit + 1 ≤
            (objoff + objlen + l.stripeUnit - 1) / l.stripeUnit := by
          rw [Nat.le_div_iff_mul_le hpos, ← hnext]
          omega
        show (objoff + len + (objlen - len) + l.stripeUnit - 1) / l.stripeUnit -
          (objoff + len) / l.stripeUnit + 1 = _
        rw [hsum, hstart]
        omega

/-- No file extent is empty. -/
theorem extentLoop_len_pos (objno objoff objlen blockoff : Nat) (hb : blockoff < l.stripeUnit) :
    ∀ fe ∈ l.extentLoop objno objoff objlen blockoff hb, 0 < fe.len := by
  induction objoff, objlen, blockoff, hb using extentLoop.induct l objno with
  | case1 objoff blockoff hb => simp [extentLoop]
  | case2 objoff objlen blockoff hb h len ih =>
      rw [extentLoop, dif_neg h]
      intro fe hfe
      rcases List.mem_cons.mp hfe with rfl | hfe
      · show 0 < min objlen (l.stripeUnit - blockoff)
        omega
      · exact ih fe hfe

/-- `ceph_extent_to_file` of an extent inside an object of a file of at most `2 ^ 64` bytes fills
the array that it has allocated and does not overrun it, with file extents inside that file that
have the bytes of the object extent in their order. -/
theorem extentToFile_fills {objno objoff objlen : Nat} (hobj : objoff + objlen ≤ l.objectSize)
    (hfile : ∀ i < objlen, l.fileByte objno (objoff + i) < 2 ^ 64) :
    (l.extentToFile objno objoff objlen).length = l.numFileExtents objoff objlen ∧
      (∀ fe ∈ l.extentToFile objno objoff objlen, fe.off + fe.len ≤ 2 ^ 64) ∧
      (l.extentToFile objno objoff objlen).flatMap FileExtent.bytes =
        (ObjectExtent.mk objno objoff objlen).bytes.map fun b => l.fileByte b.1 b.2 := by
  have hbytes := l.extentLoop_bytes objno objoff objlen (objoff % l.stripeUnit)
    (Nat.mod_lt _ l.unit_pos) fun _ => rfl
  refine ⟨?_, fun fe hfe => ?_, hbytes⟩
  · rw [l.numFileExtents_eq hobj]
    exact l.extentLoop_length objno objoff objlen _ _ fun _ => rfl
  · have hpos := l.extentLoop_len_pos _ _ _ _ _ fe hfe
    have hlast : fe.off + (fe.len - 1) ∈ fe.bytes :=
      List.mem_map_of_mem (List.mem_range.mpr (by omega))
    have hmem : fe.off + (fe.len - 1) ∈
        (l.extentToFile objno objoff objlen).flatMap FileExtent.bytes :=
      List.mem_flatMap_of_mem hfe hlast
    rw [extentToFile, hbytes] at hmem
    simp only [ObjectExtent.bytes, List.map_map, List.mem_map, List.mem_range,
      Function.comp_apply] at hmem
    obtain ⟨i, hi, heq⟩ := hmem
    have hlt := hfile i hi
    omega

end Layout

/-- The units of file extents are their bytes. -/
theorem units_flatMap (l : Layout) (fes : List FileExtent) :
    (fes.flatMap fun fe => l.units fe.off fe.len).flatMap ObjectExtent.bytes =
      (fes.flatMap FileExtent.bytes).map l.locate := by
  induction fes with
  | nil => rfl
  | cons fe fes ih =>
      rw [List.flatMap_cons, List.flatMap_append, ih, l.units_bytes, List.flatMap_cons,
        List.map_append]

/-- The list is empty before the first unit. -/
theorem placed_nil (l : Layout) : Placed l 0 [] := ⟨List.Pairwise.nil, by simp, by simp⟩

/-- Successive file extents are mapped without an error, to extents whose bytes in the file, as
`ceph_extent_to_file` finds them, are those of the file extents, each of them once. -/
theorem mapExtents_bytes (l : Layout) (fes : List FileExtent)
    (hfes : fes.Pairwise fun a b => a.off + a.len ≤ b.off) :
    ∃ acts rev, mapExtents l fes [] = some (acts, rev) ∧ rev.Pairwise Follows ∧
      ((rev.reverse.flatMap fun ex => l.extentToFile ex.objno ex.off ex.len).flatMap
        FileExtent.bytes).Perm (fes.flatMap FileExtent.bytes) := by
  obtain ⟨final, hchain⟩ := chained_flatMap (l := l) hfes fun fe _ => Nat.zero_le fe.off
  refine ⟨_, _, mapExtents_eq (placed_nil l) hfes fun fe _ => Nat.zero_le fe.off,
    ((placed_nil l).addUnits hchain).sorted, ?_⟩
  generalize hrev : (addUnits (fes.flatMap fun fe => l.units fe.off fe.len) []).2 = rev
  have hback : ∀ exts : List ObjectExtent,
      (exts.flatMap fun ex => l.extentToFile ex.objno ex.off ex.len).flatMap FileExtent.bytes =
        (exts.flatMap ObjectExtent.bytes).map fun b => l.fileByte b.1 b.2 := by
    intro exts
    induction exts with
    | nil => rfl
    | cons ex exts ih =>
        rw [List.flatMap_cons, List.flatMap_append, ih, List.flatMap_cons, List.map_append,
          Layout.extentToFile, l.extentLoop_bytes _ _ _ _ _ fun _ => rfl]
  have hbytes := addUnits_bytes (fes.flatMap fun fe => l.units fe.off fe.len) []
  rw [hrev, List.flatMap_nil, List.nil_append, units_flatMap] at hbytes
  have hperm := ((rev.reverse_perm.flatMap_right ObjectExtent.bytes).trans hbytes).map
    fun b => l.fileByte b.1 b.2
  have hsame : (fun b : Nat × Nat => l.fileByte b.1 b.2) ∘ l.locate = id :=
    funext l.fileByte_locate
  rw [hback]
  rwa [List.map_map, hsame, List.map_id] at hperm

/-- A layout with three objects in a set, of four stripe units of eight bytes. -/
def exampleLayout : Layout where
  stripeUnit := 8
  stripeCount := 3
  objectSize := 32
  unit_pos := by decide
  count_pos := by decide
  size_pos := by decide
  unit_dvd := ⟨4, rfl⟩

theorem extentToFile_fills_example :
    (exampleLayout.extentToFile 4 5 20).length = exampleLayout.numFileExtents 5 20 ∧
      (∀ fe ∈ exampleLayout.extentToFile 4 5 20, fe.off + fe.len ≤ 2 ^ 64) ∧
      (exampleLayout.extentToFile 4 5 20).flatMap FileExtent.bytes =
        (ObjectExtent.mk 4 5 20).bytes.map fun b => exampleLayout.fileByte b.1 b.2 :=
  exampleLayout.extentToFile_fills (by decide) (by decide)

theorem mapExtents_bytes_example :
    [FileExtent.mk 5 40, ⟨60, 100⟩].Pairwise (fun a b => a.off + a.len ≤ b.off) ∧
      ∃ acts rev, mapExtents exampleLayout [⟨5, 40⟩, ⟨60, 100⟩] [] = some (acts, rev) ∧
        rev.Pairwise Follows ∧
        ((rev.reverse.flatMap fun ex => exampleLayout.extentToFile ex.objno ex.off
          ex.len).flatMap FileExtent.bytes).Perm ([⟨5, 40⟩, ⟨60, 100⟩].flatMap FileExtent.bytes) :=
  ⟨by simp, mapExtents_bytes exampleLayout [⟨5, 40⟩, ⟨60, 100⟩] (by simp)⟩

/-- The second pass calls its action for the extents that the first pass called its own with, in the
same order and with the same numbers of bytes, and finds all of them. -/
theorem iteratePass_actions (l : Layout) (fes : List FileExtent)
    (hfes : fes.Pairwise fun a b => a.off + a.len ≤ b.off) :
    ∃ acts rev, mapExtents l fes [] = some (acts, rev) ∧
      iteratePass l rev.reverse fes = some acts := by
  obtain ⟨final, hchain⟩ := chained_flatMap (l := l) hfes fun fe _ => Nat.zero_le fe.off
  refine ⟨_, _, mapExtents_eq (placed_nil l) hfes fun fe _ => Nat.zero_le fe.off, ?_⟩
  rw [iteratePass_eq]
  exact iterateUnits_eq hchain (grows_self _) ((placed_nil l).addUnits hchain).sorted

theorem iteratePass_actions_example :
    [FileExtent.mk 5 40, ⟨60, 100⟩].Pairwise (fun a b => a.off + a.len ≤ b.off) ∧
      ∃ acts rev, mapExtents exampleLayout [⟨5, 40⟩, ⟨60, 100⟩] [] = some (acts, rev) ∧
        iteratePass exampleLayout rev.reverse [⟨5, 40⟩, ⟨60, 100⟩] = some acts :=
  ⟨by simp, iteratePass_actions exampleLayout [⟨5, 40⟩, ⟨60, 100⟩] (by simp)⟩

/-! ## The number of objects -/

namespace Layout

variable (l : Layout)

/-- `ceph_get_num_objects`. The sum that `DIV64_U64_ROUND_UP` makes and the result wrap in a `u64`;
a product of two numbers of the layout fits one. -/
def getNumObjects (size : Nat) : Nat :=
  let period := l.stripeCount * l.objectSize
  let numPeriods := (size + period - 1) % 2 ^ 64 / period
  let remainderBytes := size % period
  let remainderObjs :=
    if 0 < remainderBytes ∧ remainderBytes < l.stripeCount * l.stripeUnit then
      l.stripeCount - (remainderBytes + l.stripeUnit - 1) / l.stripeUnit
    else 0
  (numPeriods * l.stripeCount + 2 ^ 64 - remainderObjs) % 2 ^ 64

/-- The number of objects in numbers without a bound. -/
def objectCount (size : Nat) : Nat :=
  let period := l.stripeCount * l.objectSize
  (size + period - 1) / period * l.stripeCount -
    if 0 < size % period ∧ size % period < l.stripeCount * l.stripeUnit then
      l.stripeCount - (size % period + l.stripeUnit - 1) / l.stripeUnit
    else 0

/-- Nothing wraps for a file whose size can be rounded up to a whole period. -/
theorem getNumObjects_eq_objectCount {size : Nat}
    (hsize : size + l.stripeCount * l.objectSize ≤ 2 ^ 64) :
    l.getNumObjects size = l.objectCount size := by
  have hpos : 0 < l.stripeCount * l.objectSize := Nat.mul_pos l.count_pos l.size_pos
  have hle : l.stripeCount ≤ l.stripeCount * l.objectSize :=
    Nat.le_mul_of_pos_right _ l.size_pos
  simp only [getNumObjects, objectCount]
  generalize l.stripeCount * l.objectSize = period at hsize hpos hle ⊢
  rw [Nat.mod_eq_of_lt (show size + period - 1 < 2 ^ 64 by omega)]
  generalize hnum : (size + period - 1) / period = num
  have htop : num * l.stripeCount < 2 ^ 64 := by
    calc num * l.stripeCount ≤ num * period := Nat.mul_le_mul_left _ hle
      _ ≤ size + period - 1 := hnum ▸ Nat.div_mul_le_self _ _
      _ < 2 ^ 64 := by omega
  have hrem : (if 0 < size % period ∧ size % period < l.stripeCount * l.stripeUnit then
      l.stripeCount - (size % period + l.stripeUnit - 1) / l.stripeUnit else 0) ≤
      num * l.stripeCount := by
    split
    · -- a period that has begun is one of the periods
      rename_i hbegun
      have hone : 1 ≤ num := by
        have hsome : size % period ≤ size := Nat.mod_le _ _
        rw [← hnum, Nat.le_div_iff_mul_le hpos]
        omega
      exact (Nat.sub_le _ _).trans (Nat.le_mul_of_pos_left _ hone)
    · exact Nat.zero_le _
  generalize (if 0 < size % period ∧ size % period < l.stripeCount * l.stripeUnit then
      l.stripeCount - (size % period + l.stripeUnit - 1) / l.stripeUnit else 0) = rem at hrem ⊢
  omega

/-- The first byte of an object. -/
theorem fileByte_zero (objno : Nat) :
    l.fileByte objno 0 = objno / l.stripeCount * (l.stripeCount * l.objectSize) +
      objno % l.stripeCount * l.stripeUnit := by
  have hmul : objno / l.stripeCount * l.stripesPerObject * l.stripeCount * l.stripeUnit =
      objno / l.stripeCount * (l.stripeCount * l.objectSize) := by
    rw [objectSize_eq]
    ring
  simp only [fileByte, Nat.zero_div, Nat.zero_mod, Nat.zero_add, Nat.add_zero, Nat.add_mul, hmul]

/-- An object has a byte of a file when its first byte is one. -/
theorem exists_locate_iff (objno size : Nat) :
    (∃ b < size, (l.locate b).1 = objno) ↔ l.fileByte objno 0 < size := by
  constructor
  · intro ⟨b, hb, hobj⟩
    have hback := l.fileByte_locate b
    rw [hobj] at hback
    rcases Nat.eq_zero_or_pos (l.locate b).2 with hzero | hpos
    · rw [hzero] at hback
      omega
    · have hlt : l.fileByte objno 0 < l.fileByte objno (l.locate b).2 := l.fileByte_lt hpos
      omega
  · intro hlt
    exact ⟨l.fileByte objno 0, hlt, by rw [l.locate_fileByte l.size_pos]⟩

/-- Numbers of two digits are compared by their first digits, and then by their second ones. -/
theorem digits_lt_iff {n s q x y : Nat} (hx : x < n) (hy : y ≤ n) :
    s * n + x < q * n + y ↔ s < q ∨ s = q ∧ x < y := by
  rcases Nat.lt_trichotomy s q with hlt | heq | hgt
  · have hmul := Nat.mul_le_mul_right n (show s + 1 ≤ q from hlt)
    rw [Nat.add_mul, Nat.one_mul] at hmul
    omega
  · rw [heq]
    omega
  · have hmul := Nat.mul_le_mul_right n (show q + 1 ≤ s from hgt)
    rw [Nat.add_mul, Nat.one_mul] at hmul
    omega

/-- The number of objects, with the objects of the last period in a second digit. -/
theorem objectCount_eq (size : Nat) :
    ∃ k ≤ l.stripeCount,
      l.objectCount size = size / (l.stripeCount * l.objectSize) * l.stripeCount + k ∧
      ∀ p < l.stripeCount, p < k ↔ p * l.stripeUnit < size % (l.stripeCount * l.objectSize) := by
  have hpos : 0 < l.stripeCount * l.objectSize := Nat.mul_pos l.count_pos l.size_pos
  have hrem := Nat.mod_lt size hpos
  have hdiv := Nat.div_add_mod' size (l.stripeCount * l.objectSize)
  simp only [objectCount]
  generalize hq : size / (l.stripeCount * l.objectSize) = q at hdiv ⊢
  generalize hr : size % (l.stripeCount * l.objectSize) = r at hrem hdiv ⊢
  generalize hP : l.stripeCount * l.objectSize = period at hpos hrem hdiv ⊢
  rcases Nat.eq_zero_or_pos r with rfl | hrpos
  · -- the file ends with a period
    refine ⟨0, Nat.zero_le _, ?_, by simp⟩
    have hnum : (size + period - 1) / period = q := by
      apply Nat.div_eq_of_lt_le
      · omega
      · rw [Nat.add_mul, Nat.one_mul]
        omega
    rw [hnum, if_neg (by omega)]
    omega
  · have hnum : (size + period - 1) / period = q + 1 := by
      apply Nat.div_eq_of_lt_le
      · rw [Nat.add_mul, Nat.one_mul]
        omega
      · rw [Nat.add_mul, Nat.add_mul, Nat.one_mul]
        omega
    rw [hnum, Nat.add_mul, Nat.one_mul]
    by_cases hshort : r < l.stripeCount * l.stripeUnit
    · -- the last period has not a unit for each of its objects
      have hceil : (r + l.stripeUnit - 1) / l.stripeUnit ≤ l.stripeCount := by
        have hup := l.unit_pos
        rw [Nat.div_le_iff_le_mul_add_pred l.unit_pos, Nat.mul_comm]
        omega
      refine ⟨(r + l.stripeUnit - 1) / l.stripeUnit, hceil, ?_, ?_⟩
      · rw [if_pos ⟨hrpos, hshort⟩]
        generalize (r + l.stripeUnit - 1) / l.stripeUnit = c at hceil ⊢
        omega
      · intro p _
        have hup := l.unit_pos
        rw [Nat.lt_div_iff_mul_lt hup]
        omega
    · refine ⟨l.stripeCount, Nat.le_refl _, ?_, ?_⟩
      · rw [if_neg (by omega)]
        omega
      · intro p hp
        have hmul := Nat.mul_lt_mul_of_pos_right hp l.unit_pos
        omega

/-- `ceph_get_num_objects` counts the objects that have a byte of a file of that size: they are the
objects with the smaller numbers, and no others. The size must leave room in a `u64` to be rounded
up to a whole period. -/
theorem lt_getNumObjects_iff {size : Nat} (hsize : size + l.stripeCount * l.objectSize ≤ 2 ^ 64)
    (objno : Nat) : objno < l.getNumObjects size ↔ ∃ b < size, (l.locate b).1 = objno := by
  rw [l.getNumObjects_eq_objectCount hsize]
  obtain ⟨k, hk, hnum, hlast⟩ := l.objectCount_eq size
  have hp := Nat.mod_lt objno l.count_pos
  have hunit : objno % l.stripeCount * l.stripeUnit < l.stripeCount * l.objectSize := by
    calc objno % l.stripeCount * l.stripeUnit
        < l.stripeCount * l.stripeUnit := Nat.mul_lt_mul_of_pos_right hp l.unit_pos
      _ ≤ l.stripeCount * l.objectSize :=
          Nat.mul_le_mul_left _ (Nat.le_of_dvd l.size_pos l.unit_dvd)
  have hrem := Nat.mod_lt size (Nat.mul_pos l.count_pos l.size_pos)
  have hobj := digits_lt_iff (s := objno / l.stripeCount)
    (q := size / (l.stripeCount * l.objectSize)) hp hk
  have hsize := digits_lt_iff (s := objno / l.stripeCount)
    (q := size / (l.stripeCount * l.objectSize)) hunit (Nat.le_of_lt hrem)
  rw [Nat.div_add_mod', ← hnum] at hobj
  rw [Nat.div_add_mod', ← l.fileByte_zero] at hsize
  rw [l.exists_locate_iff, hobj, hsize, hlast _ hp]

/-- A file of 100 bytes ends in the fourth object. -/
theorem lt_getNumObjects_iff_example :
    exampleLayout.getNumObjects 100 = 4 ∧ (∃ b < 100, (exampleLayout.locate b).1 = 3) ∧
      ¬∃ b < 100, (exampleLayout.locate b).1 = 4 :=
  ⟨by decide, (exampleLayout.lt_getNumObjects_iff (by decide) 3).mp (by decide), fun h =>
    absurd ((exampleLayout.lt_getNumObjects_iff (by decide) 4).mpr h) (by decide)⟩

/-- A size that cannot be rounded up has no objects for `ceph_get_num_objects`. -/
example : (Layout.mk 4194304 1 4194304 (by decide) (by decide) (by decide) ⟨1, rfl⟩).getNumObjects
    (2 ^ 64 - 1) = 0 := by
  decide

end Layout

end XcpCephRbd.Striper
