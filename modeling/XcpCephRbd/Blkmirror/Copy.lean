import XcpCephRbd.Blkmirror.World

/-!
# What `copy_delta` ships

`copy_delta` reads the objects that `image_diff` lists and that still exist from the later
snapshot and writes them to the destination. `CopyInv` is the invariant of its loop when every
call and every transfer succeeds in full, `copyStep_full` the step lemma, and `deliver` what
holds when it returns: a byte whose object changed and still exists holds the later content,
every other byte is as before the call.
-/

namespace XcpCephRbd.Blkmirror

namespace World

/-- `copy_delta` changes nothing but the krbd maps and the destination. -/
theorem copyStep_frame {g : Geometry} (be : ObjectDiff g) (w : World) (fromSnap : Option String)
    (toSnap : String) (pc : CopyPc) (r : Reply) :
    ∃ maps dst, (copyStep be w fromSnap toSnap pc r).1 = { w with maps := maps, dst := dst } := by
  cases pc with
  | diff =>
      refine ⟨w.maps, w.dst, ?_⟩
      simp only [copyStep]
      split
      · split
        · split <;> rfl
        · rfl
      · rfl
  | map extents =>
      simp only [copyStep, mapSnap, mapFailed]
      by_cases h : (r.ok && w.hasSnap toSnap) = true
      · exact ⟨_, w.dst, by rw [if_pos h]; rfl⟩
      · rw [if_neg h]
        dsimp only
        split
        · exact ⟨_, w.dst, rfl⟩
        · exact ⟨w.maps, w.dst, rfl⟩
  | openDevices extents => exact ⟨w.maps, w.dst, rfl⟩
  | loop extents pos stop total =>
      simp only [copyStep]
      split
      · split
        · split
          · split
            · exact ⟨w.maps, w.dst, rfl⟩
            · exact ⟨w.maps, _, rfl⟩
          · exact ⟨w.maps, w.dst, rfl⟩
        · exact ⟨w.maps, w.dst, rfl⟩
      · split <;> exact ⟨w.maps, w.dst, rfl⟩
  | close result =>
      simp only [copyStep, fsync]
      by_cases h : r.ok = true
      · exact ⟨w.maps, w.dst, by rw [if_pos h]⟩
      · exact ⟨w.maps, _, by rw [if_neg h]⟩
  | unmap result =>
      simp only [copyStep, unmapSnap]
      by_cases h : r.ok = true
      · exact ⟨_, w.dst, by rw [if_pos h]⟩
      · exact ⟨w.maps, w.dst, by rw [if_neg h]⟩

/-- `copy_delta` calls `image_diff` once. -/
theorem copyStep_ne_diff {g : Geometry} {be : ObjectDiff g} {w w' : World}
    {fromSnap : Option String} {toSnap : String} {pc pc' : CopyPc} {r : Reply}
    (h : copyStep be w fromSnap toSnap pc r = (w', .goto pc')) : pc' ≠ .diff := by
  rintro rfl
  cases pc <;> simp only [copyStep] at h <;> (repeat' split at h) <;> simp at h

/-- `snap_create` changes nothing but the snapshots. -/
theorem snapCreate_frame {w w' : World} {name : String} {r : Reply}
    (h : w.snapCreate name r = some w') : ∃ snaps, w' = { w with snaps := snaps } := by
  simp only [snapCreate, Option.ite_none_right_eq_some, Option.some.injEq] at h
  exact ⟨_, h.2.symm⟩

/-- `snap_remove` changes nothing but the snapshots. -/
theorem snapRemove_frame (w : World) (name : String) (r : Reply) :
    ∃ snaps, (w.snapRemove name r).getD w = { w with snaps := snaps } := by
  unfold snapRemove
  split
  · exact ⟨_, rfl⟩
  · exact ⟨w.snaps, rfl⟩

/-- A snapshot just created holds the content of the image. -/
theorem snapCreate_snapshot_self {w w' : World} {name : String} {r : Reply}
    (h : w.snapCreate name r = some w') : w'.snapshot name = some w.src := by
  simp only [snapCreate, Option.ite_none_right_eq_some, Option.some.injEq, Bool.and_eq_true,
    Bool.not_eq_true', hasSnap, Option.isSome_eq_false_iff, Option.isNone_iff_eq_none] at h
  obtain ⟨⟨-, hnew⟩, rfl⟩ := h
  simp only [snapshot] at hnew ⊢
  simp [List.lookup_append, hnew]

/-- Creating a snapshot leaves the existing ones as they are. -/
theorem snapCreate_snapshot_old {w w' : World} {name other : String} {r : Reply} {img : Objects}
    (h : w.snapCreate name r = some w') (hother : w.snapshot other = some img) :
    w'.snapshot other = some img ∧ other ≠ name := by
  simp only [snapCreate, Option.ite_none_right_eq_some, Option.some.injEq, Bool.and_eq_true,
    Bool.not_eq_true', hasSnap, Option.isSome_eq_false_iff, Option.isNone_iff_eq_none] at h
  obtain ⟨⟨-, hnew⟩, rfl⟩ := h
  refine ⟨?_, ?_⟩
  · simp only [snapshot] at hother ⊢
    simp [List.lookup_append, hother]
  · rintro rfl
    simp [hnew] at hother

/-- Creating a snapshot leaves every other name as it is. -/
theorem snapCreate_snapshot_ne {w w' : World} {name other : String} {r : Reply}
    (h : w.snapCreate name r = some w') (hne : other ≠ name) :
    w'.snapshot other = w.snapshot other := by
  simp only [snapCreate, Option.ite_none_right_eq_some, Option.some.injEq] at h
  have hbeq : (other == name) = false := by simpa using hne
  rw [← h.2, snapshot, snapshot, List.lookup_append]
  simp [List.lookup_cons, hbeq]

/-- Removing a snapshot leaves every other one as it is. -/
theorem snapRemove_snapshot {w : World} {name other : String} {r : Reply} (hne : other ≠ name) :
    ((w.snapRemove name r).getD w).snapshot other = w.snapshot other := by
  by_cases h : (r.ok && w.hasSnap name && !w.maps.contains name) = true
  · simp only [snapRemove, if_pos h, Option.getD_some, snapshot]
    induction w.snaps with
    | nil => rfl
    | cons entry rest ih =>
        obtain ⟨key, img⟩ := entry
        by_cases hkey : key = name
        · subst hkey
          have hother : (other == key) = false := by simpa using hne
          simp [List.lookup_cons, hother, ih]
        · simp only [bne_iff_ne, ne_eq, hkey, not_false_eq_true, List.filter_cons_of_pos,
            List.lookup_cons, ih]
  · rw [snapRemove, if_neg h]
    rfl

end World

/-- Every call of the step succeeds, and `pread` and `pwrite` transfer all they were asked. -/
structure Reply.Full (r : Reply) : Prop where
  ok : r.ok = true
  got : copyChunk ≤ r.got
  put : copyChunk ≤ r.put

instance (r : Reply) : Decidable r.Full :=
  decidable_of_iff (r.ok = true ∧ copyChunk ≤ r.got ∧ copyChunk ≤ r.put)
    ⟨fun h => ⟨h.1, h.2.1, h.2.2⟩, fun h => ⟨h.ok, h.got, h.put⟩⟩

variable {g : Geometry}

/-- The object of the byte changed between the two states and exists in the later one. -/
def ships (g : Geometry) (before after : Objects) (pos : Nat) : Bool :=
  g.differs before after (pos / g.objectSize) && (after (pos / g.objectSize)).isSome

/-- The destination byte after `copy_delta` returned, if it was `old` before the call. -/
def deliver (g : Geometry) (before after : Objects) (old : Nat → UInt8) (pos : Nat) : UInt8 :=
  if ships g before after pos then g.read after pos else old pos

/-- The destination agrees with `content` on the bytes of the image. -/
def Holds (g : Geometry) (dst content : Nat → UInt8) : Prop := ∀ pos < g.size, dst pos = content pos

/-- The byte lies in an extent that is still to be copied. -/
def Pending (extents : List (Nat × Nat)) (pos : Nat) : Prop :=
  ∃ e ∈ extents, e.1 ≤ pos ∧ pos < e.1 + e.2

theorem pending_cons_iff {e : Nat × Nat} {rest : List (Nat × Nat)} {pos : Nat} :
    Pending (e :: rest) pos ↔ (e.1 ≤ pos ∧ pos < e.1 + e.2) ∨ Pending rest pos := by
  simp [Pending]

/-- The byte of an object of an extent of a whole-object diff lies in that object. -/
theorem Geometry.div_eq_of_mem {o pos len : Nat} (hlo : o * g.objectSize ≤ pos)
    (hhi : pos < o * g.objectSize + len) (hlen : len ≤ g.objectSize) : pos / g.objectSize = o := by
  have hlt : pos < (o + 1) * g.objectSize := by
    rw [Nat.add_mul, Nat.one_mul]
    omega
  exact Nat.div_eq_of_lt_le hlo hlt

/-- The extents that `copy_delta` copies are exactly the bytes it has to ship. -/
theorem pending_presentExtents_iff (be : ObjectDiff g) {before after : Objects} {pos : Nat}
    (hpos : pos < g.size) :
    Pending (presentExtents (be.imageDiff before after)) pos ↔ ships g before after pos = true := by
  constructor
  · rintro ⟨e, he, hlo, hhi⟩
    obtain ⟨d, hd, rfl⟩ := List.mem_map.mp he
    obtain ⟨hmem, hpresent⟩ := List.mem_filter.mp hd
    obtain ⟨o, hoff, hdiff, -, hlen, hexists⟩ := be.sound before after d hmem
    simp only [hoff] at hlo hhi
    obtain rfl : pos / g.objectSize = o := Geometry.div_eq_of_mem hlo hhi hlen
    rw [ships, hdiff, ← hexists, hpresent]
    rfl
  · intro hships
    obtain ⟨hdiff, hexists⟩ : _ ∧ _ := by simpa [ships] using hships
    obtain ⟨d, hmem, hoff⟩ := be.complete before after _ hdiff
    obtain ⟨o, hoff', -, hlen, -, hpresent⟩ := be.sound before after d hmem
    obtain rfl : pos / g.objectSize = o :=
      Nat.eq_of_mul_eq_mul_right g.objectSize_pos (hoff.symm.trans hoff')
    refine ⟨(d.offset, d.length), ?_, ?_, ?_⟩
    · exact List.mem_map_of_mem (List.mem_filter.mpr ⟨hmem, by simpa [hpresent] using hexists⟩)
    · simpa [hoff] using Nat.div_mul_le_self pos g.objectSize
    · have hmod := Nat.div_add_mod pos g.objectSize
      have hlt := Nat.mod_lt pos g.objectSize_pos
      rw [Nat.mul_comm] at hmod
      simp only [hoff]
      omega

/-! ## The copy loop -/

/-- The invariant of the copy loop, with the range `[lo, hi)` of the current extent still to be
copied: what is pending is to be shipped, what is to be shipped is pending or copied, and every
other byte is as it was at the call. -/
structure LoopInv (g : Geometry) (before after : Objects) (old dst : Nat → UInt8)
    (extents : List (Nat × Nat)) (lo hi p : Nat) : Prop where
  toShip : Pending extents p ∨ (lo ≤ p ∧ p < hi) → ships g before after p = true
  pendingOrDone : ships g before after p = true →
    (Pending extents p ∨ (lo ≤ p ∧ p < hi)) ∨ dst p = g.read after p
  untouched : ships g before after p = false → dst p = old p

namespace LoopInv

variable {before after : Objects} {old dst : Nat → UInt8} {extents : List (Nat × Nat)}
  {lo hi p : Nat}

/-- Entering the loop, every extent is pending. -/
theorem enter (be : ObjectDiff g) (hp : p < g.size) (hold : dst p = old p) :
    LoopInv g before after old dst (presentExtents (be.imageDiff before after)) 0 0 p where
  toShip := by
    rintro (hpend | ⟨-, hlt⟩)
    · exact (pending_presentExtents_iff be hp).mp hpend
    · exact absurd hlt (Nat.not_lt_zero p)
  pendingOrDone hships := .inl (.inl ((pending_presentExtents_iff be hp).mpr hships))
  untouched _ := hold

/-- Leaving a range that holds no byte of the image any more. -/
theorem leave (h : LoopInv g before after old dst extents lo hi p) (hout : ¬ (lo ≤ p ∧ p < hi)) :
    LoopInv g before after old dst extents 0 0 p where
  toShip := by
    rintro (hpend | ⟨-, hlt⟩)
    · exact h.toShip (.inl hpend)
    · exact absurd hlt (Nat.not_lt_zero p)
  pendingOrDone hships := by
    rcases h.pendingOrDone hships with (hpend | hin) | hdone
    · exact .inl (.inl hpend)
    · exact absurd hin hout
    · exact .inr hdone
  untouched := h.untouched

/-- The next extent of the list becomes the range being copied. -/
theorem next {e : Nat × Nat} (h : LoopInv g before after old dst (e :: extents) lo hi p)
    (hout : ¬ (lo ≤ p ∧ p < hi)) :
    LoopInv g before after old dst extents e.1 (e.1 + e.2) p where
  toShip := by
    rintro (hpend | hin)
    · exact h.toShip (.inl (pending_cons_iff.mpr (.inr hpend)))
    · exact h.toShip (.inl (pending_cons_iff.mpr (.inl hin)))
  pendingOrDone hships := by
    rcases h.pendingOrDone hships with (hpend | hin) | hdone
    · rcases pending_cons_iff.mp hpend with hin | hpend
      · exact .inl (.inr hin)
      · exact .inl (.inl hpend)
    · exact absurd hin hout
    · exact .inr hdone
  untouched := h.untouched

/-- Copying the first `len` bytes of the range. -/
theorem chunk {len : Nat} (h : LoopInv g before after old dst extents lo hi p)
    (hlen : lo + len ≤ hi) :
    LoopInv g before after old
      (fun q => if lo ≤ q ∧ q < lo + len then g.read after q else dst q) extents
      (lo + len) hi p where
  toShip := by
    rintro (hpend | ⟨hlo, hhi⟩)
    · exact h.toShip (.inl hpend)
    · exact h.toShip (.inr ⟨by omega, hhi⟩)
  pendingOrDone hships := by
    by_cases hin : lo ≤ p ∧ p < lo + len
    · exact .inr (if_pos hin)
    · rw [if_neg hin]
      rcases h.pendingOrDone hships with (hpend | hrange) | hdone
      · exact .inl (.inl hpend)
      · exact .inl (.inr (by omega))
      · exact .inr hdone
  untouched hnot := by
    have hin : ¬ (lo ≤ p ∧ p < lo + len) := by
      intro hin
      have hships := h.toShip (.inr ⟨hin.1, by omega⟩)
      simp [hnot] at hships
    rw [if_neg hin]
    exact h.untouched hnot

/-- When nothing is pending, everything to be shipped has been delivered. -/
theorem delivered (h : LoopInv g before after old dst [] lo hi p) (hout : ¬ (lo ≤ p ∧ p < hi)) :
    dst p = deliver g before after old p := by
  by_cases hships : ships g before after p = true
  · rcases h.pendingOrDone hships with (⟨_, hnil, -⟩ | hrange) | hdone
    · simp at hnil
    · exact absurd hrange hout
    · simp [deliver, hships, hdone]
  · simp only [Bool.not_eq_true] at hships
    simp [deliver, hships, h.untouched hships]

end LoopInv

/-- The invariant of one call of `copy_delta` that no failure interrupts, where `old` is the
destination at the call. -/
def CopyInv (be : ObjectDiff g) (before after : Objects) (old dst : Nat → UInt8) : CopyPc → Prop
  | .diff => Holds g dst old
  | .map extents | .openDevices extents =>
      Holds g dst old ∧ extents = presentExtents (be.imageDiff before after)
  | .loop extents pos stop _ => ∀ p < g.size, LoopInv g before after old dst extents pos stop p
  | .close result | .unmap result =>
      result.isSome = true ∧ Holds g dst (deliver g before after old)

/-- One step of the copy loop whose transfers succeed in full. -/
theorem copyStep_loop {be : ObjectDiff g} {w w' : World} {fromSnap : Option String}
    {toSnap : String} {extents : List (Nat × Nat)} {pos stop total : Nat} {r : Reply}
    {before after : Objects} {old : Nat → UInt8} {next : CopyNext} (hr : r.Full)
    (hto : w.snapshot toSnap = some after)
    (hinv : ∀ p < g.size, LoopInv g before after old w.dst extents pos stop p)
    (hstep : copyStep be w fromSnap toSnap (.loop extents pos stop total) r = (w', next)) :
    ∃ pc', next = .goto pc' ∧ CopyInv be before after old w'.dst pc' := by
  simp only [copyStep, hto, hr.ok, if_true] at hstep
  by_cases hlt : pos < stop
  · rw [if_pos hlt] at hstep
    have hchunk : 0 < copyChunk := by decide
    have hgot := hr.got
    have hput := hr.put
    generalize hlen : min r.got (min (min copyChunk (stop - pos)) (g.size - pos)) = len at hstep
    by_cases hzero : len = 0
    · -- the read returned nothing, so the extent reaches past the end of the image
      rw [if_pos hzero] at hstep
      obtain ⟨rfl, rfl⟩ : _ ∧ _ := Prod.mk.inj hstep
      exact ⟨_, rfl, fun p hp => (hinv p hp).leave (by omega)⟩
    · rw [if_neg hzero, show min r.put len = len by omega] at hstep
      obtain ⟨rfl, rfl⟩ : _ ∧ _ := Prod.mk.inj hstep
      exact ⟨_, rfl, fun p hp => (hinv p hp).chunk (by omega)⟩
  · rw [if_neg hlt] at hstep
    cases extents with
    | nil =>
        obtain ⟨rfl, rfl⟩ : _ ∧ _ := Prod.mk.inj hstep
        exact ⟨_, rfl, rfl, fun p hp => (hinv p hp).delivered (by omega)⟩
    | cons e rest =>
        obtain ⟨rfl, rfl⟩ : _ ∧ _ := Prod.mk.inj hstep
        exact ⟨_, rfl, fun p hp => (hinv p hp).next (by omega)⟩

/-- A step of `copy_delta` whose call succeeds in full keeps the invariant, and when it returns
every changed byte that still exists has been delivered. -/
theorem copyStep_full {be : ObjectDiff g} {w w' : World} {fromSnap : Option String}
    {toSnap : String} {pc : CopyPc} {r : Reply} {before after : Objects} {old : Nat → UInt8}
    {next : CopyNext} (hr : r.Full) (hfrom : w.baselineObjects fromSnap = some before)
    (hto : w.snapshot toSnap = some after) (hinv : CopyInv be before after old w.dst pc)
    (hstep : copyStep be w fromSnap toSnap pc r = (w', next)) :
    (∃ pc', next = .goto pc' ∧ CopyInv be before after old w'.dst pc') ∨
      (∃ n, next = .returned n ∧ Holds g w'.dst (deliver g before after old)) := by
  cases pc with
  | diff =>
      simp only [copyStep, hfrom, hto, hr.ok, if_true] at hstep
      cases hext : presentExtents (be.imageDiff before after) with
      | nil =>
          -- no extent exists any more, so no byte of the image is to be shipped
          simp only [hext] at hstep
          obtain ⟨rfl, rfl⟩ : _ ∧ _ := Prod.mk.inj hstep
          refine .inr ⟨0, rfl, fun pos hpos => ?_⟩
          have hloop : LoopInv g before after old w.dst
              (presentExtents (be.imageDiff before after)) 0 0 pos :=
            .enter be hpos (hinv pos hpos)
          rw [hext] at hloop
          exact hloop.delivered (by omega)
      | cons e rest =>
          simp only [hext] at hstep
          obtain ⟨rfl, rfl⟩ : _ ∧ _ := Prod.mk.inj hstep
          exact .inl ⟨_, rfl, hinv, hext.symm⟩
  | map extents =>
      have hsnap : w.hasSnap toSnap = true := by simp [World.hasSnap, hto]
      simp only [copyStep, World.mapSnap, hr.ok, hsnap, Bool.and_self, if_true] at hstep
      obtain ⟨rfl, rfl⟩ : _ ∧ _ := Prod.mk.inj hstep
      exact .inl ⟨_, rfl, hinv⟩
  | openDevices extents =>
      simp only [copyStep, hr.ok, if_true] at hstep
      obtain ⟨rfl, rfl⟩ : _ ∧ _ := Prod.mk.inj hstep
      obtain ⟨hold, rfl⟩ := hinv
      exact .inl ⟨_, rfl, fun p hp => LoopInv.enter be hp (hold p hp)⟩
  | loop extents pos stop total => exact .inl (copyStep_loop hr hto hinv hstep)
  | close result =>
      simp only [copyStep, World.fsync, hr.ok, if_true] at hstep
      obtain ⟨rfl, rfl⟩ : _ ∧ _ := Prod.mk.inj hstep
      exact .inl ⟨_, rfl, hinv⟩
  | unmap result =>
      obtain ⟨hsome, hdst⟩ := hinv
      obtain ⟨n, rfl⟩ := Option.isSome_iff_exists.mp hsome
      obtain ⟨rfl, rfl⟩ : _ ∧ _ := Prod.mk.inj hstep
      refine .inr ⟨n, rfl, ?_⟩
      simpa [World.unmapSnap, hr.ok] using hdst

end XcpCephRbd.Blkmirror
