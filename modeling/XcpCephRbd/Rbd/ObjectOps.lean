import XcpCephRbd.Rbd.Object

/-!
# What an OSD request does to the bytes of an object

The bytes of an object are its content, or what the parent has below it (`Image.view`). The requests
of `rbd.c` are put together such that each of them does to these bytes what its operation says
(`modifies_writeOps`), and a copyup nothing (`view_copyup`), whether the object exists or not; the
snapshots of the request's context stay as they were (`snap_write`).
-/

namespace XcpCephRbd.Rbd

open Striper

variable {α : Type} [Zero α]

theorem getD_tabulate (n : Nat) (f : Nat → α) (x : Nat) :
    (tabulate n f).getD x 0 = if x < n then f x else 0 := by
  rw [tabulate, List.getD_eq_getElem?_getD, List.getElem?_map]
  split
  · rename_i hlt
    rw [List.getElem?_range hlt]
    rfl
  · rename_i hle
    rw [List.getElem?_eq_none (by simpa using hle)]
    rfl

/-- Beyond its end a list has zeros. -/
theorem getD_of_length_le {c : List α} {x : Nat} (h : c.length ≤ x) : c.getD x 0 = 0 := by
  rw [List.getD_eq_getElem?_getD, List.getElem?_eq_none h]
  rfl

namespace Image

variable (img : Image α)

/-- A byte of the object as the parent has it. -/
def below (x : Nat) : α := parentByte img.layout img.overlap img.parent img.objno x

/-- The bytes of the object. -/
def view (head : Option (List α)) (x : Nat) : α :=
  match head with
  | some c => c.getD x 0
  | none => img.below x

/-- The image extents of the entire object. -/
def extents : List FileExtent :=
  calcImgExtents img.layout img.overlap ⟨img.objno, 0, 0⟩ true

/-- The data of a copyup. -/
def copyData : List α := parentData img.parent img.extents

@[simp] theorem view_some (c : List α) (x : Nat) : img.view (some c) x = c.getD x 0 := rfl

@[simp] theorem view_none (x : Nat) : img.view none x = img.below x := rfl

/-- What is read from the parent for an extent of the object. -/
theorem calc_getD (off len : Nat) :
    (parentData img.parent
      (calcImgExtents img.layout img.overlap ⟨img.objno, off, len⟩ false)).length ≤ len ∧
    ∀ i < len, (parentData img.parent
      (calcImgExtents img.layout img.overlap ⟨img.objno, off, len⟩ false)).getD i 0 =
        img.below (off + i) := by
  rw [calcImgExtents]
  split
  · rename_i hzero
    refine ⟨Nat.zero_le _, ?_⟩
    intro i _
    rw [below, parentByte, if_neg (by omega)]
    rfl
  · exact parentData_getD img.layout img.overlap img.parent img.objno off len

/-- The data of a copyup is what is below the object. -/
theorem copyData_getD {x : Nat} (h : x < img.layout.objectSize) :
    img.copyData.getD x 0 = img.below x := by
  have hcalc := (img.calc_getD 0 img.layout.objectSize).2 x h
  rw [Nat.zero_add] at hcalc
  rw [← hcalc]
  rfl

/-- Without image extents nothing is below the object. -/
theorem below_of_extents {x : Nat} (hext : img.extents = []) (h : x < img.layout.objectSize) :
    img.below x = 0 := by
  rw [← img.copyData_getD h, copyData, hext]
  rfl

/-- A copyup leaves the bytes of the object, when its data is what is below. -/
theorem view_copyup {data : List α}
    (hdata : ∀ x < img.layout.objectSize, data.getD x 0 = img.below x)
    (head : Option (List α)) {x : Nat} (h : x < img.layout.objectSize) :
    img.view (some (head.getD data)) x = img.view head x := by
  cases head with
  | none => exact hdata x h
  | some c => rfl

end Image

/-- The extents that are left are not cut again. -/
theorem pruneExtents_idem (exts : List FileExtent) (overlap : Nat) :
    pruneExtents (pruneExtents exts overlap) overlap = pruneExtents exts overlap := by
  rw [pruneExtents.eq_def exts]
  cases hdrop : exts.reverse.dropWhile (fun fe => decide (overlap ≤ fe.off)) with
  | nil => rfl
  | cons fe rest =>
      have hin : ¬overlap ≤ fe.off := by
        have hhead := List.head_dropWhile_not (fun fe : FileExtent => decide (overlap ≤ fe.off))
          (l := exts.reverse) (by rw [hdrop]; exact List.cons_ne_nil _ _)
        simpa [hdrop] using hhead
      dsimp only
      by_cases hlt : overlap < fe.off + fe.len
      · rw [if_pos hlt, pruneExtents, List.reverse_reverse,
          List.dropWhile_cons_of_neg (by simpa using hin)]
        dsimp only
        rw [if_neg (by omega)]
      · rw [if_neg hlt, pruneExtents, List.reverse_reverse,
          List.dropWhile_cons_of_neg (by simpa using hin)]
        dsimp only
        rw [if_neg hlt]

/-- The image extents of the entire object are not cut again. -/
theorem Image.prune_extents {β : Type} (img : Image β) :
    pruneExtents img.extents img.overlap = img.extents := by
  rw [Image.extents, calcImgExtents]
  split
  · rfl
  · exact pruneExtents_idem _ _

/-! ## The modification of a request -/

/-- What the init functions set in a request, and nothing changes later. -/
structure Req.Wf (img : Image α) (r : Req α) : Prop where
  pos : 0 < r.len
  inside : r.off + r.len ≤ img.layout.objectSize
  data : ∀ data, r.op = .write data → data.length = r.len
  snaps_le : ∀ s ∈ r.snaps, s ≤ r.seq
  extents : r.op ≠ .read → r.imgExtents = img.extents
  deletion : r.deletion = true ↔
    (r.op = .discard ∨ r.op = .zeroout) ∧ r.isEntire img = true ∧ img.extents = []
  copyup : r.copyupEnabled = true ↔
    ((∃ data, r.op = .write data) ∨ r.op = .zeroout) ∧ img.extents ≠ [] ∧
      ¬(r.isEntire img = true ∧ r.snaps = [])
  noop : r.noopForNonexistent = true → r.op = .discard ∨ r.op = .zeroout ∧ img.extents = []

/-- What the operations of a request do to the bytes, and when they fail. -/
def Req.Modifies (img : Image α) (r : Req α) (head : Option (List α)) :
    Except Int (Option (List α)) → Prop
  | .ok head' =>
      (∀ x < img.layout.objectSize,
        img.view head' x = (r.effect head.isSome).apply (img.view head) x) ∧
      (head' = none → head = none ∨ r.deletion = true)
  | .error e => e = enoent ∧ head = none ∧ r.deletion = true

section Ops

variable {img : Image α} {r : Req α} {head : Option (List α)}

/-- A request without copyup for an object that does not exist has nothing below it, or covers the
object. -/
theorem Req.Wf.below_zero (h : r.Wf img) (hop : (∃ data, r.op = .write data) ∨ r.op = .zeroout)
    (hnone : r.copyupEnabled = false) (hpart : r.isEntire img = false) {x : Nat}
    (hx : x < img.layout.objectSize) : img.below x = 0 := by
  apply img.below_of_extents _ hx
  by_contra hne
  have hcopy := h.copyup.mpr ⟨hop, hne, by simp [hpart]⟩
  rw [hnone] at hcopy
  cases hcopy

/-- The bytes after a write of the object's content. -/
theorem getD_write (c data : List α) (off x : Nat) :
    (tabulate (max c.length (off + data.length)) fun x =>
      if off ≤ x ∧ x < off + data.length then data.getD (x - off) 0 else c.getD x 0).getD x 0 =
      if off ≤ x ∧ x < off + data.length then data.getD (x - off) 0 else c.getD x 0 := by
  rw [getD_tabulate]
  split
  · rfl
  · rw [if_neg (by omega), getD_of_length_le (by omega)]

/-- The operation of a write. -/
theorem modifies_write (h : r.Wf img) {data : List α} (hop : r.op = .write data)
    (c : List α)
    (hc : ∀ x < img.layout.objectSize, r.isEntire img = false → c.getD x 0 = img.view head x) :
    r.Modifies img head
      (runOps [if r.isEntire img then .writeFull data else .write r.off data] (some c)) := by
  have hlen := h.data data hop
  have heffect : r.effect head.isSome = .write r.off data := by rw [Req.effect, hop]
  by_cases hentire : r.isEntire img = true
  · have hall : r.off = 0 ∧ r.len = img.layout.objectSize := by
      simpa [Req.isEntire] using hentire
    rw [if_pos hentire]
    refine ⟨?_, fun hnone => by cases hnone⟩
    intro x hx
    rw [heffect]
    show data.getD x 0 = if r.off ≤ x ∧ x < r.off + data.length then _ else _
    rw [if_pos (by omega), hall.1, Nat.sub_zero]
  · rw [if_neg hentire]
    refine ⟨?_, fun hnone => by cases hnone⟩
    intro x hx
    rw [heffect]
    refine (getD_write c data r.off x).trans ?_
    rw [hc x hx (by simpa using hentire)]
    rfl

/-- A truncation at the end of the request, or a zeroing, of an object that exists. -/
theorem getD_truncateOrZero (img : Image α) (r : Req α) (c : List α) {x : Nat}
    (hx : x < img.layout.objectSize) :
    ∃ c', runOps [r.truncateOrZero img] (some c) = .ok (some c') ∧
      c'.getD x 0 = if r.off ≤ x ∧ x < r.off + r.len then 0 else c.getD x 0 := by
  rw [Req.truncateOrZero]
  by_cases htail : r.isTail img = true
  · have hend : r.off + r.len = img.layout.objectSize := by simpa [Req.isTail] using htail
    rw [if_pos htail]
    refine ⟨_, rfl, ?_⟩
    rw [getD_tabulate]
    by_cases hlt : x < r.off
    · rw [if_pos hlt, if_neg (by omega)]
    · rw [if_neg hlt, if_pos (by omega)]
  · rw [if_neg htail]
    refine ⟨_, rfl, ?_⟩
    rw [getD_tabulate]
    split
    · rfl
    · rename_i hle
      rw [getD_of_length_le (c := c) (by omega)]
      split
      · rfl
      · rfl

/-- On an object that does not exist a truncation or a zeroing does nothing. -/
theorem truncateOrZero_none (img : Image α) (r : Req α) :
    runOps [r.truncateOrZero img] none = .ok none := by
  rw [Req.truncateOrZero]
  split
  · rfl
  · rfl

/-- The operation of a discard or a zeroout of a part of an object. -/
theorem modifies_truncateOrZero (h : r.Wf img) (hop : r.op = .discard ∨ r.op = .zeroout)
    (hzero : r.op = .zeroout → head = none → ∀ x < img.layout.objectSize, img.below x = 0) :
    r.Modifies img head (runOps [r.truncateOrZero img] head) := by
  cases head with
  | none =>
      rw [truncateOrZero_none]
      refine ⟨?_, fun _ => .inl rfl⟩
      intro x hx
      rcases hop with hop | hop
      · rw [Req.effect, hop]
        rfl
      · rw [Req.effect, hop]
        show img.below x = if _ then 0 else img.below x
        rw [hzero hop rfl x hx]
        split
        · rfl
        · rfl
  | some c =>
      have heffect : r.effect true = .zero r.off r.len := by
        rcases hop with hop | hop
        · rw [Req.effect, hop]
          rfl
        · rw [Req.effect, hop]
      obtain ⟨c₀, hrun, -⟩ := getD_truncateOrZero img r c (Nat.lt_of_lt_of_le h.pos (by
        have := h.inside
        omega))
      rw [hrun]
      refine ⟨?_, fun hnone => by cases hnone⟩
      intro x hx
      obtain ⟨c', hrun', hget⟩ := getD_truncateOrZero img r c hx
      cases hrun.symm.trans hrun'
      rw [Option.isSome_some, heffect]
      exact hget

/-- A create or an allocation hint leaves the bytes of an object that has nothing below it. -/
theorem getD_created (hzero : head = none → ∀ x < img.layout.objectSize, img.below x = 0) {x : Nat}
    (hx : x < img.layout.objectSize) : (head.getD []).getD x 0 = img.view head x := by
  cases head with
  | none => exact (hzero rfl x hx).symm
  | some c => rfl

/-- The deletion of an object that has nothing below it. -/
theorem modifies_delete (h : r.Wf img) (hdel : r.deletion = true) :
    r.Modifies img head (runOps [.delete] head) := by
  obtain ⟨hop, hentire, hext⟩ := h.deletion.mp hdel
  have hall : r.off = 0 ∧ r.len = img.layout.objectSize := by simpa [Req.isEntire] using hentire
  cases head with
  | none => exact ⟨rfl, rfl, hdel⟩
  | some c =>
      have heffect : r.effect true = .zero r.off r.len := by
        rcases hop with hop | hop
        · rw [Req.effect, hop]
          rfl
        · rw [Req.effect, hop]
      refine ⟨?_, fun _ => .inr hdel⟩
      intro x hx
      rw [Option.isSome_some, heffect]
      show img.below x = if r.off ≤ x ∧ x < r.off + r.len then 0 else c.getD x 0
      rw [img.below_of_extents hext hx, if_pos (by omega)]

/-- The truncation of an object that a zeroout covers, and that exists. -/
theorem modifies_truncate (hop : r.op = .zeroout) (hentire : r.isEntire img = true) (c : List α) :
    r.Modifies img head (runOps [.truncate r.off] (some c)) := by
  have hall : r.off = 0 ∧ r.len = img.layout.objectSize := by simpa [Req.isEntire] using hentire
  refine ⟨?_, fun hnone => by cases hnone⟩
  intro x hx
  rw [Req.effect, hop]
  show (tabulate r.off fun x => c.getD x 0).getD x 0 =
    if r.off ≤ x ∧ x < r.off + r.len then 0 else img.view head x
  rw [getD_tabulate, if_neg (by omega), if_pos (by omega)]

/-- The operations of a request do what its operation says. A request with a copyup is sent for an
object that does not exist only after the copyup. -/
theorem modifies_writeOps (h : r.Wf img) (hop : r.op ≠ .read)
    (hready : head ≠ none ∨ r.copyupEnabled = false) :
    r.Modifies img head (runOps (r.writeOps img) head) := by
  have hext := h.extents hop
  cases hkind : r.op with
  | read => exact absurd hkind hop
  | write data =>
      have hzero : r.isEntire img = false → head = none →
          ∀ x < img.layout.objectSize, img.below x = 0 := by
        intro hpart hnone x hx
        rcases hready with hsome | hcopy
        · exact absurd hnone hsome
        · exact h.below_zero (.inl ⟨data, hkind⟩) hcopy hpart hx
      simp only [Req.writeOps, hkind]
      by_cases hhint : (!img.useObjectMap || !r.mayExist) = true
      · rw [if_pos hhint]
        exact modifies_write h hkind (head.getD []) fun x hx hpart =>
          getD_created (hzero hpart) hx
      · rw [if_neg hhint, List.nil_append]
        cases head with
        | none =>
            have hsame := @modifies_write _ _ img r none h data hkind [] fun x hx hpart =>
              @getD_created _ _ img none (hzero hpart) x hx
            -- the write creates the object from nothing
            revert hsame
            split
            · exact id
            · exact id
        | some c => exact modifies_write h hkind c fun x hx hpart => rfl
  | discard =>
      simp only [Req.writeOps, hkind, hext]
      by_cases hdel : (r.isEntire img && img.extents.isEmpty) = true
      · rw [Bool.and_eq_true, List.isEmpty_iff] at hdel
        rw [if_pos (by simp [hdel])]
        exact modifies_delete h (h.deletion.mpr ⟨.inl hkind, hdel⟩)
      · rw [if_neg hdel]
        exact modifies_truncateOrZero h (.inl hkind) fun hz => by
          rw [hkind] at hz
          cases hz
  | zeroout =>
      simp only [Req.writeOps, hkind, hext]
      by_cases hentire : r.isEntire img = true
      · rw [if_pos hentire]
        by_cases hempty : img.extents = []
        · rw [if_pos (by simp [hempty])]
          exact modifies_delete h (h.deletion.mpr ⟨.inr hkind, hentire, hempty⟩)
        · rw [if_neg (by simpa using hempty)]
          cases head with
          | none =>
              -- there is no copyup to create the object
              have hnocopy : r.copyupEnabled = false := by
                rcases hready with hsome | hcopy
                · exact absurd rfl hsome
                · exact hcopy
              rw [hnocopy]
              exact modifies_truncate hkind hentire []
          | some c =>
              cases hcopy : r.copyupEnabled with
              | true => exact modifies_truncate hkind hentire c
              | false => exact modifies_truncate hkind hentire c
      · rw [if_neg hentire]
        refine modifies_truncateOrZero h (.inr hkind) fun _ hnone x hx => ?_
        rcases hready with hsome | hcopy
        · exact absurd hnone hsome
        · exact h.below_zero (.inr hkind) hcopy (by simpa using hentire) hx

/-- With the copyup before them, the operations do the same to an object that does not exist. -/
theorem modifies_copyup (h : r.Wf img) (hop : r.op ≠ .read) (hcopy : r.copyupEnabled = true)
    {data : List α} (hdata : ∀ x < img.layout.objectSize, data.getD x 0 = img.below x) :
    r.Modifies img head (runOps (.copyup data :: r.writeOps img) head) := by
  have hmods := @modifies_writeOps _ _ img r (some (head.getD data)) h hop (.inl (by simp))
  have hnodel : ¬r.deletion = true := fun hdel =>
    ((h.copyup.mp hcopy).2.1) (h.deletion.mp hdel).2.2
  have heffect : r.effect true = r.effect head.isSome := by
    rcases (h.copyup.mp hcopy).1 with ⟨data, hkind⟩ | hkind
    · rw [Req.effect, Req.effect, hkind]
    · rw [Req.effect, Req.effect, hkind]
  show r.Modifies img head (runOps (r.writeOps img) (some (head.getD data)))
  cases hrun : runOps (r.writeOps img) (some (head.getD data)) with
  | error e =>
      rw [hrun] at hmods
      exact absurd hmods.2.1 (by simp)
  | ok head' =>
      rw [hrun] at hmods
      refine ⟨?_, fun hnone => ?_⟩
      · intro x hx
        have hbytes := hmods.1 x hx
        rw [Option.isSome_some, heffect] at hbytes
        rw [hbytes]
        have hsame := img.view_copyup hdata head hx
        cases r.effect head.isSome with
        | nothing => exact hsame
        | write off d =>
            show (if _ then _ else img.view _ x) = if _ then _ else img.view _ x
            rw [hsame]
        | zero off len =>
            show (if _ then _ else img.view _ x) = if _ then _ else img.view _ x
            rw [hsame]
      · rcases hmods.2 hnone with hcase | hdel
        · cases hcase
        · exact absurd hdel hnodel

/-- With the check before them, the operations leave an object that does not exist to the copyup. -/
theorem modifies_stat (h : r.Wf img) (hop : r.op ≠ .read) :
    (head = none → runOps (.stat :: r.writeOps img) head = .error enoent) ∧
      (head ≠ none → r.Modifies img head (runOps (.stat :: r.writeOps img) head)) := by
  cases head with
  | none => exact ⟨fun _ => rfl, fun hne => absurd rfl hne⟩
  | some c =>
      refine ⟨fun hnone => (by cases hnone), fun hne => ?_⟩
      exact modifies_writeOps h hop (.inl hne)

end Ops

/-! ## The snapshots -/

/-- A request leaves the snapshots of its context. -/
theorem snap_write {o o' : Object α} {seq : Nat} {ops : List (OsdOp α)}
    (h : o.write seq ops = .ok o') {s : Nat} (hs : s ≤ seq) : o'.snap s = o.snap s := by
  rw [Object.write] at h
  cases hrun : runOps ops o.head with
  | error e =>
      rw [hrun] at h
      cases h
  | ok head =>
      rw [hrun] at h
      cases h
      simp only [Object.snap]
      rw [if_neg (by omega)]
      by_cases hlt : o.seq < s
      · rw [if_pos ⟨hlt, hs⟩, if_pos hlt]
      · rw [if_neg (fun hboth => hlt hboth.1), if_neg hlt]

/-- A copyup with the empty snapshot context leaves the bytes at the snapshots. -/
theorem view_snap_copyup {img : Image α} {o o' : Object α} {data : List α}
    (hdata : ∀ x < img.layout.objectSize, data.getD x 0 = img.below x)
    (h : o.write 0 [.copyup data] = .ok o') (s : Nat) {x : Nat} (hx : x < img.layout.objectSize) :
    img.view (o'.snap s) x = img.view (o.snap s) x := by
  cases h
  simp only [Object.snap]
  by_cases hlt : o.seq < s
  · rw [if_pos (by omega), if_pos hlt]
    exact img.view_copyup hdata o.head hx
  · rw [if_neg (by omega), if_neg hlt, if_neg (by omega)]

end XcpCephRbd.Rbd
