import XcpCephRbd.Rbd.ObjectRuns

/-!
# Histories of the requests to one object

Any number of reads, writes, discards and zeroouts, with their copyups and their object map updates
interleaved in any way. `run_content` says that the bytes of the object are at any time what the
modifications so far make of the first ones, that each request modifies them at most once and not
before it starts, and has done so when it reports success; `run_read` that a read returns what they
were at one moment between its start and its end; `run_snap` that the snapshots of the requests'
contexts keep their bytes.
-/

namespace XcpCephRbd.Rbd

open Run Striper

variable {α : Type} [Zero α]

/-- What is asked of every step of a run. -/
def Sys.Careful (img : Image α) (s : Sys α) (e : Event α) : Prop :=
  s.MapRight img ∧ s.CopyupsRun e

section Runs

variable [DecidableEq α] {img : Image α} {init : Nat → α} {s s' : Sys α} {e : Event α}

/-- Every run keeps the invariant. -/
theorem Inv.along (h : Inv img init s) {es : List (Event α)}
    (hguard : Along (Sys.step img) (Sys.Careful img) s es)
    (hrun : run (Sys.step img) s es = some s') : Inv img init s' :=
  run_invariant (fun _ _ _ hinv hcareful hstep => hinv.step hcareful.1 hcareful.2 hstep) h
    hguard hrun

/-- The bytes of the object are what its modifications make of the first ones, in the order in which
they were done. Each of them is the one of its request, is done once and after its start, and has
been done when the request completes without an error. -/
theorem run_content (img : Image α) (head : Option (List α)) (clone : Nat → Option (List α))
    (seq : Nat) (map : MapState) (es : List (Event α)) (s : Sys α)
    (hguard : Along (Sys.step img) (Sys.Careful img) (Sys.idle head clone seq map) es)
    (hrun : run (Sys.step img) (Sys.idle head clone seq map) es = some s) :
    (∀ x < img.layout.objectSize, img.view s.object.head x = content (img.view head) s.log x) ∧
      (changed s.log).Nodup ∧
      (∀ (n : Nat) (e : Nat × Effect α), s.log[n]? = some e → ∃ r : Req α,
        s.reqs[e.1]? = some r ∧ r.op ≠ .read ∧ r.since ≤ n ∧ ∃ b, e.2 = r.effect b) ∧
      (∀ (i : Nat) (r : Req α), s.reqs[i]? = some r → r.op ≠ .read → r.control = .done 0 →
        i ∈ changed s.log) := by
  have hinv := (inv_idle img head clone seq map).along hguard hrun
  refine ⟨hinv.agree, hinv.once, hinv.logged, ?_⟩
  intro i r hi hop hdone
  have hok := (hinv.known i r hi).write hop
  rw [Req.WriteOk, hdone] at hok
  exact hok.2 rfl

/-- A read that completes without an error returns the bytes that its extent had at one moment since
its start. -/
theorem run_read (img : Image α) (head : Option (List α)) (clone : Nat → Option (List α))
    (seq : Nat) (map : MapState) (es : List (Event α)) (s : Sys α)
    (hguard : Along (Sys.step img) (Sys.Careful img) (Sys.idle head clone seq map) es)
    (hrun : run (Sys.step img) (Sys.idle head clone seq map) es = some s) :
    ∀ (i : Nat) (r : Req α), s.reqs[i]? = some r → r.op = .read → r.control = .done 0 →
      r.data.length = r.len ∧ ∃ n, r.since ≤ n ∧ n ≤ s.log.length ∧
        ∀ k < r.len, r.data.getD k 0 = content (img.view head) (s.log.take n) (r.off + k) := by
  intro i r hi hop hdone
  have hinv := (inv_idle img head clone seq map).along hguard hrun
  have hok := (hinv.known i r hi).read hop
  rw [Req.ReadOk, hdone] at hok
  exact hok.2 rfl

/-! ## Snapshots -/

/-- A step changes the object by a modification of a request, or by a copyup, or not at all. -/
theorem Inv.step_object (h : Inv img init s) (hstep : s.step img e = some s') :
    s'.object = s.object ∨
      (∃ (i : Nat) (r : Req α) (ops : List (OsdOp α)), s.reqs[i]? = some r ∧ r.op ≠ .read ∧
        s.object.write r.seq ops = .ok s'.object) ∨
      ∃ bytes, CopyupBytes img bytes ∧ s.object.write 0 [.copyup bytes] = .ok s'.object := by
  cases e with
  | start op off len snaps seq alloc =>
      simp only [Sys.step] at hstep
      split at hstep
      · obtain ⟨r, hr, rfl⟩ := Option.map_eq_some_iff.mp hstep
        exact .inl rfl
      · cases hstep
  | submit i =>
      simp only [Sys.step, Option.bind_eq_bind, Option.bind_eq_some_iff] at hstep
      obtain ⟨r, hi, hrest⟩ := hstep
      split at hrest
      · cases hrest
      · cases hrest
        exact .inl rfl
  | deliver i j alloc =>
      simp only [Sys.step, Option.bind_eq_bind, Option.bind_eq_some_iff] at hstep
      obtain ⟨r, hi, f, hj, reply, hreply, hrest⟩ := hstep
      split at hrest
      · cases hrest
        exact .inl rfl
      · cases hrest
  | exec i j fault =>
      simp only [Sys.step, Option.bind_eq_bind, Option.bind_eq_some_iff] at hstep
      obtain ⟨r, hi, f, hj, hrest⟩ := hstep
      split at hrest
      · rename_i hready
        cases hrest
        obtain ⟨hsub, hnone, hfirst⟩ := hready
        exact h.execute_object hi hj (Option.isNone_iff_eq_none.mp hnone) hsub hfirst fault
      · cases hrest

/-- A request keeps its operation and its snapshot context. -/
theorem Inv.step_seq (h : Inv img init s) (hstep : s.step img e = some s') {i : Nat} {r' : Req α}
    (hi' : s'.reqs[i]? = some r') :
    (∃ r : Req α, s.reqs[i]? = some r ∧ r'.op = r.op ∧ r'.seq = r.seq) ∨
      ∃ op off len snaps seq alloc, e = .start op off len snaps seq alloc ∧ r'.op = op ∧
        r'.seq = seq := by
  cases e with
  | start op off len snaps seq alloc =>
      simp only [Sys.step] at hstep
      split at hstep
      · rename_i hvalid
        obtain ⟨r, hr, rfl⟩ := Option.map_eq_some_iff.mp hstep
        obtain ⟨q, hreqs, hkept⟩ := @begin_reqs _ _ img s r alloc
        rw [hreqs] at hi'
        by_cases hlt : i < s.reqs.length
        · rw [List.getElem?_append_left hlt] at hi'
          exact .inl ⟨r', hi', rfl, rfl⟩
        · rw [List.getElem?_append_right (by omega)] at hi'
          obtain rfl : q = r' := List.mem_singleton.mp (List.mem_of_getElem? hi') |>.symm
          exact .inr ⟨op, off, len, snaps, seq, alloc, rfl,
            hkept.op.trans (started_initial hvalid hr).op, hkept.seq.trans (initial_seq hr)⟩
      · cases hstep
  | submit k =>
      simp only [Sys.step, Option.bind_eq_bind, Option.bind_eq_some_iff] at hstep
      obtain ⟨r, hk, hrest⟩ := hstep
      split at hrest
      · cases hrest
      · cases hrest
        refine .inl (seq_of_set hk ?_ ?_ hi')
        · rfl
        · rfl
  | exec k j fault =>
      simp only [Sys.step, Option.bind_eq_bind, Option.bind_eq_some_iff] at hstep
      obtain ⟨r, hk, f, hj, hrest⟩ := hstep
      split at hrest
      · cases hrest
        obtain ⟨res, data, hreqs⟩ := @execute_reqs _ _ img s k j r f fault
        rw [hreqs, Sys.replied] at hi'
        refine .inl (seq_of_set hk ?_ ?_ hi')
        · rfl
        · rfl
      · cases hrest
  | deliver k j alloc =>
      simp only [Sys.step, Option.bind_eq_bind, Option.bind_eq_some_iff] at hstep
      obtain ⟨r, hk, f, hj, reply, hreply, hrest⟩ := hstep
      split at hrest
      · cases hrest
        have hkept := h.kept_callback hk j (s.callback img k j r f reply.1 reply.2 alloc).mem alloc
          reply.1 reply.2
        exact .inl (seq_of_set hk hkept.op hkept.seq hi')
      · cases hrest

/-- Every request of the run that changes the object has the snapshot in its context. -/
def Event.After (snap : Nat) : Event α → Prop
  | .start op _ _ _ seq _ => op ≠ .read → snap ≤ seq
  | _ => True

/-- What holds of the snapshot at any time. -/
structure SnapInv (img : Image α) (init : Nat → α) (snap : Nat) (old : Nat → α) (s : Sys α) :
    Prop where
  inv : Inv img init s
  context : ∀ (i : Nat) (r : Req α), s.reqs[i]? = some r → r.op ≠ .read → snap ≤ r.seq
  kept : ∀ x < img.layout.objectSize, img.view (s.object.snap snap) x = old x

/-- Every step keeps the snapshot. -/
theorem SnapInv.step {snap : Nat} {old : Nat → α} (h : SnapInv img init snap old s)
    (hguard : s.Careful img e ∧ e.After snap) (hstep : s.step img e = some s') :
    SnapInv img init snap old s' := by
  refine ⟨h.inv.step hguard.1.1 hguard.1.2 hstep, ?_, ?_⟩
  · intro i r' hi' hop
    rcases h.inv.step_seq hstep hi' with ⟨r, hi, hop', hseq⟩ | ⟨op, _, _, _, seq, _, rfl, rfl, rfl⟩
    · rw [hseq]
      exact h.context i r hi (hop' ▸ hop)
    · exact hguard.2 hop
  · intro x hx
    rw [← h.kept x hx]
    rcases h.inv.step_object hstep with hsame | ⟨i, r, ops, hi, hop, hwrite⟩ |
      ⟨bytes, hbytes, hwrite⟩
    · rw [hsame]
    · rw [snap_write hwrite (h.context i r hi hop)]
    · exact view_snap_copyup hbytes hwrite snap hx

/-- A snapshot that is in the context of every request keeps its bytes, also when a copyup fills the
object below it. -/
theorem run_snap (img : Image α) (head : Option (List α)) (clone : Nat → Option (List α))
    (seq : Nat) (map : MapState) (es : List (Event α)) (s : Sys α) (snap : Nat)
    (hguard : Along (Sys.step img) (Sys.Careful img) (Sys.idle head clone seq map) es)
    (hsnap : ∀ e ∈ es, e.After snap)
    (hrun : run (Sys.step img) (Sys.idle head clone seq map) es = some s) :
    ∀ x < img.layout.objectSize, img.view (s.object.snap snap) x =
      img.view ((Sys.idle head clone seq map).object.snap snap) x := by
  have hinit : SnapInv img (img.view head) snap
      (img.view ((Sys.idle head clone seq map).object.snap snap)) (Sys.idle head clone seq map) :=
    ⟨inv_idle img head clone seq map, fun i r hi => (by cases hi), fun _ _ => rfl⟩
  exact (run_invariant (fun _ _ _ hinv hg hstep => SnapInv.step hinv hg hstep) hinit
    (hguard.and (along_of_forall hsnap)) hrun).kept

end Runs

/-! ## A run -/

instance (img : Image α) (s : Sys α) : Decidable (s.MapRight img) :=
  decidable_of_iff (img.useObjectMap = true → s.mem = .objectNonexistent →
      s.object.head.isNone = true) <| by
    simp only [Sys.MapRight, Option.isNone_iff_eq_none]

/-- The OSD request is the copyup with the empty snapshot context. -/
def Sent.isCopyup : Sent α → Bool
  | .copyup _ => true
  | _ => false

omit [Zero α] in
theorem copyupsRun_exec_iff {s : Sys α} {i j : Nat} {fault : Option (Errno × Bool)} :
    s.CopyupsRun (.exec i j fault) ↔ (Sys.skipped fault = true →
      (s.reqs[i]?.bind fun r => r.flight[j]?).all fun f => !f.sent.isCopyup) := by
  simp only [Sys.CopyupsRun]
  refine imp_congr_right fun _ => ?_
  constructor
  · intro h
    rw [Option.all_eq_true]
    intro f hf
    obtain ⟨r, hi, hj⟩ := Option.bind_eq_some_iff.mp hf
    cases hsent : f.sent with
    | copyup data => exact absurd hsent (h r f data hi hj)
    | _ => rfl
  · intro h r f data hi hj hsent
    rw [hi, Option.bind_some, hj] at h
    simp [hsent, Sent.isCopyup] at h

instance (s : Sys α) (e : Event α) : Decidable (s.CopyupsRun e) :=
  match e with
  | .exec _ _ _ => decidable_of_iff _ copyupsRun_exec_iff.symm
  | .start _ _ _ _ _ _ => .isTrue trivial
  | .submit _ => .isTrue trivial
  | .deliver _ _ _ => .isTrue trivial

instance (img : Image α) (s : Sys α) (e : Event α) : Decidable (s.Careful img e) :=
  inferInstanceAs (Decidable (_ ∧ _))

/-- An image without a parent, with an object of 32 bytes. -/
def exampleImage : Image Nat where
  layout := exampleLayout
  objno := 0
  overlap := 0
  parent := fun _ => 0
  allocSize := 8
  objectMap := false
  mapInvalid := false
  fastDiff := false

/-- A clone with an object map, whose parent has something in every byte of the object. -/
def exampleClone : Image Nat :=
  { exampleImage with overlap := 96, parent := fun x => x + 1, objectMap := true, fastDiff := true }

/-- `-EIO`. -/
def eio : Errno := ⟨-5, by decide, by decide⟩

/-- An object of the clone that does not exist, below a snapshot 3: a read, a write that fails, and
a write whose copyup goes below the snapshot, with a read that finds no object before that. -/
def cloneRun : List (Event Nat) :=
  let ok : Nat → Option Errno := fun _ => none
  -- the read goes to the parent at once, since the map says that there is no object
  [.start .read 4 2 [] 0 ok, .submit 0, .exec 0 0 none, .deliver 0 0 ok,
    -- the first write marks the object in the map and fails
    .start (.write [1, 2]) 4 2 [3] 3 ok, .submit 1, .exec 1 0 none, .deliver 1 0 ok, .submit 1,
    .exec 1 0 (some (eio, false)), .deliver 1 0 ok,
    -- the second write and the second read find no object; the read is submitted first
    .start (.write [1, 2]) 4 2 [3] 3 ok, .start .read 4 2 [] 0 ok, .submit 3, .submit 2,
    .exec 2 0 none, .exec 3 0 none, .deliver 3 0 ok, .deliver 2 0 ok,
    -- the copyup reads the parent, and updates the map of the snapshot
    .submit 2, .exec 2 0 none, .deliver 2 0 ok, .submit 2, .exec 2 0 none, .deliver 2 0 ok,
    -- it is executed, and the write behind it, before the read has the parent's bytes
    .submit 2, .exec 2 0 none, .exec 2 1 none, .submit 3, .exec 3 0 none, .deliver 3 0 ok,
    .deliver 2 0 ok, .deliver 2 0 ok]

/-- What the requests of the run end with: the reads have read the parent's bytes, and snapshot 3
has an object of its own. -/
def Sys.ClonesEnd (s : Sys Nat) : Bool :=
  decide (s.reqs.map Req.control = [.done 0, .done (-5), .done 0, .done 0]) &&
    decide (s.reqs.map Req.data = [[5, 6], [], [], [5, 6]]) &&
    (s.object.head.bind fun bytes => bytes[4]?) == some 1 &&
    ((s.object.snap 3).bind fun bytes => bytes[4]?) == some 5

/-- The run, with what is asked of it. -/
theorem cloneRun_careful :
    ∃ s, run (Sys.step exampleClone) (Sys.idle none (fun _ => none) 0 .objectNonexistent) cloneRun =
        some s ∧
      Along (Sys.step exampleClone) (Sys.Careful exampleClone)
        (Sys.idle none (fun _ => none) 0 .objectNonexistent) cloneRun ∧ s.ClonesEnd = true :=
  exists_of_checked (by decide +kernel)

theorem run_content_example :
    ∃ s, run (Sys.step exampleClone) (Sys.idle none (fun _ => none) 0 .objectNonexistent) cloneRun =
        some s ∧ s.ClonesEnd = true ∧
      (∀ x < exampleClone.layout.objectSize, exampleClone.view s.object.head x =
        content (exampleClone.view none) s.log x) ∧
      (changed s.log).Nodup ∧
      (∀ (n : Nat) (e : Nat × Effect Nat), s.log[n]? = some e → ∃ r : Req Nat,
        s.reqs[e.1]? = some r ∧ r.op ≠ .read ∧ r.since ≤ n ∧ ∃ b, e.2 = r.effect b) ∧
      (∀ (i : Nat) (r : Req Nat), s.reqs[i]? = some r → r.op ≠ .read → r.control = .done 0 →
        i ∈ changed s.log) := by
  obtain ⟨s, hrun, hguard, hend⟩ := cloneRun_careful
  exact ⟨s, hrun, hend,
    run_content exampleClone none (fun _ => none) 0 .objectNonexistent cloneRun s hguard hrun⟩

theorem run_read_example :
    ∃ s, run (Sys.step exampleClone) (Sys.idle none (fun _ => none) 0 .objectNonexistent) cloneRun =
        some s ∧ s.ClonesEnd = true ∧
      ∀ (i : Nat) (r : Req Nat), s.reqs[i]? = some r → r.op = .read → r.control = .done 0 →
        r.data.length = r.len ∧ ∃ n, r.since ≤ n ∧ n ≤ s.log.length ∧ ∀ k < r.len,
          r.data.getD k 0 = content (exampleClone.view none) (s.log.take n) (r.off + k) := by
  obtain ⟨s, hrun, hguard, hend⟩ := cloneRun_careful
  exact ⟨s, hrun, hend,
    run_read exampleClone none (fun _ => none) 0 .objectNonexistent cloneRun s hguard hrun⟩

theorem run_snap_example :
    ∃ s, run (Sys.step exampleClone) (Sys.idle none (fun _ => none) 0 .objectNonexistent) cloneRun =
        some s ∧ s.ClonesEnd = true ∧
      ∀ x < exampleClone.layout.objectSize, exampleClone.view (s.object.snap 3) x =
        exampleClone.view
          ((Sys.idle none (fun _ => none) 0 .objectNonexistent : Sys Nat).object.snap 3) x := by
  obtain ⟨s, hrun, hguard, hend⟩ := cloneRun_careful
  exact ⟨s, hrun, hend,
    run_snap exampleClone none (fun _ => none) 0 .objectNonexistent cloneRun s 3 hguard
      (by simp [cloneRun, Event.After]) hrun⟩

end XcpCephRbd.Rbd
