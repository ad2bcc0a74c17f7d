import XcpCephRbd.Blkmirror.Order

/-!
# What the copies leave on the destination

`copy_delta` looks neither at how many bytes `pwrite` took nor at a failing `fsync`, and it drops
the objects that no longer exist, so it may return although the destination lacks what changed.
`whole` excludes these steps, and `copyStep_whole` says what a copy then leaves on the destination.

`Watched` adds history variables to the system, which no step reads: the destination at the end of
each pass of the worker, and what each `finalize` compared, with the destination when its
`copy_delta` returned. `DeltaInv` is the invariant of the latter: as long as the copies do not
overlap, every byte that changed since the baseline has arrived.
-/

namespace XcpCephRbd.Blkmirror

variable {g : Geometry}

/-! ## A copy that loses nothing -/

/-- The copy has failed and is in its `finally` block. -/
def CopyPc.failed : CopyPc → Bool
  | .close none | .unmap none => true
  | _ => false

/-- A step of `copy_delta` that, where it succeeds, loses nothing: every object that `image_diff`
lists still exists, `pread` returns something before the end of the device, `pwrite` takes all it is
given, and `fsync` does not fail after the loop. -/
def CopyPc.whole (be : ObjectDiff g) (w : World) (fromSnap : Option String) (toSnap : String)
    (r : Reply) : CopyPc → Bool
  | .diff =>
      match w.baselineObjects fromSnap, w.snapshot toSnap with
      | some before, some after => (be.imageDiff before after).all Diff.present
      | _, _ => true
  | .loop _ pos stop _ =>
      !r.ok || decide (stop ≤ pos) ||
        ((decide (g.size ≤ pos) || decide (0 < r.got)) &&
          decide (min r.got (min (min copyChunk (stop - pos)) (g.size - pos)) ≤ r.put))
  | .close (some _) => r.ok
  | _ => true

/-- Where every listed object exists, so does every object that differs. -/
theorem isSome_of_present {be : ObjectDiff g} {before after : Objects} {o : Nat}
    (h : (be.imageDiff before after).all Diff.present = true)
    (hdiff : g.differs before after o = true) : (after o).isSome = true := by
  obtain ⟨d, hmem, hoff⟩ := be.complete before after o hdiff
  obtain ⟨o', hoff', -, -, -, hpresent⟩ := be.sound before after d hmem
  obtain rfl : o = o' := Nat.eq_of_mul_eq_mul_right g.objectSize_pos (hoff.symm.trans hoff')
  exact hpresent.symm.trans (List.all_eq_true.mp h d hmem)

/-- Where every object that differs exists, a byte that changed is delivered. -/
theorem deliver_of_ne {be : ObjectDiff g} {before after : Objects} {old : Nat → UInt8} {pos : Nat}
    (h : (be.imageDiff before after).all Diff.present = true) (hpos : pos < g.size)
    (hne : g.read before pos ≠ g.read after pos) :
    deliver g before after old pos = g.read after pos := by
  have hdiff : g.differs before after (pos / g.objectSize) = true :=
    Geometry.differs_iff.mpr ⟨pos, hpos, rfl, hne⟩
  rw [deliver, ships, hdiff, isSome_of_present h hdiff]
  rfl

/-- A destination that held the earlier content then holds the later one. -/
theorem deliver_of_holds {be : ObjectDiff g} {before after : Objects} {old : Nat → UInt8}
    (h : (be.imageDiff before after).all Diff.present = true) (hold : Holds g old (g.read before)) :
    Holds g (deliver g before after old) (g.read after) := by
  intro pos hpos
  by_cases hne : g.read before pos = g.read after pos
  · by_cases hships : ships g before after pos = true
    · rw [deliver, if_pos hships]
    · rw [deliver, if_neg hships, hold pos hpos, hne]
  · exact deliver_of_ne h hpos hne

/-- An `image_diff` that loses nothing compares two states of which every listed object exists. -/
theorem copyStep_diff_whole {be : ObjectDiff g} {w w' : World} {fromSnap : Option String}
    {toSnap : String} {r : Reply} {next : CopyNext}
    (hwhole : CopyPc.diff.whole be w fromSnap toSnap r = true)
    (hstep : copyStep be w fromSnap toSnap .diff r = (w', next)) (hnext : next ≠ .raised) :
    ∃ before after, w.baselineObjects fromSnap = some before ∧ w.snapshot toSnap = some after ∧
      (be.imageDiff before after).all Diff.present = true := by
  simp only [copyStep] at hstep
  cases hbefore : w.baselineObjects fromSnap with
  | none =>
      simp only [hbefore] at hstep
      exact absurd (Prod.mk.inj hstep).2.symm hnext
  | some before =>
      cases hafter : w.snapshot toSnap with
      | none =>
          simp only [hbefore, hafter] at hstep
          exact absurd (Prod.mk.inj hstep).2.symm hnext
      | some after =>
          refine ⟨before, after, rfl, rfl, ?_⟩
          simpa only [CopyPc.whole, hbefore, hafter] using hwhole

/-- One step of the copy loop that loses nothing. -/
theorem copyStep_loop_whole {be : ObjectDiff g} {w w' : World} {fromSnap : Option String}
    {toSnap : String} {extents : List (Nat × Nat)} {pos stop total : Nat} {r : Reply}
    {before after : Objects} {old : Nat → UInt8} {pc' : CopyPc}
    (hwhole : (CopyPc.loop extents pos stop total).whole be w fromSnap toSnap r = true)
    (hto : ∀ img, w.snapshot toSnap = some img → img = after)
    (hinv : ∀ p < g.size, LoopInv g before after old w.dst extents pos stop p)
    (hstep : copyStep be w fromSnap toSnap (.loop extents pos stop total) r = (w', .goto pc'))
    (hpc' : pc'.failed = false) : CopyInv be before after old w'.dst pc' := by
  simp only [copyStep] at hstep
  by_cases hlt : pos < stop
  · rw [if_pos hlt] at hstep
    cases himg : w.snapshot toSnap with
    | none =>
        simp only [himg] at hstep
        cases hstep
        cases hpc'
    | some img =>
        obtain rfl := hto img himg
        simp only [himg] at hstep
        cases hok : r.ok with
        | false =>
            rw [if_neg (by simp [hok])] at hstep
            cases hstep
            cases hpc'
        | true =>
            rw [if_pos hok] at hstep
            simp only [CopyPc.whole, hok, Bool.not_true, Bool.false_or, Bool.or_eq_true,
              Bool.and_eq_true, decide_eq_true_eq] at hwhole
            obtain ⟨hgot, hput⟩ := hwhole.resolve_left (by omega)
            have hchunk : 0 < copyChunk := by decide
            generalize hlen : min r.got (min (min copyChunk (stop - pos)) (g.size - pos)) = len
              at hstep hput
            by_cases hzero : len = 0
            · -- the read returned nothing, so the extent reaches past the end of the image
              rw [if_pos hzero] at hstep
              cases hstep
              exact fun p hp => (hinv p hp).leave (by omega)
            · rw [if_neg hzero, Nat.min_eq_right hput] at hstep
              cases hstep
              exact fun p hp => (hinv p hp).chunk (by omega)
  · rw [if_neg hlt] at hstep
    cases extents with
    | nil =>
        cases hstep
        exact ⟨rfl, fun p hp => (hinv p hp).delivered (by omega)⟩
    | cons e rest =>
        cases hstep
        exact fun p hp => (hinv p hp).next (by omega)

/-- A step of `copy_delta` that loses nothing keeps the invariant of a full copy as long as the copy
has not failed, and when it returns every changed byte that still exists has been delivered. -/
theorem copyStep_whole {be : ObjectDiff g} {w w' : World} {fromSnap : Option String}
    {toSnap : String} {pc : CopyPc} {r : Reply} {before after : Objects} {old : Nat → UInt8}
    {next : CopyNext} (hwhole : pc.whole be w fromSnap toSnap r = true)
    (hfrom : pc = .diff → w.baselineObjects fromSnap = some before)
    (hto : ∀ img, w.snapshot toSnap = some img → img = after)
    (hinv : pc.failed = false → CopyInv be before after old w.dst pc)
    (hstep : copyStep be w fromSnap toSnap pc r = (w', next)) :
    (∀ pc', next = .goto pc' → pc'.failed = false → CopyInv be before after old w'.dst pc') ∧
      ∀ n, next = .returned n → Holds g w'.dst (deliver g before after old) := by
  cases pc with
  | diff =>
      have hold : Holds g w.dst old := hinv rfl
      simp only [copyStep, hfrom rfl] at hstep
      cases himg : w.snapshot toSnap with
      | none =>
          simp only [himg] at hstep
          cases hstep
          exact ⟨fun _ h => (by cases h), fun _ h => (by cases h)⟩
      | some img =>
          obtain rfl := hto img himg
          simp only [himg] at hstep
          split at hstep
          · cases hext : presentExtents (be.imageDiff before img) with
            | nil =>
                simp only [hext] at hstep
                cases hstep
                refine ⟨fun _ h => (by cases h), fun n _ pos hpos => ?_⟩
                have hloop : LoopInv g before img old w.dst
                    (presentExtents (be.imageDiff before img)) 0 0 pos :=
                  .enter be hpos (hold pos hpos)
                -- nothing to ship: the loop invariant of an empty list says that all has arrived
                rw [hext] at hloop
                exact hloop.delivered (by omega)
            | cons e rest =>
                simp only [hext] at hstep
                cases hstep
                refine ⟨fun pc' hpc' _ => ?_, fun _ h => (by cases h)⟩
                cases hpc'
                exact ⟨hold, hext.symm⟩
          · cases hstep
            exact ⟨fun _ h => (by cases h), fun _ h => (by cases h)⟩
  | map extents =>
      have hmap := hinv rfl
      simp only [copyStep, World.mapSnap] at hstep
      by_cases hok : (r.ok && w.hasSnap toSnap) = true
      · rw [if_pos hok] at hstep
        cases hstep
        refine ⟨fun pc' hpc' _ => ?_, fun _ h => (by cases h)⟩
        cases hpc'
        exact hmap
      · rw [if_neg hok] at hstep
        cases hstep
        exact ⟨fun _ h => (by cases h), fun _ h => (by cases h)⟩
  | openDevices extents =>
      obtain ⟨hold, rfl⟩ := hinv rfl
      simp only [copyStep, Prod.mk.injEq] at hstep
      obtain ⟨rfl, rfl⟩ := hstep
      refine ⟨fun pc' hpc' _ => ?_, fun n hn => ?_⟩
      · split at hpc' <;> cases hpc'
        exact fun p hp => LoopInv.enter be hp (hold p hp)
      · split at hn <;> cases hn
  | loop extents pos stop total =>
      refine ⟨fun pc' hpc' hfailed => ?_, fun n hn => ?_⟩
      · subst hpc'
        exact copyStep_loop_whole hwhole hto (hinv rfl) hstep hfailed
      · subst hn
        simp only [copyStep] at hstep
        repeat' split at hstep
        all_goals cases hstep
  | close result =>
      simp only [copyStep] at hstep
      cases hstep
      refine ⟨fun pc' hpc' hfailed => ?_, fun _ h => (by cases h)⟩
      cases hpc'
      cases result with
      | none => cases hfailed
      | some n =>
          -- a failing `fsync` would drop what was written; `whole` excludes it
          rw [World.fsync, if_pos (show r.ok = true from hwhole)]
          exact hinv rfl
  | unmap result =>
      simp only [copyStep] at hstep
      cases hstep
      cases result with
      | none => exact ⟨fun _ h => (by cases h), fun _ h => (by cases h)⟩
      | some n =>
          refine ⟨fun _ h => (by cases h), fun _ _ => ?_⟩
          obtain ⟨-, hdst⟩ := hinv rfl
          rw [World.unmapSnap]
          split
          · exact hdst
          · exact hdst

/-! ## History variables -/

/-- What a `finalize` compares, and the destination when its `copy_delta` returned. -/
structure Delta where
  before : Objects
  after : Objects
  arrived : Option (Nat → UInt8) := none

/-- Every byte on which the two contents differ is on the destination. -/
def Delta.Shipped (g : Geometry) (d : Delta) (dst : Nat → UInt8) : Prop :=
  ∀ pos < g.size, g.read d.before pos ≠ g.read d.after pos → dst pos = g.read d.after pos

/-- The system with history variables: the snapshots that the worker's passes have copied, each with
the destination at the end of its pass, and the delta of each detach's `finalize`. -/
structure Watched where
  sys : Sys
  landed : List (String × (Nat → UInt8))
  deltas : Nat → Option Delta

namespace Watched

/-- A pass that ends in this step has copied its snapshot. -/
def noteLanded (x : Watched) (s' : Sys) : List (String × (Nat → UInt8)) :=
  match x.sys.worker, s'.worker with
  | .copy _ _ snap _, .reap _ _ _ _ => (snap, s'.world.dst) :: x.landed
  | _, _ => x.landed

/-- The contents that the `image_diff` of a `finalize` compares. -/
def compared (x : Watched) (i : Nat) : Option Delta :=
  match x.sys.detach i with
  | .finCopy baseline final .diff =>
      match x.sys.world.baselineObjects baseline, x.sys.world.snapshot final with
      | some before, some after => some { before, after }
      | _, _ => none
  | _ => x.deltas i

/-- The delta of a detach after a step of it: compared in this step or before, and arrived if its
`copy_delta` returns in this step. -/
def noteDelta (x : Watched) (i : Nat) (s' : Sys) : Option Delta :=
  match s'.detach i with
  | .sweepInfo .finalized => (x.compared i).map fun d => { d with arrived := some s'.world.dst }
  | _ => x.compared i

/-- One step of the system, with its history. -/
def step (be : ObjectDiff g) (dconf : Dconf) (x : Watched) (a : Act) : Option Watched :=
  (Blkmirror.step be dconf x.sys a).map fun s' =>
    { sys := s'
      landed := x.noteLanded s'
      deltas := match a with
        | .detach i _ => Function.update x.deltas i (x.noteDelta i s')
        | _ => x.deltas }

/-- Before `mirror()`. -/
def init (src : Objects) (snaps : List (String × Objects)) : Watched where
  sys := Sys.init src snaps
  landed := []
  deltas := fun _ => none

/-- A step is one of the system. -/
theorem of_step {be : ObjectDiff g} {dconf : Dconf} {x x' : Watched} {a : Act}
    (h : x.step be dconf a = some x') :
    Blkmirror.step be dconf x.sys a = some x'.sys ∧ x'.landed = x.noteLanded x'.sys ∧
      (∀ i r, a = .detach i r → x'.deltas = Function.update x.deltas i (x.noteDelta i x'.sys)) ∧
      (notDetach a = true → x'.deltas = x.deltas) := by
  obtain ⟨s', hstep, rfl⟩ := Option.map_eq_some_iff.mp h
  refine ⟨hstep, rfl, ?_, ?_⟩
  · rintro i r rfl
    rfl
  · intro ha
    cases a with
    | detach i r => cases ha
    | _ => rfl

/-- A run with history is a run of the system. -/
theorem run_sys {be : ObjectDiff g} {dconf : Dconf} {x x' : Watched} {acts : List Act}
    (h : Run.run (step be dconf) x acts = some x') :
    Run.run (Blkmirror.step be dconf) x.sys acts = some x'.sys := by
  induction acts generalizing x with
  | nil =>
      cases h
      rfl
  | cons a rest ih =>
      obtain ⟨next, hstep, hrest⟩ := Run.run_cons_iff.mp h
      exact Run.run_cons_iff.mpr ⟨next.sys, (of_step hstep).1, ih hrest⟩

/-- Every run of the system is one with history. -/
theorem exists_run {be : ObjectDiff g} {dconf : Dconf} {x : Watched} {s' : Sys} {acts : List Act}
    (h : Run.run (Blkmirror.step be dconf) x.sys acts = some s') :
    ∃ x', Run.run (step be dconf) x acts = some x' ∧ x'.sys = s' := by
  induction acts generalizing x with
  | nil =>
      cases h
      exact ⟨x, rfl, rfl⟩
  | cons a rest ih =>
      obtain ⟨next, hstep, hrest⟩ := Run.run_cons_iff.mp h
      have hwatched : ∃ y, x.step be dconf a = some y ∧ y.sys = next := by
        rw [step, hstep]
        exact ⟨_, rfl, rfl⟩
      obtain ⟨y, hy, rfl⟩ := hwatched
      obtain ⟨x', hrun, hsys⟩ := ih hrest
      exact ⟨x', Run.run_cons_iff.mpr ⟨y, hy, hrun⟩, hsys⟩

/-- A condition along a run of the system holds along it with its history. -/
theorem along {be : ObjectDiff g} {dconf : Dconf} {guard : Sys → Act → Prop} {x : Watched}
    {acts : List Act} (h : Run.Along (Blkmirror.step be dconf) guard x.sys acts) :
    Run.Along (step be dconf) (fun y a => guard y.sys a) x acts := by
  induction acts generalizing x with
  | nil => trivial
  | cons a rest ih => exact ⟨h.1, fun next hnext => ih (h.2 next.sys (of_step hnext).1)⟩

end Watched

/-! ## The copies of `finalize` -/

/-- The worker has come to its end. -/
def WorkerPc.ended : WorkerPc → Bool
  | .exited _ _ | .killed _ => true
  | _ => false

/-- A detach that is inside its `copy_delta`. -/
def DetachPc.copying : DetachPc → Bool
  | .finCopy _ _ _ => true
  | _ => false

/-- A detach that is about to freeze the content which its `finalize` ships. -/
def DetachPc.freezes : DetachPc → Bool
  | .finSnap _ => true
  | _ => false

/-- How a detach that has come to its end, or is removing the state, ends. -/
def DetachPc.outcome : DetachPc → Option Outcome
  | .sweepInfo e | .sweep e _ | .disconnect e | .rmJob e | .rmStatus e | .rmStop e | .rmDir e
  | .done e => some e
  | _ => none

/-- A `finalize` freezes its content only when the worker has ended and no other `finalize` is
inside its `copy_delta`. -/
def Apart (s : Sys) : Act → Prop
  | .detach i _ => (s.detach i).freezes = true →
      s.worker.ended = true ∧ ∀ j, j ≠ i → (s.detach j).copying = false
  | _ => True

/-- The copy of a `finalize` loses nothing in this step. -/
def finalizesWhole (be : ObjectDiff g) (s : Sys) : Act → Bool
  | .detach i r =>
      match s.detach i with
      | .finCopy baseline final pc => pc.whole be s.world baseline final r
      | _ => true
  | _ => true

/-- What holds of the deltas: the `finalize` that is copying is the only process that writes to the
destination, what it has compared is on its way, and what has arrived was shipped. -/
structure DeltaInv (be : ObjectDiff g) (x : Watched) : Prop where
  alone : ∀ i, (x.sys.detach i).copying = true →
    x.sys.worker.ended = true ∧ ∀ j, j ≠ i → (x.sys.detach j).copying = false
  underway : ∀ i b final pc, x.sys.detach i = .finCopy b final pc → pc ≠ .diff →
    ∃ d old, x.deltas i = some d ∧ (be.imageDiff d.before d.after).all Diff.present = true ∧
      (∀ img, x.sys.world.snapshot final = some img → img = d.after) ∧
      (pc.failed = false → CopyInv be d.before d.after old x.sys.world.dst pc)
  shipped : ∀ i d dst, x.deltas i = some d → d.arrived = some dst → d.Shipped g dst
  finalized : ∀ i, (x.sys.detach i).outcome = some .finalized →
    ∃ d dst, x.deltas i = some d ∧ d.arrived = some dst

/-- A worker that has ended does not run. -/
theorem WorkerPc.not_running_of_ended {pc : WorkerPc} (h : pc.ended = true) :
    pc.running = false := by
  cases pc <;> simp_all [WorkerPc.ended, WorkerPc.running]

/-- A snapshot that is there after a `snap_remove` was there before. -/
theorem World.snapshot_of_snapRemove {w : World} {name snap : String} {r : Reply} {img : Objects}
    (h : ((w.snapRemove name r).getD w).snapshot snap = some img) : w.snapshot snap = some img := by
  by_cases hne : snap = name
  · subst hne
    unfold snapRemove at h
    split at h
    · simp only [Option.getD_some, snapshot] at h
      obtain ⟨before, after, hsplit, -⟩ := List.lookup_eq_some_iff.mp h
      have hmem : (snap, img) ∈ w.snaps.filter fun entry => entry.1 != snap := by
        rw [hsplit]
        exact List.mem_append_right _ List.mem_cons_self
      simp at hmem
    · exact h
  · rwa [snapRemove_snapshot hne] at h

/-- What a step of a detach does to the destination and to the snapshots: it freezes the content of
its `finalize`, it is a step of its copy, or it leaves the destination and adds no snapshot. -/
theorem DetachStep.copy_cases {be : ObjectDiff g} {s s' : Sys} {i : Nat} {r : Reply}
    (h : DetachStep be r s i s') :
    (∃ b w, s.detach i = .finSnap b ∧ s.world.snapCreate (finalSnap r.now) r = some w ∧
      s'.world = w ∧ s'.worker = s.worker ∧ s'.detach i = .finCopy b (finalSnap r.now) .diff) ∨
    (∃ b final pc next, s.detach i = .finCopy b final pc ∧
      copyStep be s.world b final pc r = (s'.world, next) ∧ s'.worker = s.worker ∧
      (s'.world.snaps = s.world.snaps) ∧
      s'.detach i = match next with
        | .goto pc' => .finCopy b final pc'
        | .returned _ => .sweepInfo .finalized
        | .raised => .sweepInfo .raised) ∨
    ((s.detach i).copying = false ∧ (s'.detach i).copying = false ∧
      s'.detach i ≠ .sweepInfo .finalized ∧
      ((s'.detach i).outcome = some .finalized → (s.detach i).outcome = some .finalized) ∧
      s'.world.dst = s.world.dst ∧
      (∀ name img, s'.world.snapshot name = some img → s.world.snapshot name = some img) ∧
      (s.worker.ended = true → s'.worker.ended = true)) := by
  cases h with
  | finSnap b w hd hcreate => exact .inl ⟨b, w, hd, hcreate, rfl, rfl, by simp⟩
  | finCopy b final pc pc' maps dst hd hcopy =>
      exact .inr (.inl ⟨b, final, pc, _, hd, hcopy, rfl, rfl, by simp⟩)
  | finCopied b final pc n maps dst hd hcopy =>
      exact .inr (.inl ⟨b, final, pc, _, hd, hcopy, rfl, rfl, by simp⟩)
  | finCopyFailed b final pc maps dst hd hcopy =>
      exact .inr (.inl ⟨b, final, pc, _, hd, hcopy, rfl, rfl, by simp⟩)
  | finKill b pid hd halive | canKill pid hd halive =>
      refine .inr (.inr ⟨by simp [hd, DetachPc.copying], by simp [DetachPc.copying], by simp,
        by simp [DetachPc.outcome], by simp, by simp, fun hended => ?_⟩)
      simp [Sys.killWorker, WorkerPc.not_running_of_ended hended, hended]
  | sweepRemove e name rest hd =>
      obtain ⟨snaps, hframe⟩ := World.snapRemove_frame s.world name r
      refine .inr (.inr ⟨by simp [hd, DetachPc.copying], by simp [DetachPc.copying], by simp,
        by simp [hd, DetachPc.outcome], ?_, fun _ _ => World.snapshot_of_snapRemove, id⟩)
      simp [hframe]
  | raised pc hd hpc =>
      refine .inr (.inr ⟨?_, by simp [DetachPc.copying], by simp, by simp [DetachPc.outcome], rfl,
        fun _ _ => id, id⟩)
      rw [hd]
      rcases hpc with ⟨-, ⟨b, seen, rfl⟩ | ⟨b, rfl⟩ | rfl⟩ | ⟨-, b, rfl⟩ <;> rfl
  | _ =>
      refine .inr (.inr ⟨?_, ?_, ?_, ?_, rfl, fun _ _ => id, id⟩) <;>
        simp [*, DetachPc.copying, DetachPc.outcome]

/-- Once the worker has ended, only the detaches change the destination and the snapshots: it is not
spawned again. -/
theorem quiet_of_ended {be : ObjectDiff g} {dconf : Dconf} {s s' : Sys} {a : Act} (hord : Ordered s)
    (hended : s.worker.ended = true) (ha : notDetach a = true)
    (hstep : step be dconf s a = some s') :
    s'.worker = s.worker ∧ s'.world.dst = s.world.dst ∧ s'.world.snaps = s.world.snaps := by
  have hstopped := WorkerPc.not_running_of_ended hended
  cases a with
  | detach i r => cases ha
  | guestWrite off data | guestDiscard off len =>
      simp only [step, Option.ite_none_right_eq_some, Option.some.injEq] at hstep
      rw [← hstep.2]
      exact ⟨rfl, rfl, rfl⟩
  | mirror r =>
      cases mirrorStep_cases hstep with
      | spawn hm =>
          have hspawned := hord.worker (fun habsent => by simp [habsent, WorkerPc.ended] at hended)
          rw [hm] at hspawned
          cases hspawned
      | _ => exact ⟨rfl, rfl, rfl⟩
  | worker r => exact absurd ((workerStep_cases hstep).frame_world.1.symm.trans hstopped) (by simp)
  | crash =>
      simp only [step, Option.ite_none_right_eq_some] at hstep
      exact absurd (hstep.1.symm.trans hstopped) (by simp)

/-- A step that is none of a detach leaves a `finalize` that is copying alone. -/
theorem DeltaInv.quiet {be : ObjectDiff g} {dconf : Dconf} {x x' : Watched} {a : Act}
    (h : DeltaInv be x) (hord : Ordered x.sys) (ha : notDetach a = true)
    (hstep : x.step be dconf a = some x') : DeltaInv be x' := by
  obtain ⟨hsys, -, -, hdeltas⟩ := Watched.of_step hstep
  have hdetach := step_detach ha hsys
  have hsame : ∀ i, (x.sys.detach i).copying = true → x'.sys.worker = x.sys.worker ∧
      x'.sys.world.dst = x.sys.world.dst ∧ x'.sys.world.snaps = x.sys.world.snaps :=
    fun i hi => quiet_of_ended hord (h.alone i hi).1 ha hsys
  refine ⟨fun i hi => ?_, fun i b final pc hd hpc => ?_, ?_, ?_⟩
  · rw [hdetach] at hi
    obtain ⟨hended, hothers⟩ := h.alone i hi
    rw [(hsame i hi).1, hdetach]
    exact ⟨hended, hothers⟩
  · rw [hdetach] at hd
    obtain ⟨d, old, hd', hpresent, hto, hcopy⟩ := h.underway i b final pc hd hpc
    obtain ⟨-, hdst, hsnaps⟩ := hsame i (by simp [hd, DetachPc.copying])
    refine ⟨d, old, ?_, hpresent, fun img himg => hto img ?_, fun hfailed => ?_⟩
    · rw [hdeltas ha]
      exact hd'
    · rwa [World.snapshot, ← hsnaps]
    · rw [hdst]
      exact hcopy hfailed
  · rw [hdeltas ha]
    exact h.shipped
  · rw [hdetach, hdeltas ha]
    exact h.finalized

/-- The copy of a `finalize`, before and after one step of it. -/
theorem DeltaInv.copied {be : ObjectDiff g} {x x' : Watched} {i : Nat} {r : Reply}
    (h : DeltaInv be x) {b : Option String} {final : String} {pc : CopyPc} {next : CopyNext}
    (hd : x.sys.detach i = .finCopy b final pc)
    (hwhole : finalizesWhole be x.sys (.detach i r) = true)
    (hcopy : copyStep be x.sys.world b final pc r = (x'.sys.world, next))
    (hnext : next ≠ .raised) :
    ∃ d old, x.compared i = some d ∧ (be.imageDiff d.before d.after).all Diff.present = true ∧
      (∀ img, x.sys.world.snapshot final = some img → img = d.after) ∧
      (∀ pc', next = .goto pc' → pc'.failed = false →
        CopyInv be d.before d.after old x'.sys.world.dst pc') ∧
      ∀ n, next = .returned n → d.Shipped g x'.sys.world.dst := by
  have hstepWhole : pc.whole be x.sys.world b final r = true := by
    simpa [finalizesWhole, hd] using hwhole
  have hcompared : ∃ d old, x.compared i = some d ∧
      (be.imageDiff d.before d.after).all Diff.present = true ∧
      (pc = .diff → x.sys.world.baselineObjects b = some d.before) ∧
      (∀ img, x.sys.world.snapshot final = some img → img = d.after) ∧
      (pc.failed = false → CopyInv be d.before d.after old x.sys.world.dst pc) := by
    by_cases hpc : pc = .diff
    · subst hpc
      obtain ⟨before, after, hbefore, hafter, hpresent⟩ :=
        copyStep_diff_whole hstepWhole hcopy hnext
      refine ⟨{ before, after }, x.sys.world.dst, ?_, hpresent, fun _ => hbefore, ?_, ?_⟩
      · simp [Watched.compared, hd, hbefore, hafter]
      · intro img himg
        exact Option.some.inj (himg.symm.trans hafter)
      · exact fun _ _ _ => rfl
    · obtain ⟨d, old, hdelta, hpresent, hto, hinv⟩ := h.underway i b final pc hd hpc
      refine ⟨d, old, ?_, hpresent, fun hdiff => absurd hdiff hpc, hto, hinv⟩
      rw [Watched.compared, hd]
      cases pc with
      | diff => exact absurd rfl hpc
      | _ => exact hdelta
  obtain ⟨d, old, hd', hpresent, hfrom, hto, hinv⟩ := hcompared
  obtain ⟨hgoto, hreturned⟩ := copyStep_whole hstepWhole hfrom hto hinv hcopy
  refine ⟨d, old, hd', hpresent, hto, hgoto, fun n hn pos hpos hne => ?_⟩
  rw [hreturned n hn pos hpos]
  exact deliver_of_ne hpresent hpos hne

/-- Detach `i` moves on, beside a change that leaves the destination and the snapshots to another
`finalize` that is copying. -/
theorem DeltaInv.move {be : ObjectDiff g} {x x' : Watched} {i : Nat} (h : DeltaInv be x)
    (hothers : ∀ j, j ≠ i → x'.sys.detach j = x.sys.detach j ∧ x'.deltas j = x.deltas j)
    (hkept : ∀ j, j ≠ i → (x.sys.detach j).copying = true → x'.sys.worker.ended = true ∧
      (x'.sys.detach i).copying = false ∧ x'.sys.world.dst = x.sys.world.dst ∧
      ∀ name img, x'.sys.world.snapshot name = some img → x.sys.world.snapshot name = some img)
    (halone : (x'.sys.detach i).copying = true → x'.sys.worker.ended = true ∧
      ∀ j, j ≠ i → (x.sys.detach j).copying = false)
    (hunderway : ∀ b final pc, x'.sys.detach i = .finCopy b final pc → pc ≠ .diff →
      ∃ d old, x'.deltas i = some d ∧ (be.imageDiff d.before d.after).all Diff.present = true ∧
        (∀ img, x'.sys.world.snapshot final = some img → img = d.after) ∧
        (pc.failed = false → CopyInv be d.before d.after old x'.sys.world.dst pc))
    (hshipped : ∀ d dst, x'.deltas i = some d → d.arrived = some dst → d.Shipped g dst)
    (hfinalized : (x'.sys.detach i).outcome = some .finalized →
      ∃ d dst, x'.deltas i = some d ∧ d.arrived = some dst) : DeltaInv be x' := by
  refine ⟨fun j hj => ?_, fun j b final pc hd hpc => ?_, fun j d dst hd => ?_, fun j hj => ?_⟩
  -- who copies is alone: either detach `i` has just started, or another goes on and `i` does not
  · by_cases hji : j = i
    · subst hji
      obtain ⟨hended, hnone⟩ := halone hj
      exact ⟨hended, fun k hk => by rw [(hothers k hk).1, hnone k hk]⟩
    · rw [(hothers j hji).1] at hj
      obtain ⟨hended, hi, -, -⟩ := hkept j hji hj
      refine ⟨hended, fun k hk => ?_⟩
      by_cases hki : k = i
      · rw [hki, hi]
      · rw [(hothers k hki).1, (h.alone j hj).2 k hk]
  · by_cases hji : j = i
    · subst hji
      exact hunderway b final pc hd hpc
    · rw [(hothers j hji).1] at hd
      obtain ⟨-, -, hdst, hsnap⟩ := hkept j hji (by simp [hd, DetachPc.copying])
      obtain ⟨d, old, hdelta, hpresent, hto, hcopy⟩ := h.underway j b final pc hd hpc
      rw [(hothers j hji).2, hdst]
      exact ⟨d, old, hdelta, hpresent, fun img himg => hto img (hsnap _ _ himg), hcopy⟩
  · by_cases hji : j = i
    · subst hji
      exact hshipped d dst hd
    · rw [(hothers j hji).2] at hd
      exact h.shipped j d dst hd
  · by_cases hji : j = i
    · subst hji
      exact hfinalized hj
    · rw [(hothers j hji).1] at hj
      rw [(hothers j hji).2]
      exact h.finalized j hj

/-- What has been compared has not arrived yet, or it was shipped. -/
theorem DeltaInv.compared_shipped {be : ObjectDiff g} {x : Watched} {i : Nat} (h : DeltaInv be x)
    {d : Delta} {dst : Nat → UInt8} (hd : x.compared i = some d) (harrived : d.arrived = some dst) :
    d.Shipped g dst := by
  rw [Watched.compared] at hd
  split at hd
  · split at hd
    · cases hd
      cases harrived
    · cases hd
  · exact h.shipped i d dst hd harrived

/-- A step of a detach: a `finalize` that copies is alone. -/
theorem DeltaInv.detachStep {be : ObjectDiff g} {dconf : Dconf} {x x' : Watched} {i : Nat}
    {r : Reply} (h : DeltaInv be x) (hapart : Apart x.sys (.detach i r))
    (hwhole : finalizesWhole be x.sys (.detach i r) = true)
    (hstep : x.step be dconf (.detach i r) = some x') : DeltaInv be x' := by
  obtain ⟨hsys, -, hdeltas, -⟩ := Watched.of_step hstep
  have hcases := detachStep_cases hsys
  have hdeltas := hdeltas i r rfl
  have hothers : ∀ j, j ≠ i → x'.sys.detach j = x.sys.detach j ∧ x'.deltas j = x.deltas j :=
    fun j hj => ⟨hcases.detach_of_ne hj, by rw [hdeltas, Function.update_of_ne hj]⟩
  have hself : x'.deltas i = x.noteDelta i x'.sys := by rw [hdeltas, Function.update_self]
  rcases hcases.copy_cases with ⟨b, w, hd, hcreate, hworld, hworker, hd'⟩ |
    ⟨b, final, pc, next, hd, hcopy, hworker, hsnaps, hd'⟩ |
    ⟨hbefore, hafter, hnot, houtcome, hdst, hsnap, hended⟩
  · -- the content of this `finalize` is frozen, and no other is copying
    obtain ⟨hended, halone⟩ := hapart (by rw [hd]; rfl)
    have hkept : x'.deltas i = x.deltas i := by
      rw [hself, Watched.noteDelta, hd', Watched.compared, hd]
    refine h.move hothers (fun j hj hcopying => ?_) (fun _ => ⟨hworker ▸ hended, halone⟩)
      (fun b' final pc hpc hne => ?_) ?_ ?_
    · exact absurd (hcopying.symm.trans (halone j hj)) (by simp)
    · rw [hd'] at hpc
      cases hpc
      exact absurd rfl hne
    · rw [hkept]
      exact h.shipped i
    · rw [hd']
      simp [DetachPc.outcome]
  · -- this `finalize` is copying, so that no other is
    obtain ⟨hended, halone⟩ := h.alone i (by simp [hd, DetachPc.copying])
    refine h.move hothers (fun j hj hcopying => ?_) (fun _ => ⟨hworker ▸ hended, halone⟩) ?_ ?_ ?_
    · exact absurd (hcopying.symm.trans (halone j hj)) (by simp)
    · intro b' final' pc' hpc' hne
      cases next with
      | goto pc'' =>
          rw [hd'] at hpc'
          cases hpc'
          obtain ⟨d, old, hcompared, hpresent, hto, hcopying, -⟩ :=
            h.copied hd hwhole hcopy (by simp)
          refine ⟨d, old, ?_, hpresent, fun img himg => hto img ?_, hcopying _ rfl⟩
          · rw [hself, Watched.noteDelta, hd']
            exact hcompared
          · rwa [World.snapshot, ← hsnaps]
      | returned n | raised =>
          rw [hd'] at hpc'
          cases hpc'
    · intro d dst hdelta harrived
      rw [hself, Watched.noteDelta, hd'] at hdelta
      cases next with
      | goto pc' | raised => exact h.compared_shipped hdelta harrived
      | returned n =>
          obtain ⟨d', old, hcompared, -, -, -, hreturned⟩ :=
            h.copied hd hwhole hcopy (by simp)
          simp only [hcompared, Option.map_some, Option.some.injEq] at hdelta
          subst hdelta
          cases harrived
          exact hreturned n rfl
    · intro hfinalized
      cases next with
      | goto pc' | raised =>
          rw [hd'] at hfinalized
          cases hfinalized
      | returned n =>
          obtain ⟨d', old, hcompared, -, -, -, -⟩ := h.copied hd hwhole hcopy (by simp)
          refine ⟨{ d' with arrived := some x'.sys.world.dst }, _, ?_, rfl⟩
          rw [hself, Watched.noteDelta, hd']
          simp only [hcompared, Option.map_some]
  -- any other step of the detach: what it has compared stays as it is
  · have hkept : x'.deltas i = x.deltas i := by
      have hcompared : x.compared i = x.deltas i := by
        rw [Watched.compared]
        split
        · rename_i hcopying
          simp [hcopying, DetachPc.copying] at hbefore
        · rfl
      rw [hself, Watched.noteDelta]
      split
      · rename_i hinfo
        exact absurd hinfo hnot
      · exact hcompared
    refine h.move hothers (fun j hj hcopying => ?_) (fun hcopying => ?_)
      (fun b final pc hpc => ?_) ?_ ?_
    · exact ⟨hended (h.alone j hcopying).1, hafter, hdst, hsnap⟩
    · exact absurd (hcopying.symm.trans hafter) (by simp)
    · simp [hpc, DetachPc.copying] at hafter
    · rw [hkept]
      exact h.shipped i
    · rw [hkept]
      exact fun hfinalized => h.finalized i (houtcome hfinalized)

/-- Every step keeps what holds of the deltas. -/
theorem DeltaInv.step {be : ObjectDiff g} {dconf : Dconf} {x x' : Watched} {a : Act}
    (h : DeltaInv be x) (hord : Ordered x.sys) (hapart : Apart x.sys a)
    (hwhole : finalizesWhole be x.sys a = true) (hstep : x.step be dconf a = some x') :
    DeltaInv be x' := by
  cases a with
  | detach i r => exact h.detachStep hapart hwhole hstep
  | _ => exact h.quiet hord rfl hstep

theorem DeltaInv.init (be : ObjectDiff g) (src : Objects) (snaps : List (String × Objects)) :
    DeltaInv be (Watched.init src snaps) where
  alone := by simp [Watched.init, Sys.init, DetachPc.copying]
  underway := by simp [Watched.init, Sys.init]
  shipped := by simp [Watched.init]
  finalized := by simp [Watched.init, Sys.init, DetachPc.outcome]

/-! ## A single detach -/

/-- The step is none of a detach other than the first. -/
def soleDetach : Act → Bool
  | .detach i _ => i == 0
  | _ => true

/-- Where only the first detach takes steps, the others have not started. -/
theorem others_idle {be : ObjectDiff g} {dconf : Dconf} {s s' : Sys} {a : Act}
    (h : ∀ j, j ≠ 0 → s.detach j = .idle) (hsole : soleDetach a = true)
    (hstep : step be dconf s a = some s') : ∀ j, j ≠ 0 → s'.detach j = .idle := by
  cases a with
  | detach i r =>
      obtain rfl : i = 0 := by simpa [soleDetach] using hsole
      intro j hj
      rw [(detachStep_cases hstep).detach_of_ne hj]
      exact h j hj
  | _ =>
      rw [step_detach rfl hstep]
      exact h

/-- What a run of one detach has to meet for no `finalize` to overlap another copy. -/
def Alone (s : Sys) (a : Act) : Prop :=
  soleDetach a = true ∧ ((s.detach 0).freezes = true → s.worker.ended = true)

instance (s : Sys) (a : Act) : Decidable (Alone s a) := inferInstanceAs (Decidable (_ ∧ _))

/-- A detach that is alone overlaps no other. -/
theorem Alone.apart {s : Sys} {a : Act} (h : Alone s a) (hidle : ∀ j, j ≠ 0 → s.detach j = .idle) :
    Apart s a := by
  cases a with
  | detach i r =>
      obtain rfl : i = 0 := by simpa [soleDetach] using h.1
      exact fun hfreezes => ⟨h.2 hfreezes, fun j hj => by rw [hidle j hj]; rfl⟩
  | _ => trivial

/-- A pass over the first object, a write of the guest and a `finalize` up to its `image_diff`. -/
def passThenDiff : List Act :=
  List.replicate 10 (Act.mirror {}) ++ List.replicate 15 (Act.worker {}) ++
    [Act.guestWrite 5 [1, 2, 3]] ++ List.replicate 9 (Act.detach 0 {}) ++ [Act.worker {}] ++
      List.replicate 2 (Act.detach 0 {})

end XcpCephRbd.Blkmirror
