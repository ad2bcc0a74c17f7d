import XcpCephRbd.Blkmirror.Inversion

/-!
# Content of the destination after the pre-copy

A pre-copy that no failure interrupts freezes the image a number of times, the last time in
`finalize`, and ships each time the objects that changed since the time before and still exist.
`shipped` is the destination this leaves, as a function of the frozen contents alone, and
`precopy_refines` says that the processes compute it. An object that was removed between two
snapshots is not shipped, so the destination keeps what it had. `shipped_eq_iff` therefore
characterises when the destination equals the image: the last change of no object may be its
disappearance (`Stale`).
-/

namespace XcpCephRbd.Blkmirror

variable {g : Geometry}

/-! ## The destination as a function of the frozen contents -/

/-- The content the next snapshot is compared with: the newest frozen one, or the empty image. -/
def lastShot : List Objects → Objects
  | [] => .empty
  | shot :: _ => shot

@[simp] theorem lastShot_cons (shot : Objects) (older : List Objects) :
    lastShot (shot :: older) = shot := rfl

/-- The destination after the passes that froze `shots`, newest first. -/
def shipped (g : Geometry) : List Objects → Nat → UInt8
  | [] => fun _ => 0
  | shot :: older => deliver g (lastShot older) shot (shipped g older)

/-- The last change of object `o` along the frozen contents, newest first, is that it does not
exist any more. -/
def Stale (g : Geometry) (o : Nat) : List Objects → Prop
  | [] => False
  | shot :: older =>
      if g.differs (lastShot older) shot o then shot o = none else Stale g o older

/-- A stale object reads as zeros in the newest frozen content. -/
theorem Stale.read_eq_zero {shots : List Objects} {pos : Nat} (hpos : pos < g.size)
    (h : Stale g (pos / g.objectSize) shots) : g.read (lastShot shots) pos = 0 := by
  induction shots with
  | nil => exact h.elim
  | cons shot older ih =>
      by_cases hdiff : g.differs (lastShot older) shot (pos / g.objectSize) = true
      · rw [Stale, if_pos hdiff] at h
        exact Geometry.read_eq_zero h
      · rw [Stale, if_neg hdiff] at h
        have heq := Geometry.read_eq_of_not_differs hpos (by simpa using hdiff)
        exact heq.symm.trans (ih h)

/-- Where no object is stale the destination holds the newest frozen content. -/
theorem shipped_eq_of_not_stale {shots : List Objects} {pos : Nat} (hpos : pos < g.size)
    (h : ¬ Stale g (pos / g.objectSize) shots) :
    shipped g shots pos = g.read (lastShot shots) pos := by
  induction shots with
  | nil => simp [shipped, lastShot, Geometry.read, Objects.empty]
  | cons shot older ih =>
      by_cases hdiff : g.differs (lastShot older) shot (pos / g.objectSize) = true
      · rw [Stale, if_pos hdiff] at h
        simp [shipped, deliver, ships, hdiff, Option.isSome_iff_ne_none, h]
      · rw [Stale, if_neg hdiff] at h
        have heq := Geometry.read_eq_of_not_differs hpos (by simpa using hdiff)
        simp [shipped, deliver, ships, hdiff, ih h, heq]

/-- A stale object has a byte on which the destination differs from the newest content: one on
which its disappearance was a change. -/
theorem Stale.exists_ne {shots : List Objects} {o : Nat} (h : Stale g o shots) :
    ∃ pos < g.size, pos / g.objectSize = o ∧
      shipped g shots pos ≠ g.read (lastShot shots) pos := by
  induction shots with
  | nil => exact h.elim
  | cons shot older ih =>
      by_cases hdiff : g.differs (lastShot older) shot o = true
      · rw [Stale, if_pos hdiff] at h
        obtain ⟨pos, hpos, rfl, hne⟩ := Geometry.differs_iff.mp hdiff
        have hzero : g.read shot pos = 0 := Geometry.read_eq_zero h
        have hnot : ¬ Stale g (pos / g.objectSize) older := by
          intro hstale
          exact hne ((hstale.read_eq_zero hpos).trans hzero.symm)
        refine ⟨pos, hpos, rfl, ?_⟩
        simpa [shipped, deliver, ships, h, shipped_eq_of_not_stale hpos hnot] using hne
      · rw [Stale, if_neg hdiff] at h
        obtain ⟨pos, hpos, rfl, hne⟩ := ih h
        refine ⟨pos, hpos, rfl, ?_⟩
        have heq := Geometry.read_eq_of_not_differs hpos (by simpa using hdiff)
        simpa [shipped, deliver, ships, hdiff, heq] using hne

/-- The destination holds the newest frozen content exactly when no object is stale. -/
theorem shipped_eq_iff (shots : List Objects) :
    (∀ pos < g.size, shipped g shots pos = g.read (lastShot shots) pos) ↔
      ∀ o, ¬ Stale g o shots := by
  constructor
  · intro h o hstale
    obtain ⟨pos, hpos, -, hne⟩ := hstale.exists_ne
    exact hne (h pos hpos)
  · exact fun h pos hpos => shipped_eq_of_not_stale hpos (h _)

/-! ## The processes compute it -/

/-- The worker is between two passes. -/
def WorkerPc.isTest : WorkerPc → Bool
  | .test _ _ => true
  | _ => false

/-- The runs of a pre-copy without failure: every call and every transfer succeeds in full, the
passes follow `mirror()`, a single `finalize` follows the passes, and the guest does not write or
discard once it has started. -/
def Undisturbed (s : Sys) : Act → Prop
  | .guestWrite _ _ | .guestDiscard _ _ => s.detach 0 = .idle
  | .mirror r => r.Full
  | .worker r => r.Full ∧ s.mirror = .returned ∧ (s.detach 0 = .idle ∨ s.world.stop = true)
  | .crash => False
  | .detach i r => r.Full ∧ i = 0 ∧
      (s.detach 0 = .idle → s.mirror = .returned ∧ s.worker.isTest = true)

instance (s : Sys) : (a : Act) → Decidable (Undisturbed s a)
  | .guestWrite _ _ | .guestDiscard _ _ => inferInstanceAs (Decidable (s.detach 0 = .idle))
  | .mirror r => inferInstanceAs (Decidable r.Full)
  | .worker r => inferInstanceAs
      (Decidable (r.Full ∧ s.mirror = .returned ∧ (s.detach 0 = .idle ∨ s.world.stop = true)))
  | .crash => inferInstanceAs (Decidable False)
  | .detach i r => inferInstanceAs (Decidable (r.Full ∧ i = 0 ∧
      (s.detach 0 = .idle → s.mirror = .returned ∧ s.worker.isTest = true)))

/-- Between two passes: the destination holds what was shipped so far, and the content of the
baseline is the newest frozen one. -/
structure Settled (g : Geometry) (w : World) (shots : List Objects) (baseline : Option String) :
    Prop where
  dst : Holds g w.dst (shipped g shots)
  baseline : w.baselineObjects baseline = some (lastShot shots)

/-- During a copy from `baseline` to `snap`, which froze the newest content. -/
structure Copying (be : ObjectDiff g) (w : World) (shots : List Objects)
    (baseline : Option String) (snap : String) (pc : CopyPc) : Prop where
  shots : ∃ shot older, shots = shot :: older ∧ w.baselineObjects baseline = some (lastShot older) ∧
    w.snapshot snap = some shot ∧
    CopyInv be (lastShot older) shot (shipped g older) w.dst pc
  ne : baseline ≠ some snap

/-- What holds of the worker while no detach has started. -/
def WorkerInv (be : ObjectDiff g) (w : World) (shots : List Objects) : WorkerPc → Prop
  | .absent | .failRead _ | .failReplace _ _ | .exited _ _ | .killed _ => True
  | .readJob => Settled g w shots none ∧ w.readStatus.baseline = none
  | .test _ l | .create _ l =>
      Settled g w shots l.baseline ∧ w.readStatus.baseline = l.baseline
  | .copy _ l snap pc =>
      Copying be w shots l.baseline snap pc ∧ w.readStatus.baseline = l.baseline
  | .reap _ l snap _ =>
      Settled g w shots (some snap) ∧ l.baseline ≠ some snap
  | .statusRead _ l _ | .statusReplace _ l _ _ => Settled g w shots l.baseline

/-- What holds of the one detach once it has started. -/
def DetachInv (be : ObjectDiff g) (w : World) (shots : List Objects) : DetachPc → Prop
  | .idle => False
  | .checkActive | .checkStatus | .finRead => Settled g w shots w.readStatus.baseline
  | .finMerge b | .finReplace b _ | .finJob b | .finStop b | .finPid b | .finWait b _
  | .finSnap b => Settled g w shots b
  | .finCopy b final pc => Copying be w shots b final pc ∧ lastShot shots = w.src
  | .canActive | .canStop | .canPid | .canWait _ | .canJob => True
  | .sweepInfo e | .sweep e _ | .disconnect e | .rmJob e | .rmStatus e | .rmStop e | .rmDir e
  | .done e => e = .finalized → Holds g w.dst (shipped g shots) ∧ lastShot shots = w.src

/-- The worker is between two passes or gone. -/
def WorkerPc.Parked : WorkerPc → Prop
  | .test _ _ | .exited _ _ | .killed _ => True
  | _ => False

/-- The invariant of a pre-copy without failure. -/
def PreCopyInv (be : ObjectDiff g) (s : Sys) : Prop :=
  match s.mirror with
  | .raised => s.detach 0 = .idle
  | .returned =>
      (s.detach 0 = .idle ∧ WorkerInv be s.world s.shots s.worker) ∨
        (s.worker.Parked ∧ DetachInv be s.world s.shots (s.detach 0))
  | pc =>
      s.detach 0 = .idle ∧ Settled g s.world s.shots none ∧ (match pc with
        | .unlinkStop | .spawn => s.world.readStatus.baseline = none
        | .pidRead => s.world.readStatus.baseline = none ∧ s.worker = .readJob
        | .pidReplace seen => seen.baseline = none ∧ s.worker = .readJob
        | _ => True)

/-- Settling depends only on the destination and on the snapshots. -/
theorem Settled.congr {w w' : World} {shots : List Objects} {b : Option String}
    (h : Settled g w shots b) (hdst : w'.dst = w.dst) (hsnaps : w'.snaps = w.snaps) :
    Settled g w' shots b where
  dst := hdst ▸ h.dst
  baseline := by
    have hb := h.baseline
    cases b <;> simpa [World.baselineObjects, World.snapshot, hsnaps] using hb

/-- Removing another snapshot than the baseline. -/
theorem Settled.snapRemove {w : World} {shots : List Objects} {snap old : String} {r : Reply}
    (h : Settled g w shots (some snap)) (hne : snap ≠ old) :
    Settled g ((w.snapRemove old r).getD w) shots (some snap) where
  dst := by
    by_cases hrm : (r.ok && w.hasSnap old && !w.maps.contains old) = true
    · rw [World.snapRemove, if_pos hrm]
      exact h.dst
    · rw [World.snapRemove, if_neg hrm]
      exact h.dst
  baseline := (World.snapRemove_snapshot hne).trans h.baseline

/-- A step of a copy goes on copying or ends with the destination settled on the new snapshot. -/
theorem Copying.step {be : ObjectDiff g} {w w' : World} {shots : List Objects}
    {b : Option String} {snap : String} {pc : CopyPc} {r : Reply} {next : CopyNext}
    (h : Copying be w shots b snap pc) (hr : r.Full)
    (hstep : copyStep be w b snap pc r = (w', next)) :
    (∃ pc', next = .goto pc' ∧ Copying be w' shots b snap pc') ∨
      (∃ n, next = .returned n ∧ Settled g w' shots (some snap)) := by
  obtain ⟨⟨shot, older, rfl, hfrom, hto, hcopy⟩, hne⟩ := h
  obtain ⟨maps, dst, hframe⟩ := World.copyStep_frame be w b snap pc r
  have hnext := copyStep_full hr hfrom hto hcopy hstep
  simp only [hstep] at hframe
  subst hframe
  rcases hnext with ⟨pc', rfl, hcopy'⟩ | ⟨n, rfl, hdst⟩
  · refine .inl ⟨pc', rfl, ⟨shot, older, rfl, ?_, hto, hcopy'⟩, hne⟩
    cases b <;> exact hfrom
  · exact .inr ⟨n, rfl, hdst, hto⟩

/-- Freezing the image while settled begins a copy. -/
theorem Settled.snapCreate {be : ObjectDiff g} {w w' : World} {shots : List Objects}
    {b : Option String} {name : String} {r : Reply} (h : Settled g w shots b)
    (hcreate : w.snapCreate name r = some w') : Copying be w' (w.src :: shots) b name .diff := by
  have hself := World.snapCreate_snapshot_self hcreate
  have hdst : w'.dst = w.dst := by
    simp only [World.snapCreate, Option.ite_none_right_eq_some, Option.some.injEq] at hcreate
    rw [← hcreate.2]
  have hnew : Holds g w'.dst (shipped g shots) := by
    rw [hdst]
    exact h.dst
  cases b with
  | none => exact ⟨⟨w.src, shots, rfl, h.baseline, hself, hnew⟩, by simp⟩
  | some old =>
      obtain ⟨hold, hne⟩ := World.snapCreate_snapshot_old hcreate h.baseline
      exact ⟨⟨w.src, shots, rfl, hold, hself, hnew⟩, by simpa using hne⟩

/-- `mirror()` sets up without touching the destination. -/
theorem PreCopyInv.mirrorStep {be : ObjectDiff g} {dconf : Dconf} {s s' : Sys} {r : Reply}
    (h : PreCopyInv be s) (hstep : MirrorStep dconf r s s') : PreCopyInv be s' := by
  unfold PreCopyInv at h
  cases hstep with
  | start hm | makedirs hm | connect hm | writeJob _ hm | statusRead hm =>
      simp only [hm] at h
      exact ⟨h.1, h.2.1.congr rfl rfl, trivial⟩
  | statusReplace seen hm =>
      simp only [hm] at h
      exact ⟨h.1, h.2.1.congr rfl rfl, Status.baseline_startFields seen⟩
  | unlinkStop hm | pidRead hm =>
      simp only [hm] at h
      exact ⟨h.1, h.2.1.congr rfl rfl, h.2.2⟩
  | spawn hm =>
      simp only [hm] at h
      exact ⟨h.1, h.2.1.congr rfl rfl, h.2.2, rfl⟩
  | pidReplace seen hm =>
      simp only [hm] at h
      obtain ⟨hidle, hsettled, hseen, hworker⟩ := h
      refine .inl ⟨hidle, ?_⟩
      simp only [hworker]
      exact ⟨hsettled.congr rfl rfl, (Status.baseline_pidFields seen _).trans hseen⟩
  | raised pc hm hpc =>
      rw [hm] at h
      rcases hpc with (rfl | rfl | rfl | rfl) | ⟨-, ⟨_, rfl⟩ | ⟨_, rfl | rfl⟩⟩ <;> exact h.1

/-- A step of the worker, while no detach has started, keeps the destination in step with the
frozen contents. -/
theorem WorkerInv.step {be : ObjectDiff g} {s s' : Sys} {r : Reply} (hr : r.Full)
    (h : WorkerInv be s.world s.shots s.worker) (hstep : WorkerStep be r s s') :
    WorkerInv be s'.world s'.shots s'.worker := by
  cases hstep with
  | readJob job hw | pass job l hw =>
      simp only [hw] at h
      exact h
  | noJob | stopSeen | createFailed | statusFailed | failRead | failReplace | failUnreported =>
      trivial
  | create job l w hw hcreate =>
      simp only [hw] at h
      have hstatus : w.readStatus = s.world.readStatus := by
        simp only [World.snapCreate, Option.ite_none_right_eq_some, Option.some.injEq] at hcreate
        rw [← hcreate.2]
        rfl
      exact ⟨h.1.snapCreate hcreate, hstatus ▸ h.2⟩
  | copy job l snap pc pc' maps dst hw hcopy =>
      simp only [hw] at h
      obtain ⟨_, hgoto, hcopying⟩ | ⟨_, hreturned, -⟩ := h.1.step hr hcopy
      · cases hgoto
        exact ⟨hcopying, h.2⟩
      · cases hreturned
  | copied job l snap pc n maps dst hw hcopy =>
      simp only [hw] at h
      obtain ⟨_, hgoto, -⟩ | ⟨_, hreturned, hsettled⟩ := h.1.step hr hcopy
      · cases hgoto
      · exact ⟨hsettled, h.1.ne⟩
  | copyFailed job l snap pc maps dst hw hcopy =>
      simp only [hw] at h
      obtain ⟨_, hgoto, -⟩ | ⟨_, hreturned, -⟩ := h.1.step hr hcopy
      · cases hgoto
      · cases hreturned
  | firstPass job l snap n hw hb =>
      simp only [hw] at h
      exact h.1
  | reap job l snap old n hw hb =>
      simp only [hw] at h
      -- the snapshot that is removed is not the one that was just copied
      exact h.1.snapRemove (by simpa [hb] using Ne.symm h.2)
  | statusRead job l n hw =>
      simp only [hw] at h
      exact h
  | statusReplace job l n seen hw =>
      simp only [hw] at h
      exact ⟨h.congr rfl rfl, Status.baseline_passFields seen l n⟩

/-- A step of the one detach. -/
theorem DetachInv.step {be : ObjectDiff g} {s s' : Sys} {r : Reply} (hr : r.Full)
    (h : DetachInv be s.world s.shots (s.detach 0)) (hstep : DetachStep be r s 0 s') :
    DetachInv be s'.world s'.shots (s'.detach 0) := by
  cases hstep with
  | start hd =>
      simp only [hd] at h
      exact h.elim
  | active hd _ | toFinalize hd _ _ | finRead hd _ | finMerge b hd | finJob b hd _
  | finPid b pid hd _ | finNoPid b hd _ | finGone b pid hd _ =>
      simp only [hd] at h
      simpa [Sys.setDetach, DetachInv] using h
  | finReplace b seen hd | finStop b hd =>
      simp only [hd] at h
      simp only [Sys.setDetach, Function.update_self, DetachInv]
      exact h.congr rfl rfl
  | finKill b pid hd =>
      simp only [hd] at h
      unfold Sys.killWorker
      split <;> simpa [Sys.setDetach, DetachInv] using h
  | finSnap b w hd hcreate =>
      simp only [hd] at h
      simp only [Sys.setDetach, Function.update_self, DetachInv, lastShot_cons]
      refine ⟨h.snapCreate hcreate, ?_⟩
      simp only [World.snapCreate, Option.ite_none_right_eq_some, Option.some.injEq] at hcreate
      rw [← hcreate.2]
  | finCopy b final pc pc' maps dst hd hcopy =>
      simp only [hd] at h
      obtain ⟨_, hgoto, hcopying⟩ | ⟨_, hreturned, -⟩ := h.1.step hr hcopy
      · cases hgoto
        simpa [Sys.setDetach, DetachInv] using And.intro hcopying h.2
      · cases hreturned
  | finCopied b final pc n maps dst hd hcopy =>
      simp only [hd] at h
      obtain ⟨_, hgoto, -⟩ | ⟨_, -, hsettled⟩ := h.1.step hr hcopy
      · cases hgoto
      · simpa [Sys.setDetach, DetachInv] using And.intro hsettled.dst h.2
  | inactive | toCancel | finalizedBefore | finSnapFailed | finCopyFailed | canActive
  | canInactive | canStop | canPid | canNoPid | canGone | canJob | raised =>
      simp [Sys.setDetach, DetachInv]
  | canKill =>
      unfold Sys.killWorker
      split <;> simp [Sys.setDetach, DetachInv]
  | sweepInfo e hd | sweepEnd e hd _ | sweepEndFinalize e hd _ | disconnect e hd | rmJob e hd
  | rmStatus e hd | rmStop e hd | rmDir e hd =>
      simp only [hd] at h
      simpa [Sys.setDetach, DetachInv] using h
  | sweepRemove e name rest hd =>
      simp only [hd] at h
      unfold World.snapRemove
      split <;> simpa [Sys.setDetach, DetachInv] using h

/-- A guest operation changes the image only, which no pass in progress looks at. -/
theorem WorkerInv.guest {be : ObjectDiff g} {w : World} {shots : List Objects} {pc : WorkerPc}
    (h : WorkerInv be w shots pc) (src : Objects) :
    WorkerInv be { w with src := src } shots pc := by
  cases pc with
  | absent | failRead | failReplace | exited | killed => trivial
  | readJob | test | create => exact ⟨h.1.congr rfl rfl, h.2⟩
  | copy => exact ⟨⟨h.1.shots, h.1.ne⟩, h.2⟩
  | reap => exact ⟨h.1.congr rfl rfl, h.2⟩
  | statusRead | statusReplace => exact h.congr rfl rfl

/-- A guest operation while no detach has started. -/
theorem PreCopyInv.guest {be : ObjectDiff g} {s : Sys} (h : PreCopyInv be s)
    (hidle : s.detach 0 = .idle) (src : Objects) :
    PreCopyInv be { s with world := { s.world with src := src } } := by
  unfold PreCopyInv at h ⊢
  cases hm : s.mirror with
  | raised => exact hidle
  | returned =>
      simp only [hm] at h ⊢
      rcases h with ⟨-, hworker⟩ | ⟨-, hdetach⟩
      · exact .inl ⟨hidle, hworker.guest src⟩
      · rw [hidle] at hdetach
        exact hdetach.elim
  | _ =>
      simp only [hm] at h ⊢
      exact ⟨hidle, h.2.1.congr rfl rfl, h.2.2⟩

/-- A parked worker that is asked to stop exits. -/
theorem WorkerStep.parked {be : ObjectDiff g} {s s' : Sys} {r : Reply} (h : WorkerStep be r s s')
    (hparked : s.worker.Parked) (hstop : s.world.stop = true) :
    s'.worker.Parked ∧ s'.world = s.world ∧ s'.shots = s.shots := by
  cases h with
  | stopSeen => exact ⟨trivial, rfl, rfl⟩
  | pass job l _ hgo => simp [hstop] at hgo
  | readJob _ hw | noJob hw | create _ _ _ hw | createFailed _ _ hw | copy _ _ _ _ _ _ _ hw
  | copied _ _ _ _ _ _ _ hw | copyFailed _ _ _ _ _ _ hw | firstPass _ _ _ _ hw
  | reap _ _ _ _ _ hw | statusRead _ _ _ hw | statusReplace _ _ _ _ hw
  | statusFailed _ _ _ _ hw | failRead _ hw | failReplace _ _ hw | failUnreported _ _ hw =>
      simp [hw, WorkerPc.Parked] at hparked

/-- Every step of a pre-copy without failure keeps its invariant. -/
theorem PreCopyInv.step {be : ObjectDiff g} {dconf : Dconf} {s s' : Sys} {a : Act}
    (h : PreCopyInv be s) (hguard : Undisturbed s a) (hstep : step be dconf s a = some s') :
    PreCopyInv be s' := by
  cases a with
  | guestWrite off data | guestDiscard off len =>
      simp only [Blkmirror.step, Option.ite_none_right_eq_some, Option.some.injEq] at hstep
      obtain ⟨-, rfl⟩ := hstep
      exact h.guest hguard _
  | mirror r => exact h.mirrorStep (mirrorStep_cases hstep)
  | crash => exact hguard.elim
  | worker r =>
      obtain ⟨hr, hm, hquiet⟩ := hguard
      have hcases := workerStep_cases hstep
      obtain ⟨hm', hd'⟩ := hcases.frame
      simp only [PreCopyInv, hm, hm', hd'] at h ⊢
      rcases h with ⟨hidle, hworker⟩ | ⟨hparked, hdetach⟩
      · exact .inl ⟨hidle, hworker.step hr hcases⟩
      · have hstop : s.world.stop = true := by
          refine hquiet.resolve_left fun hidle => ?_
          rw [hidle] at hdetach
          exact hdetach.elim
        obtain ⟨hparked', hworld, hshots⟩ := hcases.parked hparked hstop
        exact .inr ⟨hparked', by rwa [hworld, hshots]⟩
  | detach i r =>
      obtain ⟨hr, rfl, hstart⟩ := hguard
      have hcases := detachStep_cases hstep
      obtain ⟨hm', hw'⟩ := hcases.frame
      by_cases hidle : s.detach 0 = .idle
      · -- the detach starts between two passes, so it will read the worker's baseline
        obtain ⟨hm, htest⟩ := hstart hidle
        obtain ⟨job, l, hw⟩ : ∃ job l, s.worker = .test job l := by
          unfold WorkerPc.isTest at htest
          split at htest
          · exact ⟨_, _, by assumption⟩
          · cases htest
        simp only [PreCopyInv, hm, hm', hw] at h ⊢
        rcases h with ⟨-, hsettled, hbase⟩ | ⟨-, hdetach⟩
        · cases hcases with
          | start =>
              refine .inr ⟨by simp [Sys.setDetach, hw, WorkerPc.Parked], ?_⟩
              simpa [Sys.setDetach, DetachInv, hbase] using hsettled
          | _ => simp_all
        · rw [hidle] at hdetach
          exact hdetach.elim
      · simp only [PreCopyInv, hm'] at h ⊢
        cases hm : s.mirror with
        | raised =>
            simp only [hm] at h
            exact absurd h hidle
        | returned =>
            simp only [hm] at h ⊢
            rcases h with ⟨hidle', -⟩ | ⟨hparked, hdetach⟩
            · exact absurd hidle' hidle
            · refine .inr ⟨?_, hdetach.step hr hcases⟩
              rcases hw' with hw' | hw'
              · rwa [hw']
              · rw [hw']
                trivial
        | _ =>
            simp only [hm] at h
            exact absurd h.1 hidle

/-- The processes of an undisturbed pre-copy compute `shipped`: once `finalize` has returned, the
destination is what the frozen contents ship, and the newest of these is the image. -/
theorem precopy_refines {be : ObjectDiff g} {dconf : Dconf} {src : Objects}
    {snaps : List (String × Objects)} {acts : List Act} {s : Sys}
    (hrun : Run.run (step be dconf) (Sys.init src snaps) acts = some s)
    (hguard : Run.Along (step be dconf) Undisturbed (Sys.init src snaps) acts)
    (hdone : s.detach 0 = .done .finalized) :
    Holds g s.world.dst (shipped g s.shots) ∧ lastShot s.shots = s.world.src := by
  have hinit : PreCopyInv be (Sys.init src snaps) :=
    ⟨rfl, ⟨fun _ _ => rfl, rfl⟩, trivial⟩
  have hinv : PreCopyInv be s :=
    Run.run_invariant (fun _ _ _ h hg hs => h.step hg hs) hinit hguard hrun
  unfold PreCopyInv at hinv
  cases hm : s.mirror with
  | raised =>
      simp only [hm, hdone] at hinv
      cases hinv
  | returned =>
      simp only [hm, hdone] at hinv
      rcases hinv with ⟨hidle, -⟩ | ⟨-, hdetach⟩
      · cases hidle
      · exact hdetach rfl
  | _ =>
      simp only [hm, hdone] at hinv
      cases hinv.1

/-- **Content after the pre-copy.** Once `finalize` has returned, the destination equals the image
at every byte exactly when the last change of no object, over the snapshots that were taken, is
its disappearance. -/
theorem precopy_content_exact_iff {be : ObjectDiff g} {dconf : Dconf} {src : Objects}
    {snaps : List (String × Objects)} {acts : List Act} {s : Sys}
    (hrun : Run.run (step be dconf) (Sys.init src snaps) acts = some s)
    (hguard : Run.Along (step be dconf) Undisturbed (Sys.init src snaps) acts)
    (hdone : s.detach 0 = .done .finalized) :
    (∀ pos < g.size, s.world.dst pos = g.read s.world.src pos) ↔ ∀ o, ¬ Stale g o s.shots := by
  obtain ⟨hdst, hsrc⟩ := precopy_refines hrun hguard hdone
  rw [← shipped_eq_iff, hsrc]
  exact forall₂_congr fun pos hpos => by rw [hdst pos hpos]

/-- `mirror()` and one pass over the first object, then the guest operation `op`, then a
`finalize` whose copy takes `copySteps` steps. -/
def onePass (op : Act) (copySteps : Nat) : List Act :=
  List.replicate 10 (Act.mirror {}) ++ List.replicate 15 (Act.worker {}) ++ [op] ++
    List.replicate 9 (Act.detach 0 {}) ++ [Act.worker {}] ++
      List.replicate (11 + copySteps) (Act.detach 0 {})

/-- A guest that overwrites part of the object: the run ends in `finalize` returning. -/
theorem precopy_content_exact_overwrite :
    ∃ s, Run.run (step (ObjectDiff.exact sector) {}) (Sys.init filled [])
        (onePass (.guestWrite 5 [1, 2, 3]) 9) = some s ∧
      s.detach 0 = .done .finalized ∧
      ((∀ pos < sector.size, s.world.dst pos = sector.read s.world.src pos) ↔
        ∀ o, ¬ Stale sector o s.shots) := by
  have hrun : ((Run.checked (step (ObjectDiff.exact sector) {}) Undisturbed (Sys.init filled [])
      (onePass (.guestWrite 5 [1, 2, 3]) 9)).any
        fun s => decide (s.detach 0 = .done .finalized)) = true := by
    decide +kernel
  obtain ⟨s, hrun, hguard, hdone⟩ := Run.exists_of_checked hrun
  have hdone := of_decide_eq_true hdone
  exact ⟨s, hrun, hdone, precopy_content_exact_iff hrun hguard hdone⟩

/-- A guest that discards the object after the first pass: every call succeeds, `finalize` returns,
and the destination still holds the discarded bytes where the image reads as zeros. -/
theorem precopy_discard_not_shipped :
    ∃ s, Run.run (step (ObjectDiff.exact sector) {}) (Sys.init filled [])
        (onePass (.guestDiscard 0 512) 1) = some s ∧
      Run.Along (step (ObjectDiff.exact sector) {}) Undisturbed (Sys.init filled [])
        (onePass (.guestDiscard 0 512) 1) ∧
      s.detach 0 = .done .finalized ∧
      ¬ ∀ pos < sector.size, s.world.dst pos = sector.read s.world.src pos := by
  have hrun : ((Run.checked (step (ObjectDiff.exact sector) {}) Undisturbed (Sys.init filled [])
      (onePass (.guestDiscard 0 512) 1)).any fun s => decide (s.detach 0 = .done .finalized) &&
        s.world.dst 0 != sector.read s.world.src 0) = true := by
    decide +kernel
  obtain ⟨s, hrun, hguard, htest⟩ := Run.exists_of_checked hrun
  simp only [Bool.and_eq_true, decide_eq_true_eq, bne_iff_ne] at htest
  exact ⟨s, hrun, hguard, htest.1, fun h => htest.2 (h 0 (by decide))⟩

end XcpCephRbd.Blkmirror
