import XcpCephRbd.Blkmirror.Inversion

/-!
# Updates of the status file

`write_status` is documented to merge its fields atomically, but it reads the file, merges and
replaces it in separate steps without a lock. A replace that comes after another party has changed
the file takes the fields of that party back: the worker can erase its own pid, so that
`_stop_worker` does not wait for it, or the `finalized` flag. `NoOverlap` says that no replace does
this and that no detach looks for the pid before `mirror()` is over; `status_kept` says that then
no field is lost and that the worker is stopped before the final delta is copied.
-/

namespace XcpCephRbd.Blkmirror

variable {g : Geometry}

/-- `mirror()` has returned or raised. -/
def MirrorPc.over : MirrorPc → Bool
  | .returned | .raised => true
  | _ => false

/-- What a `write_status` about to replace the file has read. -/
def rewrites (s : Sys) : Act → Option Status
  | .mirror _ =>
      match s.mirror with
      | .statusReplace seen | .pidReplace seen => some seen
      | _ => none
  | .worker _ =>
      match s.worker with
      | .statusReplace _ _ _ seen | .failReplace _ seen => some seen
      | _ => none
  | .detach i _ =>
      match s.detach i with
      | .finReplace _ seen => some seen
      | _ => none
  | _ => none

/-- The step is the read of the pid in `_stop_worker`. -/
def readsPid (s : Sys) : Act → Bool
  | .detach i _ =>
      match s.detach i with
      | .finPid _ | .canPid => true
      | _ => false
  | _ => false

/-- The call of the step succeeds. -/
def Act.ok : Act → Bool
  | .mirror r | .worker r | .detach _ r => r.ok
  | _ => true

/-- The file has not changed since a `write_status` that replaces it has read it, it is replaced,
and a detach looks for the worker's pid only when `mirror()` is over. -/
def NoOverlap (s : Sys) (a : Act) : Prop :=
  (∀ seen ∈ rewrites s a, s.world.readStatus = seen ∧ a.ok = true) ∧
    (readsPid s a = true → s.mirror.over = true)

instance (s : Sys) (a : Act) : Decidable (NoOverlap s a) := inferInstanceAs (Decidable (_ ∧ _))

/-- A detach that has set `finalized` and has not removed the job yet. -/
def DetachPc.wroteFinalized : DetachPc → Bool
  | .finJob _ | .finStop _ | .finPid _ | .finWait _ _ | .finSnap _ | .finCopy _ _ _ => true
  | .sweepInfo e | .sweep e _ | .disconnect e | .rmJob e => e ≠ .cancelled
  | _ => false

/-- A detach that has come past `_stop_worker`. -/
def DetachPc.pastStop : DetachPc → Bool
  | .finSnap _ | .finCopy _ _ _ | .canJob | .sweepInfo _ | .sweep _ _ | .disconnect _ | .rmJob _
  | .rmStatus _ | .rmStop _ | .rmDir _ => true
  | _ => false

/-- No party's field has been taken back, as long as the job is there, and the worker that may be
alive is known until it is stopped. -/
structure StatusKept (s : Sys) : Prop where
  pid : s.mirror = .returned → s.world.active = true →
    s.world.readStatus.pid = some s.workerPid
  finalized : ∀ i, (s.detach i).wroteFinalized = true → s.world.active = true →
    truthy (s.world.readStatus.get "finalized") = true
  baseline : s.world.active = true → s.world.readStatus.baseline = s.passed
  known : s.mirror = .returned → s.worker.running = true →
    s.world.readStatus.pid = some s.workerPid
  stopped : ∀ i, (s.detach i).pastStop = true → s.worker.running = false

/-! ## The invariant -/

/-- The state has not been removed: nothing is before `mirror()` is over. -/
def Live (s : Sys) : Prop := s.mirror.over = true → s.world.active = true

/-- The flag of `finalize` is set as long as the state has not been removed. -/
def Flagged (s : Sys) : Prop := Live s → truthy (s.world.readStatus.get "finalized") = true

/-- What the control point of `mirror()` says about the worker and the status file. -/
def MirrorOk (s : Sys) : Prop :=
  match s.mirror with
  | .start | .makedirs => s.worker = .absent
  | .connect | .writeJob _ => s.worker = .absent ∧ s.world.dir = true
  | .statusRead | .statusReplace _ | .unlinkStop | .spawn =>
      s.worker = .absent ∧ s.world.active = true
  | .pidRead | .pidReplace _ => s.workerPid ≠ 0 ∧ s.world.active = true
  | .returned =>
      (s.world.active = true → s.world.readStatus.pid = some s.workerPid) ∧
        (s.world.active = false → s.worker.running = false)
  | .raised => s.worker.running = false

/-- The worker's baseline is that of its latest completed pass, except in the `write_status` that
completes the next one. -/
def WorkerOk (passed : Option String) : WorkerPc → Prop
  | .absent | .readJob => passed = none
  | .test _ l | .create _ l | .copy _ l _ _ | .reap _ l _ _ | .failRead l | .failReplace l _ =>
      l.baseline = passed
  | .statusRead _ _ _ | .statusReplace _ _ _ _ | .exited _ _ | .killed _ => True

/-- What the control point of a detach says about the worker and the status file. -/
def DetachOk (s : Sys) : DetachPc → Prop
  | .finJob _ | .finStop _ | .finPid _ => Flagged s
  | .finWait _ pid =>
      s.mirror.over = true ∧ (s.worker.running = true → pid = s.workerPid) ∧ Flagged s
  | .finSnap _ | .finCopy _ _ _ =>
      s.mirror.over = true ∧ s.worker.running = false ∧ Flagged s
  | .canWait pid => s.mirror.over = true ∧ (s.worker.running = true → pid = s.workerPid)
  | .canJob => s.mirror.over = true ∧ s.worker.running = false
  | .sweepInfo e | .sweep e _ | .disconnect e | .rmJob e =>
      s.mirror.over = true ∧ s.worker.running = false ∧ (e ≠ .cancelled → Flagged s)
  | .rmStatus _ | .rmStop _ | .rmDir _ =>
      s.mirror.over = true ∧ s.worker.running = false ∧ s.world.active = false
  | _ => True

/-- The invariant of the status file. -/
structure StatusInv (s : Sys) : Prop where
  dir : s.world.active = true → s.world.dir = true
  mirror : MirrorOk s
  worker : WorkerOk s.passed s.worker
  baseline : Live s → s.world.readStatus.baseline = s.passed
  detach : ∀ i, DetachOk s (s.detach i)

/-- A step of `mirror()`: no detach is past the read of the pid yet. -/
theorem DetachOk.early {s s' : Sys} {pc : DetachPc} (h : DetachOk s pc)
    (hover : s.mirror.over = false) (hflag : Flagged s → Flagged s') : DetachOk s' pc := by
  cases pc with
  | finJob | finStop | finPid => exact hflag h
  | finWait | finSnap | finCopy | canWait | canJob | sweepInfo | sweep | disconnect | rmJob
  | rmStatus | rmStop | rmDir =>
      have hover' := h.1
      simp [hover] at hover'
  | _ => trivial

/-- A step that neither starts a worker nor brings the job back. -/
theorem DetachOk.mono {s s' : Sys} {pc : DetachPc} (h : DetachOk s pc)
    (hmirror : s'.mirror = s.mirror) (hpid : s'.workerPid = s.workerPid)
    (hrunning : s'.worker.running = true → s.worker.running = true)
    (hjob : s'.world.active = true → s.world.active = true)
    (hflag : Flagged s → Flagged s') : DetachOk s' pc := by
  have hstopped : s.worker.running = false → s'.worker.running = false := by
    intro hnot
    by_contra hrun
    simp [hrunning (by simpa using hrun)] at hnot
  have hgone : s.world.active = false → s'.world.active = false := by
    intro hnot
    by_contra hact
    simp [hjob (by simpa using hact)] at hnot
  cases pc with
  | finJob | finStop | finPid => exact hflag h
  | finWait => exact ⟨hmirror ▸ h.1, fun hr => hpid ▸ h.2.1 (hrunning hr), hflag h.2.2⟩
  | finSnap | finCopy => exact ⟨hmirror ▸ h.1, hstopped h.2.1, hflag h.2.2⟩
  | canWait => exact ⟨hmirror ▸ h.1, fun hr => hpid ▸ h.2 (hrunning hr)⟩
  | canJob => exact ⟨hmirror ▸ h.1, hstopped h.2⟩
  | sweepInfo | sweep | disconnect | rmJob =>
      exact ⟨hmirror ▸ h.1, hstopped h.2.1, fun he => hflag (h.2.2 he)⟩
  | rmStatus | rmStop | rmDir => exact ⟨hmirror ▸ h.1, hstopped h.2.1, hgone h.2.2⟩
  | _ => trivial

/-- A worker that runs has its state directory. -/
theorem StatusInv.dir_of_running {s : Sys} (h : StatusInv s) (hrun : s.worker.running = true) :
    s.world.dir = true := by
  have hm := h.mirror
  unfold MirrorOk at hm
  cases hpc : s.mirror with
  | start | makedirs =>
      simp only [hpc] at hm
      simp [hm, WorkerPc.running] at hrun
  | connect | writeJob =>
      simp only [hpc] at hm
      exact hm.2
  | statusRead | statusReplace | unlinkStop | spawn | pidRead | pidReplace =>
      simp only [hpc] at hm
      exact h.dir hm.2
  | returned =>
      simp only [hpc] at hm
      refine h.dir ?_
      by_contra hact
      simp [hm.2 (by simpa using hact)] at hrun
  | raised =>
      simp only [hpc] at hm
      simp [hm] at hrun

/-- Before `mirror()` is over every detach stays where it may be, whatever `mirror()` does to the
status file but for the flag. -/
theorem StatusInv.detach_early {s s' : Sys} (h : StatusInv s) (hover : s.mirror.over = false)
    (hsame : s'.detach = s.detach)
    (hflag : s'.world.readStatus.get "finalized" = s.world.readStatus.get "finalized") :
    ∀ i, DetachOk s' (s'.detach i) := by
  intro i
  rw [hsame]
  refine (h.detach i).early hover fun hf _ => ?_
  rw [hflag]
  exact hf fun hover' => by simp [hover] at hover'

/-- A step of `mirror()`. -/
theorem StatusInv.mirrorStep {dconf : Dconf} {s s' : Sys} {r : Reply} (h : StatusInv s)
    (hserial : NoOverlap s (.mirror r)) (hstep : MirrorStep dconf r s s') : StatusInv s' := by
  have hm := h.mirror
  have hw := h.worker
  have hb : s.mirror.over = false → s.world.readStatus.baseline = s.passed := fun hover =>
    h.baseline fun hover' => by simp [hover] at hover'
  unfold MirrorOk at hm
  cases hstep with
  | start hpc | connect hpc | unlinkStop hpc | statusRead hpc | pidRead hpc =>
      simp only [hpc] at hm
      have hover : s.mirror.over = false := by simp [hpc, MirrorPc.over]
      exact ⟨h.dir, hm, hw, fun _ => hb hover, h.detach_early hover rfl rfl⟩
  | makedirs hpc =>
      simp only [hpc] at hm
      have hover : s.mirror.over = false := by simp [hpc, MirrorPc.over]
      exact ⟨fun _ => rfl, ⟨hm, rfl⟩, hw, fun _ => hb hover, h.detach_early hover rfl rfl⟩
  | writeJob nbdDev hpc hdir =>
      simp only [hpc] at hm
      have hover : s.mirror.over = false := by simp [hpc, MirrorPc.over]
      exact ⟨fun _ => hdir, ⟨hm.1, rfl⟩, hw, fun _ => hb hover, h.detach_early hover rfl rfl⟩
  | statusReplace seen hpc hdir =>
      simp only [hpc] at hm
      have hover : s.mirror.over = false := by simp [hpc, MirrorPc.over]
      have hseen : s.world.readStatus = seen := (hserial.1 seen (by simp [rewrites, hpc])).1
      have hpassed : s.passed = none := by simpa [WorkerOk, hm.1] using hw
      refine ⟨h.dir, hm, hw, fun _ => ?_, h.detach_early hover rfl ?_⟩
      · simp [World.readStatus, hpassed]
      · rw [hseen]
        simp [World.readStatus]
  | spawn hpc hpid =>
      simp only [hpc] at hm
      have hover : s.mirror.over = false := by simp [hpc, MirrorPc.over]
      have hpassed : s.passed = none := by simpa [WorkerOk, hm.1] using hw
      exact ⟨h.dir, ⟨hpid, hm.2⟩, hpassed, fun _ => hb hover, h.detach_early hover rfl rfl⟩
  | pidReplace seen hpc hdir =>
      simp only [hpc] at hm
      have hover : s.mirror.over = false := by simp [hpc, MirrorPc.over]
      have hseen : s.world.readStatus = seen := (hserial.1 seen (by simp [rewrites, hpc])).1
      refine ⟨h.dir, ⟨fun _ => ?_, fun hgone => ?_⟩, hw, fun _ => ?_, h.detach_early hover rfl ?_⟩
      · simp [World.readStatus, hm.1]
      · exact absurd (hm.2.symm.trans hgone) (by simp)
      · rw [← hb hover, hseen]
        simp [World.readStatus]
      · rw [hseen]
        simp [World.readStatus]
  | raised pc hpc hfail =>
      have hover : s.mirror.over = false := by
        rcases hfail with (rfl | rfl | rfl | rfl) | ⟨-, ⟨_, rfl⟩ | ⟨_, rfl | rfl⟩⟩ <;>
          simp [hpc, MirrorPc.over]
      refine ⟨h.dir, ?_, hw, fun _ => hb hover, h.detach_early hover rfl rfl⟩
      -- after the spawn only the replace of the status file can make `mirror()` raise
      rcases hfail with (rfl | rfl | rfl | rfl) | ⟨hlost, ⟨_, rfl⟩ | ⟨seen, rfl | rfl⟩⟩ <;>
        simp only [hpc] at hm
      · simp [MirrorOk, hm, WorkerPc.running]
      · simp [MirrorOk, hm, WorkerPc.running]
      · simp [MirrorOk, hm.1, WorkerPc.running]
      · simp [MirrorOk, hm.1, WorkerPc.running]
      · simp [MirrorOk, hm.1, WorkerPc.running]
      · simp [MirrorOk, hm.1, WorkerPc.running]
      · have hok : r.ok = true := (hserial.1 seen (by simp [rewrites, hpc])).2
        simp [hok, h.dir hm.2] at hlost

/-- A step that leaves `mirror()`, the job and the other parties' fields alone. -/
theorem StatusInv.keep {s s' : Sys} (h : StatusInv s) (hmirror : s'.mirror = s.mirror)
    (hworkerPid : s'.workerPid = s.workerPid) (hdetach : s'.detach = s.detach)
    (hrunning : s'.worker.running = true → s.worker.running = true)
    (habsent : s.worker = .absent → s'.worker = .absent)
    (hdir : s'.world.dir = s.world.dir) (hjob : s'.world.active = s.world.active)
    (hpid : s'.world.readStatus.pid = s.world.readStatus.pid)
    (hflag : truthy (s.world.readStatus.get "finalized") = true →
      truthy (s'.world.readStatus.get "finalized") = true)
    (hworker : WorkerOk s'.passed s'.worker)
    (hbase : Live s → s'.world.readStatus.baseline = s'.passed) : StatusInv s' := by
  have hlive : Live s' → Live s := by simp [Live, hmirror, hjob]
  refine ⟨by simpa [hdir, hjob] using h.dir, ?_, hworker, fun hl => hbase (hlive hl), fun i => ?_⟩
  · have hm := h.mirror
    have hstopped : s.worker.running = false → s'.worker.running = false := by
      intro hnot
      by_contra hrun
      simp [hrunning (by simpa using hrun)] at hnot
    unfold MirrorOk at hm ⊢
    rw [hmirror]
    cases hpc : s.mirror with
    | start | makedirs =>
        simp only [hpc] at hm
        exact habsent hm
    | connect | writeJob =>
        simp only [hpc] at hm
        exact ⟨habsent hm.1, hdir ▸ hm.2⟩
    | statusRead | statusReplace | unlinkStop | spawn =>
        simp only [hpc] at hm
        exact ⟨habsent hm.1, hjob ▸ hm.2⟩
    | pidRead | pidReplace =>
        simp only [hpc] at hm
        exact ⟨hworkerPid ▸ hm.1, hjob ▸ hm.2⟩
    | returned =>
        simp only [hpc] at hm
        rw [hjob, hpid, hworkerPid]
        exact ⟨hm.1, fun hgone => hstopped (hm.2 hgone)⟩
    | raised =>
        simp only [hpc] at hm
        exact hstopped hm
  · rw [hdetach]
    exact (h.detach i).mono hmirror hworkerPid hrunning (by simp [hjob]) fun hf hl =>
      hflag (hf (hlive hl))

/-- A step of the worker. -/
theorem StatusInv.workerStep {be : ObjectDiff g} {s s' : Sys} {r : Reply} (h : StatusInv s)
    (hserial : NoOverlap s (.worker r)) (hstep : WorkerStep be r s s') : StatusInv s' := by
  have hok := h.worker
  have hrun := h.dir_of_running
  cases hstep with
  | readJob job hw =>
      rw [hw] at hok
      exact h.keep rfl rfl rfl (by simp [hw, WorkerPc.running]) (by simp [hw]) rfl rfl rfl id
        hok.symm h.baseline
  | noJob hw | stopSeen _ _ hw | statusRead _ _ _ hw | firstPass _ _ _ _ hw =>
      exact h.keep rfl rfl rfl (by simp [hw, WorkerPc.running]) (by simp [hw]) rfl rfl rfl id
        trivial h.baseline
  | pass _ _ hw | createFailed _ _ hw | copy _ _ _ _ _ _ _ hw | copied _ _ _ _ _ _ _ hw
  | copyFailed _ _ _ _ _ _ hw | failRead _ hw =>
      rw [hw] at hok
      exact h.keep rfl rfl rfl (by simp [hw, WorkerPc.running]) (by simp [hw]) rfl rfl rfl id
        hok h.baseline
  | create job l w hw hcreate =>
      rw [hw] at hok
      obtain ⟨snaps, rfl⟩ := World.snapCreate_frame hcreate
      exact h.keep rfl rfl rfl (by simp [hw, WorkerPc.running]) (by simp [hw]) rfl rfl rfl id
        hok h.baseline
  | reap job l snap old n hw =>
      obtain ⟨snaps, hframe⟩ := World.snapRemove_frame s.world old r
      rw [hframe]
      exact h.keep rfl rfl rfl (by simp [hw, WorkerPc.running]) (by simp [hw]) rfl rfl rfl id
        trivial h.baseline
  | statusReplace job l n seen hw hdir =>
      have hseen : s.world.readStatus = seen := (hserial.1 seen (by simp [rewrites, hw])).1
      refine h.keep rfl rfl rfl (by simp [hw, WorkerPc.running]) (by simp [hw]) rfl rfl ?_ ?_
        rfl (fun _ => ?_)
      · rw [hseen]
        simp [World.readStatus]
      · rw [hseen]
        simp [World.readStatus]
      · simp [World.readStatus]
  | failReplace l seen hw hdir =>
      rw [hw] at hok
      have hseen : s.world.readStatus = seen := (hserial.1 seen (by simp [rewrites, hw])).1
      refine h.keep rfl rfl rfl (by simp [hw, WorkerPc.running]) (by simp [hw]) rfl rfl ?_ ?_
        trivial (fun _ => ?_)
      · rw [hseen]
        simp [World.readStatus]
      · rw [hseen]
        simp [World.readStatus]
      · exact (Status.baseline_failFields seen l r.error).trans hok
  | statusFailed job l n seen hw hlost | failUnreported l seen hw hlost =>
      have hok : r.ok = true := (hserial.1 seen (by simp [rewrites, hw])).2
      simp [hok, hrun (by simp [hw, WorkerPc.running])] at hlost

/-- `os.kill(pid, 0)` with the worker's pid fails only when the worker is gone. -/
theorem Sys.not_running_of_dead {s : Sys} {pid : Nat} (hdead : s.alive pid = false)
    (hpid : s.worker.running = true → pid = s.workerPid) : s.worker.running = false := by
  by_contra hrun
  have hrun' : s.worker.running = true := by simpa using hrun
  simp [Sys.alive, hrun', hpid hrun'] at hdead

/-- Detach `i` comes to a control point that the state allows. -/
theorem StatusInv.setDetach {s : Sys} (h : StatusInv s) (i : Nat) {pc : DetachPc}
    (hok : DetachOk s pc) : StatusInv (s.setDetach i pc) := by
  refine ⟨h.dir, h.mirror, h.worker, h.baseline, fun j => ?_⟩
  by_cases hj : j = i
  · subst hj
    rw [Sys.setDetach_self]
    exact hok
  · rw [Sys.setDetach_of_ne _ _ _ hj]
    exact h.detach j

/-- A change of the world other than in the state directory. -/
theorem StatusInv.world {s : Sys} {w : World} (h : StatusInv s) (shots : List Objects)
    (hdir : w.dir = s.world.dir) (hjob : w.job = s.world.job)
    (hstatus : w.status = s.world.status) :
    StatusInv { s with world := w, shots := shots } := by
  have hread : w.readStatus = s.world.readStatus := by simp [World.readStatus, hstatus]
  refine h.keep rfl rfl rfl (fun hr => hr) (fun ha => ha) hdir ?_ ?_ ?_ h.worker ?_
  · simp [World.active, hjob]
  · simp [hread]
  · simp [hread]
  · simpa [hread] using h.baseline

/-- The end of the worker's process. -/
theorem StatusInv.killWorker {s : Sys} (h : StatusInv s) : StatusInv s.killWorker := by
  refine h.keep (by simp) (by simp) (by simp) (by simp) ?_ (by simp) (by simp) (by simp)
    (by simp) ?_ (by simpa using h.baseline)
  · intro habsent
    simp [Sys.killWorker, habsent, WorkerPc.running]
  · unfold Sys.killWorker
    split
    · trivial
    · exact h.worker

/-- A change of the state directory by a detach that has stopped the worker and removed the job,
or removes it now. -/
theorem StatusInv.removed {s : Sys} {w : World} (h : StatusInv s) (i : Nat) {pc : DetachPc}
    (hover : s.mirror.over = true) (hstopped : s.worker.running = false)
    (hinactive : w.active = false) (hok : DetachOk { s with world := w } pc) :
    StatusInv ({ s with world := w }.setDetach i pc) := by
  have hdead : ¬ Live { s with world := w } := by
    intro hlive
    have hact : w.active = true := hlive hover
    simp [hinactive] at hact
  have hworld : StatusInv { s with world := w } := by
    refine ⟨by simp [hinactive], ?_, h.worker, fun hlive => absurd hlive hdead, fun j => ?_⟩
    · unfold MirrorOk
      cases hpc : s.mirror with
      | returned => exact ⟨by simp [hinactive], fun _ => hstopped⟩
      | raised => exact hstopped
      | _ => simp [hpc, MirrorPc.over] at hover
    · exact (h.detach j).mono rfl rfl (fun hr => hr) (by simp [hinactive]) fun _ hlive =>
        absurd hlive hdead
  exact hworld.setDetach i hok

/-- A change of the world other than in the state directory, with a move of detach `i` that the
state before allows. -/
theorem StatusInv.worldMove {s : Sys} {w : World} (h : StatusInv s) (i : Nat)
    (shots : List Objects) {pc : DetachPc} (hdir : w.dir = s.world.dir)
    (hjob : w.job = s.world.job) (hstatus : w.status = s.world.status) (hok : DetachOk s pc) :
    StatusInv ({ s with world := w, shots := shots }.setDetach i pc) := by
  refine (h.world shots hdir hjob hstatus).setDetach i (hok.mono rfl rfl (fun hr => hr) ?_ ?_)
  · simp [World.active, hjob]
  · simp [Flagged, Live, World.active, World.readStatus, hjob, hstatus]

/-- `_stop_worker` finds the pid of a worker that runs, as `mirror()` is over. -/
theorem StatusInv.pid_of_running {s : Sys} (h : StatusInv s) (hover : s.mirror.over = true)
    (hrun : s.worker.running = true) : s.world.readStatus.pid = some s.workerPid := by
  have hm := h.mirror
  unfold MirrorOk at hm
  cases hpc : s.mirror with
  | returned =>
      simp only [hpc] at hm
      refine hm.1 ?_
      by_contra hact
      simp [hm.2 (by simpa using hact)] at hrun
  | raised =>
      simp only [hpc] at hm
      simp [hm] at hrun
  | _ => simp [hpc, MirrorPc.over] at hover

/-- A step of a detach. -/
theorem StatusInv.detachStep {be : ObjectDiff g} {s s' : Sys} {i : Nat} {r : Reply}
    (h : StatusInv s) (hserial : NoOverlap s (.detach i r)) (hstep : DetachStep be r s i s') :
    StatusInv s' := by
  have hok := h.detach i
  cases hstep with
  | start hd | active hd | inactive hd | toFinalize hd | toCancel hd | finalizedBefore hd
  | finRead hd | finMerge _ hd | canActive hd | canInactive hd | raised _ hd =>
      exact h.setDetach i trivial
  | finReplace b seen hd hdir =>
      -- without overlap the file is still the one that was read, so the merge loses nothing
      have hseen : s.world.readStatus = seen := (hserial.1 seen (by simp [rewrites, hd])).1
      have hflag : Flagged { s with
          world := { s.world with status := some (seen.update finalizeFields) } } := by
        intro _
        simp [World.readStatus, truthy]
      have hworld : StatusInv { s with
          world := { s.world with status := some (seen.update finalizeFields) } } := by
        refine h.keep rfl rfl rfl id id rfl rfl ?_ (fun _ => ?_) h.worker (fun hlive => ?_)
        · rw [hseen]
          simp [World.readStatus]
        · simp [World.readStatus, truthy]
        · rw [← h.baseline hlive, hseen]
          simp [World.readStatus]
      exact hworld.setDetach i hflag
  | finJob _ hd =>
      rw [hd] at hok
      exact h.setDetach i hok
  | canStop hd => exact h.worldMove i s.shots rfl rfl rfl trivial
  | finStop b hd =>
      rw [hd] at hok
      exact h.worldMove i s.shots rfl rfl rfl hok
  | finPid b pid hd hread =>
      rw [hd] at hok
      have hover := hserial.2 (by simp [readsPid, hd])
      refine h.setDetach i ⟨hover, fun hrun => ?_, hok⟩
      exact Option.some.inj (hread.symm.trans (h.pid_of_running hover hrun))
  | finNoPid b hd hread =>
      rw [hd] at hok
      have hover := hserial.2 (by simp [readsPid, hd])
      refine h.setDetach i ⟨hover, ?_, hok⟩
      -- a running worker whose pid the status lacks would not be waited for
      by_contra hrun
      simp [h.pid_of_running hover (by simpa using hrun)] at hread
  | finKill b pid hd halive =>
      rw [hd] at hok
      exact h.killWorker.setDetach i ⟨by simpa using hok.1, by simp, by
        simpa [Flagged, Live] using hok.2.2⟩
  | finGone b pid hd hdead =>
      rw [hd] at hok
      exact h.setDetach i ⟨hok.1, Sys.not_running_of_dead hdead hok.2.1, hok.2.2⟩
  | canPid pid hd hread =>
      have hover := hserial.2 (by simp [readsPid, hd])
      refine h.setDetach i ⟨hover, fun hrun => ?_⟩
      exact Option.some.inj (hread.symm.trans (h.pid_of_running hover hrun))
  | canNoPid hd hread =>
      have hover := hserial.2 (by simp [readsPid, hd])
      refine h.setDetach i ⟨hover, ?_⟩
      by_contra hrun
      simp [h.pid_of_running hover (by simpa using hrun)] at hread
  | canKill pid hd halive =>
      rw [hd] at hok
      exact h.killWorker.setDetach i ⟨by simpa using hok.1, by simp⟩
  | canGone pid hd hdead =>
      rw [hd] at hok
      exact h.setDetach i ⟨hok.1, Sys.not_running_of_dead hdead hok.2⟩
  | finSnap b w hd hcreate =>
      rw [hd] at hok
      obtain ⟨snaps, rfl⟩ := World.snapCreate_frame hcreate
      exact h.worldMove i _ rfl rfl rfl hok
  | finSnapFailed b hd =>
      rw [hd] at hok
      exact h.setDetach i ⟨hok.1, hok.2.1, fun _ => hok.2.2⟩
  | finCopy b final pc pc' maps dst hd =>
      rw [hd] at hok
      exact h.worldMove i s.shots rfl rfl rfl hok
  | finCopied b final pc n maps dst hd | finCopyFailed b final pc maps dst hd =>
      rw [hd] at hok
      exact h.worldMove i s.shots rfl rfl rfl ⟨hok.1, hok.2.1, fun _ => hok.2.2⟩
  | canJob hd =>
      rw [hd] at hok
      exact h.worldMove i s.shots rfl rfl rfl ⟨hok.1, hok.2, by simp⟩
  | sweepInfo e hd | sweepEnd e hd | sweepEndFinalize e hd =>
      rw [hd] at hok
      exact h.setDetach i hok
  | sweepRemove e name rest hd =>
      rw [hd] at hok
      obtain ⟨snaps, hframe⟩ := World.snapRemove_frame s.world name r
      rw [hframe]
      exact h.worldMove i s.shots rfl rfl rfl hok
  | disconnect e hd =>
      rw [hd] at hok
      exact h.worldMove i s.shots rfl rfl rfl hok
  | rmJob e hd =>
      rw [hd] at hok
      exact h.removed i hok.1 hok.2.1 rfl ⟨hok.1, hok.2.1, rfl⟩
  | rmStatus e hd | rmStop e hd =>
      rw [hd] at hok
      exact h.removed i hok.1 hok.2.1 hok.2.2 hok
  | rmDir e hd =>
      rw [hd] at hok
      exact h.removed i hok.1 hok.2.1 hok.2.2 trivial

/-- Every step without overlap keeps the invariant. -/
theorem StatusInv.step {be : ObjectDiff g} {dconf : Dconf} {s s' : Sys} {a : Act}
    (h : StatusInv s) (hserial : NoOverlap s a) (hstep : step be dconf s a = some s') :
    StatusInv s' := by
  cases a with
  | guestWrite off data | guestDiscard off len =>
      simp only [Blkmirror.step, Option.ite_none_right_eq_some, Option.some.injEq] at hstep
      obtain ⟨-, rfl⟩ := hstep
      exact h.world s.shots rfl rfl rfl
  | mirror r => exact h.mirrorStep hserial (mirrorStep_cases hstep)
  | worker r => exact h.workerStep hserial (workerStep_cases hstep)
  | crash =>
      simp only [Blkmirror.step, Option.ite_none_right_eq_some, Option.some.injEq] at hstep
      exact hstep.2 ▸ h.killWorker
  | detach i r => exact h.detachStep hserial (detachStep_cases hstep)

/-- The invariant holds before `mirror()`. -/
theorem StatusInv.init (src : Objects) (snaps : List (String × Objects)) :
    StatusInv (Sys.init src snaps) where
  dir := by simp [Sys.init, World.active]
  mirror := rfl
  worker := rfl
  baseline := by simp [Sys.init, World.readStatus, Status.empty, Status.baseline, Status.get]
  detach := fun _ => trivial

/-- What the invariant says about the fields of the parties. -/
theorem StatusInv.kept {s : Sys} (h : StatusInv s) : StatusKept s := by
  have hm := h.mirror
  refine ⟨fun hret hact => ?_, fun i hwrote hact => ?_, fun hact => h.baseline fun _ => hact,
    fun hret hrun => h.pid_of_running (by simp [hret, MirrorPc.over]) hrun, fun i hpast => ?_⟩
  · simp only [MirrorOk, hret] at hm
    exact hm.1 hact
  · have hok := h.detach i
    have hlive : Live s := fun _ => hact
    cases hd : s.detach i <;> rw [hd] at hok hwrote <;>
      simp [DetachPc.wroteFinalized] at hwrote <;> simp_all [DetachOk, Flagged]
  · have hok := h.detach i
    cases hd : s.detach i <;> rw [hd] at hok hpast <;>
      simp [DetachPc.pastStop] at hpast <;> simp_all [DetachOk]

/-- **No lost update.** In every run in which every `write_status` replaces the file, and none one
that has changed since it was read, and no detach looks for the pid before `mirror()` is over, the
pid, the `finalized` flag and the baseline stay what their writers wrote, and the worker has stopped
before `finalize` copies the final delta. -/
theorem status_kept {be : ObjectDiff g} {dconf : Dconf} {src : Objects}
    {snaps : List (String × Objects)} {acts : List Act} {s : Sys}
    (hrun : Run.run (step be dconf) (Sys.init src snaps) acts = some s)
    (hserial : Run.Along (step be dconf) NoOverlap (Sys.init src snaps) acts) : StatusKept s :=
  (Run.run_invariant (fun _ _ _ h hg hs => StatusInv.step h hg hs) (StatusInv.init src snaps)
    hserial hrun).kept

/-- One pass, and a `finalize` up to its final delta. -/
theorem status_kept_one_pass :
    ∃ s, Run.run (step (ObjectDiff.exact sector) {}) (Sys.init .empty [])
        (List.replicate 10 (Act.mirror {}) ++ List.replicate 7 (Act.worker {}) ++
          List.replicate 9 (Act.detach 0 {}) ++ [Act.worker {}] ++
          List.replicate 2 (Act.detach 0 {})) =
        some s ∧
      s.mirror = .returned ∧ (s.detach 0).pastStop = true ∧ StatusKept s := by
  have hrun : ((Run.checked (step (ObjectDiff.exact sector) {}) NoOverlap (Sys.init .empty [])
      (List.replicate 10 (Act.mirror {}) ++ List.replicate 7 (Act.worker {}) ++
        List.replicate 9 (Act.detach 0 {}) ++ [Act.worker {}] ++
        List.replicate 2 (Act.detach 0 {}))).any
      fun s => decide (s.mirror = .returned) && (s.detach 0).pastStop) = true := by
    decide +kernel
  obtain ⟨s, hrun, hserial, htest⟩ := Run.exists_of_checked hrun
  simp only [Bool.and_eq_true, decide_eq_true_eq] at htest
  exact ⟨s, hrun, htest.1, htest.2, status_kept hrun hserial⟩

/-- The worker reads the status file before `mirror()` records the pid and replaces it after: the
pid is lost, `_stop_worker` does not wait, and `finalize` copies its delta while the worker is in
the copy of its second pass. -/
theorem status_pid_lost :
    ∃ s, Run.run (step (ObjectDiff.exact sector) {}) (Sys.init .empty [])
        (List.replicate 8 (Act.mirror {}) ++ List.replicate 6 (Act.worker {}) ++
          List.replicate 2 (Act.mirror {}) ++ List.replicate 3 (Act.worker {}) ++
          List.replicate 10 (Act.detach 0 {})) = some s ∧
      s.mirror = .returned ∧ s.world.active = true ∧ s.worker.running = true ∧
      s.world.readStatus.pid = none ∧
      s.detach 0 = .finCopy (some "xcp-sxm-0-0") "xcp-sxm-final-0" .diff := by
  have hrun : ((Run.run (step (ObjectDiff.exact sector) {}) (Sys.init .empty [])
      (List.replicate 8 (Act.mirror {}) ++ List.replicate 6 (Act.worker {}) ++
        List.replicate 2 (Act.mirror {}) ++ List.replicate 3 (Act.worker {}) ++
        List.replicate 10 (Act.detach 0 {}))).any
      fun s => decide (s.mirror = .returned) && s.world.active && s.worker.running &&
        decide (s.world.readStatus.pid = none) &&
        decide (s.detach 0 = .finCopy (some "xcp-sxm-0-0") "xcp-sxm-final-0" .diff)) = true := by
    decide +kernel
  simp only [Option.any_eq_true, Bool.and_eq_true, decide_eq_true_eq] at hrun
  obtain ⟨s, hrun, ⟨⟨⟨hret, hact⟩, hworker⟩, hpid⟩, hcopy⟩ := hrun
  exact ⟨s, hrun, hret, hact, hworker, hpid, hcopy⟩

end XcpCephRbd.Blkmirror
