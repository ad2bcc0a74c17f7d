import XcpCephRbd.Blkmirror.Inversion

/-!
# The order of the processes

What holds of the processes and of the state directory in every run: the job is written before any
detach finds it, it lies in the state directory, the worker is spawned once, and a detach that
removes the state has removed the job first. `Ordered.step` proves it of every step.
-/

namespace XcpCephRbd.Blkmirror

variable {g : Geometry}

/-- `mirror()` has not written the job yet. -/
def MirrorPc.beforeJob : MirrorPc → Bool
  | .start | .makedirs | .connect | .writeJob _ => true
  | _ => false

/-- `mirror()` has come past the spawn of the worker, or has raised. -/
def MirrorPc.afterSpawn : MirrorPc → Bool
  | .pidRead | .pidReplace _ | .returned | .raised => true
  | _ => false

/-- A detach that found a job. -/
def DetachPc.entered : DetachPc → Bool
  | .idle | .checkActive | .done _ => false
  | _ => true

/-- A detach that has removed the job. -/
def DetachPc.removing : DetachPc → Bool
  | .rmStatus _ | .rmStop _ | .rmDir _ => true
  | _ => false

/-- What holds of the processes and of the state directory in every run. -/
structure Ordered (s : Sys) : Prop where
  job : s.world.active = true → s.mirror.beforeJob = false
  dir : s.world.active = true → s.world.dir = true
  worker : s.worker ≠ .absent → s.mirror.afterSpawn = true
  entered : ∀ i, (s.detach i).entered = true → s.mirror.beforeJob = false
  removing : ∀ i, (s.detach i).removing = true → s.world.active = false

theorem DetachPc.entered_of_removing {pc : DetachPc} (h : pc.removing = true) :
    pc.entered = true := by
  cases pc <;> simp_all [DetachPc.removing, DetachPc.entered]

/-- There is no worker before its spawn. -/
theorem Ordered.absent {s : Sys} (h : Ordered s) (hbefore : s.mirror.afterSpawn = false) :
    s.worker = .absent := by
  by_contra hne
  simp [h.worker hne] at hbefore

theorem Ordered.mirrorStep {dconf : Dconf} {s s' : Sys} {r : Reply} (h : Ordered s)
    (hstep : MirrorStep dconf r s s') : Ordered s' := by
  have hjob := h.job
  have hworker := h.worker
  have hentered := h.entered
  cases hstep with
  | start hpc | connect hpc =>
      simp [hpc, MirrorPc.beforeJob, MirrorPc.afterSpawn] at hjob hworker hentered
      exact { h with
        job := fun hact => absurd (hjob.symm.trans hact) (by simp)
        worker := by simp [hworker]
        entered := by simp [hentered] }
  | makedirs hpc =>
      simp [hpc, MirrorPc.beforeJob, MirrorPc.afterSpawn] at hjob hworker hentered
      exact { h with
        job := fun hact => absurd (hjob.symm.trans hact) (by simp)
        dir := fun _ => rfl
        worker := by simp [hworker]
        entered := by simp [hentered] }
  | writeJob nbdDev hpc hdir =>
      simp [hpc, MirrorPc.beforeJob, MirrorPc.afterSpawn] at hjob hworker hentered
      refine { h with
        job := fun _ => rfl
        dir := fun _ => hdir
        worker := by simp [hworker]
        entered := by simp [hentered]
        removing := fun i hi => ?_ }
      have hnot := hentered i
      simp [DetachPc.entered_of_removing hi] at hnot
  | statusRead hpc | statusReplace _ hpc | unlinkStop hpc =>
      simp [hpc, MirrorPc.afterSpawn] at hworker
      exact { h with job := fun _ => rfl, worker := by simp [hworker], entered := fun _ _ => rfl }
  | spawn hpc | pidRead hpc | pidReplace _ hpc | raised _ hpc =>
      exact { h with job := fun _ => rfl, worker := fun _ => rfl, entered := fun _ _ => rfl }

theorem Ordered.workerStep {be : ObjectDiff g} {s s' : Sys} {r : Reply} (h : Ordered s)
    (hstep : WorkerStep be r s s') : Ordered s' := by
  obtain ⟨hm, hd⟩ := hstep.frame
  obtain ⟨hrun, hjob, hdir, -⟩ := hstep.frame_world
  have hact : s'.world.active = s.world.active := by simp [World.active, hjob]
  refine ⟨?_, ?_, fun _ => ?_, ?_, ?_⟩
  · simpa [hact, hm] using h.job
  · simpa [hact, hdir] using h.dir
  · rw [hm]
    refine h.worker fun habsent => ?_
    simp [habsent, WorkerPc.running] at hrun
  · simpa [hd, hm] using h.entered
  · simpa [hd, hact] using h.removing

/-- Detach `i` moves on, beside a change of the world that brings no job. -/
theorem Ordered.move {s : Sys} {w : World} (h : Ordered s) (i : Nat) (shots : List Objects)
    {pc : DetachPc} (hjob : w.active = true → s.world.active = true)
    (hdir : w.active = true → s.world.dir = true → w.dir = true)
    (hentered : pc.entered = true → s.mirror.beforeJob = false)
    (hremoving : pc.removing = true → w.active = false) :
    Ordered ({ s with world := w, shots := shots }.setDetach i pc) := by
  refine ⟨fun hact => h.job (hjob hact), fun hact => hdir hact (h.dir (hjob hact)), h.worker,
    fun j hj => ?_, fun j hj => ?_⟩
  · by_cases hji : j = i
    · subst hji
      exact hentered (by simpa using hj)
    · rw [Sys.setDetach_of_ne _ _ _ hji] at hj
      exact h.entered j hj
  · by_cases hji : j = i
    · subst hji
      exact hremoving (by simpa using hj)
    · rw [Sys.setDetach_of_ne _ _ _ hji] at hj
      by_contra hact
      have hactive : w.active = true := by simpa using hact
      simp [h.removing j hj] at hjob
      simp [hjob] at hactive

/-- The end of the worker's process. -/
theorem Ordered.killWorker {s : Sys} (h : Ordered s) : Ordered s.killWorker := by
  unfold Sys.killWorker
  split
  · rename_i hrun
    refine { h with worker := fun _ => h.worker fun habsent => ?_ }
    simp [habsent, WorkerPc.running] at hrun
  · exact h

theorem Ordered.detachStep {be : ObjectDiff g} {s s' : Sys} {i : Nat} {r : Reply} (h : Ordered s)
    (hstep : DetachStep be r s i s') : Ordered s' := by
  have hin := h.entered i
  have hrem := h.removing i
  cases hstep with
  | start hd | inactive hd | finalizedBefore hd | canInactive hd | raised _ hd =>
      exact h.move i s.shots id (fun _ => id) (by simp [DetachPc.entered])
        (by simp [DetachPc.removing])
  | active hd hact =>
      exact h.move i s.shots id (fun _ => id) (fun _ => h.job hact) (by simp [DetachPc.removing])
  | toFinalize hd | toCancel hd | finRead hd | finMerge _ hd | finReplace _ _ hd | finJob _ hd
  | finStop _ hd | finPid _ _ hd | finNoPid _ hd | finGone _ _ hd | finSnapFailed _ hd
  | finCopy _ _ _ _ _ _ hd | finCopied _ _ _ _ _ _ hd | finCopyFailed _ _ _ _ _ hd
  | canActive hd | canStop hd | canPid _ hd | canNoPid hd | canGone _ hd | canJob hd
  | sweepInfo _ hd | sweepEnd _ hd | sweepEndFinalize _ hd | disconnect _ hd =>
      rw [hd] at hin
      exact h.move i s.shots id (fun _ => id) (fun _ => hin rfl) (by simp [DetachPc.removing])
  | finKill _ _ hd | canKill _ hd =>
      rw [hd] at hin
      exact h.killWorker.move i s.killWorker.shots id (fun _ => id)
        (fun _ => by simpa using hin rfl) (by simp [DetachPc.removing])
  | finSnap b w hd hcreate =>
      rw [hd] at hin
      obtain ⟨snaps, rfl⟩ := World.snapCreate_frame hcreate
      exact h.move i _ id (fun _ => id) (fun _ => hin rfl) (by simp [DetachPc.removing])
  | sweepRemove e name rest hd =>
      rw [hd] at hin
      obtain ⟨snaps, hframe⟩ := World.snapRemove_frame s.world name r
      rw [hframe]
      exact h.move i s.shots id (fun _ => id) (fun _ => hin rfl) (by simp [DetachPc.removing])
  | rmJob e hd =>
      rw [hd] at hin
      exact h.move i s.shots (by simp [World.active]) (fun _ => id) (fun _ => hin rfl)
        (fun _ => rfl)
  | rmStatus e hd | rmStop e hd =>
      rw [hd] at hin hrem
      exact h.move i s.shots id (fun _ => id) (fun _ => hin rfl) (fun _ => hrem rfl)
  | rmDir e hd =>
      rw [hd] at hrem
      -- the job was unlinked before, so only an empty directory goes
      exact h.move i s.shots id (fun hact _ => by
        have hnot : s.world.active = false := hrem rfl
        simp [World.active] at hact hnot
        simp [hnot] at hact) (by simp [DetachPc.entered]) (by simp [DetachPc.removing])

/-- A guest operation changes the image only. -/
theorem Ordered.guest {s : Sys} (h : Ordered s) (src : Objects) :
    Ordered { s with world := { s.world with src := src } } := { h with }

theorem Ordered.step {be : ObjectDiff g} {dconf : Dconf} {s s' : Sys} {a : Act} (h : Ordered s)
    (hstep : step be dconf s a = some s') : Ordered s' := by
  cases a with
  | guestWrite off data | guestDiscard off len =>
      simp only [Blkmirror.step, Option.ite_none_right_eq_some, Option.some.injEq] at hstep
      obtain ⟨-, rfl⟩ := hstep
      exact h.guest _
  | mirror r => exact h.mirrorStep (mirrorStep_cases hstep)
  | worker r => exact h.workerStep (workerStep_cases hstep)
  | crash =>
      simp only [Blkmirror.step, Option.ite_none_right_eq_some, Option.some.injEq] at hstep
      exact hstep.2 ▸ h.killWorker
  | detach i r => exact h.detachStep (detachStep_cases hstep)

/-- Before `mirror()` no process has done anything. -/
theorem Ordered.init (src : Objects) (snaps : List (String × Objects)) :
    Ordered (Sys.init src snaps) where
  job := by simp [Sys.init, World.active]
  dir := by simp [Sys.init, World.active]
  worker := by simp [Sys.init]
  entered := by simp [Sys.init, DetachPc.entered]
  removing := by simp [Sys.init, DetachPc.removing]

end XcpCephRbd.Blkmirror
