import XcpCephRbd.Blkmirror.Stat

/-!
# A new mirror over the remains of an earlier one

`_rmstate` removes its files one by one and a `finalize` or `cancel` may be killed on the way, so
`mirror()` can find any of `job.json`, `status.json` and `stop` in the state directory, and where it
was killed in `_stop_worker` the worker of the earlier mirror is still there. `mirror()` rewrites
the job, removes `stop` before it spawns its worker, but merges its fields into the status that is
there, and to a worker that it does not know the `stop` that it removes was meant. `fresh_start_iff`
says for which remains the new mirror is the one that an empty directory gives: those whose status
has no field besides the seven that `mirror()` writes first, and of which no worker is running.
-/

namespace XcpCephRbd.Blkmirror

variable {g : Geometry}

/-- Before a `mirror()` on an image whose state directory may hold anything. -/
def Sys.restart (w : World) : Sys where
  world := w
  mirror := .start
  worker := .absent
  workerPid := 0
  detach := fun _ => .idle
  shots := []
  passed := none

/-- The same image and destination with nothing in the state directory. -/
def World.swept (w : World) : World :=
  { w with dir := false, job := none, status := none, stop := false }

/-- A new mirror beside the worker that an earlier one has left. -/
structure Restart where
  sys : Sys
  old : WorkerPc
  oldPid : Nat

/-- A step of the new mirror, a step of the old worker, or its death. -/
inductive RestartAct where
  | new (a : Act)
  | old (r : Reply)
  | oldCrash

namespace Restart

/-- The remains of an earlier mirror: what it has left of the world, and its worker. -/
def init (w : World) (old : WorkerPc) (oldPid : Nat) : Restart where
  sys := .restart w
  old := old
  oldPid := oldPid

/-- Where a detach goes on that waits in `_stop_worker` for a process which is the old worker. -/
def waitsForOld (x : Restart) (i : Nat) : Option DetachPc :=
  match x.sys.detach i with
  | .finWait baseline pid =>
      if x.old.running && x.oldPid == pid then some (.finSnap baseline) else none
  | .canWait pid => if x.old.running && x.oldPid == pid then some .canJob else none
  | _ => none

/-- One step. Both workers work on the same state directory, image and destination; a detach that
finds the old worker's pid in the status waits for the old worker. -/
def step (be : ObjectDiff g) (dconf : Dconf) (x : Restart) : RestartAct → Option Restart
  | .new (.detach i r) =>
      match x.waitsForOld i with
      | some pc =>
          if r.timeout then
            some { x with sys := x.sys.setDetach i pc, old := .killed x.old.locals }
          else none
      | none => (Blkmirror.step be dconf x.sys (.detach i r)).map fun s => { x with sys := s }
  | .new a => (Blkmirror.step be dconf x.sys a).map fun s => { x with sys := s }
  | .old r =>
      (workerStep be { x.sys with worker := x.old, workerPid := x.oldPid } r).map fun s =>
        { x with
          sys := { s with worker := x.sys.worker, workerPid := x.sys.workerPid }
          old := s.worker }
  | .oldCrash => if x.old.running then some { x with old := .killed x.old.locals } else none

end Restart

/-- The steps of the new mirror among those of a run. -/
def news (acts : List RestartAct) : List Act :=
  acts.filterMap fun
    | .new a => some a
    | _ => none

/-- The steps before a detach, in any interleaving of `mirror()`, the worker, the old worker and the
guest, that lead from the remains `x` to the state `y`. -/
def Reaches (be : ObjectDiff g) (dconf : Dconf) (x : Restart) (acts : List RestartAct)
    (y : Restart) : Prop :=
  Run.run (Restart.step be dconf) x acts = some y ∧ ∀ a ∈ news acts, notDetach a = true

/-- A new mirror over the remains of an earlier one starts from clean state: its worker sees no stop
request, its status once `mirror()` has returned is the one that a start without remains gives, and
the next `finalize`, once called, ends with its final delta copied or by raising. -/
structure FreshStart (be : ObjectDiff g) (dconf : Dconf) (w : World) (old : WorkerPc)
    (oldPid : Nat) : Prop where
  stop : ∀ acts y, Reaches be dconf (.init w old oldPid) acts y → y.sys.worker ≠ .absent →
    y.sys.world.stop = false
  status : ∀ acts y s₀, Reaches be dconf (.init w old oldPid) acts y →
    Run.run (step be dconf) (Sys.restart w.swept) (news acts) = some s₀ →
    y.sys.mirror = .returned →
    ∀ key, y.sys.world.readStatus.get key = s₀.world.readStatus.get key
  finalize : ∀ acts middle later y y₁ y₂ e, Reaches be dconf (.init w old oldPid) acts y →
    y.sys.mirror = .returned → Run.run (Restart.step be dconf) y middle = some y₁ →
    y₁.sys.detach 0 = .finRead → Run.run (Restart.step be dconf) y₁ later = some y₂ →
    (∀ a ∈ news (middle ++ later), soleDetach a = true) →
    y₂.sys.detach 0 = .done e → e = .finalized ∨ e = .raised

/-- Every field of the status is one that `mirror()` writes first. -/
def Overwritten (st : Status) : Prop :=
  ∀ key, (st.get key).isSome = true → (startFields.get key).isSome = true

/-! ## Without remains that survive, the two starts meet -/

/-- A status that is overwritten altogether leaves no trace. -/
theorem Overwritten.update {st : Status} (h : Overwritten st) :
    st.update startFields = startFields := by
  have hnone : st.fields.filter (fun field => (startFields.get field.1).isNone) = [] := by
    rw [List.filter_eq_nil_iff]
    rintro ⟨key, val⟩ hmem
    have hsome : (st.get key).isSome = true := by
      simp only [Status.get, List.lookup_isSome_iff]
      exact ⟨(key, val), hmem, by simp⟩
    simp [Option.isSome_iff_ne_none.mp (h key hsome)]
  simp [Status.update, hnone]

/-- The state of a start over remains beside that of a start without them: what `mirror()` has not
overwritten yet may differ, and nothing does from the spawn on. -/
inductive Meets : Sys → Sys → Prop where
  | start (s : Sys) (dir : Bool) (job : Option Job) (stop : Bool) :
      s.mirror = .start ∨ s.mirror = .makedirs → s.worker = .absent →
      Overwritten s.world.readStatus →
      Meets s { s with
        world := { s.world with dir := dir, job := job, status := none, stop := stop } }
  | connect (s : Sys) (job : Option Job) (stop : Bool) :
      s.mirror = .connect ∨ (∃ nbdDev, s.mirror = .writeJob nbdDev) → s.worker = .absent →
      Overwritten s.world.readStatus →
      Meets s { s with world := { s.world with job := job, status := none, stop := stop } }
  | statusRead (s : Sys) (stop : Bool) : s.mirror = .statusRead → s.worker = .absent →
      Overwritten s.world.readStatus →
      Meets s { s with world := { s.world with status := none, stop := stop } }
  | statusReplace (s : Sys) (seen : Status) (stop : Bool) : s.mirror = .statusReplace seen →
      s.worker = .absent → Overwritten seen →
      Meets s { s with
        mirror := .statusReplace .empty
        world := { s.world with status := none, stop := stop } }
  | unlinkStop (s : Sys) (stop : Bool) : s.mirror = .unlinkStop → s.worker = .absent →
      Meets s { s with world := { s.world with stop := stop } }
  | raised (s s₀ : Sys) : s.mirror = .raised → Meets s s₀
  | same (s : Sys) : Meets s s

/-- A step of `mirror()` brings the two starts closer. -/
theorem Meets.mirrorStep {dconf : Dconf} {s s₀ s' s₀' : Sys} {r : Reply} (h : Meets s s₀)
    (hstep : mirrorStep dconf s r = some s') (hstep₀ : mirrorStep dconf s₀ r = some s₀') :
    Meets s' s₀' := by
  cases h with
  | start dir job stop hm hworker hover =>
      rcases hm with hm | hm
      · simp only [Blkmirror.mirrorStep, hm, Option.some.injEq] at hstep hstep₀
        subst hstep hstep₀
        cases r.ok
        · exact .raised _ _ rfl
        · exact .start _ dir job stop (.inr rfl) hworker hover
      · simp only [Blkmirror.mirrorStep, hm] at hstep hstep₀
        cases hok : r.ok <;> simp only [hok, if_true, Bool.false_eq_true, if_false,
          Option.some.injEq] at hstep hstep₀ <;> subst hstep hstep₀
        · exact .raised _ _ rfl
        · exact .connect _ job stop (.inl rfl) hworker hover
  | connect job stop hm hworker hover =>
      rcases hm with hm | ⟨nbdDev, hm⟩
      · simp only [Blkmirror.mirrorStep, hm] at hstep hstep₀
        cases hok : r.ok <;> simp only [hok, if_true, Bool.false_eq_true, if_false,
          Option.some.injEq] at hstep hstep₀ <;> subst hstep hstep₀
        · exact .raised _ _ rfl
        · exact .connect _ job stop (.inr ⟨_, rfl⟩) hworker hover
      · simp only [Blkmirror.mirrorStep, hm] at hstep hstep₀
        cases hdir : r.ok && s.world.dir <;> simp only [hdir, if_true, Bool.false_eq_true, if_false,
          Option.some.injEq] at hstep hstep₀ <;> subst hstep hstep₀
        · exact .raised _ _ rfl
        · exact .statusRead _ stop rfl hworker hover
  | statusRead stop hm hworker hover =>
      simp only [Blkmirror.mirrorStep, hm, Option.some.injEq] at hstep hstep₀
      subst hstep hstep₀
      exact .statusReplace _ _ stop rfl hworker hover
  | statusReplace seen stop hm hworker hover =>
      -- both merges leave the seven start fields and nothing else
      have hempty : Overwritten .empty := by simp [Overwritten, Status.empty, Status.get]
      simp only [Blkmirror.mirrorStep, hm, World.replaceStatus, hover.update, hempty.update]
        at hstep hstep₀
      cases hdir : r.ok && s.world.dir <;> simp only [hdir, if_true, Bool.false_eq_true, if_false,
        Option.some.injEq] at hstep hstep₀ <;> subst hstep hstep₀
      · exact .raised _ _ rfl
      · exact .unlinkStop _ stop rfl hworker
  | unlinkStop stop hm hworker =>
      simp only [Blkmirror.mirrorStep, hm, Option.some.injEq] at hstep hstep₀
      subst hstep hstep₀
      exact .same _
  | raised _ hm => simp [Blkmirror.mirrorStep, hm] at hstep
  | same =>
      cases hstep.symm.trans hstep₀
      exact .same _

/-- Every step before a detach keeps the two starts together. -/
theorem Meets.step {be : ObjectDiff g} {dconf : Dconf} {s s₀ s' s₀' : Sys} {a : Act}
    (h : Meets s s₀) (ha : notDetach a = true) (hstep : step be dconf s a = some s')
    (hstep₀ : step be dconf s₀ a = some s₀') : Meets s' s₀' := by
  cases a with
  | detach i r => simp [notDetach] at ha
  | mirror r => exact h.mirrorStep hstep hstep₀
  | guestWrite off data | guestDiscard off len =>
      simp only [Blkmirror.step, Option.ite_none_right_eq_some, Option.some.injEq] at hstep hstep₀
      obtain ⟨-, rfl⟩ := hstep
      obtain ⟨-, rfl⟩ := hstep₀
      cases h with
      | start dir job stop hm hworker hover => exact .start _ dir job stop hm hworker hover
      | connect job stop hm hworker hover => exact .connect _ job stop hm hworker hover
      | statusRead stop hm hworker hover => exact .statusRead _ stop hm hworker hover
      | statusReplace seen stop hm hworker hover =>
          exact .statusReplace _ seen stop hm hworker hover
      | unlinkStop stop hm hworker => exact .unlinkStop _ stop hm hworker
      | raised _ hm => exact .raised _ _ hm
      | same => exact .same _
  | worker r =>
      cases h with
      | start _ _ _ _ hworker | connect _ _ _ hworker | statusRead _ _ hworker
      | statusReplace _ _ _ hworker | unlinkStop _ _ hworker =>
          simp [Blkmirror.step, workerStep, hworker] at hstep
      | raised _ hm => exact .raised _ _ ((workerStep_cases hstep).frame.1.trans hm)
      | same =>
          cases hstep.symm.trans hstep₀
          exact .same _
  | crash =>
      cases h with
      | start _ _ _ _ hworker | connect _ _ _ hworker | statusRead _ _ hworker
      | statusReplace _ _ _ hworker | unlinkStop _ _ hworker =>
          simp [Blkmirror.step, hworker, WorkerPc.running] at hstep
      | raised _ hm =>
          simp only [Blkmirror.step, Option.ite_none_right_eq_some, Option.some.injEq] at hstep
          obtain ⟨-, rfl⟩ := hstep
          exact .raised _ _ (by simpa using hm)
      | same =>
          cases hstep.symm.trans hstep₀
          exact .same _

/-! ## The stop request -/

/-- Before a detach nothing sets the stop request that `mirror()` has removed. -/
structure Unstopped (s : Sys) : Prop where
  stop : s.mirror = .spawn ∨ s.worker ≠ .absent → s.world.stop = false
  worker : s.worker ≠ .absent → s.mirror.afterSpawn = true

theorem Unstopped.step {be : ObjectDiff g} {dconf : Dconf} {s s' : Sys} {a : Act}
    (h : Unstopped s) (ha : notDetach a = true) (hstep : step be dconf s a = some s') :
    Unstopped s' := by
  cases a with
  | detach i r => simp [notDetach] at ha
  | guestWrite off data | guestDiscard off len =>
      simp only [Blkmirror.step, Option.ite_none_right_eq_some, Option.some.injEq] at hstep
      obtain ⟨-, rfl⟩ := hstep
      exact { h with }
  | mirror r =>
      have hstop := h.stop
      have hworker := h.worker
      cases mirrorStep_cases hstep with
      | unlinkStop hm =>
          simp [hm, MirrorPc.afterSpawn] at hworker
          exact ⟨fun _ => rfl, by simp [hworker]⟩
      | spawn hm => exact ⟨fun _ => hstop (.inl hm), fun _ => rfl⟩
      | pidRead hm | pidReplace _ hm | raised _ hm =>
          exact ⟨fun hw => hstop (.inr (hw.resolve_left (by simp))), fun _ => rfl⟩
      | start hm | makedirs hm | connect hm | writeJob _ hm | statusRead hm | statusReplace _ hm =>
          simp [hm, MirrorPc.afterSpawn] at hworker
          exact ⟨by simp [hworker], by simp [hworker]⟩
  | worker r =>
      have hcases := workerStep_cases hstep
      obtain ⟨hrun, -, -, hstop⟩ := hcases.frame_world
      have hworker : s.worker ≠ .absent := fun habsent => by
        simp [habsent, WorkerPc.running] at hrun
      refine ⟨fun _ => hstop.trans (h.stop (.inr hworker)), fun _ => ?_⟩
      rw [hcases.frame.1]
      exact h.worker hworker
  | crash =>
      simp only [Blkmirror.step, Option.ite_none_right_eq_some, Option.some.injEq] at hstep
      obtain ⟨hrun, rfl⟩ := hstep
      have hworker : s.worker ≠ .absent := fun habsent => by
        simp [habsent, WorkerPc.running] at hrun
      exact ⟨fun _ => by simpa using h.stop (.inr hworker), fun _ => by
        simpa using h.worker hworker⟩

/-! ## The flag of an earlier `finalize` -/

/-- The status does not carry the flag of a `finalize`. -/
def Unflagged (st : Status) : Prop := truthy (st.get "finalized") = false

/-- A detach whose `finalize` has not set the flag yet. -/
def DetachPc.beforeFlag : DetachPc → Bool
  | .idle | .checkActive | .checkStatus | .finRead | .finMerge _ | .finReplace _ _ => true
  | _ => false

/-- As long as the first `finalize` has not set the flag, no status in use carries it. -/
structure Unfinalized (s : Sys) : Prop where
  others : ∀ j, j ≠ 0 → s.detach j = .idle
  file : (s.detach 0).beforeFlag = true → Unflagged s.world.readStatus
  mirror : (s.detach 0).beforeFlag = true → ∀ r, ∀ seen ∈ rewrites s (.mirror r), Unflagged seen
  worker : (s.detach 0).beforeFlag = true → ∀ r, ∀ seen ∈ rewrites s (.worker r), Unflagged seen
  outcome : (s.detach 0).outcome ≠ some .finalizedBefore

theorem Unfinalized.mirrorStep {dconf : Dconf} {s s' : Sys} {r : Reply} (h : Unfinalized s)
    (hstep : MirrorStep dconf r s s') : Unfinalized s' := by
  have hmirror := h.mirror
  cases hstep with
  | start | makedirs | connect | writeJob | unlinkStop | raised =>
      exact { h with mirror := by simp [rewrites] }
  | spawn => exact { h with mirror := by simp [rewrites], worker := by simp [rewrites] }
  | statusRead | pidRead =>
      refine { h with mirror := fun hbefore _ seen hseen => ?_ }
      simp only [rewrites, Option.mem_def, Option.some.injEq] at hseen
      exact hseen ▸ h.file hbefore
  | statusReplace seen hm | pidReplace seen hm =>
      refine { h with file := fun hbefore => ?_, mirror := by simp [rewrites] }
      have hseen := hmirror hbefore r seen (by simp [rewrites, hm])
      simpa [Unflagged, World.readStatus] using hseen

theorem Unfinalized.workerStep {be : ObjectDiff g} {s s' : Sys} {r : Reply} (h : Unfinalized s)
    (hstep : WorkerStep be r s s') : Unfinalized s' := by
  have hworker := h.worker
  cases hstep with
  | statusRead | failRead =>
      refine { h with worker := fun hbefore _ seen hseen => ?_ }
      simp only [rewrites, Option.mem_def, Option.some.injEq] at hseen
      exact hseen ▸ h.file hbefore
  | statusReplace _ _ _ seen hw | failReplace _ seen hw =>
      refine { h with file := fun hbefore => ?_, worker := by simp [rewrites] }
      have hseen := hworker hbefore r seen (by simp [rewrites, hw])
      simpa [Unflagged, World.readStatus] using hseen
  | create job l w hw hcreate =>
      obtain ⟨snaps, rfl⟩ := World.snapCreate_frame hcreate
      exact { h with worker := by simp [rewrites] }
  | reap job l snap old n hw =>
      obtain ⟨snaps, hframe⟩ := World.snapRemove_frame s.world old r
      rw [hframe]
      exact { h with worker := by simp [rewrites] }
  | _ => exact { h with worker := by simp [rewrites] }

/-- The first detach moves on; where it has not set the flag, the status stays as it is. -/
theorem Unfinalized.move {s : Sys} {w : World} (h : Unfinalized s) (shots : List Objects)
    {pc : DetachPc} (hbefore : pc.beforeFlag = true →
      (s.detach 0).beforeFlag = true ∧ w.readStatus = s.world.readStatus)
    (houtcome : pc.outcome ≠ some .finalizedBefore) :
    Unfinalized ({ s with world := w, shots := shots }.setDetach 0 pc) where
  others j hj := by
    rw [Sys.setDetach_of_ne _ _ _ hj]
    exact h.others j hj
  file hpc := by
    obtain ⟨hold, hsame⟩ := hbefore (by simpa using hpc)
    have hfile := h.file hold
    rwa [← hsame] at hfile
  mirror hpc := h.mirror (hbefore (by simpa using hpc)).1
  worker hpc := h.worker (hbefore (by simpa using hpc)).1
  outcome := by simpa using houtcome

theorem Unfinalized.killWorker {s : Sys} (h : Unfinalized s) : Unfinalized s.killWorker := by
  unfold Sys.killWorker
  split
  · exact { h with worker := by simp [rewrites] }
  · exact h

theorem Unfinalized.detachStep {be : ObjectDiff g} {s s' : Sys} {r : Reply} (h : Unfinalized s)
    (hstep : DetachStep be r s 0 s') : Unfinalized s' := by
  have hout := h.outcome
  cases hstep with
  | start hd | active hd | toFinalize hd | finRead hd | finMerge _ hd =>
      exact h.move s.shots (fun _ => ⟨by simp [hd, DetachPc.beforeFlag], rfl⟩)
        (by simp [DetachPc.outcome])
  | finalizedBefore hd hflag =>
      have hfile := h.file (by rw [hd]; rfl)
      simp [Unflagged, hflag] at hfile
  | finKill | canKill =>
      exact h.killWorker.move s.killWorker.shots (by simp [DetachPc.beforeFlag])
        (by simp [DetachPc.outcome])
  | finSnap => exact h.move _ (by simp [DetachPc.beforeFlag]) (by simp [DetachPc.outcome])
  | sweepInfo e hd | sweepEnd e hd | sweepEndFinalize e hd | sweepRemove e _ _ hd
  | disconnect e hd | rmJob e hd | rmStatus e hd | rmStop e hd | rmDir e hd =>
      rw [hd] at hout
      exact h.move s.shots (by simp [DetachPc.beforeFlag]) hout
  | _ => exact h.move s.shots (by simp [DetachPc.beforeFlag]) (by simp [DetachPc.outcome])

theorem Unfinalized.step {be : ObjectDiff g} {dconf : Dconf} {s s' : Sys} {a : Act}
    (h : Unfinalized s) (hsole : soleDetach a = true) (hstep : step be dconf s a = some s') :
    Unfinalized s' := by
  cases a with
  | guestWrite off data | guestDiscard off len =>
      simp only [Blkmirror.step, Option.ite_none_right_eq_some, Option.some.injEq] at hstep
      obtain ⟨-, rfl⟩ := hstep
      exact { h with }
  | mirror r => exact h.mirrorStep (mirrorStep_cases hstep)
  | worker r => exact h.workerStep (workerStep_cases hstep)
  | crash =>
      simp only [Blkmirror.step, Option.ite_none_right_eq_some, Option.some.injEq] at hstep
      exact hstep.2 ▸ h.killWorker
  | detach i r =>
      obtain rfl : i = 0 := by simpa [soleDetach] using hsole
      exact h.detachStep (detachStep_cases hstep)

/-- A detach in `finalize`, ending with its delta copied or by raising. -/
def DetachPc.shipping : DetachPc → Bool
  | .finRead | .finMerge _ | .finReplace _ _ | .finJob _ | .finStop _ | .finPid _ | .finWait _ _
  | .finSnap _ | .finCopy _ _ _ => true
  | .sweepInfo e | .sweep e _ | .disconnect e | .rmJob e | .rmStatus e | .rmStop e | .rmDir e
  | .done e => e == .finalized || e == .raised
  | _ => false

/-- A `finalize` leaves its path only where the flag is set already. -/
theorem DetachStep.shipping {be : ObjectDiff g} {s s' : Sys} {i : Nat} {r : Reply}
    (hstep : DetachStep be r s i s') (h : (s.detach i).shipping = true)
    (hflag : s.detach i = .finRead → Unflagged s.world.readStatus) :
    (s'.detach i).shipping = true := by
  cases hstep with
  | finalizedBefore hd hset =>
      have hunset := hflag hd
      simp [Unflagged, hset] at hunset
  | raised pc hd hpc => simp [DetachPc.shipping]
  | _ => simp_all [DetachPc.shipping]

/-- The first `finalize` has been called and is on its path. -/
def Shipping (s : Sys) : Prop := Unfinalized s ∧ (s.detach 0).shipping = true

theorem Shipping.step {be : ObjectDiff g} {dconf : Dconf} {s s' : Sys} {a : Act}
    (h : Shipping s) (hsole : soleDetach a = true)
    (hstep : Blkmirror.step be dconf s a = some s') : Shipping s' := by
  obtain ⟨h, hship⟩ := h
  refine ⟨h.step hsole hstep, ?_⟩
  cases a with
  | detach i r =>
      obtain rfl : i = 0 := by simpa [soleDetach] using hsole
      exact (detachStep_cases hstep).shipping hship fun hd => h.file (by rw [hd]; rfl)
  | _ =>
      rw [step_detach rfl hstep]
      exact hship

/-! ## The whole start -/

/-! ## The old worker -/

/-- From here the worker can come to report a failure. -/
def CanFail (be : ObjectDiff g) (s : Sys) : Prop :=
  ∃ replies s', Run.run (workerStep be) s replies = some s' ∧
    truthy (s'.world.readStatus.get "failed") = true

namespace CanFail

variable {be : ObjectDiff g} {s : Sys} {l : Locals} {job : Job} {snap : String}

theorem of_step {s' : Sys} {r : Reply} (h : workerStep be s r = some s') (hnext : CanFail be s') :
    CanFail be s := by
  obtain ⟨replies, last, hrun, hfailed⟩ := hnext
  exact ⟨r :: replies, last, Run.run_cons_iff.mpr ⟨s', h, hrun⟩, hfailed⟩

theorem failReplace {seen : Status} (hw : s.worker = .failReplace l seen)
    (hdir : s.world.dir = true) : CanFail be s := by
  have hstep : workerStep be s {} = some { s with
      world := { s.world with status := some (seen.update (failFields l "")) }
      worker := .exited l true } := by
    simp [workerStep, hw, World.replaceStatus, hdir]
  exact ⟨[{}], _, Run.run_cons_iff.mpr ⟨_, hstep, rfl⟩, by simp [World.readStatus, truthy]⟩

theorem failRead (hw : s.worker = .failRead l) (hdir : s.world.dir = true) : CanFail be s := by
  have hstep : workerStep be s {} =
      some { s with worker := .failReplace l s.world.readStatus } := by
    simp [workerStep, hw]
  exact of_step hstep (failReplace rfl hdir)

theorem create (hw : s.worker = .create job l) (hdir : s.world.dir = true) : CanFail be s := by
  have hstep : workerStep be s { ok := false } = some { s with worker := .failRead l } := by
    simp [workerStep, hw, World.snapCreate]
  exact of_step hstep (failRead rfl hdir)

theorem test (hw : s.worker = .test job l) (hdir : s.world.dir = true)
    (hstop : s.world.stop = false) :
    CanFail be s := by
  have hstep : workerStep be s {} = some { s with worker := .create job l } := by
    simp [workerStep, hw, hstop]
  exact of_step hstep (create rfl hdir)

theorem statusReplace {n : Nat} {seen : Status} (hw : s.worker = .statusReplace job l n seen)
    (hdir : s.world.dir = true) : CanFail be s := by
  have hstep : workerStep be s { ok := false } = some { s with worker := .failRead l } := by
    simp [workerStep, hw, World.replaceStatus]
  exact of_step hstep (failRead rfl hdir)

theorem statusRead {n : Nat} (hw : s.worker = .statusRead job l n) (hdir : s.world.dir = true) :
    CanFail be s := by
  have hstep : workerStep be s {} =
      some { s with worker := .statusReplace job l n s.world.readStatus } := by
    simp [workerStep, hw]
  exact of_step hstep (statusReplace rfl hdir)

theorem reap {n : Nat} (hw : s.worker = .reap job l snap n) (hdir : s.world.dir = true) :
    CanFail be s := by
  have hstep : workerStep be s { ok := false } =
      some { s with worker := .statusRead job (l.advance job snap n) n } := by
    cases hb : l.baseline <;> simp [workerStep, hw, hb, World.snapRemove]
  exact of_step hstep (statusRead rfl hdir)

theorem copyUnmap {result : Option Nat} (hw : s.worker = .copy job l snap (.unmap result))
    (hdir : s.world.dir = true) : CanFail be s := by
  cases result with
  | none =>
      have hstep : workerStep be s { ok := false } = some { s with worker := .failRead l } := by
        simp [workerStep, hw, copyStep, World.unmapSnap]
      exact of_step hstep (failRead rfl hdir)
  | some n =>
      have hstep :
          workerStep be s { ok := false } = some { s with worker := .reap job l snap n } := by
        simp [workerStep, hw, copyStep, World.unmapSnap]
      exact of_step hstep (reap rfl hdir)

theorem copyClose {result : Option Nat} (hw : s.worker = .copy job l snap (.close result))
    (hdir : s.world.dir = true) : CanFail be s := by
  have hstep : workerStep be s {} = some { s with worker := .copy job l snap (.unmap result) } := by
    simp [workerStep, hw, copyStep, World.fsync]
  exact of_step hstep (copyUnmap rfl hdir)

/-- The loop comes to its end, or to a `pread` that fails. -/
theorem copyLoop {extents : List (Nat × Nat)} {pos stop total : Nat}
    (hw : s.worker = .copy job l snap (.loop extents pos stop total))
    (hdir : s.world.dir = true) : CanFail be s := by
  induction extents generalizing s pos stop with
  | nil =>
      have hstep : ∃ result, workerStep be s { ok := false } =
          some { s with worker := .copy job l snap (.close result) } := by
        by_cases hlt : pos < stop
        · refine ⟨none, ?_⟩
          cases himg : s.world.snapshot snap <;> simp [workerStep, hw, copyStep, hlt, himg]
        · exact ⟨some total, by simp [workerStep, hw, copyStep, hlt]⟩
      obtain ⟨result, hstep⟩ := hstep
      exact of_step hstep (copyClose rfl hdir)
  | cons e rest ih =>
      by_cases hlt : pos < stop
      · have hstep : workerStep be s { ok := false } =
            some { s with worker := .copy job l snap (.close none) } := by
          cases himg : s.world.snapshot snap <;> simp [workerStep, hw, copyStep, hlt, himg]
        exact of_step hstep (copyClose rfl hdir)
      · have hstep : workerStep be s {} =
            some { s with worker := .copy job l snap (.loop rest e.1 (e.1 + e.2) total) } := by
          simp [workerStep, hw, copyStep, hlt]
        exact of_step hstep (ih rfl hdir)

theorem copy {pc : CopyPc} (hw : s.worker = .copy job l snap pc) (hdir : s.world.dir = true) :
    CanFail be s := by
  cases pc with
  | diff =>
      have hstep : workerStep be s { ok := false } = some { s with worker := .failRead l } := by
        cases hbefore : s.world.baselineObjects l.baseline <;>
          cases hafter : s.world.snapshot snap <;>
          simp [workerStep, hw, copyStep, hbefore, hafter]
      exact of_step hstep (failRead rfl hdir)
  | map extents | openDevices extents =>
      have hstep : workerStep be s { ok := false } = some { s with worker := .failRead l } := by
        simp [workerStep, hw, copyStep, World.mapSnap, World.mapFailed]
      exact of_step hstep (failRead rfl hdir)
  | loop => exact copyLoop hw hdir
  | close => exact copyClose hw hdir
  | unmap => exact copyUnmap hw hdir

/-- A running worker whose job is there and who sees no stop request may fail wherever it stands. -/
theorem of_running (hrun : s.worker.running = true) (hjob : s.world.active = true)
    (hdir : s.world.dir = true) (hstop : s.world.stop = false) : CanFail be s := by
  cases hw : s.worker with
  | absent | exited | killed =>
      rw [hw] at hrun
      cases hrun
  | readJob =>
      obtain ⟨job, hjob⟩ := Option.isSome_iff_exists.mp hjob
      have hstep : workerStep be s {} = some { s with worker := .test job {} } := by
        simp [workerStep, hw, hjob]
      exact of_step hstep (test rfl hdir hstop)
  | test => exact test hw hdir hstop
  | create => exact create hw hdir
  | copy => exact copy hw hdir
  | reap => exact reap hw hdir
  | statusRead => exact statusRead hw hdir
  | statusReplace => exact statusReplace hw hdir
  | failRead => exact failRead hw hdir
  | failReplace => exact failReplace hw hdir

end CanFail

/-- A run of the old worker alone. -/
theorem Restart.run_old {be : ObjectDiff g} {dconf : Dconf} {x : Restart} {s' : Sys}
    {replies : List Reply}
    (h : Run.run (workerStep be) { x.sys with worker := x.old, workerPid := x.oldPid } replies =
      some s') :
    ∃ y, Run.run (Restart.step be dconf) x (replies.map RestartAct.old) = some y ∧
      y.sys.world = s'.world ∧ y.sys.mirror = x.sys.mirror := by
  induction replies generalizing x with
  | nil =>
      cases h
      exact ⟨x, rfl, rfl, rfl⟩
  | cons r rest ih =>
      obtain ⟨next, hstep, hrest⟩ := Run.run_cons_iff.mp h
      have hcases := workerStep_cases hstep
      have hpid : next.workerPid = x.oldPid := by
        cases hcases <;> rfl
      have hsame : next = { next with worker := next.worker, workerPid := x.oldPid } := by
        rw [← hpid]
      rw [hsame] at hrest
      obtain ⟨y, hy, hworld, hmirror⟩ := @ih
        { x with
          sys := { next with worker := x.sys.worker, workerPid := x.sys.workerPid }
          old := next.worker } hrest
      refine ⟨y, Run.run_cons_iff.mpr ⟨_, ?_, hy⟩, hworld, hmirror.trans hcases.frame.1⟩
      rw [Restart.step, hstep]
      rfl

/-- Where the old worker has ended, nothing is left of it to take a step. -/
theorem Restart.run_of_ended {be : ObjectDiff g} {dconf : Dconf} {x y : Restart}
    {acts : List RestartAct} (hended : x.old.running = false)
    (hrun : Run.run (Restart.step be dconf) x acts = some y) :
    Run.run (Blkmirror.step be dconf) x.sys (news acts) = some y.sys ∧ y.old = x.old := by
  induction acts generalizing x with
  | nil =>
      cases hrun
      exact ⟨rfl, rfl⟩
  | cons a rest ih =>
      obtain ⟨next, hstep, hrest⟩ := Run.run_cons_iff.mp hrun
      have hnew : ∃ b, a = .new b ∧ Blkmirror.step be dconf x.sys b = some next.sys ∧
          next.old = x.old := by
        cases a with
        | old r =>
            obtain ⟨s', hworker, -⟩ := Option.map_eq_some_iff.mp hstep
            have hrunning := (workerStep_cases hworker).frame_world.1
            exact absurd (hrunning.symm.trans hended) (by simp)
        | oldCrash => simp [Restart.step, hended] at hstep
        | new b =>
            refine ⟨b, rfl, ?_⟩
            have hwaits : ∀ i, x.waitsForOld i = none := by
              intro i
              unfold Restart.waitsForOld
              split <;> simp [hended]
            cases b with
            | detach i r =>
                simp only [Restart.step, hwaits] at hstep
                obtain ⟨s', hs', rfl⟩ := Option.map_eq_some_iff.mp hstep
                exact ⟨hs', rfl⟩
            | _ =>
                obtain ⟨s', hs', rfl⟩ := Option.map_eq_some_iff.mp hstep
                exact ⟨hs', rfl⟩
      obtain ⟨b, rfl, hsys, hold⟩ := hnew
      obtain ⟨hrest', hold'⟩ := ih (hold ▸ hended) hrest
      exact ⟨Run.run_cons_iff.mpr ⟨next.sys, hsys, hrest'⟩, hold'.trans hold⟩

/-! ## The whole start -/

/-- The steps of `mirror()`, every call succeeding and its worker getting another pid. -/
def mirrorCalls (oldPid : Nat) : List Act := List.replicate 10 (Act.mirror { pid := oldPid + 1 })

theorem notDetach_of_mem_mirrorCalls {oldPid : Nat} : ∀ a ∈ mirrorCalls oldPid,
    notDetach a = true := by
  intro a ha
  rw [List.eq_of_mem_replicate ha]
  rfl

/-- `mirror()` alone. -/
theorem mirror_alone (be : ObjectDiff g) (dconf : Dconf) (w : World) (pid : Nat) :
    ∃ s, Run.run (step be dconf) (Sys.restart w) (mirrorCalls pid) = some s ∧
      s.mirror = .returned ∧ s.world.active = true ∧ s.world.dir = true ∧ s.world.stop = false ∧
      s.world.readStatus = (w.readStatus.update startFields).update (pidFields (pid + 1)) :=
  ⟨_, rfl, rfl, rfl, rfl, rfl, rfl⟩

/-- The same beside the old worker, which takes no step. -/
theorem Restart.run_new {be : ObjectDiff g} {dconf : Dconf} {x : Restart} {s' : Sys}
    {acts : List Act}
    (hnot : ∀ a ∈ acts, notDetach a = true)
    (h : Run.run (Blkmirror.step be dconf) x.sys acts = some s') :
    Run.run (Restart.step be dconf) x (acts.map RestartAct.new) = some { x with sys := s' } := by
  induction acts generalizing x with
  | nil =>
      cases h
      rfl
  | cons a rest ih =>
      obtain ⟨next, hstep, hrest⟩ := Run.run_cons_iff.mp h
      refine Run.run_cons_iff.mpr ⟨{ x with sys := next }, ?_, ?_⟩
      · cases a with
        | detach i r => exact absurd (hnot _ List.mem_cons_self) (by simp [notDetach])
        | _ => simp [Restart.step, hstep]
      · exact ih (fun b hb => hnot b (List.mem_cons_of_mem _ hb)) hrest

@[simp] theorem news_new (acts : List Act) : news (acts.map RestartAct.new) = acts := by
  simp [news, List.filterMap_map]

@[simp] theorem news_old (replies : List Reply) : news (replies.map RestartAct.old) = [] := by
  simp [news, List.filterMap_map]

theorem news_append (first second : List RestartAct) :
    news (first ++ second) = news first ++ news second := by
  simp [news]

/-- A field that `mirror()` does not write first survives a start. -/
theorem field_survives {st : Status} {key : String} {pid : Nat}
    (hkey : startFields.get key = none) :
    ((st.update startFields).update (pidFields pid)).get key = st.get key := by
  have hpid : (pidFields pid).get key = none := by
    simp only [startFields, pidFields, Status.get, List.lookup_eq_none_iff] at hkey ⊢
    simp_all
  simp [hkey, hpid]

/-- Over remains whose status has a field of its own the new status has it too. -/
theorem FreshStart.overwritten {be : ObjectDiff g} {dconf : Dconf} {w : World} {old : WorkerPc}
    {oldPid : Nat} (hfresh : FreshStart be dconf w old oldPid) : Overwritten w.readStatus := by
  intro key hkey
  obtain ⟨s, hrun, hret, -, -, -, hstatus⟩ := mirror_alone be dconf w oldPid
  obtain ⟨s₀, hrun₀, -, -, -, -, hstatus₀⟩ := mirror_alone be dconf w.swept oldPid
  by_contra hstart
  have hnone : startFields.get key = none := by simpa using hstart
  have hsame := hfresh.status _ { sys := s, old, oldPid } s₀
    ⟨Restart.run_new notDetach_of_mem_mirrorCalls hrun, by
      rw [news_new]
      exact notDetach_of_mem_mirrorCalls⟩ (by rwa [news_new]) hret key
  rw [hstatus, hstatus₀, field_survives hnone, field_survives hnone] at hsame
  have hgone : w.swept.readStatus.get key = none := rfl
  simp [hsame, hgone] at hkey

/-- An old worker that is still running may report its failure in the new status. -/
theorem FreshStart.not_running {be : ObjectDiff g} {dconf : Dconf} {w : World} {old : WorkerPc}
    {oldPid : Nat} (hfresh : FreshStart be dconf w old oldPid) : old.running = false := by
  by_contra hrunning
  obtain ⟨s, hrun, hret, hact, hdir, hstop, -⟩ := mirror_alone be dconf w oldPid
  obtain ⟨s₀, hrun₀, -, -, -, -, hstatus₀⟩ := mirror_alone be dconf w.swept oldPid
  have hcan : CanFail be { s with worker := old, workerPid := oldPid } :=
    .of_running (by simpa using hrunning) hact hdir hstop
  obtain ⟨replies, s', hold, hfailed⟩ := hcan
  obtain ⟨y, hy, hworld, hmirror⟩ :
      ∃ y, Run.run (Restart.step be dconf) ⟨s, old, oldPid⟩ (replies.map .old) = some y ∧
        y.sys.world = s'.world ∧ y.sys.mirror = s.mirror := Restart.run_old hold
  have hnews : news ((mirrorCalls oldPid).map .new ++ replies.map .old) = mirrorCalls oldPid := by
    rw [news_append, news_new, news_old, List.append_nil]
  have hreach : Reaches be dconf (.init w old oldPid)
      ((mirrorCalls oldPid).map .new ++ replies.map .old) y := by
    refine ⟨Run.run_append_iff.mpr ⟨_, Restart.run_new notDetach_of_mem_mirrorCalls hrun, hy⟩, ?_⟩
    rw [hnews]
    exact notDetach_of_mem_mirrorCalls
  have hsame := hfresh.status _ y s₀ hreach (hnews.symm ▸ hrun₀) (hmirror.trans hret) "failed"
  rw [hworld] at hsame
  rw [hsame, hstatus₀] at hfailed
  simp [Status.get_mk, startFields, List.lookup_cons, truthy] at hfailed

/-- **A clean start.** A new mirror over the remains of an earlier one starts from clean state
exactly when the status among the remains has no field besides those that `mirror()` writes first,
and the earlier mirror's worker is not running any more. -/
theorem fresh_start_iff {be : ObjectDiff g} {dconf : Dconf} {w : World} {old : WorkerPc}
    {oldPid : Nat} :
    FreshStart be dconf w old oldPid ↔ Overwritten w.readStatus ∧ old.running = false := by
  constructor
  · exact fun hfresh => ⟨hfresh.overwritten, hfresh.not_running⟩
  · rintro ⟨hover, hended⟩
    refine ⟨fun acts y hreach hworker => ?_, fun acts y s₀ hreach hrun₀ hret key => ?_,
      fun acts middle later y y₁ y₂ e hreach _ hmiddle hread hlater hsole hdone => ?_⟩
    -- the stop file: it is absent from the spawn on, whatever was there before
    · have hinit : Unstopped (Sys.restart w) := ⟨by simp [Sys.restart], by simp [Sys.restart]⟩
      have hguard : Run.Along (step be dconf) (fun _ a => notDetach a = true) (Sys.restart w)
          (news acts) := Run.along_of_forall hreach.2
      have hstopped : Unstopped y.sys :=
        Run.run_invariant (fun _ _ _ h ha hs => Unstopped.step h ha hs) hinit hguard
          (Restart.run_of_ended hended hreach.1).1
      exact hstopped.stop (.inr hworker)
    -- the status: the start runs in step with one over an empty directory
    · have hinit : Meets (Sys.restart w) (Sys.restart w.swept) :=
        .start (Sys.restart w) false none false (.inl rfl) rfl hover
      have hmeets : Meets y.sys s₀ :=
        Run.run_relation (fun _ _ _ _ _ h (ha : notDetach _ = true) hs hs₀ => h.step ha hs hs₀)
          hinit hreach.2 (Restart.run_of_ended hended hreach.1).1 hrun₀
      generalize y.sys = s at hret hmeets
      cases hmeets with
      | same => rfl
      | _ => simp_all
    -- the next `finalize`: no `finalized` flag ends it early, and no other detach sets one
    · have hfile : Unflagged w.readStatus := by
        have hflag : w.readStatus.get "finalized" = none := by
          by_contra hsome
          simpa using hover "finalized" (Option.isSome_iff_ne_none.mpr hsome)
        simp [Unflagged, hflag, truthy]
      have hinit : Unfinalized (Sys.restart w) :=
        ⟨fun _ _ => rfl, fun _ => hfile, by simp [Sys.restart, rewrites],
          by simp [Sys.restart, rewrites], by simp [Sys.restart, DetachPc.outcome]⟩
      rw [news_append] at hsole
      obtain ⟨hfirst, hold⟩ := Restart.run_of_ended hended hreach.1
      obtain ⟨hsecond, hold₁⟩ := Restart.run_of_ended (hold ▸ hended) hmiddle
      obtain ⟨hthird, -⟩ := Restart.run_of_ended (hold₁ ▸ hold ▸ hended) hlater
      have hall : ∀ a ∈ news acts ++ news middle, soleDetach a = true := by
        intro a ha
        rcases List.mem_append.mp ha with ha | ha
        · have hnot := hreach.2 a ha
          cases a <;> simp_all [notDetach, soleDetach]
        · exact hsole a (List.mem_append_left _ ha)
      have hrun : Run.run (step be dconf) (Sys.restart w) (news acts ++ news middle) =
          some y₁.sys :=
        Run.run_append_iff.mpr ⟨y.sys, hfirst, hsecond⟩
      have hguard : Run.Along (step be dconf) (fun _ a => soleDetach a = true) (Sys.restart w)
          (news acts ++ news middle) := Run.along_of_forall hall
      have hcalled : Unfinalized y₁.sys :=
        Run.run_invariant (fun _ _ _ h ha hs => Unfinalized.step h ha hs) hinit hguard hrun
      have hguard' :
          Run.Along (step be dconf) (fun _ a => soleDetach a = true) y₁.sys (news later) :=
        Run.along_of_forall fun a ha => hsole a (List.mem_append_right _ ha)
      have hstart : Shipping y₁.sys := ⟨hcalled, by rw [hread]; rfl⟩
      have hlast : Shipping y₂.sys :=
        Run.run_invariant (fun _ _ _ h ha hs => Shipping.step h ha hs) hstart hguard' hthird
      simpa [hdone, DetachPc.shipping] using hlast.2

/-- What a `finalize` that is killed after it has set its flag leaves behind, the worker dying with
it: the job, the stop request not yet made, and a status that carries `finalized`. -/
def interrupted : List Act :=
  List.replicate 10 (Act.mirror {}) ++ List.replicate 7 (Act.worker {}) ++
    List.replicate 6 (Act.detach 0 {}) ++ [Act.crash]

/-- Over such remains the `finalize` of the next mirror returns without copying anything. -/
theorem finalize_returns_early_over_remains :
    ∃ left y y₁ y₂, Run.run (step (ObjectDiff.exact sector) {}) (Sys.init .empty []) interrupted =
        some left ∧
      Reaches (ObjectDiff.exact sector) {} (.init left.world left.worker left.workerPid)
        ((List.replicate 10 (Act.mirror { pid := 2 }) ++
          List.replicate 7 (Act.worker { now := 1 })).map .new) y ∧
      y.sys.mirror = .returned ∧
      Run.run (Restart.step (ObjectDiff.exact sector) {}) y
        (List.replicate 3 (.new (.detach 0 {}))) = some y₁ ∧
      y₁.sys.detach 0 = .finRead ∧
      Run.run (Restart.step (ObjectDiff.exact sector) {}) y₁ [.new (.detach 0 {})] = some y₂ ∧
      y₂.sys.detach 0 = .done .finalizedBefore ∧
      ¬ FreshStart (ObjectDiff.exact sector) {} left.world left.worker left.workerPid := by
  have hrun : ((Run.run (step (ObjectDiff.exact sector) {}) (Sys.init .empty []) interrupted).any
      fun left => (Run.run (Restart.step (ObjectDiff.exact sector) {})
        (.init left.world left.worker left.workerPid)
        ((List.replicate 10 (Act.mirror { pid := 2 }) ++
          List.replicate 7 (Act.worker { now := 1 })).map .new)).any
      fun y => decide (y.sys.mirror = .returned) &&
        (Run.run (Restart.step (ObjectDiff.exact sector) {}) y
          (List.replicate 3 (.new (.detach 0 {})))).any
      fun y₁ => decide (y₁.sys.detach 0 = .finRead) &&
        (Run.run (Restart.step (ObjectDiff.exact sector) {}) y₁ [.new (.detach 0 {})]).any
      fun y₂ => decide (y₂.sys.detach 0 = .done .finalizedBefore)) = true := by
    decide +kernel
  simp only [Option.any_eq_true, Bool.and_eq_true, decide_eq_true_eq] at hrun
  obtain ⟨left, hleft, y, hy, hret, y₁, hy₁, hread, y₂, hy₂, hdone⟩ := hrun
  refine ⟨left, y, y₁, y₂, hleft, ⟨hy, by decide⟩, hret, hy₁, hread, hy₂, hdone, fun hfresh => ?_⟩
  have hend := hfresh.finalize _ _ _ y y₁ y₂ _ ⟨hy, by decide⟩ hret hy₁ hread hy₂ (by decide) hdone
  simp at hend

end XcpCephRbd.Blkmirror
