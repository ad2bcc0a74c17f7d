import XcpCephRbd.Blkmirror.Copy
import XcpCephRbd.Blkmirror.System

/-!
# What one step can do

`mirrorStep`, `workerStep` and `detachStep` inverted: every step that is taken is one of the
listed cases, with its guards and its exact effect. The invariants of the mirror are proved by
cases on these relations and never unfold the step functions.
-/

namespace XcpCephRbd.Blkmirror

variable {g : Geometry}

/-- The steps of `mirror()`. -/
inductive MirrorStep (dconf : Dconf) (r : Reply) (s : Sys) : Sys → Prop where
  | start : s.mirror = .start → MirrorStep dconf r s { s with mirror := .makedirs }
  | makedirs : s.mirror = .makedirs →
      MirrorStep dconf r s { s with mirror := .connect, world := { s.world with dir := true } }
  | connect : s.mirror = .connect →
      MirrorStep dconf r s
        { s with mirror := .writeJob r.nbdDev, world := { s.world with nbd := true } }
  | writeJob (nbdDev : String) : s.mirror = .writeJob nbdDev → s.world.dir = true →
      MirrorStep dconf r s
        { s with
          mirror := .statusRead
          world := { s.world with job := some (.ofDconf dconf nbdDev) } }
  | statusRead : s.mirror = .statusRead →
      MirrorStep dconf r s { s with mirror := .statusReplace s.world.readStatus }
  | statusReplace (seen : Status) : s.mirror = .statusReplace seen → s.world.dir = true →
      MirrorStep dconf r s
        { s with
          mirror := .unlinkStop
          world := { s.world with status := some (seen.update startFields) } }
  | unlinkStop : s.mirror = .unlinkStop →
      MirrorStep dconf r s { s with mirror := .spawn, world := { s.world with stop := false } }
  | spawn : s.mirror = .spawn → r.pid ≠ 0 →
      MirrorStep dconf r s { s with mirror := .pidRead, worker := .readJob, workerPid := r.pid }
  | pidRead : s.mirror = .pidRead →
      MirrorStep dconf r s { s with mirror := .pidReplace s.world.readStatus }
  | pidReplace (seen : Status) : s.mirror = .pidReplace seen → s.world.dir = true →
      MirrorStep dconf r s
        { s with
          mirror := .returned
          world := { s.world with status := some (seen.update (pidFields s.workerPid)) } }
  /-- A call fails, or the state directory is gone where `mirror()` needs it. -/
  | raised (pc : MirrorPc) : s.mirror = pc →
      (pc = .start ∨ pc = .makedirs ∨ pc = .connect ∨ pc = .spawn) ∨
        (r.ok = false ∨ s.world.dir = false) ∧ ((∃ nbdDev, pc = .writeJob nbdDev) ∨
          ∃ seen, pc = .statusReplace seen ∨ pc = .pidReplace seen) →
      MirrorStep dconf r s { s with mirror := .raised }

/-- A file of the state directory that cannot be written. -/
theorem not_written {r : Reply} {dir : Bool} (h : ¬(r.ok && dir) = true) :
    r.ok = false ∨ dir = false := by
  simpa [Classical.or_iff_not_imp_left] using h

theorem mirrorStep_cases {dconf : Dconf} {s s' : Sys} {r : Reply}
    (h : mirrorStep dconf s r = some s') : MirrorStep dconf r s s' := by
  unfold mirrorStep at h
  cases hm : s.mirror with
  | returned | raised => simp [hm] at h
  | start =>
      simp only [hm, Option.some.injEq] at h
      subst h
      split
      · exact .start hm
      · exact .raised _ hm (.inl (.inl rfl))
  | makedirs =>
      simp only [hm] at h
      split at h <;> cases h
      · exact .makedirs hm
      · exact .raised _ hm (.inl (.inr (.inl rfl)))
  | connect =>
      simp only [hm] at h
      split at h <;> cases h
      · exact .connect hm
      · exact .raised _ hm (.inl (.inr (.inr (.inl rfl))))
  | writeJob nbdDev =>
      simp only [hm] at h
      by_cases hdir : (r.ok && s.world.dir) = true
      · simp only [if_pos hdir, Option.some.injEq] at h
        exact h ▸ .writeJob nbdDev hm (Bool.and_eq_true_iff.mp hdir).2
      · simp only [if_neg hdir, Option.some.injEq] at h
        exact h ▸ .raised _ hm (.inr ⟨not_written hdir, .inl ⟨nbdDev, rfl⟩⟩)
  | statusRead =>
      simp only [hm, Option.some.injEq] at h
      exact h ▸ .statusRead hm
  | statusReplace seen =>
      simp only [hm, World.replaceStatus] at h
      by_cases hdir : (r.ok && s.world.dir) = true
      · simp only [if_pos hdir, Option.some.injEq] at h
        exact h ▸ .statusReplace seen hm (Bool.and_eq_true_iff.mp hdir).2
      · simp only [if_neg hdir, Option.some.injEq] at h
        exact h ▸ .raised _ hm (.inr ⟨not_written hdir, .inr ⟨seen, .inl rfl⟩⟩)
  | unlinkStop =>
      simp only [hm, Option.some.injEq] at h
      exact h ▸ .unlinkStop hm
  | spawn =>
      simp only [hm] at h
      split at h <;> cases h
      · rename_i hok
        simp only [Bool.and_eq_true, bne_iff_ne] at hok
        exact .spawn hm hok.2
      · exact .raised _ hm (.inl (.inr (.inr (.inr rfl))))
  | pidRead =>
      simp only [hm, Option.some.injEq] at h
      exact h ▸ .pidRead hm
  | pidReplace seen =>
      simp only [hm, World.replaceStatus] at h
      by_cases hdir : (r.ok && s.world.dir) = true
      · simp only [if_pos hdir, Option.some.injEq] at h
        exact h ▸ .pidReplace seen hm (Bool.and_eq_true_iff.mp hdir).2
      · simp only [if_neg hdir, Option.some.injEq] at h
        exact h ▸ .raised _ hm (.inr ⟨not_written hdir, .inr ⟨seen, .inr rfl⟩⟩)

/-- The steps of the worker. In a copy, `maps` and `dst` are all that changes of the world. -/
inductive WorkerStep (be : ObjectDiff g) (r : Reply) (s : Sys) : Sys → Prop where
  | readJob (job : Job) : s.worker = .readJob → s.world.job = some job →
      WorkerStep be r s { s with worker := .test job {} }
  | noJob : s.worker = .readJob → s.world.job = none →
      WorkerStep be r s { s with worker := .exited {} true }
  | stopSeen (job : Job) (l : Locals) : s.worker = .test job l → s.world.stop = true →
      WorkerStep be r s { s with worker := .exited l false }
  | pass (job : Job) (l : Locals) : s.worker = .test job l → s.world.stop = false →
      WorkerStep be r s { s with worker := .create job l }
  | create (job : Job) (l : Locals) (w : World) : s.worker = .create job l →
      s.world.snapCreate (passSnap r.now l.iters) r = some w →
      WorkerStep be r s
        { s with
          world := w
          shots := s.world.src :: s.shots
          worker := .copy job l (passSnap r.now l.iters) .diff }
  | createFailed (job : Job) (l : Locals) : s.worker = .create job l →
      s.world.snapCreate (passSnap r.now l.iters) r = none →
      WorkerStep be r s { s with worker := .failRead l }
  | copy (job : Job) (l : Locals) (snap : String) (pc pc' : CopyPc) (maps : List String)
      (dst : Nat → UInt8) : s.worker = .copy job l snap pc →
      copyStep be s.world l.baseline snap pc r =
        ({ s.world with maps := maps, dst := dst }, .goto pc') →
      WorkerStep be r s
        { s with
          world := { s.world with maps := maps, dst := dst }
          worker := .copy job l snap pc' }
  | copied (job : Job) (l : Locals) (snap : String) (pc : CopyPc) (n : Nat) (maps : List String)
      (dst : Nat → UInt8) : s.worker = .copy job l snap pc →
      copyStep be s.world l.baseline snap pc r =
        ({ s.world with maps := maps, dst := dst }, .returned n) →
      WorkerStep be r s
        { s with
          world := { s.world with maps := maps, dst := dst }
          worker := .reap job l snap n }
  | copyFailed (job : Job) (l : Locals) (snap : String) (pc : CopyPc) (maps : List String)
      (dst : Nat → UInt8) : s.worker = .copy job l snap pc →
      copyStep be s.world l.baseline snap pc r =
        ({ s.world with maps := maps, dst := dst }, .raised) →
      WorkerStep be r s
        { s with world := { s.world with maps := maps, dst := dst }, worker := .failRead l }
  | firstPass (job : Job) (l : Locals) (snap : String) (n : Nat) :
      s.worker = .reap job l snap n → l.baseline = none →
      WorkerStep be r s { s with worker := .statusRead job (l.advance job snap n) n }
  | reap (job : Job) (l : Locals) (snap old : String) (n : Nat) :
      s.worker = .reap job l snap n → l.baseline = some old →
      WorkerStep be r s
        { s with
          world := (s.world.snapRemove old r).getD s.world
          worker := .statusRead job (l.advance job snap n) n }
  | statusRead (job : Job) (l : Locals) (n : Nat) : s.worker = .statusRead job l n →
      WorkerStep be r s { s with worker := .statusReplace job l n s.world.readStatus }
  | statusReplace (job : Job) (l : Locals) (n : Nat) (seen : Status) :
      s.worker = .statusReplace job l n seen → s.world.dir = true →
      WorkerStep be r s
        { s with
          world := { s.world with status := some (seen.update (passFields l n)) }
          passed := l.baseline
          worker := .test job l }
  | statusFailed (job : Job) (l : Locals) (n : Nat) (seen : Status) :
      s.worker = .statusReplace job l n seen → r.ok = false ∨ s.world.dir = false →
      WorkerStep be r s { s with worker := .failRead l }
  | failRead (l : Locals) : s.worker = .failRead l →
      WorkerStep be r s { s with worker := .failReplace l s.world.readStatus }
  | failReplace (l : Locals) (seen : Status) : s.worker = .failReplace l seen →
      s.world.dir = true →
      WorkerStep be r s
        { s with
          world := { s.world with status := some (seen.update (failFields l r.error)) }
          worker := .exited l true }
  | failUnreported (l : Locals) (seen : Status) : s.worker = .failReplace l seen →
      r.ok = false ∨ s.world.dir = false → WorkerStep be r s { s with worker := .exited l true }

theorem workerStep_cases {be : ObjectDiff g} {s s' : Sys} {r : Reply}
    (h : workerStep be s r = some s') : WorkerStep be r s s' := by
  unfold workerStep at h
  cases hw : s.worker with
  | absent | exited _ _ | killed _ => simp [hw] at h
  | readJob =>
      simp only [hw] at h
      cases hjob : s.world.job <;> simp only [hjob, Option.some.injEq] at h
      · exact h ▸ .noJob hw hjob
      · exact h ▸ .readJob _ hw hjob
  | test job l =>
      simp only [hw, Option.some.injEq] at h
      cases hstop : s.world.stop <;> simp only [hstop, if_true, Bool.false_eq_true, if_false] at h
      · exact h ▸ .pass job l hw hstop
      · exact h ▸ .stopSeen job l hw hstop
  | create job l =>
      simp only [hw] at h
      cases hc : s.world.snapCreate (passSnap r.now l.iters) r with
      | none =>
          simp only [hc, Option.some.injEq] at h
          exact h ▸ .createFailed job l hw hc
      | some w =>
          simp only [hc, Option.some.injEq] at h
          exact h ▸ .create job l w hw hc
  | copy job l snap pc =>
      simp only [hw] at h
      obtain ⟨maps, dst, hframe⟩ := World.copyStep_frame be s.world l.baseline snap pc r
      cases hc : copyStep be s.world l.baseline snap pc r with
      | mk w next =>
          simp only [hc] at hframe h
          subst hframe
          cases next with
          | goto pc' =>
              simp only [Option.some.injEq] at h
              exact h ▸ .copy job l snap pc pc' maps dst hw hc
          | returned n =>
              simp only [Option.some.injEq] at h
              exact h ▸ .copied job l snap pc n maps dst hw hc
          | raised =>
              simp only [Option.some.injEq] at h
              exact h ▸ .copyFailed job l snap pc maps dst hw hc
  | reap job l snap n =>
      simp only [hw, Option.some.injEq] at h
      cases hb : l.baseline with
      | none =>
          simp only [hb] at h
          exact h ▸ .firstPass job l snap n hw hb
      | some old =>
          simp only [hb] at h
          exact h ▸ .reap job l snap old n hw hb
  | statusRead job l n =>
      simp only [hw, Option.some.injEq] at h
      exact h ▸ .statusRead job l n hw
  | statusReplace job l n seen =>
      simp only [hw, World.replaceStatus] at h
      by_cases hdir : (r.ok && s.world.dir) = true
      · simp only [if_pos hdir, Option.some.injEq] at h
        exact h ▸ .statusReplace job l n seen hw (Bool.and_eq_true_iff.mp hdir).2
      · simp only [if_neg hdir, Option.some.injEq] at h
        exact h ▸ .statusFailed job l n seen hw (not_written hdir)
  | failRead l =>
      simp only [hw, Option.some.injEq] at h
      exact h ▸ .failRead l hw
  | failReplace l seen =>
      simp only [hw, World.replaceStatus, Option.some.injEq] at h
      by_cases hdir : (r.ok && s.world.dir) = true
      · simp only [if_pos hdir, Option.getD_some] at h
        exact h ▸ .failReplace l seen hw (Bool.and_eq_true_iff.mp hdir).2
      · simp only [if_neg hdir, Option.getD_none] at h
        exact h ▸ .failUnreported l seen hw (not_written hdir)

/-- The steps of detach `i`. -/
inductive DetachStep (be : ObjectDiff g) (r : Reply) (s : Sys) (i : Nat) : Sys → Prop where
  | start : s.detach i = .idle → DetachStep be r s i (s.setDetach i .checkActive)
  | active : s.detach i = .checkActive → s.world.active = true →
      DetachStep be r s i (s.setDetach i .checkStatus)
  | inactive : s.detach i = .checkActive → s.world.active = false →
      DetachStep be r s i (s.setDetach i (.done .noMirror))
  | toFinalize : s.detach i = .checkStatus → truthy (s.world.readStatus.get "complete") = true →
      truthy (s.world.readStatus.get "failed") = false →
      DetachStep be r s i (s.setDetach i .finRead)
  | toCancel : s.detach i = .checkStatus →
      (truthy (s.world.readStatus.get "complete") = false ∨
        truthy (s.world.readStatus.get "failed") = true) →
      DetachStep be r s i (s.setDetach i .canActive)
  | finalizedBefore : s.detach i = .finRead →
      truthy (s.world.readStatus.get "finalized") = true →
      DetachStep be r s i (s.setDetach i (.done .finalizedBefore))
  | finRead : s.detach i = .finRead → truthy (s.world.readStatus.get "finalized") = false →
      DetachStep be r s i (s.setDetach i (.finMerge s.world.readStatus.baseline))
  | finMerge (b : Option String) : s.detach i = .finMerge b →
      DetachStep be r s i (s.setDetach i (.finReplace b s.world.readStatus))
  | finReplace (b : Option String) (seen : Status) : s.detach i = .finReplace b seen →
      s.world.dir = true →
      DetachStep be r s i ({ s with
        world := { s.world with status := some (seen.update finalizeFields) } }.setDetach i
          (.finJob b))
  | finJob (b : Option String) : s.detach i = .finJob b → s.world.active = true →
      DetachStep be r s i (s.setDetach i (.finStop b))
  | finStop (b : Option String) : s.detach i = .finStop b → s.world.dir = true →
      DetachStep be r s i
        ({ s with world := { s.world with stop := true } }.setDetach i (.finPid b))
  | finPid (b : Option String) (pid : Nat) : s.detach i = .finPid b →
      s.world.readStatus.pid = some pid → DetachStep be r s i (s.setDetach i (.finWait b pid))
  | finNoPid (b : Option String) : s.detach i = .finPid b → s.world.readStatus.pid = none →
      DetachStep be r s i (s.setDetach i (.finSnap b))
  | finKill (b : Option String) (pid : Nat) : s.detach i = .finWait b pid →
      s.alive pid = true → DetachStep be r s i (s.killWorker.setDetach i (.finSnap b))
  | finGone (b : Option String) (pid : Nat) : s.detach i = .finWait b pid →
      s.alive pid = false → DetachStep be r s i (s.setDetach i (.finSnap b))
  | finSnap (b : Option String) (w : World) : s.detach i = .finSnap b →
      s.world.snapCreate (finalSnap r.now) r = some w →
      DetachStep be r s i ({ s with world := w, shots := s.world.src :: s.shots }.setDetach i
        (.finCopy b (finalSnap r.now) .diff))
  | finSnapFailed (b : Option String) : s.detach i = .finSnap b →
      s.world.snapCreate (finalSnap r.now) r = none →
      DetachStep be r s i (s.setDetach i (.sweepInfo .raised))
  | finCopy (b : Option String) (final : String) (pc pc' : CopyPc) (maps : List String)
      (dst : Nat → UInt8) : s.detach i = .finCopy b final pc →
      copyStep be s.world b final pc r =
        ({ s.world with maps := maps, dst := dst }, .goto pc') →
      DetachStep be r s i ({ s with
        world := { s.world with maps := maps, dst := dst } }.setDetach i (.finCopy b final pc'))
  | finCopied (b : Option String) (final : String) (pc : CopyPc) (n : Nat) (maps : List String)
      (dst : Nat → UInt8) : s.detach i = .finCopy b final pc →
      copyStep be s.world b final pc r =
        ({ s.world with maps := maps, dst := dst }, .returned n) →
      DetachStep be r s i ({ s with
        world := { s.world with maps := maps, dst := dst } }.setDetach i (.sweepInfo .finalized))
  | finCopyFailed (b : Option String) (final : String) (pc : CopyPc) (maps : List String)
      (dst : Nat → UInt8) : s.detach i = .finCopy b final pc →
      copyStep be s.world b final pc r =
        ({ s.world with maps := maps, dst := dst }, .raised) →
      DetachStep be r s i ({ s with
        world := { s.world with maps := maps, dst := dst } }.setDetach i (.sweepInfo .raised))
  | canActive : s.detach i = .canActive → s.world.active = true →
      DetachStep be r s i (s.setDetach i .canStop)
  | canInactive : s.detach i = .canActive → s.world.active = false →
      DetachStep be r s i (s.setDetach i (.done .noMirror))
  | canStop : s.detach i = .canStop → s.world.dir = true →
      DetachStep be r s i ({ s with world := { s.world with stop := true } }.setDetach i .canPid)
  | canPid (pid : Nat) : s.detach i = .canPid → s.world.readStatus.pid = some pid →
      DetachStep be r s i (s.setDetach i (.canWait pid))
  | canNoPid : s.detach i = .canPid → s.world.readStatus.pid = none →
      DetachStep be r s i (s.setDetach i .canJob)
  | canKill (pid : Nat) : s.detach i = .canWait pid → s.alive pid = true →
      DetachStep be r s i (s.killWorker.setDetach i .canJob)
  | canGone (pid : Nat) : s.detach i = .canWait pid → s.alive pid = false →
      DetachStep be r s i (s.setDetach i .canJob)
  | canJob : s.detach i = .canJob →
      DetachStep be r s i ({ s with
        world := { s.world with nbd := s.world.nbd && !s.world.active } }.setDetach i
          (.sweepInfo .cancelled))
  | sweepInfo (e : Outcome) : s.detach i = .sweepInfo e →
      DetachStep be r s i (s.setDetach i (.sweep e (if r.ok then s.world.sxmSnaps else [])))
  | sweepEnd (e : Outcome) : s.detach i = .sweep e [] → e = .cancelled →
      DetachStep be r s i (s.setDetach i (.rmJob e))
  | sweepEndFinalize (e : Outcome) : s.detach i = .sweep e [] → e ≠ .cancelled →
      DetachStep be r s i (s.setDetach i (.disconnect e))
  | sweepRemove (e : Outcome) (name : String) (rest : List String) :
      s.detach i = .sweep e (name :: rest) →
      DetachStep be r s i ({ s with
        world := (s.world.snapRemove name r).getD s.world }.setDetach i (.sweep e rest))
  | disconnect (e : Outcome) : s.detach i = .disconnect e →
      DetachStep be r s i ({ s with world := { s.world with nbd := false } }.setDetach i (.rmJob e))
  | rmJob (e : Outcome) : s.detach i = .rmJob e →
      DetachStep be r s i
        ({ s with world := { s.world with job := none } }.setDetach i (.rmStatus e))
  | rmStatus (e : Outcome) : s.detach i = .rmStatus e →
      DetachStep be r s i
        ({ s with world := { s.world with status := none } }.setDetach i (.rmStop e))
  | rmStop (e : Outcome) : s.detach i = .rmStop e →
      DetachStep be r s i
        ({ s with world := { s.world with stop := false } }.setDetach i (.rmDir e))
  | rmDir (e : Outcome) : s.detach i = .rmDir e →
      DetachStep be r s i ({ s with
        world := { s.world with
          dir := s.world.dir && (s.world.active || s.world.status.isSome || s.world.stop) }
        }.setDetach i (.done e))
  /-- A file operation fails before the `try` of `finalize`, or in `cancel`, or the state directory
  or the job is gone there. -/
  | raised (pc : DetachPc) : s.detach i = pc →
      (r.ok = false ∨ s.world.dir = false) ∧
          ((∃ b seen, pc = .finReplace b seen) ∨ (∃ b, pc = .finStop b) ∨ pc = .canStop) ∨
        (r.ok = false ∨ s.world.active = false) ∧ (∃ b, pc = .finJob b) →
      DetachStep be r s i (s.setDetach i (.done .raised))

theorem detachStep_cases {be : ObjectDiff g} {s s' : Sys} {i : Nat} {r : Reply}
    (h : detachStep be s i r = some s') : DetachStep be r s i s' := by
  unfold detachStep at h
  cases hd : s.detach i with
  | done e => simp [hd] at h
  | idle =>
      simp only [hd, Option.some.injEq] at h
      exact h ▸ .start hd
  | checkActive =>
      simp only [hd, Option.some.injEq] at h
      by_cases hact : s.world.active = true
      · rw [if_pos hact] at h
        exact h ▸ .active hd hact
      · rw [if_neg hact] at h
        exact h ▸ .inactive hd (by simpa using hact)
  | checkStatus =>
      simp only [hd, Option.some.injEq] at h
      by_cases hst : (truthy (s.world.readStatus.get "complete") &&
          !truthy (s.world.readStatus.get "failed")) = true
      · rw [if_pos hst] at h
        simp only [Bool.and_eq_true, Bool.not_eq_true'] at hst
        exact h ▸ .toFinalize hd hst.1 hst.2
      · rw [if_neg hst] at h
        exact h ▸ .toCancel hd (by simpa [-not_and, Classical.not_and_iff_not_or_not] using hst)
  | finRead =>
      simp only [hd, Option.some.injEq] at h
      by_cases hfin : truthy (s.world.readStatus.get "finalized") = true
      · rw [if_pos hfin] at h
        exact h ▸ .finalizedBefore hd hfin
      · rw [if_neg hfin] at h
        exact h ▸ .finRead hd (by simpa using hfin)
  | finMerge b =>
      simp only [hd, Option.some.injEq] at h
      exact h ▸ .finMerge b hd
  | finReplace b seen =>
      simp only [hd, World.replaceStatus] at h
      by_cases hdir : (r.ok && s.world.dir) = true
      · simp only [if_pos hdir, Option.some.injEq] at h
        exact h ▸ .finReplace b seen hd (Bool.and_eq_true_iff.mp hdir).2
      · simp only [if_neg hdir, Option.some.injEq] at h
        exact h ▸ .raised _ hd (.inl ⟨not_written hdir, .inl ⟨b, seen, rfl⟩⟩)
  | finJob b =>
      simp only [hd, Option.some.injEq] at h
      by_cases hact : (r.ok && s.world.active) = true
      · rw [if_pos hact] at h
        exact h ▸ .finJob b hd (Bool.and_eq_true_iff.mp hact).2
      · rw [if_neg hact] at h
        exact h ▸ .raised _ hd (.inr ⟨not_written hact, b, rfl⟩)
  | finStop b =>
      simp only [hd] at h
      by_cases hdir : (r.ok && s.world.dir) = true
      · simp only [if_pos hdir, Option.some.injEq] at h
        exact h ▸ .finStop b hd (Bool.and_eq_true_iff.mp hdir).2
      · simp only [if_neg hdir, Option.some.injEq] at h
        exact h ▸ .raised _ hd (.inl ⟨not_written hdir, .inr (.inl ⟨b, rfl⟩)⟩)
  | finPid b =>
      simp only [hd] at h
      cases hpid : s.world.readStatus.pid with
      | none =>
          simp only [hpid, Option.some.injEq] at h
          exact h ▸ .finNoPid b hd hpid
      | some pid =>
          simp only [hpid, Option.some.injEq] at h
          exact h ▸ .finPid b pid hd hpid
  -- the wait ends by itself when the worker is gone, or by the kill after the timeout
  | finWait b pid =>
      simp only [hd] at h
      by_cases halive : s.alive pid = true
      · rw [if_pos halive] at h
        split at h <;> cases h
        exact .finKill b pid hd halive
      · simp only [if_neg halive, Option.some.injEq] at h
        exact h ▸ .finGone b pid hd (by simpa using halive)
  | finSnap b =>
      simp only [hd] at h
      cases hc : s.world.snapCreate (finalSnap r.now) r with
      | none =>
          simp only [hc, Option.some.injEq] at h
          exact h ▸ .finSnapFailed b hd hc
      | some w =>
          simp only [hc, Option.some.injEq] at h
          exact h ▸ .finSnap b w hd hc
  | finCopy b final pc =>
      simp only [hd] at h
      obtain ⟨maps, dst, hframe⟩ := World.copyStep_frame be s.world b final pc r
      cases hc : copyStep be s.world b final pc r with
      | mk w next =>
          simp only [hc] at hframe h
          subst hframe
          cases next with
          | goto pc' =>
              simp only [Option.some.injEq] at h
              exact h ▸ .finCopy b final pc pc' maps dst hd hc
          | returned n =>
              simp only [Option.some.injEq] at h
              exact h ▸ .finCopied b final pc n maps dst hd hc
          | raised =>
              simp only [Option.some.injEq] at h
              exact h ▸ .finCopyFailed b final pc maps dst hd hc
  | canActive =>
      simp only [hd, Option.some.injEq] at h
      by_cases hact : s.world.active = true
      · rw [if_pos hact] at h
        exact h ▸ .canActive hd hact
      · rw [if_neg hact] at h
        exact h ▸ .canInactive hd (by simpa using hact)
  | canStop =>
      simp only [hd] at h
      by_cases hdir : (r.ok && s.world.dir) = true
      · simp only [if_pos hdir, Option.some.injEq] at h
        exact h ▸ .canStop hd (Bool.and_eq_true_iff.mp hdir).2
      · simp only [if_neg hdir, Option.some.injEq] at h
        exact h ▸ .raised _ hd (.inl ⟨not_written hdir, .inr (.inr rfl)⟩)
  | canPid =>
      simp only [hd] at h
      cases hpid : s.world.readStatus.pid with
      | none =>
          simp only [hpid, Option.some.injEq] at h
          exact h ▸ .canNoPid hd hpid
      | some pid =>
          simp only [hpid, Option.some.injEq] at h
          exact h ▸ .canPid pid hd hpid
  | canWait pid =>
      simp only [hd] at h
      by_cases halive : s.alive pid = true
      · rw [if_pos halive] at h
        split at h <;> cases h
        exact .canKill pid hd halive
      · simp only [if_neg halive, Option.some.injEq] at h
        exact h ▸ .canGone pid hd (by simpa using halive)
  | canJob =>
      simp only [hd, Option.some.injEq] at h
      exact h ▸ .canJob hd
  | sweepInfo e =>
      simp only [hd, Option.some.injEq] at h
      exact h ▸ .sweepInfo e hd
  | sweep e names =>
      cases names with
      | nil =>
          simp only [hd, Option.some.injEq] at h
          by_cases he : e = .cancelled
          · rw [if_pos he] at h
            exact h ▸ .sweepEnd e hd he
          · rw [if_neg he] at h
            exact h ▸ .sweepEndFinalize e hd he
      | cons name rest =>
          simp only [hd, Option.some.injEq] at h
          exact h ▸ .sweepRemove e name rest hd
  | disconnect e =>
      simp only [hd, Option.some.injEq] at h
      exact h ▸ .disconnect e hd
  | rmJob e =>
      simp only [hd, Option.some.injEq] at h
      exact h ▸ .rmJob e hd
  | rmStatus e =>
      simp only [hd, Option.some.injEq] at h
      exact h ▸ .rmStatus e hd
  | rmStop e =>
      simp only [hd, Option.some.injEq] at h
      exact h ▸ .rmStop e hd
  | rmDir e =>
      simp only [hd, Option.some.injEq] at h
      exact h ▸ .rmDir e hd

/-! ## What the steps leave alone -/

/-- A step of the worker changes neither `mirror()` nor a detach. -/
theorem WorkerStep.frame {be : ObjectDiff g} {s s' : Sys} {r : Reply}
    (h : WorkerStep be r s s') : s'.mirror = s.mirror ∧ s'.detach = s.detach := by
  cases h <;> exact ⟨rfl, rfl⟩

/-- A step of the worker is that of a running process, and leaves the state directory, the job and
the stop request alone. -/
theorem WorkerStep.frame_world {be : ObjectDiff g} {s s' : Sys} {r : Reply}
    (h : WorkerStep be r s s') :
    s.worker.running = true ∧ s'.world.job = s.world.job ∧ s'.world.dir = s.world.dir ∧
      s'.world.stop = s.world.stop := by
  cases h with
  | create job l w hw hcreate =>
      obtain ⟨snaps, rfl⟩ := World.snapCreate_frame hcreate
      exact ⟨by simp [hw, WorkerPc.running], rfl, rfl, rfl⟩
  | reap job l snap old n hw =>
      obtain ⟨snaps, hframe⟩ := World.snapRemove_frame s.world old r
      exact ⟨by simp [hw, WorkerPc.running], by simp [hframe], by simp [hframe], by simp [hframe]⟩
  | _ => exact ⟨by simp [*, WorkerPc.running], rfl, rfl, rfl⟩

/-- A detach leaves `mirror()` alone and the worker too, unless it kills it. -/
theorem DetachStep.frame {be : ObjectDiff g} {s s' : Sys} {i : Nat} {r : Reply}
    (h : DetachStep be r s i s') :
    s'.mirror = s.mirror ∧ (s'.worker = s.worker ∨ s'.worker = .killed s.worker.locals) := by
  cases h with
  | finKill b pid _ halive | canKill pid _ halive =>
      simp only [Sys.alive, Bool.and_eq_true] at halive
      simp [Sys.killWorker, Sys.setDetach, halive.1]
  | _ => exact ⟨rfl, .inl rfl⟩

/-- A step of a detach leaves the other detaches alone. -/
theorem DetachStep.detach_of_ne {be : ObjectDiff g} {s s' : Sys} {i j : Nat} {r : Reply}
    (h : DetachStep be r s i s') (hj : j ≠ i) : s'.detach j = s.detach j := by
  cases h <;> simp [Sys.setDetach_of_ne _ _ _ hj]

/-- The label is no step of a detach. -/
def notDetach : Act → Bool
  | .detach _ _ => false
  | _ => true

/-- Only its own steps move a detach. -/
theorem step_detach {be : ObjectDiff g} {dconf : Dconf} {s s' : Sys} {a : Act}
    (ha : notDetach a = true) (hstep : step be dconf s a = some s') : s'.detach = s.detach := by
  cases a with
  | guestWrite off data | guestDiscard off len =>
      simp only [step, Option.ite_none_right_eq_some, Option.some.injEq] at hstep
      rw [← hstep.2]
  | mirror r => cases mirrorStep_cases hstep <;> rfl
  | worker r => exact (workerStep_cases hstep).frame.2
  | crash =>
      simp only [step, Option.ite_none_right_eq_some, Option.some.injEq] at hstep
      simp [← hstep.2]
  | detach i r => simp [notDetach] at ha

end XcpCephRbd.Blkmirror
