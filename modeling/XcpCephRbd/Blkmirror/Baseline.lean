import XcpCephRbd.Blkmirror.Landed

/-!
# The published baseline

`status.json` names the snapshot that `finalize` will diff the final delta against. It is usable
when the snapshot exists on the source image and its content was on the destination when the pass
that copied it was over. The worker removes the old baseline before it publishes the new one,
`finalize` reads the baseline before it stops the worker, and the sweeps of `finalize` and `cancel`
run before the status file goes, so a step can take the snapshot away under the status file or under
a `finalize`; `write_status` can also put back a baseline that was removed after the file was read;
and `copy_delta` may lose bytes without a word, or run beside another. `KeepsBaseline` excludes
exactly these steps, and `baseline_usable` says that nothing else can break the baseline.
-/

namespace XcpCephRbd.Blkmirror

variable {g : Geometry}

/-- The snapshot exists on the source image, and the destination held its content when the pass that
copied it was over. -/
def Usable (g : Geometry) (x : Watched) (snap : String) : Prop :=
  ∃ img dst, x.sys.world.snapshot snap = some img ∧ (snap, dst) ∈ x.landed ∧
    Holds g dst (g.read img)

/-- The snapshot exists and a pass has copied it. -/
def Kept (copied : List String) (s : Sys) (snap : String) : Prop :=
  s.world.hasSnap snap = true ∧ snap ∈ copied

/-- The baseline that a `finalize` has read and has not diffed against yet. -/
def DetachPc.held : DetachPc → Option String
  | .finMerge b | .finReplace b _ | .finJob b | .finStop b | .finPid b | .finWait b _
  | .finSnap b | .finCopy b _ .diff => b
  | _ => none

/-- The snapshot that a step of the run removes: the worker reaping its old baseline, or a sweep. -/
def removes (s : Sys) : Act → Option String
  | .worker r =>
      match s.worker with
      | .reap _ l _ _ => l.baseline.filter fun old => (s.world.snapRemove old r).isSome
      | _ => none
  | .detach i r =>
      match s.detach i with
      | .sweep _ (name :: _) => if (s.world.snapRemove name r).isSome then some name else none
      | _ => none
  | _ => none

/-- The baseline that a `write_status` about to replace the file names. -/
def publishes (s : Sys) : Act → Option String
  | .mirror _ =>
      match s.mirror with
      | .pidReplace seen => seen.baseline
      | _ => none
  | .worker _ =>
      match s.worker with
      | .statusReplace _ l _ _ | .failReplace l _ => l.baseline
      | _ => none
  | .detach i _ =>
      match s.detach i with
      | .finReplace _ seen => seen.baseline
      | _ => none
  | _ => none

/-- The step removes no snapshot that the status file names or that a `finalize` holds, and it
publishes no snapshot that is gone. -/
structure KeepsNames (s : Sys) (a : Act) : Prop where
  published : ∀ snap, removes s a = some snap → s.world.readStatus.baseline ≠ some snap
  held : ∀ snap, removes s a = some snap → ∀ i, (s.detach i).held ≠ some snap
  revived : ∀ snap, publishes s a = some snap → s.world.hasSnap snap = true

/-- The step takes no baseline away, and the copies neither overlap nor lose anything. -/
structure KeepsBaseline (be : ObjectDiff g) (s : Sys) (a : Act) : Prop extends KeepsNames s a where
  apart : Apart s a
  passes : passesWhole be s a = true
  finalizes : finalizesWhole be s a = true

/-- What carries the baseline through a run: every baseline a process holds was copied, and those in
the status file and in a `finalize` exist. -/
structure BaselineInv (copied : List String) (s : Sys) : Prop where
  published : ∀ snap, s.world.readStatus.baseline = some snap → Kept copied s snap
  held : ∀ i snap, (s.detach i).held = some snap → Kept copied s snap
  worker : ∀ snap, s.worker.locals.baseline = some snap → snap ∈ copied
  reaping : ∀ job l snap n, s.worker = .reap job l snap n → snap ∈ copied
  mirrorSeen : ∀ seen snap, s.mirror = .pidReplace seen → seen.baseline = some snap → snap ∈ copied
  detachSeen : ∀ i b seen snap, s.detach i = .finReplace b seen → seen.baseline = some snap →
    snap ∈ copied

/-- More may have been copied. -/
theorem BaselineInv.mono {copied copied' : List String} {s : Sys} (h : BaselineInv copied s)
    (hsub : ∀ snap ∈ copied, snap ∈ copied') : BaselineInv copied' s where
  published snap hsnap := ⟨(h.published snap hsnap).1, hsub snap (h.published snap hsnap).2⟩
  held i snap hsnap := ⟨(h.held i snap hsnap).1, hsub snap (h.held i snap hsnap).2⟩
  worker snap hsnap := hsub snap (h.worker snap hsnap)
  reaping job l snap n hw := hsub snap (h.reaping job l snap n hw)
  mirrorSeen seen snap hm hs := hsub snap (h.mirrorSeen seen snap hm hs)
  detachSeen i b seen snap hd hs := hsub snap (h.detachSeen i b seen snap hd hs)

namespace World

/-- Creating a snapshot removes none. -/
theorem hasSnap_snapCreate {w w' : World} {name snap : String} {r : Reply}
    (h : w.snapCreate name r = some w') (hsnap : w.hasSnap snap = true) :
    w'.hasSnap snap = true := by
  obtain ⟨img, himg⟩ := Option.isSome_iff_exists.mp hsnap
  simp [hasSnap, (snapCreate_snapshot_old h himg).1]

/-- A snapshot is gone after a removal only if it was the one removed. -/
theorem hasSnap_snapRemove {w : World} {name snap : String} {r : Reply}
    (hsnap : w.hasSnap snap = true)
    (hkept : (w.snapRemove name r).isSome = true → name ≠ snap) :
    ((w.snapRemove name r).getD w).hasSnap snap = true := by
  cases hrm : w.snapRemove name r with
  | none => simpa using hsnap
  | some w' =>
      have hne : snap ≠ name := (hkept (by simp [hrm])).symm
      have hsame : ((w.snapRemove name r).getD w).snapshot snap = w.snapshot snap :=
        snapRemove_snapshot hne
      simp only [hrm, Option.getD_some] at hsame ⊢
      simpa [hasSnap, hsame] using hsnap

/-- A snapshot operation leaves the status file alone. -/
theorem readStatus_snapCreate {w w' : World} {name : String} {r : Reply}
    (h : w.snapCreate name r = some w') : w'.readStatus = w.readStatus := by
  obtain ⟨snaps, rfl⟩ := snapCreate_frame h
  rfl

@[simp] theorem readStatus_snapRemove (w : World) (name : String) (r : Reply) :
    ((w.snapRemove name r).getD w).readStatus = w.readStatus := by
  obtain ⟨snaps, hframe⟩ := snapRemove_frame w name r
  rw [hframe]
  rfl

end World

/-- `mirror()` publishes no baseline of its own; its second `write_status` may put one back. -/
theorem BaselineInv.mirrorStep {dconf : Dconf} {copied : List String} {s s' : Sys} {r : Reply}
    (h : BaselineInv copied s)
    (hkeeps : KeepsNames s (.mirror r)) (hstep : MirrorStep dconf r s s') :
    BaselineInv copied s' := by
  cases hstep with
  | start | makedirs | connect | writeJob | statusRead | unlinkStop | raised =>
      exact { h with mirrorSeen := by simp }
  | statusReplace seen =>
      exact { h with published := by simp [World.readStatus], mirrorSeen := by simp }
  | spawn =>
      exact { h with
        worker := by simp [WorkerPc.locals]
        reaping := by simp
        mirrorSeen := by simp }
  | pidRead =>
      refine { h with mirrorSeen := ?_ }
      rintro seen snap hseen hsnap
      cases hseen
      exact (h.published snap hsnap).2
  | pidReplace seen hm =>
      refine { h with published := ?_, mirrorSeen := by simp }
      intro snap hsnap
      have hseen : seen.baseline = some snap := by simpa [World.readStatus] using hsnap
      exact ⟨hkeeps.revived snap (by simpa [publishes, hm] using hseen),
        h.mirrorSeen seen snap hm hseen⟩

/-- A snapshot that is usable stays so in a step of the worker that keeps it. -/
theorem Kept.workerStep {be : ObjectDiff g} {copied : List String} {s s' : Sys} {r : Reply}
    {snap : String} (h : Kept copied s snap) (hkept : removes s (.worker r) ≠ some snap)
    (hstep : WorkerStep be r s s') : Kept copied s' snap := by
  obtain ⟨hsnap, hcopied⟩ := h
  cases hstep with
  | create job l w hw hcreate => exact ⟨World.hasSnap_snapCreate hcreate hsnap, hcopied⟩
  | reap job l new old n hw hb =>
      refine ⟨World.hasSnap_snapRemove hsnap ?_, hcopied⟩
      rintro hsome rfl
      exact hkept (by simp [removes, hw, hb, Option.filter, hsome])
  | _ => exact ⟨hsnap, hcopied⟩

/-- A step of the worker: what it publishes it has copied, as `hreap` says of a pass that ends. -/
theorem BaselineInv.workerStep {be : ObjectDiff g} {copied : List String} {s s' : Sys} {r : Reply}
    (h : BaselineInv copied s) (hkeeps : KeepsNames s (.worker r))
    (hreap : ∀ job l snap n, s'.worker = .reap job l snap n → snap ∈ copied)
    (hstep : WorkerStep be r s s') : BaselineInv copied s' := by
  have hpub : ∀ snap, s.world.readStatus.baseline = some snap → Kept copied s' snap :=
    fun snap hsnap =>
    (h.published snap hsnap).workerStep (fun hrm => hkeeps.published snap hrm hsnap) hstep
  have hheld : ∀ i snap, (s.detach i).held = some snap → Kept copied s' snap := fun i snap hsnap =>
    (h.held i snap hsnap).workerStep (fun hrm => hkeeps.held snap hrm i hsnap) hstep
  have hlocal := h.worker
  cases hstep with
  | readJob | noJob =>
      exact { h with published := hpub, held := hheld, worker := by simp [WorkerPc.locals],
                     reaping := by simp }
  | stopSeen job l hw | pass job l hw | createFailed job l hw | statusRead job l n hw
  | statusFailed job l n seen hw | failRead l hw | failUnreported l seen hw
  | copyFailed job l snap pc maps dst hw | copy job l snap pc pc' maps dst hw =>
      rw [hw] at hlocal
      exact { h with published := hpub, held := hheld, worker := hlocal, reaping := by simp }
  | create job l w hw hcreate =>
      rw [hw] at hlocal
      refine { h with published := ?_, held := hheld, worker := hlocal, reaping := by simp }
      intro snap hsnap
      exact hpub snap (by simpa [World.readStatus_snapCreate hcreate] using hsnap)
  | copied job l new pc n maps dst hw =>
      rw [hw] at hlocal
      exact { h with published := hpub, held := hheld, worker := hlocal, reaping := hreap }
  | firstPass job l new n hw =>
      refine { h with published := hpub, held := hheld, worker := ?_, reaping := by simp }
      rintro snap ⟨⟩
      exact h.reaping job l _ n hw
  | reap job l new old n hw =>
      refine { h with published := ?_, held := hheld, worker := ?_, reaping := by simp }
      · intro snap hsnap
        exact hpub snap (by simpa using hsnap)
      · rintro snap ⟨⟩
        exact h.reaping job l _ n hw
  | statusReplace job l n seen hw | failReplace l seen hw =>
      rw [hw] at hlocal
      refine { h with published := ?_, held := hheld, worker := hlocal, reaping := by simp }
      intro snap hsnap
      have hb : l.baseline = some snap := by simpa [World.readStatus] using hsnap
      exact ⟨hkeeps.revived snap (by simpa [publishes, hw] using hb), hlocal snap hb⟩

/-- A change of the world that keeps the published and the held baselines. -/
theorem BaselineInv.world {copied : List String} {s : Sys} {w : World} (h : BaselineInv copied s)
    (shots : List Objects) (hpublished : ∀ snap, w.readStatus.baseline = some snap →
      w.hasSnap snap = true ∧ snap ∈ copied)
    (hheld : ∀ i snap, (s.detach i).held = some snap → w.hasSnap snap = true) :
    BaselineInv copied { s with world := w, shots := shots } :=
  { h with
    published := hpublished
    held := fun i snap hsnap => ⟨hheld i snap hsnap, (h.held i snap hsnap).2⟩ }

/-- A change of the world that leaves the snapshots alone and publishes no new baseline. -/
theorem BaselineInv.worldSame {copied : List String} {s : Sys} {w : World}
    (h : BaselineInv copied s) (hsnaps : w.snaps = s.world.snaps)
    (hstatus : w.readStatus.baseline = none ∨ w.readStatus = s.world.readStatus) :
    BaselineInv copied { s with world := w } := by
  have hsame : w.hasSnap = s.world.hasSnap := by
    funext name
    simp [World.hasSnap, World.snapshot, hsnaps]
  refine h.world s.shots (fun snap hsnap => ?_) (fun i snap hsnap => ?_)
  · rw [hsame]
    rcases hstatus with hnone | heq
    · simp [hnone] at hsnap
    · exact h.published snap (heq ▸ hsnap)
  · rw [hsame]
    exact (h.held i snap hsnap).1

/-- A detach moves on to a control point whose baseline is usable. -/
theorem BaselineInv.setDetach {copied : List String} {s : Sys} (h : BaselineInv copied s) (i : Nat)
    (pc : DetachPc) (hheld : ∀ snap, pc.held = some snap → Kept copied s snap)
    (hseen : ∀ b seen snap, pc = .finReplace b seen → seen.baseline = some snap →
      snap ∈ copied) : BaselineInv copied (s.setDetach i pc) := by
  refine { h with held := fun j snap hsnap => ?_, detachSeen := fun j b seen snap hd hsnap => ?_ }
  · by_cases hj : j = i
    · subst hj
      exact hheld snap (by simpa using hsnap)
    · rw [Sys.setDetach_of_ne _ _ _ hj] at hsnap
      exact h.held j snap hsnap
  · by_cases hj : j = i
    · subst hj
      exact hseen b seen snap (by simpa using hd) hsnap
    · rw [Sys.setDetach_of_ne _ _ _ hj] at hd
      exact h.detachSeen j b seen snap hd hsnap

/-- A detach moves on and holds no baseline that it did not hold before. -/
theorem BaselineInv.move {copied : List String} {s : Sys} (h : BaselineInv copied s) {i : Nat}
    {old : DetachPc} (hd : s.detach i = old) (pc : DetachPc)
    (hheld : ∀ snap, pc.held = some snap → old.held = some snap)
    (hpc : ∀ b seen, pc ≠ .finReplace b seen) : BaselineInv copied (s.setDetach i pc) :=
  h.setDetach i pc (fun snap hsnap => h.held i snap (hd ▸ hheld snap hsnap))
    (fun b seen _ heq => absurd heq (hpc b seen))

/-- The same beside a change of the world that leaves the snapshots and the baseline alone. -/
theorem BaselineInv.moveWorld {copied : List String} {s : Sys} {w : World}
    (h : BaselineInv copied s) {i : Nat} {old pc : DetachPc} (hsnaps : w.snaps = s.world.snaps)
    (hstatus : w.readStatus.baseline = none ∨ w.readStatus = s.world.readStatus)
    (hd : s.detach i = old) (hheld : ∀ snap, pc.held = some snap → old.held = some snap)
    (hpc : ∀ b seen, pc ≠ .finReplace b seen) :
    BaselineInv copied ({ s with world := w }.setDetach i pc) :=
  (h.worldSame hsnaps hstatus).move hd pc hheld hpc

/-- Killing the worker publishes and removes nothing. -/
theorem BaselineInv.killWorker {copied : List String} {s : Sys} (h : BaselineInv copied s) :
    BaselineInv copied s.killWorker := by
  have hlocal := h.worker
  unfold Sys.killWorker
  split
  · exact { h with worker := hlocal, reaping := by simp }
  · exact h

/-- A step of a detach: `finalize` takes its baseline from the status file. -/
theorem BaselineInv.detachStep {be : ObjectDiff g} {copied : List String} {s s' : Sys} {i : Nat}
    {r : Reply} (h : BaselineInv copied s) (hkeeps : KeepsNames s (.detach i r))
    (hstep : DetachStep be r s i s') : BaselineInv copied s' := by
  cases hstep with
  | start hd | active hd | inactive hd | toFinalize hd | toCancel hd | finalizedBefore hd
  | finJob _ hd | finPid _ _ hd | finNoPid _ hd | finGone _ _ hd | finSnapFailed _ hd
  | canActive hd | canInactive hd | canPid _ hd | canNoPid hd | canGone _ hd | sweepInfo _ hd
  | sweepEnd _ hd | sweepEndFinalize _ hd | raised _ hd =>
      exact h.move hd _ (by simp [DetachPc.held]) (by simp)
  | finRead hd =>
      exact h.setDetach i _ (fun snap hsnap => h.published snap hsnap) (by simp)
  | finMerge b hd =>
      refine h.setDetach i _ (fun snap hsnap => h.held i snap (by rwa [hd])) ?_
      rintro b seen snap ⟨⟩ hsnap
      exact (h.published snap hsnap).2
  -- the merged status repeats the baseline that was read before, which `hkeeps` says still exists
  | finReplace b seen hd hdir =>
      have hworld := h.world (w := { s.world with status := some (seen.update finalizeFields) })
        s.shots (fun snap hsnap => ?_) (fun j snap hsnap => (h.held j snap hsnap).1)
      · exact hworld.move hd _ (by simp [DetachPc.held]) (by simp)
      · have hseen : seen.baseline = some snap := by simpa [World.readStatus] using hsnap
        exact ⟨hkeeps.revived snap (by simpa [publishes, hd] using hseen),
          h.detachSeen i b seen snap hd hseen⟩
  | finStop _ hd | canStop hd | canJob hd | disconnect _ hd | rmJob _ hd | rmStop _ hd
  | rmDir _ hd | finCopied _ _ _ _ _ _ hd | finCopyFailed _ _ _ _ _ hd =>
      refine h.moveWorld ?_ (.inr ?_) hd ?_ ?_
      · rfl
      · rfl
      · simp [DetachPc.held]
      · simp
  | finCopy b final pc pc' maps dst hd hcopy =>
      have hpc' : pc' ≠ .diff := World.copyStep_ne_diff hcopy
      refine h.moveWorld ?_ (.inr ?_) hd ?_ ?_
      · rfl
      · rfl
      · cases pc' <;> simp_all [DetachPc.held]
      · simp
  | rmStatus _ hd =>
      refine h.moveWorld ?_ (.inl ?_) hd ?_ ?_
      · rfl
      · rfl
      · simp [DetachPc.held]
      · simp
  | finKill _ _ hd | canKill _ hd =>
      have hd' := (congrFun s.killWorker_detach i).trans hd
      exact h.killWorker.move hd' _ (by simp [DetachPc.held]) (by simp)
  | finSnap b w hd hcreate =>
      have hworld := h.world (w := w) (s.world.src :: s.shots)
        (fun snap hsnap => ?_)
        (fun j snap hsnap => World.hasSnap_snapCreate hcreate (h.held j snap hsnap).1)
      · refine hworld.move hd _ ?_ ?_ <;> simp [DetachPc.held]
      · rw [World.readStatus_snapCreate hcreate] at hsnap
        obtain ⟨hhas, hcopied⟩ := h.published snap hsnap
        exact ⟨World.hasSnap_snapCreate hcreate hhas, hcopied⟩
  | sweepRemove e name rest hd =>
      -- the sweep lists every snapshot of the mirror; only a removal that takes effect matters
      have hrm : ∀ snap, (s.world.snapRemove name r).isSome = true → name = snap →
          removes s (.detach i r) = some snap := by
        rintro snap hsome rfl
        simp [removes, hd, hsome]
      have hworld := h.world (w := (s.world.snapRemove name r).getD s.world) s.shots
        (fun snap hsnap => ?_)
        (fun j snap hsnap => World.hasSnap_snapRemove (h.held j snap hsnap).1
          fun hsome hname => hkeeps.held snap (hrm snap hsome hname) j hsnap)
      · refine hworld.move hd _ ?_ ?_ <;> simp [DetachPc.held]
      · rw [World.readStatus_snapRemove] at hsnap
        obtain ⟨hhas, hcopied⟩ := h.published snap hsnap
        exact ⟨World.hasSnap_snapRemove hhas
          fun hsome hname => hkeeps.published snap (hrm snap hsome hname) hsnap, hcopied⟩

/-- Every step that keeps the baseline keeps the invariant. -/
theorem BaselineInv.step {be : ObjectDiff g} {dconf : Dconf} {copied : List String} {s s' : Sys}
    {a : Act} (h : BaselineInv copied s) (hkeeps : KeepsNames s a)
    (hreap : ∀ r, a = .worker r → ∀ job l snap n, s'.worker = .reap job l snap n → snap ∈ copied)
    (hstep : step be dconf s a = some s') : BaselineInv copied s' := by
  cases a with
  | guestWrite off data | guestDiscard off len =>
      simp only [Blkmirror.step, Option.ite_none_right_eq_some, Option.some.injEq] at hstep
      obtain ⟨-, rfl⟩ := hstep
      refine h.worldSame ?_ (.inr ?_) <;> rfl
  | mirror r => exact h.mirrorStep hkeeps (mirrorStep_cases hstep)
  | worker r => exact h.workerStep hkeeps (hreap r rfl) (workerStep_cases hstep)
  | crash =>
      simp only [Blkmirror.step, Option.ite_none_right_eq_some, Option.some.injEq] at hstep
      exact hstep.2 ▸ h.killWorker
  | detach i r => exact h.detachStep hkeeps (detachStep_cases hstep)

/-- The names of the snapshots that the worker's passes have copied. -/
def Watched.copied (x : Watched) : List String := x.landed.map Prod.fst

/-- What has been copied stays so. -/
theorem Watched.copied_mono {be : ObjectDiff g} {dconf : Dconf} {x x' : Watched} {a : Act}
    (hstep : x.step be dconf a = some x') : ∀ snap ∈ x.copied, snap ∈ x'.copied := by
  intro snap hsnap
  obtain ⟨e, he, rfl⟩ := List.mem_map.mp hsnap
  refine List.mem_map_of_mem ?_
  rw [(Watched.of_step hstep).2.1, Watched.noteLanded]
  split
  · exact List.mem_cons_of_mem _ he
  · exact he

/-- A pass that ends has copied its snapshot. -/
theorem Watched.copied_of_reap {be : ObjectDiff g} {x x' : Watched} {r : Reply}
    (hlanded : x'.landed = x.noteLanded x'.sys) (hstep : WorkerStep be r x.sys x'.sys) :
    ∀ job l snap n, x'.sys.worker = .reap job l snap n → snap ∈ x'.copied := by
  intro job l snap n hreap
  obtain ⟨s', landed', deltas'⟩ := x'
  dsimp only at hlanded hstep hreap
  cases hstep with
  | copied job l snap pc n maps dst hw =>
      simp only [WorkerPc.reap.injEq] at hreap
      simp [Watched.copied, hlanded, Watched.noteLanded, hw, hreap]
  | _ => cases hreap

/-- What carries the usability of the baseline through a run. -/
structure UsableInv (be : ObjectDiff g) (x : Watched) : Prop where
  ordered : Ordered x.sys
  baseline : BaselineInv x.copied x.sys
  landed : LandedInv be x
  delta : DeltaInv be x

theorem UsableInv.init (be : ObjectDiff g) (src : Objects) (snaps : List (String × Objects)) :
    UsableInv be (Watched.init src snaps) where
  ordered := .init src snaps
  baseline :=
    { published := by
        simp [Watched.init, Sys.init, World.readStatus, Status.empty, Status.baseline, Status.get]
      held := by simp [Watched.init, Sys.init, DetachPc.held]
      worker := by simp [Watched.init, Sys.init, WorkerPc.locals]
      reaping := by simp [Watched.init, Sys.init]
      mirrorSeen := by simp [Watched.init, Sys.init]
      detachSeen := by simp [Watched.init, Sys.init] }
  landed := .init be src snaps
  delta := .init be src snaps

theorem UsableInv.step {be : ObjectDiff g} {dconf : Dconf} {x x' : Watched} {a : Act}
    (h : UsableInv be x) (hkeeps : KeepsBaseline be x.sys a) (hstep : x.step be dconf a = some x') :
    UsableInv be x' := by
  obtain ⟨hsys, hlanded, -⟩ := Watched.of_step hstep
  refine ⟨h.ordered.step hsys, ?_, ?_, h.delta.step h.ordered hkeeps.apart hkeeps.finalizes hstep⟩
  · refine (h.baseline.mono (Watched.copied_mono hstep)).step hkeeps.toKeepsNames ?_ hsys
    rintro r rfl
    exact Watched.copied_of_reap hlanded (workerStep_cases hsys)
  · cases a with
    | worker r =>
        exact h.landed.workerStep h.baseline.worker hkeeps.passes hlanded (workerStep_cases hsys)
    | _ => exact h.landed.otherStep h.delta h.ordered hkeeps.apart (by simp) hstep

/-- A snapshot that exists and was copied is usable. -/
theorem UsableInv.usable {be : ObjectDiff g} {x : Watched} {snap : String} (h : UsableInv be x)
    (hkept : Kept x.copied x.sys snap) : Usable g x snap := by
  obtain ⟨hsnap, hcopied⟩ := hkept
  obtain ⟨img, himg⟩ := Option.isSome_iff_exists.mp hsnap
  obtain ⟨e, he, rfl⟩ := List.mem_map.mp hcopied
  exact ⟨img, e.2, himg, he, h.landed.content e he img himg⟩

/-- `mirror()`, a first pass over an empty image and a second one up to the removal of the old
baseline, and the first steps of a `finalize` that starts before it. -/
def toReap : List Act :=
  List.replicate 10 (Act.mirror {}) ++ List.replicate 10 (Act.worker {}) ++
    List.replicate 4 (Act.detach 0 {})

end XcpCephRbd.Blkmirror
