import XcpCephRbd.Blkmirror.Restart

/-!
# What a migration leaves on the source

The worker makes a snapshot for each pass and `copy_delta` maps it; the detach that ends the mirror
stops the worker and then sweeps every snapshot of the mirror, whatever pass it comes from. A
snapshot that is mapped withstands the sweep, and nothing in `finalize` or `cancel` unmaps one that
another process has mapped. `releases` names the steps after which such a map is left for good: a
`map_image` that raises when the kernel has made the map, an `open` that fails between it and the
`try`, an `unmap_image` that fails and is only logged, a worker killed while it has a snapshot
mapped, and a `_stop_worker` that does not find the pid of the running worker in the status; and the
steps at which the detach gives up before its sweep: a file operation of `finalize` before its
`try`, or the stop request of `cancel`. `no_debris` says that without these steps nothing is left.
-/

namespace XcpCephRbd.Blkmirror

variable {g : Geometry}

/-- `name.startswith(SNAP_PREFIX)`: a snapshot of the mirror. -/
def sxm (name : String) : Bool := Text.startsWith name snapPrefix

/-- The snapshots that are not the mirror's. -/
def otherSnaps (snaps : List (String × Objects)) : List (String × Objects) :=
  snaps.filter fun entry => !sxm entry.1

/-- The image has no snapshot of the mirror, none is mapped, and the others are as given. -/
structure NoDebris (before : List (String × Objects)) (w : World) : Prop where
  snaps : ∀ entry ∈ w.snaps, sxm entry.1 = false
  maps : ∀ name ∈ w.maps, sxm name = false
  others : otherSnaps w.snaps = otherSnaps before

@[simp] theorem sxm_passSnap (now iters : Nat) : sxm (passSnap now iters) = true := by
  simp [sxm, passSnap, String.append_assoc]

@[simp] theorem sxm_finalSnap (now : Nat) : sxm (finalSnap now) = true := by
  simp [sxm, finalSnap, String.append_assoc]

/-! ## The runs in question -/

/-- `copy_delta` has mapped its snapshot and not unmapped it yet. -/
def CopyPc.mapped : CopyPc → Bool
  | .diff | .map _ => false
  | _ => true

/-- A call of `copy_delta` that maps its snapshot and does not end here. -/
def CopyNext.mapped : CopyNext → Bool
  | .goto pc => pc.mapped
  | _ => false

/-- The snapshot that the worker has mapped. -/
def WorkerPc.mapped : WorkerPc → Option String
  | .copy _ _ snap pc => if pc.mapped then some snap else none
  | _ => none

/-- The snapshot that a `finalize` has mapped. -/
def DetachPc.mapped : DetachPc → Option String
  | .finCopy _ final pc => if pc.mapped then some final else none
  | _ => none

/-- The calls of the sweep succeed, as far as the snapshot to remove is not mapped. -/
def DetachPc.sweeps (pc : DetachPc) (r : Reply) : Bool :=
  match pc with
  | .sweepInfo _ | .sweep _ (_ :: _) => r.ok
  | _ => true

/-- `mirror()` and then one detach, which comes when `mirror()` has returned or raised, and whose
sweep meets no failing backend. -/
def sequential (s : Sys) : Act → Bool
  | .detach i r =>
      i == 0 && (s.detach 0 != .idle || s.mirror == .returned || s.mirror == .raised) &&
        (s.detach 0).sweeps r
  | _ => true

/-- The step of `copy_delta` does not give up a snapshot that it has mapped. -/
def CopyPc.releases (pc : CopyPc) (r : Reply) : Bool :=
  match pc with
  | .map _ => r.ok || !r.mapped
  | .openDevices _ | .unmap _ => r.ok
  | _ => true

/-- The step leaves no map behind, by a call of `copy_delta` that fails, a worker that is killed
with a snapshot mapped, or a running worker whose pid the status does not have; and the detach gets
to its sweep. -/
def releases (s : Sys) : Act → Bool
  | .worker r =>
      match s.worker with
      | .copy _ _ _ pc => pc.releases r
      | _ => true
  | .crash => s.worker.mapped.isNone
  | .detach i r =>
      match s.detach i with
      | .finCopy _ _ pc => pc.releases r
      | .finReplace _ _ | .finJob _ | .finStop _ | .canStop => r.ok
      | .finPid _ | .canPid => !s.worker.running || s.world.readStatus.pid == some s.workerPid
      | .finWait _ pid | .canWait pid => !s.alive pid || s.worker.mapped.isNone
      | _ => true
  | _ => true

/-! ## The invariant -/

/-- The names of the snapshots that the worker holds: its baseline and the one it is copying. -/
def WorkerPc.names : WorkerPc → List String
  | .copy _ l snap _ | .reap _ l snap _ => snap :: l.baseline.toList
  | pc => pc.locals.baseline.toList

/-- What the detach knows at its control point: that there is a job until it stops the worker, whose
pid it then waits for; that the worker is gone from then on; and what is left to sweep. -/
def Stage (s : Sys) : DetachPc → Prop
  | .checkStatus | .finRead | .finMerge _ | .finReplace _ _ | .finJob _ | .finStop _ | .canActive
  | .canStop => s.world.active = true
  | .finWait _ pid | .canWait pid => s.worker.running = true → pid = s.workerPid
  | .finSnap _ | .canJob | .sweepInfo _ => s.worker.running = false
  | .finCopy _ final _ => s.worker.running = false ∧ sxm final = true
  | .sweep _ names =>
      s.worker.running = false ∧ (∀ name ∈ names, sxm name = true) ∧
        ∀ entry ∈ s.world.snaps, sxm entry.1 = true → entry.1 ∈ names
  | .disconnect _ | .rmJob _ | .rmStatus _ | .rmStop _ | .rmDir _ =>
      s.worker.running = false ∧ ∀ entry ∈ s.world.snaps, sxm entry.1 = false
  | .done e =>
      e ≠ .noMirror → s.worker.running = false ∧ ∀ entry ∈ s.world.snaps, sxm entry.1 = false
  | .idle | .checkActive | .finPid _ | .canPid => True

/-- What holds along a run: the snapshots that are not the mirror's are those of the start, a map is
that of a copy under way, and every name the worker holds is one of the mirror's. -/
structure Tidy (snaps : List (String × Objects)) (s : Sys) : Prop where
  ordered : Ordered s
  unfinalized : Unfinalized s
  others : otherSnaps s.world.snaps = otherSnaps snaps
  maps : ∀ name ∈ s.world.maps, s.worker.mapped = some name ∨ (s.detach 0).mapped = some name
  names : ∀ name ∈ s.worker.names, sxm name = true
  sequel : s.detach 0 ≠ .idle → s.mirror = .returned ∨ s.mirror = .raised
  stage : Stage s (s.detach 0)

/-- A process that has ended has nothing mapped. -/
theorem WorkerPc.mapped_eq_none {pc : WorkerPc} (h : pc.running = false) : pc.mapped = none := by
  cases pc <;> simp_all [WorkerPc.running, WorkerPc.mapped]

@[simp] theorem WorkerPc.mapped_copy {job : Job} {l : Locals} {snap name : String} {pc : CopyPc} :
    (WorkerPc.copy job l snap pc).mapped = some name ↔ pc.mapped = true ∧ name = snap := by
  rw [WorkerPc.mapped, Option.ite_none_right_eq_some, Option.some.injEq, @eq_comm _ snap]

@[simp] theorem DetachPc.mapped_finCopy {b : Option String} {final name : String} {pc : CopyPc} :
    (DetachPc.finCopy b final pc).mapped = some name ↔ pc.mapped = true ∧ name = final := by
  rw [DetachPc.mapped, Option.ite_none_right_eq_some, Option.some.injEq, @eq_comm _ final]

/-! ## The operations on snapshots and maps -/

/-- A snapshot of the mirror that is created is none of the others. -/
theorem otherSnaps_snapCreate {w w' : World} {name : String} {r : Reply}
    (h : w.snapCreate name r = some w') (hname : sxm name = true) :
    otherSnaps w'.snaps = otherSnaps w.snaps := by
  simp only [World.snapCreate, Option.ite_none_right_eq_some, Option.some.injEq] at h
  rw [← h.2]
  simp [otherSnaps, hname]

/-- A snapshot of the mirror that is removed is none of the others. -/
theorem otherSnaps_snapRemove {name : String} (w : World) (r : Reply) (hname : sxm name = true) :
    otherSnaps ((w.snapRemove name r).getD w).snaps = otherSnaps w.snaps := by
  unfold World.snapRemove
  split
  · simp only [otherSnaps, Option.getD_some, List.filter_filter]
    refine List.filter_congr fun entry _ => ?_
    by_cases hentry : entry.1 = name
    · simp [hentry, hname]
    · simp [hentry]
  · rfl

/-- A `snap_remove` that the backend does not fail, of a snapshot that is not mapped, leaves none of
that name. -/
theorem mem_snapRemove {w : World} {name : String} {r : Reply} {entry : String × Objects}
    (hok : r.ok = true) (hmaps : w.maps = [])
    (hentry : entry ∈ ((w.snapRemove name r).getD w).snaps) : entry ∈ w.snaps ∧ entry.1 ≠ name := by
  by_cases hhas : w.hasSnap name = true
  · simp only [World.snapRemove, hok, hhas, hmaps, List.contains_nil, Bool.not_false, Bool.and_self,
      if_true, Option.getD_some, List.mem_filter, bne_iff_ne] at hentry
    exact hentry
  · simp only [World.snapRemove, hok, hhas, Bool.and_false, Bool.false_and, Bool.false_eq_true,
      if_false, Option.getD_none] at hentry
    refine ⟨hentry, fun hname => hhas ?_⟩
    simp only [World.hasSnap, World.snapshot, List.lookup_isSome_iff]
    exact ⟨entry, hentry, by simp [hname]⟩

/-- A map before or after a step of `copy_delta` is its own, while it has one, or another's. -/
theorem copyStep_maps {be : ObjectDiff g} {w w' : World} {b : Option String} {snap : String}
    {pc : CopyPc} {r : Reply} {next : CopyNext} {held : String → Prop}
    (hstep : copyStep be w b snap pc r = (w', next)) (hrel : pc.releases r = true)
    (hmaps : ∀ name ∈ w.maps, pc.mapped = true ∧ name = snap ∨ held name) :
    ∀ name ∈ w'.maps, next.mapped = true ∧ name = snap ∨ held name := by
  cases pc with
  | diff =>
      have hsame : w' = w := by
        simp only [copyStep] at hstep
        split at hstep
        · split at hstep
          · split at hstep <;> exact (congrArg Prod.fst hstep).symm
          · exact (congrArg Prod.fst hstep).symm
        · exact (congrArg Prod.fst hstep).symm
      subst hsame
      intro name hname
      obtain ⟨hno, -⟩ | hheld := hmaps name hname
      · simp [CopyPc.mapped] at hno
      · exact .inr hheld
  | map extents =>
      simp only [CopyPc.mapped, Bool.false_eq_true, false_and, false_or] at hmaps
      simp only [copyStep, World.mapSnap] at hstep
      by_cases hok : (r.ok && w.hasSnap snap) = true
      · simp only [if_pos hok, Prod.mk.injEq] at hstep
        obtain ⟨rfl, rfl⟩ := hstep
        intro name hname
        by_cases hsnap : name = snap
        · exact .inl ⟨rfl, hsnap⟩
        · refine .inr (hmaps name ?_)
          simp only [World.addMap] at hname
          by_cases hin : w.maps.contains snap = true
          · rwa [if_pos hin] at hname
          · rw [if_neg hin] at hname
            exact (List.mem_cons.mp hname).resolve_left hsnap
      · simp only [if_neg hok, Prod.mk.injEq] at hstep
        obtain ⟨rfl, rfl⟩ := hstep
        -- a failing map that the kernel has made all the same is what `releases` excludes
        have hsame : w.mapFailed snap r = w := by
          refine if_neg fun hmapped => hok ?_
          simp_all [CopyPc.releases]
        rw [hsame]
        exact fun name hname => .inr (hmaps name hname)
  | openDevices extents =>
      simp only [copyStep, show r.ok = true from hrel, if_true, Prod.mk.injEq] at hstep
      obtain ⟨rfl, rfl⟩ := hstep
      exact hmaps
  | loop extents pos stop total =>
      have hsame : w'.maps = w.maps ∧ next.mapped = true := by
        simp only [copyStep] at hstep
        repeat' split at hstep
        all_goals
          obtain ⟨rfl, rfl⟩ := Prod.mk.injEq .. ▸ hstep
          exact ⟨rfl, rfl⟩
      rw [hsame.1, hsame.2]
      exact hmaps
  | close result =>
      cases hstep
      have hsame : (w.fsync r).maps = w.maps := by
        unfold World.fsync
        split <;> rfl
      rw [hsame]
      exact hmaps
  | unmap result =>
      simp only [copyStep, World.unmapSnap, show r.ok = true from hrel, if_true,
        Prod.mk.injEq] at hstep
      obtain ⟨rfl, -⟩ := hstep
      intro name hname
      obtain ⟨hin, hne⟩ := List.mem_filter.mp hname
      obtain ⟨-, heq⟩ | hheld := hmaps name hin
      · simp [heq] at hne
      · exact .inr hheld

/-! ## Steps of `mirror()` and of the worker -/

/-- A step of `mirror()` is taken before it ends, and touches neither snapshots nor maps. -/
theorem MirrorStep.frame_snaps {dconf : Dconf} {s s' : Sys} {r : Reply}
    (h : MirrorStep dconf r s s') :
    (s.mirror ≠ .returned ∧ s.mirror ≠ .raised) ∧ s'.detach = s.detach ∧
      s'.world.snaps = s.world.snaps ∧ s'.world.maps = s.world.maps := by
  cases h with
  | raised pc hpc hcall =>
      refine ⟨⟨?_, ?_⟩, rfl, rfl, rfl⟩
      · rintro hm
        simp [← hpc, hm] at hcall
      · rintro hm
        simp [← hpc, hm] at hcall
  | _ => exact ⟨by simp [*], rfl, rfl, rfl⟩

theorem Tidy.mirrorStep {snaps : List (String × Objects)} {dconf : Dconf} {s s' : Sys} {r : Reply}
    (h : Tidy snaps s) (hstep : MirrorStep dconf r s s') : Tidy snaps s' := by
  obtain ⟨hbusy, hdetach, hsnaps, hmaps⟩ := hstep.frame_snaps
  have hidle : s.detach 0 = .idle := by
    by_contra hne
    obtain hm | hm := h.sequel hne
    · exact hbusy.1 hm
    · exact hbusy.2 hm
  have hworker : s'.worker = s.worker ∨ s.worker = .absent ∧ s'.worker = .readJob := by
    cases hstep with
    | spawn hm => exact .inr ⟨h.ordered.absent (by rw [hm]; rfl), rfl⟩
    | _ => exact .inl rfl
  refine ⟨h.ordered.mirrorStep hstep, h.unfinalized.mirrorStep hstep, ?_, ?_, ?_, ?_, ?_⟩
  · rw [hsnaps]
    exact h.others
  · rw [hmaps, hdetach]
    obtain hsame | ⟨habsent, hspawned⟩ := hworker
    · rw [hsame]
      exact h.maps
    · have hold := h.maps
      rw [habsent] at hold
      rw [hspawned]
      exact hold
  · obtain hsame | ⟨-, hspawned⟩ := hworker
    · rw [hsame]
      exact h.names
    · simp [hspawned, WorkerPc.names, WorkerPc.locals]
  · rw [hdetach, hidle]
    exact fun hne => absurd rfl hne
  · rw [hdetach, hidle]
    trivial

/-- The worker's steps keep what the detach knows, as far as the worker is still running. -/
theorem Stage.workerStep {be : ObjectDiff g} {s s' : Sys} {r : Reply} {pc : DetachPc}
    (h : Stage s pc) (hstep : WorkerStep be r s s') : Stage s' pc := by
  obtain ⟨hrun, hjob, -, -⟩ := hstep.frame_world
  have hpid : s'.workerPid = s.workerPid := by
    cases hstep <;> rfl
  have hact : s'.world.active = s.world.active := by simp [World.active, hjob]
  cases pc with
  | idle | checkActive | finPid | canPid => trivial
  | checkStatus | finRead | finMerge | finReplace | finJob | finStop | canActive | canStop =>
      exact hact.trans h
  | finWait b pid | canWait pid => exact fun _ => (h hrun).trans hpid.symm
  | finSnap | canJob | sweepInfo => exact absurd (hrun.symm.trans h) (by simp)
  | finCopy | sweep | disconnect | rmJob | rmStatus | rmStop | rmDir =>
      exact absurd (hrun.symm.trans h.1) (by simp)
  | done e => exact fun he => absurd (hrun.symm.trans (h he).1) (by simp)

/-- What the worker holds after a step. -/
theorem WorkerStep.names {be : ObjectDiff g} {s s' : Sys} {r : Reply}
    (h : WorkerStep be r s s') (hnames : ∀ name ∈ s.worker.names, sxm name = true) :
    ∀ name ∈ s'.worker.names, sxm name = true := by
  cases h with
  | create job l w hw =>
      rw [hw] at hnames
      intro name hname
      obtain rfl | hbase := List.mem_cons.mp hname
      · exact sxm_passSnap _ _
      · exact hnames name hbase
  | copy job l snap pc pc' maps dst hw | copied job l snap pc n maps dst hw =>
      rw [hw] at hnames
      exact hnames
  | copyFailed job l snap pc maps dst hw =>
      rw [hw] at hnames
      exact fun name hname => hnames name (List.mem_cons_of_mem _ hname)
  | firstPass job l snap n hw | reap job l snap old n hw =>
      rw [hw] at hnames
      intro name hname
      refine hnames name (List.mem_cons.mpr (.inl ?_))
      simpa [WorkerPc.names, WorkerPc.locals, Locals.advance] using hname
  | readJob job hw | noJob hw =>
      intro name hname
      simp [WorkerPc.names, WorkerPc.locals] at hname
  | stopSeen job l hw | pass job l hw | createFailed job l hw | statusRead job l n hw
  | statusReplace job l n seen hw | statusFailed job l n seen hw | failRead l hw
  | failReplace l seen hw | failUnreported l seen hw =>
      rw [hw] at hnames
      exact hnames

/-- The snapshots that are not the mirror's stay as they are. -/
theorem WorkerStep.others {be : ObjectDiff g} {s s' : Sys} {r : Reply}
    (h : WorkerStep be r s s') (hnames : ∀ name ∈ s.worker.names, sxm name = true) :
    otherSnaps s'.world.snaps = otherSnaps s.world.snaps := by
  cases h with
  | create job l w hw hcreate => exact otherSnaps_snapCreate hcreate (sxm_passSnap _ _)
  | reap job l snap old n hw hb =>
      refine otherSnaps_snapRemove s.world r (hnames old ?_)
      simp [hw, WorkerPc.names, hb]
  | _ => rfl

/-- A map is that of the worker's copy, while it has one, or another's. -/
theorem WorkerStep.maps {be : ObjectDiff g} {s s' : Sys} {r : Reply} {held : String → Prop}
    (h : WorkerStep be r s s') (hrel : releases s (.worker r) = true)
    (hmaps : ∀ name ∈ s.world.maps, s.worker.mapped = some name ∨ held name) :
    ∀ name ∈ s'.world.maps, s'.worker.mapped = some name ∨ held name := by
  -- a copy under way, in the terms of `copyStep_maps`
  have hcopy : ∀ {job l snap pc}, s.worker = .copy job l snap pc → pc.releases r = true ∧
      ∀ name ∈ s.world.maps, pc.mapped = true ∧ name = snap ∨ held name := by
    intro job l snap pc hw
    refine ⟨by simpa [releases, hw] using hrel, fun name hname => ?_⟩
    simpa [hw] using hmaps name hname
  cases h with
  | copy job l snap pc pc' maps dst hw hstep =>
      intro name hname
      simpa [CopyNext.mapped] using
        copyStep_maps hstep (hcopy hw).1 (hcopy hw).2 name hname
  | copied job l snap pc n maps dst hw hstep =>
      intro name hname
      simpa [WorkerPc.mapped, CopyNext.mapped] using
        copyStep_maps hstep (hcopy hw).1 (hcopy hw).2 name hname
  | copyFailed job l snap pc maps dst hw hstep =>
      intro name hname
      simpa [WorkerPc.mapped, CopyNext.mapped] using
        copyStep_maps hstep (hcopy hw).1 (hcopy hw).2 name hname
  | create job l w hw hcreate =>
      obtain ⟨snaps, rfl⟩ := World.snapCreate_frame hcreate
      rw [hw] at hmaps
      exact hmaps
  | reap job l snap old n hw =>
      obtain ⟨snaps, hframe⟩ := World.snapRemove_frame s.world old r
      rw [hw] at hmaps
      simp only [hframe]
      exact hmaps
  | readJob job hw | noJob hw | stopSeen job l hw | pass job l hw | createFailed job l hw
  | firstPass job l snap n hw | statusRead job l n hw | statusReplace job l n seen hw
  | statusFailed job l n seen hw | failRead l hw | failReplace l seen hw
  | failUnreported l seen hw =>
      rw [hw] at hmaps
      exact hmaps

theorem Tidy.workerStep {snaps : List (String × Objects)} {be : ObjectDiff g} {s s' : Sys}
    {r : Reply} (h : Tidy snaps s) (hrel : releases s (.worker r) = true)
    (hstep : WorkerStep be r s s') : Tidy snaps s' := by
  obtain ⟨hmirror, hdetach⟩ := hstep.frame
  refine ⟨h.ordered.workerStep hstep, h.unfinalized.workerStep hstep,
    (hstep.others h.names).trans h.others, ?_, hstep.names h.names, ?_, ?_⟩
  · rw [hdetach]
    exact hstep.maps hrel h.maps
  · rw [hdetach, hmirror]
    exact h.sequel
  · rw [hdetach]
    exact h.stage.workerStep hstep

/-- A worker that is killed in a pass forgets the snapshot of the pass. -/
theorem mem_names_of_killWorker {s : Sys} {name : String} (h : name ∈ s.killWorker.worker.names) :
    name ∈ s.worker.names := by
  rw [Sys.killWorker] at h
  split at h
  · cases hw : s.worker with
    | copy job l snap pc | reap job l snap n =>
        rw [hw] at h
        exact List.mem_cons_of_mem _ h
    | _ =>
        rw [hw] at h
        exact h
  · exact h

/-- What the detach knows stays true when the worker is killed. -/
theorem Stage.killWorker {s : Sys} {pc : DetachPc} (h : Stage s pc) : Stage s.killWorker pc := by
  have hgone := Sys.killWorker_running s
  have hworld := Sys.killWorker_world s
  cases pc with
  | idle | checkActive | finPid | canPid => trivial
  | checkStatus | finRead | finMerge | finReplace | finJob | finStop | canActive | canStop =>
      show s.killWorker.world.active = true
      rw [hworld]
      exact h
  | finWait b pid | canWait pid => exact fun hrun => absurd (hrun.symm.trans hgone) (by simp)
  | finSnap | canJob | sweepInfo => exact hgone
  | finCopy => exact ⟨hgone, h.2⟩
  | sweep e names =>
      refine ⟨hgone, h.2.1, ?_⟩
      rw [hworld]
      exact h.2.2
  | disconnect | rmJob | rmStatus | rmStop | rmDir =>
      refine ⟨hgone, ?_⟩
      rw [hworld]
      exact h.2
  | done e =>
      intro he
      refine ⟨hgone, ?_⟩
      rw [hworld]
      exact (h he).2

/-- The worker is killed while it has nothing mapped. -/
theorem Tidy.killWorker {snaps : List (String × Objects)} {s : Sys} (h : Tidy snaps s)
    (hmapped : s.worker.running = true → s.worker.mapped = none) : Tidy snaps s.killWorker := by
  have hnone : s.worker.mapped = none := by
    cases hrun : s.worker.running with
    | false => exact WorkerPc.mapped_eq_none hrun
    | true => exact hmapped hrun
  have hgone : s.killWorker.worker.mapped = none :=
    WorkerPc.mapped_eq_none (Sys.killWorker_running s)
  refine ⟨h.ordered.killWorker, h.unfinalized.killWorker, by simpa using h.others, ?_, ?_,
    by simpa using h.sequel, ?_⟩
  · have hmaps := h.maps
    rw [hnone] at hmaps
    simpa [hgone] using hmaps
  · exact fun name hname => h.names name (mem_names_of_killWorker hname)
  · rw [Sys.killWorker_detach]
    exact h.stage.killWorker

/-! ## Steps of the detach -/

/-- Detach 0 moves on, beside a change of the snapshots and maps. -/
theorem Tidy.move {snaps : List (String × Objects)} {s : Sys} {w : World} {shots : List Objects}
    {pc : DetachPc} (h : Tidy snaps s) (hdone : s.mirror = .returned ∨ s.mirror = .raised)
    (hordered : Ordered ({ s with world := w, shots := shots }.setDetach 0 pc))
    (hunfinalized : Unfinalized ({ s with world := w, shots := shots }.setDetach 0 pc))
    (hothers : otherSnaps w.snaps = otherSnaps s.world.snaps)
    (hmaps : ∀ name ∈ w.maps, s.worker.mapped = some name ∨ pc.mapped = some name)
    (hstage : Stage { s with world := w, shots := shots } pc) :
    Tidy snaps ({ s with world := w, shots := shots }.setDetach 0 pc) := by
  refine ⟨hordered, hunfinalized, hothers.trans h.others, ?_, h.names, fun _ => hdone, ?_⟩
  · rw [Sys.setDetach_self]
    exact hmaps
  · rw [Sys.setDetach_self]
    exact hstage

/-- Where the detach has nothing mapped, every map is the worker's. -/
theorem Tidy.maps_worker {snaps : List (String × Objects)} {s : Sys} (h : Tidy snaps s)
    (hnone : (s.detach 0).mapped = none) {name : String} (hname : name ∈ s.world.maps) :
    s.worker.mapped = some name :=
  (h.maps name hname).resolve_right (by simp [hnone])

/-- Where the worker is gone and the detach has nothing mapped, nothing is. -/
theorem Tidy.maps_eq_nil {snaps : List (String × Objects)} {s : Sys} (h : Tidy snaps s)
    (hgone : s.worker.running = false) (hnone : (s.detach 0).mapped = none) :
    s.world.maps = [] := by
  refine List.eq_nil_iff_forall_not_mem.mpr fun name hname => ?_
  have hworker := h.maps_worker hnone hname
  simp [WorkerPc.mapped_eq_none hgone] at hworker

/-- The detach moves on between two points where it has nothing mapped. -/
theorem Tidy.goto {snaps : List (String × Objects)} {s : Sys} {w : World} {shots : List Objects}
    {old pc : DetachPc} (h : Tidy snaps s) (hd : s.detach 0 = old) (hnone : old.mapped = none)
    (hdone : s.mirror = .returned ∨ s.mirror = .raised)
    (hordered : Ordered ({ s with world := w, shots := shots }.setDetach 0 pc))
    (hunfinalized : Unfinalized ({ s with world := w, shots := shots }.setDetach 0 pc))
    (hothers : otherSnaps w.snaps = otherSnaps s.world.snaps) (hmaps : w.maps = s.world.maps)
    (hstage : Stage { s with world := w, shots := shots } pc) :
    Tidy snaps ({ s with world := w, shots := shots }.setDetach 0 pc) := by
  refine h.move hdone hordered hunfinalized hothers (fun name hname => .inl ?_) hstage
  rw [hmaps] at hname
  exact h.maps_worker (by rw [hd, hnone]) hname

/-- A step of the copy of `finalize`, in the terms of `copyStep_maps`. -/
theorem Tidy.finCopy_maps {snaps : List (String × Objects)} {be : ObjectDiff g} {s : Sys}
    {b : Option String} {final : String} {pc : CopyPc} {r : Reply} {w : World} {next : CopyNext}
    (h : Tidy snaps s) (hd : s.detach 0 = .finCopy b final pc)
    (hrel : releases s (.detach 0 r) = true)
    (hcopy : copyStep be s.world b final pc r = (w, next)) :
    ∀ name ∈ w.maps, next.mapped = true ∧ name = final ∨ s.worker.mapped = some name := by
  refine copyStep_maps hcopy (by simpa [releases, hd] using hrel) fun name hname => ?_
  have hmaps := h.maps name hname
  rw [hd, DetachPc.mapped_finCopy] at hmaps
  exact hmaps.symm

/-- The worker has ended when the detach has found its pid gone. -/
theorem not_running_of_gone {s : Sys} {pid : Nat}
    (hpid : s.worker.running = true → pid = s.workerPid) (hgone : s.alive pid = false) :
    s.worker.running = false := by
  by_contra hrun
  have hrun : s.worker.running = true := by simpa using hrun
  simp [Sys.alive, hrun, hpid hrun] at hgone

theorem Tidy.detachStep {snaps : List (String × Objects)} {be : ObjectDiff g} {s s' : Sys}
    {r : Reply} (h : Tidy snaps s) (hseq : sequential s (.detach 0 r) = true)
    (hrel : releases s (.detach 0 r) = true) (hstep : DetachStep be r s 0 s') : Tidy snaps s' := by
  have hordered := h.ordered.detachStep hstep
  have hunfinalized := h.unfinalized.detachStep hstep
  have hstage := h.stage
  have hdone : s.mirror = .returned ∨ s.mirror = .raised := by
    by_cases hidle : s.detach 0 = .idle
    · simpa [sequential, hidle, DetachPc.sweeps] using hseq
    · exact h.sequel hidle
  cases hstep with
  | start hd | active hd hact | finStop b hd hdir | canStop hd hdir =>
      exact h.goto hd rfl hdone hordered hunfinalized rfl rfl (by trivial)
  | inactive hd =>
      exact h.goto hd rfl hdone hordered hunfinalized rfl rfl (fun he => absurd rfl he)
  | toFinalize hd | toCancel hd | finRead hd | finMerge b hd | finReplace b seen hd
  | finJob b hd | canActive hd =>
      rw [hd] at hstage
      exact h.goto hd rfl hdone hordered hunfinalized rfl rfl hstage
  | finalizedBefore hd hflag =>
      have hfile := h.unfinalized.file (by rw [hd]; rfl)
      simp [Unflagged, hflag] at hfile
  | canInactive hd hno =>
      rw [hd] at hstage
      exact absurd (hno.symm.trans hstage) (by simp)
  | finPid b pid hd hpid | canPid pid hd hpid =>
      refine h.goto hd rfl hdone hordered hunfinalized rfl rfl fun hrun => ?_
      simpa [releases, hd, show s.worker.running = true from hrun, hpid] using hrel
  | finNoPid b hd hpid | canNoPid hd hpid =>
      refine h.goto hd rfl hdone hordered hunfinalized rfl rfl ?_
      show s.worker.running = false
      simpa [releases, hd, hpid] using hrel
  | finKill b pid hd halive | canKill pid hd halive =>
      have hmapped : s.worker.mapped = none := by simpa [releases, hd, halive] using hrel
      exact (h.killWorker fun _ => hmapped).goto (by simpa using hd) rfl (by simpa using hdone)
        hordered hunfinalized rfl rfl (Sys.killWorker_running s)
  | finGone b pid hd hgone | canGone pid hd hgone =>
      rw [hd] at hstage
      exact h.goto hd rfl hdone hordered hunfinalized rfl rfl (not_running_of_gone hstage hgone)
  | finSnap b w hd hcreate =>
      rw [hd] at hstage
      have hothers := otherSnaps_snapCreate hcreate (sxm_finalSnap r.now)
      obtain ⟨taken, rfl⟩ := World.snapCreate_frame hcreate
      exact h.goto hd rfl hdone hordered hunfinalized hothers rfl ⟨hstage, sxm_finalSnap r.now⟩
  | finSnapFailed b hd | canJob hd =>
      rw [hd] at hstage
      exact h.goto hd rfl hdone hordered hunfinalized rfl rfl hstage
  | finCopy b final pc pc' maps dst hd hcopy =>
      rw [hd] at hstage
      refine h.move hdone hordered hunfinalized rfl (fun name hname => ?_) hstage
      rw [DetachPc.mapped_finCopy]
      exact (h.finCopy_maps hd hrel hcopy name hname).symm
  | finCopied b final pc n maps dst hd hcopy | finCopyFailed b final pc maps dst hd hcopy =>
      rw [hd] at hstage
      refine h.move hdone hordered hunfinalized rfl (fun name hname => .inl ?_) hstage.1
      exact (h.finCopy_maps hd hrel hcopy name hname).resolve_left (by simp [CopyNext.mapped])
  | sweepInfo e hd =>
      rw [hd] at hstage
      have hok : r.ok = true := by
        simp only [sequential, hd, DetachPc.sweeps, Bool.and_eq_true] at hseq
        exact hseq.2
      refine h.goto hd rfl hdone hordered hunfinalized rfl rfl ⟨hstage, ?_, ?_⟩
      · rw [if_pos hok]
        exact fun name hname => (List.mem_filter.mp hname).2
      · rw [if_pos hok]
        exact fun entry hentry hsxm =>
          List.mem_filter.mpr ⟨List.mem_map.mpr ⟨entry, hentry, rfl⟩, hsxm⟩
  | sweepEnd e hd | sweepEndFinalize e hd =>
      rw [hd] at hstage
      refine h.goto hd rfl hdone hordered hunfinalized rfl rfl ⟨hstage.1, fun entry hentry => ?_⟩
      by_contra hsxm
      exact List.not_mem_nil (hstage.2.2 entry hentry (by simpa using hsxm))
  | sweepRemove e name rest hd =>
      rw [hd] at hstage
      obtain ⟨hgone, hnames, hleft⟩ := hstage
      have hok : r.ok = true := by
        simp only [sequential, hd, DetachPc.sweeps, Bool.and_eq_true] at hseq
        exact hseq.2
      have hmaps := h.maps_eq_nil hgone (by rw [hd]; rfl)
      refine h.goto hd rfl hdone hordered hunfinalized
        (otherSnaps_snapRemove s.world r (hnames name List.mem_cons_self)) ?_
        ⟨hgone, fun other hother => hnames other (List.mem_cons_of_mem _ hother), ?_⟩
      · obtain ⟨left, hframe⟩ := World.snapRemove_frame s.world name r
        rw [hframe]
      · intro entry hentry hsxm
        obtain ⟨hold, hne⟩ := mem_snapRemove hok hmaps hentry
        exact (List.mem_cons.mp (hleft entry hold hsxm)).resolve_left hne
  | disconnect e hd | rmJob e hd | rmStatus e hd | rmStop e hd =>
      rw [hd] at hstage
      exact h.goto hd rfl hdone hordered hunfinalized rfl rfl hstage
  | rmDir e hd =>
      rw [hd] at hstage
      exact h.goto hd rfl hdone hordered hunfinalized rfl rfl fun _ => hstage
  | raised pc hd hlost =>
      -- the state directory and the job are there until this detach removes them
      exfalso
      rw [hd] at hstage
      have hok : r.ok = true := by
        obtain ⟨-, ⟨b, seen, rfl⟩ | ⟨b, rfl⟩ | rfl⟩ | ⟨-, b, rfl⟩ := hlost <;>
          simpa [releases, hd] using hrel
      have hact : s.world.active = true := by
        obtain ⟨-, ⟨b, seen, rfl⟩ | ⟨b, rfl⟩ | rfl⟩ | ⟨-, b, rfl⟩ := hlost <;> exact hstage
      simp [hok, h.ordered.dir hact, hact] at hlost

theorem Tidy.step {snaps : List (String × Objects)} {be : ObjectDiff g} {dconf : Dconf}
    {s s' : Sys} {a : Act} (h : Tidy snaps s)
    (hguard : sequential s a = true ∧ releases s a = true) (hstep : step be dconf s a = some s') :
    Tidy snaps s' := by
  cases a with
  | guestWrite off data | guestDiscard off len =>
      simp only [Blkmirror.step, Option.ite_none_right_eq_some, Option.some.injEq] at hstep
      obtain ⟨-, rfl⟩ := hstep
      refine { h with
        ordered := { h.ordered with }
        unfinalized := { h.unfinalized with }
        stage := ?_ }
      have hstage := h.stage
      cases hd : s.detach 0 <;> rw [hd] at hstage <;> exact hstage
  | mirror r => exact h.mirrorStep (mirrorStep_cases hstep)
  | worker r => exact h.workerStep hguard.2 (workerStep_cases hstep)
  | crash =>
      simp only [Blkmirror.step, Option.ite_none_right_eq_some, Option.some.injEq] at hstep
      obtain ⟨-, rfl⟩ := hstep
      exact h.killWorker fun _ => by simpa [releases] using hguard.2
  | detach i r =>
      obtain rfl : i = 0 := by
        have hseq := hguard.1
        simp only [sequential, Bool.and_eq_true, beq_iff_eq] at hseq
        exact hseq.1.1
      exact h.detachStep hguard.1 hguard.2 (detachStep_cases hstep)

theorem Tidy.init (src : Objects) (snaps : List (String × Objects)) :
    Tidy snaps (Sys.init src snaps) where
  ordered := .init src snaps
  unfinalized :=
    ⟨fun _ _ => rfl, fun _ => rfl, by simp [Sys.init, rewrites], by simp [Sys.init, rewrites],
      by simp [Sys.init, DetachPc.outcome]⟩
  others := rfl
  maps := by simp [Sys.init]
  names := by simp [Sys.init, WorkerPc.names, WorkerPc.locals]
  sequel := by simp [Sys.init]
  stage := trivial

/-- **A migration leaves no debris.** Take a run of `mirror()`, of its worker, killed or failing
wherever it may, and then of the detach that finalizes or cancels the mirror, with a sweep that
meets no failing backend and no step that gives a map up. When the detach has ended, by returning or
by raising, the image has no snapshot of the mirror, none is mapped, and every other snapshot is the
one of the start. -/
theorem no_debris {be : ObjectDiff g} {dconf : Dconf} {src : Objects}
    {snaps : List (String × Objects)} {acts : List Act} {s : Sys} {e : Outcome}
    (hrun : Run.run (step be dconf) (Sys.init src snaps) acts = some s)
    (hseq : Run.Along (step be dconf) (fun s a => sequential s a = true) (Sys.init src snaps) acts)
    (hrel : Run.Along (step be dconf) (fun s a => releases s a = true) (Sys.init src snaps) acts)
    (hdone : s.detach 0 = .done e) (hcalled : e ≠ .noMirror) : NoDebris snaps s.world := by
  have htidy : Tidy snaps s :=
    Run.run_invariant (fun _ _ _ h hguard hs => Tidy.step h hguard hs) (Tidy.init src snaps)
      (hseq.and hrel) hrun
  have hstage := htidy.stage
  rw [hdone] at hstage
  obtain ⟨hgone, hclean⟩ := hstage hcalled
  have hmaps := htidy.maps_eq_nil hgone (by rw [hdone]; rfl)
  exact ⟨hclean, by simp [hmaps], htidy.others⟩

/-- A worker that is killed in its second pass with the snapshot of the pass not mapped yet, and the
`finalize` after it. -/
def killedThenFinalized : List Act :=
  List.replicate 10 (Act.mirror {}) ++ List.replicate 17 (Act.worker { now := 5 }) ++ [.crash] ++
    List.replicate 22 (Act.detach 0 { now := 6 })

/-- There the baseline, the stray of the killed worker and the final snapshot are swept, and a
snapshot of the image's own stays. -/
theorem no_debris_killed_then_finalized :
    ∃ s, Run.run (step (ObjectDiff.exact sector) {}) (Sys.init filled [("nightly", .empty)])
        killedThenFinalized = some s ∧
      s.detach 0 = .done .finalized ∧ NoDebris [("nightly", .empty)] s.world := by
  have hrun : ((Run.checked (step (ObjectDiff.exact sector) {})
      (fun s a => sequential s a = true ∧ releases s a = true)
      (Sys.init filled [("nightly", .empty)]) killedThenFinalized).any
      fun s => decide (s.detach 0 = .done .finalized)) = true := by
    decide +kernel
  obtain ⟨s, hrun, hguard, htest⟩ := Run.exists_of_checked hrun
  have hdone : s.detach 0 = .done .finalized := by simpa using htest
  exact ⟨s, hrun, hdone, no_debris hrun (hguard.mono fun _ _ h => h.1)
    (hguard.mono fun _ _ h => h.2) hdone (by decide)⟩

/-- A worker that is killed with its snapshot mapped, and the `cancel` after it. -/
def killedWhileMapped : List Act :=
  List.replicate 10 (Act.mirror {}) ++ List.replicate 5 (Act.worker {}) ++ [.crash] ++
    List.replicate 15 (Act.detach 0 {})

/-- There the sweep cannot remove the snapshot, and `cancel` leaves it and its map behind. -/
theorem cancel_leaves_mapped_snapshot :
    ∃ s, Run.run (step (ObjectDiff.exact sector) {}) (Sys.init filled []) killedWhileMapped =
        some s ∧
      Run.Along (step (ObjectDiff.exact sector) {}) (fun s a => sequential s a = true)
        (Sys.init filled []) killedWhileMapped ∧
      s.detach 0 = .done .cancelled ∧ s.world.maps = ["xcp-sxm-0-0"] ∧
      s.world.hasSnap "xcp-sxm-0-0" = true ∧ ¬ NoDebris [] s.world := by
  have hrun : ((Run.checked (step (ObjectDiff.exact sector) {})
      (fun s a => sequential s a = true) (Sys.init filled []) killedWhileMapped).any
      fun s => decide (s.detach 0 = .done .cancelled) && decide (s.world.maps = ["xcp-sxm-0-0"]) &&
        s.world.hasSnap "xcp-sxm-0-0") = true := by
    decide +kernel
  obtain ⟨s, hrun, hguard, htest⟩ := Run.exists_of_checked hrun
  simp only [Bool.and_eq_true, decide_eq_true_eq] at htest
  obtain ⟨⟨hdone, hmaps⟩, hsnap⟩ := htest
  refine ⟨s, hrun, hguard, hdone, hmaps, hsnap, fun hclean => ?_⟩
  have hsxm := hclean.maps "xcp-sxm-0-0" (by simp [hmaps])
  exact absurd hsxm (by decide)

end XcpCephRbd.Blkmirror
