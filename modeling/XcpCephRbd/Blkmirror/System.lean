import XcpCephRbd.Lib.Run
import XcpCephRbd.Blkmirror.World
import XcpCephRbd.Lib.Text

/-!
# The processes of a blkback mirror

`mirror()` of `blkmirror.py` sets a mirror up and spawns the worker `rbd_blkmir.py`, whose
`main` loops over pre-copy passes. `Datapath.detach` of the image's own URI finalizes or
cancels the mirror; any number of such detaches may be under way. Each process is a control
point with its live variables, and one step is one file operation, one backend call or one
chunk of a copy, so that the list of labels of a run is an arbitrary interleaving of the
processes with each other and with the guest's writes and discards. The worker may be killed
between any two of its steps.

`Sys.shots` and `Sys.passed` are history variables: the contents frozen by `snap_create`, newest
first, and the baseline of the worker's latest completed pass. No step reads them.
-/

namespace XcpCephRbd.Blkmirror

/-- Control points of `mirror()`; the arguments are the status fields read by `write_status`. -/
inductive MirrorPc where
  | start
  | makedirs
  | connect
  | writeJob (nbdDev : String)
  | statusRead
  | statusReplace (seen : Status)
  | unlinkStop
  | spawn
  | pidRead
  | pidReplace (seen : Status)
  | returned
  | raised
  deriving DecidableEq, Repr

/-- The worker's loop variables. -/
structure Locals where
  baseline : Option String := none
  firstBytes : Option Nat := none
  converged : Bool := false
  iters : Nat := 0
  deriving DecidableEq, Repr

/-- Control points of the worker's `main`. `failRead` and `failReplace` are the two halves of
the `write_status` in its `except` block; `exited failed` is the end of the process. -/
inductive WorkerPc where
  | absent
  | readJob
  | test (job : Job) (l : Locals)
  | create (job : Job) (l : Locals)
  | copy (job : Job) (l : Locals) (snap : String) (pc : CopyPc)
  | reap (job : Job) (l : Locals) (snap : String) (bytes : Nat)
  | statusRead (job : Job) (l : Locals) (bytes : Nat)
  | statusReplace (job : Job) (l : Locals) (bytes : Nat) (seen : Status)
  | failRead (l : Locals)
  | failReplace (l : Locals) (seen : Status)
  | exited (l : Locals) (failed : Bool)
  | killed (l : Locals)
  deriving DecidableEq, Repr

/-- How a detach leaves the mirror's code. `noMirror` and `finalizedBefore` did nothing. -/
inductive Outcome where
  | noMirror
  | finalizedBefore
  | finalized
  | raised
  | cancelled
  deriving DecidableEq, Repr

/-- Control points of `Datapath.detach` in blkback mode: the choice between `finalize` and
`cancel`, the two functions, and the sweep and `_rmstate` they share. `e` is how the detach
will end once the state is removed. -/
inductive DetachPc where
  | idle
  | checkActive
  | checkStatus
  | finRead
  | finMerge (baseline : Option String)
  | finReplace (baseline : Option String) (seen : Status)
  | finJob (baseline : Option String)
  | finStop (baseline : Option String)
  | finPid (baseline : Option String)
  | finWait (baseline : Option String) (pid : Nat)
  | finSnap (baseline : Option String)
  | finCopy (baseline : Option String) (final : String) (pc : CopyPc)
  | canActive
  | canStop
  | canPid
  | canWait (pid : Nat)
  | canJob
  | sweepInfo (e : Outcome)
  | sweep (e : Outcome) (names : List String)
  | disconnect (e : Outcome)
  | rmJob (e : Outcome)
  | rmStatus (e : Outcome)
  | rmStop (e : Outcome)
  | rmDir (e : Outcome)
  | done (e : Outcome)
  deriving DecidableEq, Repr

/-- The state of a mirror and of every process that works on it. -/
structure Sys where
  world : World
  mirror : MirrorPc
  worker : WorkerPc
  workerPid : Nat
  detach : Nat → DetachPc
  shots : List Objects
  passed : Option String

/-- One step of a run: a guest operation, the next step of a process with what its call is
answered, or the death of the worker from outside. -/
inductive Act where
  | guestWrite (off : Nat) (data : List UInt8)
  | guestDiscard (off len : Nat)
  | mirror (r : Reply)
  | worker (r : Reply)
  | crash
  | detach (i : Nat) (r : Reply)

/-- The loop variables of a worker, whatever its control point. -/
def WorkerPc.locals : WorkerPc → Locals
  | .absent | .readJob => {}
  | .test _ l | .create _ l | .copy _ l _ _ | .reap _ l _ _ | .statusRead _ l _
  | .statusReplace _ l _ _ | .failRead l | .failReplace l _ | .exited l _ | .killed l => l

/-- The worker's process exists. -/
def WorkerPc.running : WorkerPc → Bool
  | .absent | .exited _ _ | .killed _ => false
  | _ => true

/-- `os.kill(pid, 0)` finds a process: the only one that carries a mirror's pid is its worker. -/
def Sys.alive (s : Sys) (pid : Nat) : Bool := s.worker.running && s.workerPid == pid

/-- `SIGKILL` to the worker. -/
def Sys.killWorker (s : Sys) : Sys :=
  if s.worker.running then { s with worker := .killed s.worker.locals } else s

namespace Sys

variable (s : Sys)

@[simp] theorem killWorker_world : s.killWorker.world = s.world := by
  unfold killWorker
  split <;> rfl

@[simp] theorem killWorker_mirror : s.killWorker.mirror = s.mirror := by
  unfold killWorker
  split <;> rfl

@[simp] theorem killWorker_workerPid : s.killWorker.workerPid = s.workerPid := by
  unfold killWorker
  split <;> rfl

@[simp] theorem killWorker_detach : s.killWorker.detach = s.detach := by
  unfold killWorker
  split <;> rfl

@[simp] theorem killWorker_passed : s.killWorker.passed = s.passed := by
  unfold killWorker
  split <;> rfl

@[simp] theorem killWorker_locals : s.killWorker.worker.locals = s.worker.locals := by
  unfold killWorker
  split <;> rfl

@[simp] theorem killWorker_running : s.killWorker.worker.running = false := by
  unfold killWorker
  split
  · rfl
  · simp_all

end Sys

/-! ## `mirror()` -/

/-- The fields of the first `write_status` of `mirror`. -/
def startFields : Status := ⟨
  [("phase", .str "starting"), ("progress", .real 0), ("complete", .bool false),
   ("failed", .bool false), ("baseline_snap", .null), ("iters", .int 0), ("pid", .null)]⟩

/-- The field of the second `write_status` of `mirror`. -/
def pidFields (pid : Nat) : Status := ⟨[("pid", .int pid)]⟩

@[simp] theorem Status.baseline_startFields (seen : Status) :
    (seen.update startFields).baseline = none := by
  simp [Status.baseline, Status.get_mk, startFields, List.lookup_cons]

@[simp] theorem Status.baseline_pidFields (seen : Status) (pid : Nat) :
    (seen.update (pidFields pid)).baseline = seen.baseline := by
  simp [Status.baseline, Status.get_mk, pidFields, List.lookup_cons]

@[simp] theorem Status.pid_pidFields (seen : Status) (pid : Nat) :
    (seen.update (pidFields pid)).pid = if pid = 0 then none else some pid := by
  simp [Status.pid, Status.get_mk, pidFields]

@[simp] theorem startFields_finalized : startFields.get "finalized" = none := by
  simp [Status.get_mk, startFields, List.lookup_cons]

@[simp] theorem pidFields_finalized (pid : Nat) : (pidFields pid).get "finalized" = none := by
  simp [Status.get_mk, pidFields, List.lookup_cons]

@[simp] theorem startFields_complete : startFields.get "complete" = some (.bool false) := by
  simp [Status.get_mk, startFields, List.lookup_cons]

@[simp] theorem pidFields_complete (pid : Nat) : (pidFields pid).get "complete" = none := by
  simp [Status.get_mk, pidFields, List.lookup_cons]

@[simp] theorem pidFields_failed (pid : Nat) : (pidFields pid).get "failed" = none := by
  simp [Status.get_mk, pidFields, List.lookup_cons]

/-- The next step of `mirror(dbg, dconf, pool, ns, image, remote)`. The first step is the
parsing of `remote`; any call that fails makes `mirror` raise where it stands. -/
def mirrorStep (dconf : Dconf) (s : Sys) (r : Reply) : Option Sys :=
  match s.mirror with
  | .start => some { s with mirror := if r.ok then .makedirs else .raised }
  | .makedirs =>
      if r.ok then some { s with mirror := .connect, world := { s.world with dir := true } }
      else some { s with mirror := .raised }
  | .connect =>
      if r.ok then
        some { s with mirror := .writeJob r.nbdDev, world := { s.world with nbd := true } }
      else some { s with mirror := .raised }
  | .writeJob nbdDev =>
      if r.ok && s.world.dir then
        some { s with
          mirror := .statusRead
          world := { s.world with job := some (.ofDconf dconf nbdDev) } }
      else some { s with mirror := .raised }
  | .statusRead => some { s with mirror := .statusReplace s.world.readStatus }
  | .statusReplace seen =>
      match s.world.replaceStatus seen startFields r with
      | some w => some { s with mirror := .unlinkStop, world := w }
      | none => some { s with mirror := .raised }
  | .unlinkStop => some { s with mirror := .spawn, world := { s.world with stop := false } }
  | .spawn =>
      if r.ok && r.pid != 0 then
        some { s with mirror := .pidRead, worker := .readJob, workerPid := r.pid }
      else some { s with mirror := .raised }
  | .pidRead => some { s with mirror := .pidReplace s.world.readStatus }
  | .pidReplace seen =>
      match s.world.replaceStatus seen (pidFields s.workerPid) r with
      | some w => some { s with mirror := .returned, world := w }
      | none => some { s with mirror := .raised }
  | .returned | .raised => none

/-! ## The worker -/

/-- The name of the worker's next snapshot. -/
def passSnap (now iters : Nat) : String :=
  snapPrefix ++ toString now ++ "-" ++ toString iters

/-- The loop variables after a pass that copied `bytes` into the new baseline `snap`. -/
def Locals.advance (l : Locals) (job : Job) (snap : String) (bytes : Nat) : Locals where
  baseline := some snap
  iters := l.iters + 1
  firstBytes := some (l.firstBytes.getD (if bytes = 0 then 1 else bytes))
  converged := l.converged || decide (bytes < job.threshold) || decide (job.maxIters ≤ l.iters + 1)

/-- The progress a pass reports. -/
def Locals.progress (l : Locals) (bytes : Nat) : Rat :=
  if l.converged then 1
  else max 0 (min (95 / 100) (1 - (bytes : Rat) / (l.firstBytes.getD 1 : Nat)))

/-- A snapshot name or `None` as a field of the status. -/
def snapVal : Option String → Val
  | none => .null
  | some snap => .str snap

/-- The fields of the `write_status` that ends a pass. -/
def passFields (l : Locals) (bytes : Nat) : Status := ⟨
  [("phase", .str (if l.converged then "synced" else "precopy")),
   ("progress", .real (l.progress bytes)), ("complete", .bool l.converged),
   ("failed", .bool false), ("baseline_snap", snapVal l.baseline), ("iters", .int l.iters),
   ("last_bytes", .int bytes)]⟩

/-- The fields of the `write_status` in the worker's `except` block. -/
def failFields (l : Locals) (error : String) : Status := ⟨
  [("failed", .bool true), ("phase", .str "failed"), ("error", .str error),
   ("baseline_snap", snapVal l.baseline)]⟩

@[simp] theorem Status.baseline_passFields (seen : Status) (l : Locals) (n : Nat) :
    (seen.update (passFields l n)).baseline = l.baseline := by
  cases hb : l.baseline <;>
    simp [Status.baseline, Status.get_mk, passFields, List.lookup_cons, hb, snapVal]

@[simp] theorem Status.baseline_failFields (seen : Status) (l : Locals) (error : String) :
    (seen.update (failFields l error)).baseline = l.baseline := by
  cases hb : l.baseline <;>
    simp [Status.baseline, Status.get_mk, failFields, List.lookup_cons, hb, snapVal]

@[simp] theorem Status.pid_passFields (seen : Status) (l : Locals) (n : Nat) :
    (seen.update (passFields l n)).pid = seen.pid := by
  simp [Status.pid, Status.get_mk, passFields, List.lookup_cons]

@[simp] theorem Status.pid_failFields (seen : Status) (l : Locals) (error : String) :
    (seen.update (failFields l error)).pid = seen.pid := by
  simp [Status.pid, Status.get_mk, failFields, List.lookup_cons]

@[simp] theorem passFields_finalized (l : Locals) (n : Nat) :
    (passFields l n).get "finalized" = none := by
  simp [Status.get_mk, passFields, List.lookup_cons]

@[simp] theorem failFields_finalized (l : Locals) (error : String) :
    (failFields l error).get "finalized" = none := by
  simp [Status.get_mk, failFields, List.lookup_cons]

@[simp] theorem passFields_complete (l : Locals) (n : Nat) :
    (passFields l n).get "complete" = some (.bool l.converged) := by
  simp [Status.get_mk, passFields, List.lookup_cons]

@[simp] theorem failFields_complete (l : Locals) (error : String) :
    (failFields l error).get "complete" = none := by
  simp [Status.get_mk, failFields, List.lookup_cons]

@[simp] theorem failFields_failed (l : Locals) (error : String) :
    (failFields l error).get "failed" = some (.bool true) := by
  simp [Status.get_mk, failFields]

/-- The next step of the worker's `main(image)`. A failed `snap_remove` of the old baseline is
logged and ignored; every other failure inside the loop goes to the `except` block. -/
def workerStep {g : Geometry} (be : ObjectDiff g) (s : Sys) (r : Reply) : Option Sys :=
  match s.worker with
  | .absent | .exited _ _ | .killed _ => none
  | .readJob =>
      match s.world.job with
      | some job => some { s with worker := .test job {} }
      | none => some { s with worker := .exited {} true }
  | .test job l =>
      some { s with worker := if s.world.stop then .exited l false else .create job l }
  | .create job l =>
      match s.world.snapCreate (passSnap r.now l.iters) r with
      | some w =>
          some { s with
            world := w
            shots := s.world.src :: s.shots
            worker := .copy job l (passSnap r.now l.iters) .diff }
      | none => some { s with worker := .failRead l }
  | .copy job l snap pc =>
      match copyStep be s.world l.baseline snap pc r with
      | (w, .goto pc') => some { s with world := w, worker := .copy job l snap pc' }
      | (w, .returned n) =>
          some { s with world := w, worker := .reap job l snap n }
      | (w, .raised) => some { s with world := w, worker := .failRead l }
  | .reap job l snap n =>
      let w := match l.baseline with
        | some old => (s.world.snapRemove old r).getD s.world
        | none => s.world
      some { s with world := w, worker := .statusRead job (l.advance job snap n) n }
  | .statusRead job l n =>
      some { s with worker := .statusReplace job l n s.world.readStatus }
  | .statusReplace job l n seen =>
      match s.world.replaceStatus seen (passFields l n) r with
      | some w => some { s with world := w, passed := l.baseline, worker := .test job l }
      | none => some { s with worker := .failRead l }
  | .failRead l => some { s with worker := .failReplace l s.world.readStatus }
  | .failReplace l seen =>
      some { s with
        world := (s.world.replaceStatus seen (failFields l r.error) r).getD s.world
        worker := .exited l true }

/-! ## `Datapath.detach`, `finalize` and `cancel` -/

/-- The fields `finalize` merges into the status. -/
def finalizeFields : Status := ⟨
  [("finalized", .bool true), ("phase", .str "finalizing")]⟩

@[simp] theorem Status.baseline_finalizeFields (seen : Status) :
    (seen.update finalizeFields).baseline = seen.baseline := by
  simp [Status.baseline, Status.get_mk, finalizeFields, List.lookup_cons]

@[simp] theorem Status.pid_finalizeFields (seen : Status) :
    (seen.update finalizeFields).pid = seen.pid := by
  simp [Status.pid, Status.get_mk, finalizeFields, List.lookup_cons]

@[simp] theorem finalizeFields_finalized :
    finalizeFields.get "finalized" = some (.bool true) := by
  simp [Status.get_mk, finalizeFields]

@[simp] theorem finalizeFields_complete : finalizeFields.get "complete" = none := by
  simp [Status.get_mk, finalizeFields, List.lookup_cons]

@[simp] theorem finalizeFields_failed : finalizeFields.get "failed" = none := by
  simp [Status.get_mk, finalizeFields, List.lookup_cons]

/-- The name of the snapshot `finalize` takes. -/
def finalSnap (now : Nat) : String := snapPrefix ++ "final-" ++ toString now

/-- The snapshots that `_sweep_sxm_snaps` removes. -/
def World.sxmSnaps (w : World) : List String :=
  (w.snaps.map Prod.fst).filter fun name => Text.startsWith name snapPrefix

/-- Give process `i` the control point `pc`. -/
def Sys.setDetach (s : Sys) (i : Nat) (pc : DetachPc) : Sys :=
  { s with detach := Function.update s.detach i pc }

namespace Sys

variable (s : Sys) (i : Nat) (pc : DetachPc)

@[simp] theorem setDetach_world : (s.setDetach i pc).world = s.world := rfl

@[simp] theorem setDetach_mirror : (s.setDetach i pc).mirror = s.mirror := rfl

@[simp] theorem setDetach_worker : (s.setDetach i pc).worker = s.worker := rfl

@[simp] theorem setDetach_workerPid : (s.setDetach i pc).workerPid = s.workerPid := rfl

@[simp] theorem setDetach_passed : (s.setDetach i pc).passed = s.passed := rfl

@[simp] theorem setDetach_self : (s.setDetach i pc).detach i = pc := by
  simp [setDetach]

theorem setDetach_of_ne {j : Nat} (h : j ≠ i) : (s.setDetach i pc).detach j = s.detach j := by
  simp [setDetach, h]

end Sys

/-- The next step of detach `i` in the mirror's code. `_stop_worker` polls the pid, so its wait
ends in a step only when the process is gone or the deadline has passed. -/
def detachStep {g : Geometry} (be : ObjectDiff g) (s : Sys) (i : Nat) (r : Reply) : Option Sys :=
  let w := s.world
  match s.detach i with
  | .idle => some (s.setDetach i .checkActive)
  | .checkActive => some (s.setDetach i (if w.active then .checkStatus else .done .noMirror))
  | .checkStatus =>
      let st := w.readStatus
      some (s.setDetach i
        (if truthy (st.get "complete") && !truthy (st.get "failed") then .finRead else .canActive))
  -- finalize
  | .finRead =>
      let st := w.readStatus
      some (s.setDetach i
        (if truthy (st.get "finalized") then .done .finalizedBefore else .finMerge st.baseline))
  | .finMerge baseline => some (s.setDetach i (.finReplace baseline w.readStatus))
  | .finReplace baseline seen =>
      match w.replaceStatus seen finalizeFields r with
      | some w' => some ({ s with world := w' }.setDetach i (.finJob baseline))
      | none => some (s.setDetach i (.done .raised))
  | .finJob baseline =>
      some (s.setDetach i (if r.ok && w.active then .finStop baseline else .done .raised))
  | .finStop baseline =>
      if r.ok && w.dir then
        some ({ s with world := { w with stop := true } }.setDetach i (.finPid baseline))
      else some (s.setDetach i (.done .raised))
  | .finPid baseline =>
      match w.readStatus.pid with
      | some pid => some (s.setDetach i (.finWait baseline pid))
      | none => some (s.setDetach i (.finSnap baseline))
  | .finWait baseline pid =>
      if s.alive pid then
        if r.timeout then some (s.killWorker.setDetach i (.finSnap baseline)) else none
      else some (s.setDetach i (.finSnap baseline))
  | .finSnap baseline =>
      match w.snapCreate (finalSnap r.now) r with
      | some w' =>
          some ({ s with world := w', shots := w.src :: s.shots }.setDetach i
            (.finCopy baseline (finalSnap r.now) .diff))
      | none => some (s.setDetach i (.sweepInfo .raised))
  | .finCopy baseline final pc =>
      match copyStep be w baseline final pc r with
      | (w', .goto pc') =>
          some ({ s with world := w' }.setDetach i (.finCopy baseline final pc'))
      | (w', .returned _) => some ({ s with world := w' }.setDetach i (.sweepInfo .finalized))
      | (w', .raised) => some ({ s with world := w' }.setDetach i (.sweepInfo .raised))
  -- cancel
  | .canActive => some (s.setDetach i (if w.active then .canStop else .done .noMirror))
  | .canStop =>
      if r.ok && w.dir then some ({ s with world := { w with stop := true } }.setDetach i .canPid)
      else some (s.setDetach i (.done .raised))
  | .canPid =>
      match w.readStatus.pid with
      | some pid => some (s.setDetach i (.canWait pid))
      | none => some (s.setDetach i .canJob)
  | .canWait pid =>
      if s.alive pid then
        if r.timeout then some (s.killWorker.setDetach i .canJob) else none
      else some (s.setDetach i .canJob)
  | .canJob =>
      some ({ s with world := { w with nbd := w.nbd && !w.active } }.setDetach i
        (.sweepInfo .cancelled))
  -- the sweep, the disconnect of finalize and _rmstate
  | .sweepInfo e =>
      some (s.setDetach i (.sweep e (if r.ok then w.sxmSnaps else [])))
  | .sweep e [] => some (s.setDetach i (if e = .cancelled then .rmJob e else .disconnect e))
  | .sweep e (name :: rest) =>
      some ({ s with world := (w.snapRemove name r).getD w }.setDetach i (.sweep e rest))
  | .disconnect e => some ({ s with world := { w with nbd := false } }.setDetach i (.rmJob e))
  | .rmJob e => some ({ s with world := { w with job := none } }.setDetach i (.rmStatus e))
  | .rmStatus e => some ({ s with world := { w with status := none } }.setDetach i (.rmStop e))
  | .rmStop e => some ({ s with world := { w with stop := false } }.setDetach i (.rmDir e))
  | .rmDir e =>
      some ({ s with
        world := { w with dir := w.dir && (w.active || w.status.isSome || w.stop) } }.setDetach i
          (.done e))
  | .done _ => none

/-! ## The whole system -/

/-- One step of the system. A guest operation stays inside the image. -/
def step {g : Geometry} (be : ObjectDiff g) (dconf : Dconf) (s : Sys) : Act → Option Sys
  | .guestWrite off data =>
      if off + data.length ≤ g.size then
        some { s with world := { s.world with src := g.write s.world.src off data } }
      else none
  | .guestDiscard off len =>
      if off + len ≤ g.size then
        some { s with world := { s.world with src := g.discard s.world.src off len } }
      else none
  | .mirror r => mirrorStep dconf s r
  | .worker r => workerStep be s r
  | .crash => if s.worker.running then some s.killWorker else none
  | .detach i r => detachStep be s i r

/-- Before `mirror()`: no state directory, no process, and a destination that reads as zeros.
The source image may have any content and any snapshots of its own. -/
def Sys.init (src : Objects) (snaps : List (String × Objects)) : Sys where
  world :=
    { dir := false, job := none, status := none, stop := false, src, snaps, maps := [],
      dst := fun _ => 0, nbd := false }
  mirror := .start
  worker := .absent
  workerPid := 0
  detach := fun _ => .idle
  shots := []
  passed := none

end XcpCephRbd.Blkmirror
