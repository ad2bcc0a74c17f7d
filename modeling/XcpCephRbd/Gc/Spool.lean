import XcpCephRbd.Gc.System

/-!
# The spool of GC jobs

`spawn` and `sweep` with the calls on files that they make. A job file is created empty and then
written; a process that dies in between, or a write that fails, leaves one that cannot be read. A
worker reads its job file when it starts and unlinks it when its `run` has returned. `expand` gives
an operation the file calls of the GC calls it makes, and the system is made of any number of
`destroy`s, one `SR.ls` at a time and any number of workers, each of which may die at any point.
-/

namespace XcpCephRbd.Gc

open Volume (Job VolumeDict)
open Datapath (SrMeta)

/-- A call of an operation, or one on the spool. -/
inductive FileCall where
  | op (c : OpCall)
  | mkstemp
  | write (path : String) (job : Job)
  | launch (path : String)
  | listdir
  | read (path : String)
  | isStale (path : String)

/-- What a call returns. -/
def FileCall.Result : FileCall → Type
  | .op c => c.Result
  | .mkstemp => String
  | .write _ _ => Unit
  | .launch _ => Unit
  | .listdir => List String
  | .read _ => Job
  | .isStale _ => Bool

/-- A process of the plugin, with its calls on files. -/
abbrev FileProg := Prog Volume.Exc FileCall FileCall.Result

/-- One call. -/
def fileCall (c : FileCall) : FileProg c.Result := Prog.perform c

/-- `_launch(job_path)`, whose failure is logged. -/
def tryLaunch (path : String) : FileProg Unit := tryCatch (fileCall (.launch path)) fun _ => pure ()

/-- `gcjob.spawn(dconf, pool, namespace, kind, image, snap)`. -/
def spawn (job : Job) : FileProg Unit := do
  let path : String ← fileCall .mkstemp
  fileCall (.write path job)
  tryLaunch path

/-- The job in a file: `none` where the file cannot be read. -/
def readJob (path : String) : FileProg (Option Job) :=
  tryCatch (do
    let job : Job ← fileCall (.read path)
    return some job) fun _ => pure none

/-- `sweep`'s new launch of a job file that is stale. -/
def relaunch (path : String) : FileProg Unit := do
  let stale : Bool ← tryCatch (fileCall (.isStale path)) fun _ => pure false
  if stale then tryLaunch path else pure ()

/-- The loop of `sweep`. -/
def sweepFiles (targets : List Job) : List String → FileProg (List Job)
  | [] => pure targets
  | path :: rest =>
      if Text.endsWith path ".json" then do
        match ← readJob path with
        | none => sweepFiles targets rest
        | some job =>
            relaunch path
            sweepFiles (job :: targets) rest
      else sweepFiles targets rest

/-- `gcjob.sweep()`. -/
def sweep : FileProg (List Job) := do
  let files : List String ← tryCatch (fileCall .listdir) fun _ => pure []
  sweepFiles [] files

/-- An operation with the file calls of the GC calls that it makes. -/
def expand {α : Type} : Op α → FileProg α
  | .ret value => .ret value
  | .raise error => .raise error
  | .call (.call (.gcSpawn job)) resume => (spawn job).finish fun outcome => expand (resume outcome)
  | .call (.call .gcSweep) resume => sweep.finish fun outcome => expand (resume outcome)
  | .call c resume => .call (.op c) fun reply => expand (resume reply)

/-- What the processes of a host share: the cluster and the spool, in which a file that cannot be
read has no job. The last two are the jobs that were readable when the last `SR.ls` began, and the
jobs that were written since. -/
structure Host where
  graph : Graph
  spool : AList fun _ : String => Option Job
  before : List Job := []
  created : List Job := []

/-- The jobs that can be read. -/
def Host.readable (w : Host) : List Job := w.spool.entries.filterMap fun entry => entry.2

/-- A name that `mkstemp(prefix="gc-", suffix=".json")` gives. -/
def isTemp (path : String) : Bool := Text.startsWith path "gc-" && Text.endsWith path ".json"

/-- What the environment decides about a call of a process. -/
inductive FileChoice where
  | op (choice : OpChoice)
  | ok
  | fail (error : Volume.Exc)
  | temp (path : String)
  | stale (value : Bool)

/-- The path of a new job file. -/
def FileChoice.path : FileChoice → Option String
  | .temp path => some path
  | _ => none

/-- The answer to a call of a process. A write goes to the file that `mkstemp` made, and nowhere
that is seen once this is unlinked. A file can be read once it is written, and the spool can be
listed if it is there. -/
def fileHandle (shape : Shape) (sr : Sr) :
    FileChoice → Host → (c : FileCall) → Option (Except Volume.Exc c.Result × Host)
  | .op choice, w, .op c => (opHandle shape sr choice { graph := w.graph } c).map
      fun (reply, after) => (reply, { w with graph := after.graph })
  | .temp path, w, .mkstemp =>
      if isTemp path = false ∨ path ∈ w.spool then none
      else some (.ok path, { w with spool := w.spool.insert path none })
  | .ok, w, .write path job =>
      if w.spool.lookup path = some none then
        some (.ok (),
          { w with spool := w.spool.insert path (some job), created := job :: w.created })
      else some (.ok (), w)
  | .ok, w, .launch _ => some (.ok (), w)
  | .ok, w, .listdir => some (.ok w.spool.keys, w)
  | .ok, w, .read path =>
      match w.spool.lookup path with
      | some (some job) => some (.ok job, w)
      | _ => some (.error (.other "cannot read job"), w)
  | .stale value, w, .isStale _ => some (.ok value, w)
  | .fail error, w, .mkstemp => some (.error error, w)
  | .fail error, w, .write _ _ => some (.error error, w)
  | .fail error, w, .launch _ => some (.error error, w)
  | .fail error, w, .isStale _ => some (.error error, w)
  | .fail error, w, .listdir => if w.spool.keys = [] then some (.error error, w) else none
  | _, _, _ => none

/-- A worker: the path of its job file, the job it read there, and what it still does. -/
structure Worker where
  path : String
  job : Job
  program : Py Nat

/-- The host with its processes. -/
structure Spool where
  host : Host
  destroys : List (FileProg Unit) := []
  scan : Option (FileProg (List VolumeDict)) := none
  workers : List Worker := []

/-- What happens next. A process that ends or dies is forgotten. -/
inductive SpoolLabel where
  | destroy (dbg key : String)
  | destroyStep (index : Nat) (choice : FileChoice)
  | destroyEnd (index : Nat)
  | scan
  | scanStep (choice : FileChoice)
  | scanEnd
  | start (path : String)
  | workerStep (index : Nat) (choice : Choice)
  | workerEnd (index : Nat)

/-- What a call of a worker does to the host: only `unlink` is about the spool. -/
def Worker.step (shape : Shape) (worker : Worker) (choice : Choice) (w : Host) :
    Option (Worker × Host) :=
  (worker.program.next (handle shape) choice { graph := w.graph }).map fun (program, st) =>
    ({ worker with program := program },
      { w with graph := st.graph
               spool := if st.jobFile then w.spool else w.spool.erase worker.path })

/-- One step of the host. -/
def spoolStep (shape : Shape) (sr : Sr) (m : SrMeta) (s : Spool) : SpoolLabel → Option Spool
  | .destroy dbg key => some { s with destroys := expand (destroy dbg key) :: s.destroys }
  | .destroyStep index choice => s.destroys[index]?.bind fun p =>
      (p.next (fileHandle shape sr) choice s.host).map fun (p, host) =>
        { s with destroys := s.destroys.set index p, host := host }
  | .destroyEnd index => some { s with destroys := s.destroys.eraseIdx index }
  | .scan => some { s with
      scan := some (expand (lift (Volume.ls m)))
      host := { s.host with before := s.host.readable, created := [] } }
  | .scanStep choice => s.scan.bind fun p =>
      (p.next (fileHandle shape sr) choice s.host).map fun (p, host) =>
        { s with scan := some p, host := host }
  | .scanEnd => some { s with scan := none }
  | .start path =>
      match s.host.spool.lookup path with
      | some (some job) =>
          some { s with workers := ⟨path, job, main sr.pool sr.ns (some job)⟩ :: s.workers }
      | _ => some s
  | .workerStep index choice => s.workers[index]?.bind fun worker =>
      (worker.step shape choice s.host).map fun (worker, host) =>
        { s with workers := s.workers.set index worker, host := host }
  | .workerEnd index => some { s with workers := s.workers.eraseIdx index }

end XcpCephRbd.Gc
