import XcpCephRbd.Gc.Graph
import XcpCephRbd.Lib.Safe
import XcpCephRbd.Lib.Run

/-!
# The garbage collector

`rbd_gc.py`, the same file in both drivers but for its imports and its log: the worker that is
started for a job of a trashed image or snapshot. It flattens the clones that pin the object, where
that frees it, removes the object, and unlinks its job file only when `run` has returned. What the
backends report of a clone differs in shape, which is a parameter here: the dashboard gives a
dictionary, the binding of librbd a pair.
-/

namespace XcpCephRbd.Gc

open Volume (BackendError Job)

/-- A clone as a backend lists it. -/
inductive Child where
  | dict (poolName namespaceName imageName : String)
  | pair (pool image : String)
  deriving DecidableEq, Repr

/-- The backend that the SR uses. -/
inductive Shape where
  | rest
  | local
  deriving DecidableEq, Repr

/-- What a backend makes of a clone. -/
def Shape.child : Shape → Spec → Child
  | .rest, spec => .dict spec.pool spec.ns spec.image
  | .local, spec => .pair spec.pool spec.image

/-- What the worker reads of a snapshot. -/
structure SnapInfo where
  name : String
  children : List Child
  deriving DecidableEq, Repr

/-- What the worker reads of an image: its snapshots, whether it has a parent, its features. -/
structure ImageInfo where
  snapshots : List SnapInfo
  parent : Bool
  featuresName : List String
  deriving DecidableEq, Repr

/-- `image_info`. -/
def Graph.info (g : Graph) (shape : Shape) (spec : Spec) : Option ImageInfo :=
  (g.images.lookup spec).map fun img =>
    { snapshots := img.snapshots.map fun s =>
        { name := s.name, children := (g.children ⟨img.id, s.id⟩).map shape.child }
      parent := img.parent.isSome
      featuresName := img.features }

/-- What ends a worker's `run`. -/
inductive Exc where
  | backend (error : BackendError)
  | deferred (count : Nat)
  | failed (count : Nat)
  | attributeError
  | keyError
  | valueError
  | osError
  deriving DecidableEq, Repr

/-- The calls of a worker. -/
inductive Call where
  | imageInfo (spec : Spec)
  | request (r : Req)
  | unlink

/-- What a call returns. -/
abbrev Call.Result : Call → Type
  | .imageInfo _ => ImageInfo
  | _ => Unit

/-- A program of the worker. -/
abbrev Py := Prog Exc Call Call.Result

/-- Make one call. -/
def ask (c : Call) : Py c.Result := Prog.perform c

/-- `be.image_info(pool, image, namespace)`. -/
def imageInfo (spec : Spec) : Py ImageInfo := ask (.imageInfo spec)

/-- A request to the backend. -/
def request (r : Req) : Py Unit := ask (.request r)

/-- `try: … except RbdBackendError as e: …`. -/
def exceptBackend {α : Type} (body : Py α) (handler : BackendError → Py α) : Py α :=
  tryCatch body fun
    | .backend error => handler error
    | error => throw error

/-- `FLATTEN_RETRIES`. -/
def flattenRetries : Nat := 4

/-- `_flatten_one(be, cpool, cimage, cns, parent_image, snapname)`, with the attempts left. -/
def flattenOne (child : Spec) : Nat → Py Bool
  | 0 => pure false
  | attempts + 1 =>
      exceptBackend (do
        request (.flatten child)
        return true) fun error =>
          if error.notFound then pure true else flattenOne child attempts

/-- The counts of `_resolve_children`. -/
structure Tally where
  allResolved : Bool := true
  deferred : Nat := 0
  failed : Nat := 0
  deriving DecidableEq, Repr

/-- A child that could not be inspected or flattened. -/
def Tally.fail (t : Tally) : Tally := { t with allResolved := false, failed := t.failed + 1 }

/-- A child that has to wait. -/
def Tally.defer (t : Tally) : Tally := { t with allResolved := false, deferred := t.deferred + 1 }

/-- The inspection of a child: `none` where it is gone, and whether it could be read. -/
def inspect (child : Spec) : Py (Option ImageInfo × Bool) :=
  exceptBackend (do
    let info ← imageInfo child
    return (some info, true)) fun error => pure (none, error.notFound)

/-- Flattening the child frees its parent. -/
def ImageInfo.freeing (info : ImageInfo) : Bool :=
  info.featuresName.contains "deep-flatten" || info.snapshots.isEmpty

/-- The body of the loops of `_resolve_children` for one child. -/
def resolveChild (t : Tally) : Child → Py Tally
  | .pair _ _ => throw .attributeError
  | .dict poolName namespaceName imageName =>
      if imageName = "" then pure t
      else do
        let child : Spec := ⟨poolName, namespaceName, imageName⟩
        match ← inspect child with
        | (none, true) => pure t
        | (none, false) => pure t.fail
        | (some info, _) =>
            if !info.parent then pure t
            else if info.freeing then do
              let done ← flattenOne child flattenRetries
              return if done then t else t.fail
            else pure t.defer

/-- The loops of `_resolve_children` over the children. -/
def resolveAll : Tally → List Child → Py Tally
  | t, [] => pure t
  | t, child :: rest => do
      let t ← resolveChild t child
      resolveAll t rest

/-- The children of the snapshots that pass the filter, in the order of the loops. -/
def ImageInfo.inScope (info : ImageInfo) (snapFilter : Option String) : List Child :=
  (info.snapshots.filter fun s => snapFilter.all fun snap => s.name == snap).flatMap
    SnapInfo.children

/-- The image as it is read: `none` where it is gone. -/
def readOrGone (spec : Spec) : Py (Option ImageInfo) :=
  exceptBackend (do
    let info ← imageInfo spec
    return some info) fun error => if error.notFound then pure none else throw (.backend error)

/-- `_resolve_children(be, pool, ns, image, snap_filter)`. -/
def resolveChildren (spec : Spec) (snapFilter : Option String) : Py Tally := do
  match ← readOrGone spec with
  | none => pure {}
  | some info => resolveAll {} (info.inScope snapFilter)

/-- `except RbdBackendError as e: if not e.not_found: raise`. -/
def passNotFound (body : Py Unit) : Py Unit :=
  exceptBackend body fun error => if error.notFound then pure () else throw (.backend error)

/-- `_purge_snap(be, pool, ns, image, snap)`. -/
def purgeSnap (spec : Spec) (snap : String) : Py Unit := do
  exceptBackend (request (.snapSetProtected spec snap false)) fun _ => pure ()
  passNotFound (request (.snapRemove spec snap))

/-- The purge of every snapshot of a listing. -/
def purgeSnaps (spec : Spec) : List String → Py Unit
  | [] => pure ()
  | snap :: rest => do
      purgeSnap spec snap
      purgeSnaps spec rest

/-- The checks of `run` on what `_resolve_children` returned. -/
def checkResolved (t : Tally) : Py Unit :=
  if t.failed ≠ 0 then throw (.failed t.failed)
  else if !t.allResolved then throw (.deferred t.deferred)
  else pure ()

/-- `run(job)` for a snapshot. -/
def runSnap (spec : Spec) (snap : String) : Py Unit := do
  let t ← resolveChildren spec (some snap)
  checkResolved t
  purgeSnap spec snap

/-- `run(job)` for an image. -/
def runImage (spec : Spec) : Py Unit := do
  let t ← resolveChildren spec none
  checkResolved t
  let info ← readOrGone spec
  purgeSnaps spec ((info.map fun info => info.snapshots.map SnapInfo.name).getD [])
  passNotFound (request (.remove spec))

/-- `run(job)`; the pool and the namespace stand in the job file. -/
def run (pool ns : String) (job : Job) : Py Unit :=
  let spec : Spec := ⟨pool, ns, job.image⟩
  if job.kind = "snap" then
    match job.snap with
    | some snap => runSnap spec snap
    | none => throw .keyError
  else if job.kind = "image" then runImage spec
  else throw .valueError

/-- `main()`, with what the job file holds if it can be read; the exit status. -/
def main (pool ns : String) : Option Job → Py Nat
  | none => pure 1
  | some job => do
      let returned ← tryCatch (do run pool ns job; return true) fun _ => pure false
      if returned then
        tryCatch (ask .unlink) fun _ => pure ()
        return 0
      else return 1

/-- What the environment decides about a call: it succeeds or it fails. -/
inductive Choice where
  | ok
  | fail (error : BackendError)
  deriving DecidableEq, Repr

/-- What a worker runs against: the cluster, its job file, and the inspections it has made. -/
structure State where
  graph : Graph
  jobFile : Bool := true
  inspected : List (Spec × ImageInfo) := []

/-- The answer to a call of a worker. A call that fails changes nothing. -/
def handle (shape : Shape) : Choice → State → (c : Call) → Option (Except Exc c.Result × State)
  | .ok, st, .imageInfo spec => (st.graph.info shape spec).map fun info =>
      (.ok info, { st with inspected := (spec, info) :: st.inspected })
  | .ok, st, .request r => (st.graph.apply r).map fun graph => (.ok (), { st with graph := graph })
  | .ok, st, .unlink => some (.ok (), { st with jobFile := false })
  | .fail _, st, .unlink => some (.error .osError, st)
  | .fail error, st, _ => some (.error (.backend error), st)

/-- The image or the snapshot that a call is about exists. -/
def Graph.foundCall (g : Graph) : Call → Bool
  | .imageInfo spec => decide (spec ∈ g.images)
  | .request r => g.found r
  | .unlink => true

/-- A not-found error is reported only for an object that does not exist. -/
def Truthful (choice : Choice) (st : State) (c : Call) : Prop :=
  ∀ error, choice = .fail error → error.notFound = true → st.graph.foundCall c = false

/-- The answer to a call when nothing fails: what Ceph refuses is an error, and a not-found one
exactly where the object does not exist. -/
def answer (shape : Shape) (st : State) (c : Call) : Option (Except Exc c.Result × State) :=
  match handle shape .ok st c with
  | some answered => some answered
  | none =>
      some (.error (.backend { message := "refused", notFound := !st.graph.foundCall c }), st)

/-- The clones that pin the object: those of the snapshots that pass the filter. -/
def Graph.pinning (g : Graph) (spec : Spec) (snapFilter : Option String) : List Spec :=
  ((g.images.lookup spec).map fun img =>
    (img.snapshots.filter fun s => snapFilter.all fun snap => s.name == snap).flatMap fun s =>
      g.children ⟨img.id, s.id⟩).getD []

/-- The clones that the job's `run` looks at. -/
def Graph.jobScope (g : Graph) (pool ns : String) (job : Job) : List Spec :=
  if job.kind = "snap" then
    match job.snap with
    | some snap => g.pinning ⟨pool, ns, job.image⟩ (some snap)
    | none => []
  else if job.kind = "image" then g.pinning ⟨pool, ns, job.image⟩ none
  else []

/-- The children that the loops run over are the clones that pin the object. -/
theorem inScope_info {g : Graph} {shape : Shape} {spec : Spec} {info : ImageInfo}
    (h : g.info shape spec = some info) (snapFilter : Option String) :
    info.inScope snapFilter = (g.pinning spec snapFilter).map shape.child := by
  obtain ⟨img, himg, rfl⟩ := Option.map_eq_some_iff.mp h
  simp only [ImageInfo.inScope, Graph.pinning, himg, Option.map_some, Option.getD_some,
    List.filter_map, List.flatMap_map, List.map_flatMap, Function.comp_def]

/-- Reading the image tells whether it is there, and changes nothing. -/
theorem exec_readOrGone (shape : Shape) (st : State) (spec : Spec) :
    ∃ st', (readOrGone spec).exec (answer shape) st = some (.ok (st.graph.info shape spec), st') ∧
      st'.graph = st.graph ∧ st'.jobFile = st.jobFile := by
  cases hinfo : st.graph.info shape spec with
  | some info =>
      refine ⟨{ st with inspected := (spec, info) :: st.inspected }, ?_, rfl, rfl⟩
      have hanswer : answer shape st (.imageInfo spec) =
          some (.ok info, { st with inspected := (spec, info) :: st.inspected }) := by
        simp [answer, handle, hinfo]
      exact Prog.exec_tryCatch (Prog.exec_bind (Prog.exec_perform hanswer))
  | none =>
      have hgone : spec ∉ st.graph.images := by
        rw [Graph.info, Option.map_eq_none_iff] at hinfo
        exact AList.lookup_eq_none.mp hinfo
      have hanswer : answer shape st (.imageInfo spec) =
          some (.error (.backend { message := "refused", notFound := true }), st) := by
        simp [answer, handle, hinfo, Graph.foundCall, hgone]
      refine ⟨st, ?_, rfl, rfl⟩
      simp [readOrGone, exceptBackend, imageInfo, ask, Prog.perform, Prog.exec, hanswer]

/-- The answer when nothing fails is one that a truthful environment may give. -/
theorem handle_of_answer {shape : Shape} {st after : State} {c : Call}
    {reply : Except Exc c.Result} (h : answer shape st c = some (reply, after)) :
    ∃ choice, Truthful choice st c ∧ handle shape choice st c = some (reply, after) := by
  unfold answer at h
  cases hok : handle shape .ok st c with
  | some answered =>
      rw [hok] at h
      cases h
      exact ⟨.ok, nofun, hok⟩
  | none =>
      rw [hok] at h
      cases h
      refine ⟨.fail { message := "refused", notFound := !st.graph.foundCall c }, ?_, ?_⟩
      · intro error herror hnotFound
        cases herror
        simpa using hnotFound
      · cases c with
        | unlink => cases hok
        | imageInfo spec => rfl
        | request r => rfl

section AllCalls

open Prog (AllCalls)

/-- Handling backend errors makes no call by itself. -/
theorem allCalls_exceptBackend {α : Type} {P : Call → Prop} {body : Py α}
    {handler : BackendError → Py α} (hbody : AllCalls P body)
    (hhandler : ∀ error, AllCalls P (handler error)) : AllCalls P (exceptBackend body handler) := by
  refine AllCalls.tryCatch hbody fun error => ?_
  cases error <;> first | exact hhandler _ | trivial

/-- `passNotFound` makes the calls of its body. -/
theorem allCalls_passNotFound {P : Call → Prop} {body : Py Unit} (hbody : AllCalls P body) :
    AllCalls P (passNotFound body) := by
  refine allCalls_exceptBackend hbody fun error => ?_
  split <;> trivial

end AllCalls

section Rules

variable {α : Type} {σ ι : Type} {w : Prog.Setting Exc Call Call.Result σ ι}
  {post : α → σ → Prop} {exc : Exc → σ → Prop}

/-- A program whose backend errors are handled. -/
theorem safe_exceptBackend {body : Py α} {handler : BackendError → Py α} {s : σ}
    (h : Prog.Safe w post (fun error s => match error with
      | .backend error => Prog.Safe w post exc (handler error) s
      | error => exc error s) body s) :
    Prog.Safe w post exc (exceptBackend body handler) s := by
  refine Prog.safe_tryCatch (h.mono (fun _ _ hpost => hpost) fun error s herror => ?_)
  cases error <;> exact herror

end Rules

end XcpCephRbd.Gc
