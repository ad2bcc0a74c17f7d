import XcpCephRbd.Gc.Worker

/-!
# What a worker does to the cluster

A worker that is alone with its job: `Collects` lists all that it may do to the cluster while its
`run` has not returned. The walk through `run` and `main` shows that nothing else is done, that a
clone is flattened only after an inspection that says that this frees the object, and that the job
file is unlinked only when the object is gone.
-/

namespace XcpCephRbd.Gc

open Volume (BackendError Job)
open Relation (ReflTransGen)

/-- The image has no snapshot of this name. -/
def Graph.NoSnap (g : Graph) (spec : Spec) (snap : String) : Prop :=
  ∀ img, g.images.lookup spec = some img → img.named snap = []

/-- The trashed object of a job no longer exists under its name. A job that names no object is never
done. -/
def Graph.Gone (g : Graph) (pool ns : String) (job : Job) : Prop :=
  if job.kind = "snap" then
    match job.snap with
    | some snap => g.NoSnap ⟨pool, ns, job.image⟩ snap
    | none => False
  else if job.kind = "image" then ⟨pool, ns, job.image⟩ ∉ g.images
  else False

/-- The snapshots that a job may remove: of an image all, of a snapshot only that. -/
def Covers (job : Job) (snap : String) : Prop :=
  (job.kind = "snap" ∧ job.snap = some snap) ∨ job.kind = "image"

/-- What a worker does to the cluster before its `run` returns: it flattens clones of the job's
object, and it unprotects and removes the snapshots that the job covers. -/
inductive Collects (pool ns : String) (job : Job) (scope : List Spec) (g g' : Graph) : Prop where
  | flatten {child : Spec} : child ∈ scope → g.apply (.flatten child) = some g' →
      Collects pool ns job scope g g'
  | unprotect {snap : String} : Covers job snap →
      g.apply (.snapSetProtected ⟨pool, ns, job.image⟩ snap false) = some g' →
      Collects pool ns job scope g g'
  | removeSnap {snap : String} : Covers job snap →
      g.apply (.snapRemove ⟨pool, ns, job.image⟩ snap) = some g' →
      Collects pool ns job scope g g'

/-- A snapshot that is not found does not exist. -/
theorem noSnap_of_not_found {g : Graph} {spec : Spec} {snap : String}
    (h : g.found (.snapRemove spec snap) = false) : g.NoSnap spec snap := by
  intro img himg
  simpa [Graph.found, himg, List.isEmpty_iff] using h

/-- A snapshot that was removed does not exist. -/
theorem noSnap_of_removed {g g' : Graph} {spec : Spec} {snap : String}
    (h : g.apply (.snapRemove spec snap) = some g') : g'.NoSnap spec snap := by
  intro img himg
  obtain ⟨old, hold, hmap⟩ := Option.bind_eq_some_iff.mp h
  obtain ⟨img', hedit, rfl⟩ := Option.map_eq_some_iff.mp hmap
  obtain ⟨-, -, rfl⟩ := edit_snapRemove hedit
  have hsame : img = { old with snapshots := old.snapshots.filter fun s => s.name != snap } :=
    Option.some.inj (himg.symm.trans (AList.lookup_insert _))
  simp [hsame, Image.named, List.filter_filter]

section Walk

variable (pool ns : String) (job : Job) (start : Graph)

/-- The job file is there, and the worker has done no more than it may. -/
structure Kept (st : State) : Prop where
  jobFile : st.jobFile = true
  collects : ReflTransGen (Collects pool ns job (start.jobScope pool ns job)) start st.graph

/-- What a worker's `run` has done where it returns: what it may do, and then, for an image, the
removal of it. -/
def Finishes (g : Graph) : Prop :=
  ∃ between, ReflTransGen (Collects pool ns job (start.jobScope pool ns job)) start between ∧
    (g = between ∨ between.apply (.remove ⟨pool, ns, job.image⟩) = some g)

/-- What holds where a worker's `run` returns. -/
structure Done (st : State) : Prop where
  jobFile : st.jobFile = true
  gone : st.graph.Gone pool ns job
  finishes : Finishes pool ns job start st.graph

/-- What holds of each call: the job file is unlinked when the object is gone, and a clone is
flattened after an inspection. -/
def collectAsserted (st : State) : Call → Prop
  | .unlink => Done pool ns job start st
  | .request (.flatten child) => Kept pool ns job start st ∧
      ∃ info, (child, info) ∈ st.inspected ∧ info.freeing = true
  | _ => Kept pool ns job start st

/-- A worker alone, answered truthfully. -/
def collecting : Prog.Setting Exc Call Call.Result State Choice where
  handle := handle .rest
  allowed := Truthful
  rely := fun _ _ => False
  asserted := collectAsserted pool ns job start

/-- What holds where a worker's `run` raises. -/
def Leaves (error : Exc) (st : State) : Prop := error ≠ .attributeError ∧ Kept pool ns job start st

end Walk

section Calls

variable {α : Type} {pool ns : String} {job : Job} {start : Graph} {st : State}

/-- Nothing moves while a worker is alone. -/
theorem eq_of_alone {before : State} (h : ReflTransGen (fun _ _ : State => False) st before) :
    before = st := by
  induction h with
  | refl => rfl
  | tail _ hmove _ => exact hmove.elim

/-- A request: it is granted, or it fails and changes nothing. -/
theorem safe_request {r : Req} {post : Unit → State → Prop} {exc : Exc → State → Prop}
    (hasserted : collectAsserted pool ns job start st (.request r))
    (hgranted : ∀ graph, st.graph.apply r = some graph → post () { st with graph := graph })
    (hfail : ∀ error : BackendError, (error.notFound = true → st.graph.found r = false) →
      exc (.backend error) st) :
    Prog.Safe (collecting pool ns job start) post exc (request r) st := by
  intro before hmoves
  obtain rfl := eq_of_alone hmoves
  refine ⟨hasserted, fun choice reply after htruthful hhandle => ?_⟩
  cases choice with
  | ok =>
      obtain ⟨graph, happly, hpair⟩ := Option.map_eq_some_iff.mp hhandle
      cases hpair
      exact hgranted graph happly
  | fail error =>
      cases hhandle
      exact hfail error fun hnotFound => htruthful error rfl hnotFound

/-- A report: it is recorded, or it fails. -/
theorem safe_imageInfo {spec : Spec} {post : ImageInfo → State → Prop} {exc : Exc → State → Prop}
    (hkept : Kept pool ns job start st)
    (hreport : ∀ info, st.graph.info .rest spec = some info →
      post info { st with inspected := (spec, info) :: st.inspected })
    (hfail : ∀ error : BackendError, (error.notFound = true → spec ∉ st.graph.images) →
      exc (.backend error) st) :
    Prog.Safe (collecting pool ns job start) post exc (imageInfo spec) st := by
  intro before hmoves
  obtain rfl := eq_of_alone hmoves
  refine ⟨hkept, fun choice reply after htruthful hhandle => ?_⟩
  cases choice with
  | ok =>
      obtain ⟨info, hinfo, hpair⟩ := Option.map_eq_some_iff.mp hhandle
      cases hpair
      exact hreport info hinfo
  | fail error =>
      cases hhandle
      refine hfail error fun hnotFound => ?_
      have hgone := htruthful error rfl hnotFound
      simpa [Graph.foundCall] using hgone

/-- A report does not change what the worker has done. -/
theorem Kept.inspect (h : Kept pool ns job start st) (entry : Spec × ImageInfo) :
    Kept pool ns job start { st with inspected := entry :: st.inspected } :=
  ⟨h.jobFile, h.collects⟩

/-- One more thing that the worker may do. -/
theorem Kept.step (h : Kept pool ns job start st) {graph : Graph}
    (hstep : Collects pool ns job (start.jobScope pool ns job) st.graph graph) :
    Kept pool ns job start { st with graph := graph } :=
  ⟨h.jobFile, h.collects.tail hstep⟩

/-- A backend error that ends `run`. -/
theorem Kept.leaves (h : Kept pool ns job start st) (error : BackendError) :
    Leaves pool ns job start (.backend error) st :=
  ⟨nofun, h⟩

/-- The flattening of a clone that was inspected. -/
theorem safe_flattenOne {child : Spec} {info : ImageInfo}
    (hscope : child ∈ start.jobScope pool ns job) (hfreeing : info.freeing = true)
    (attempts : Nat) (hkept : Kept pool ns job start st)
    (hinspected : (child, info) ∈ st.inspected) :
    Prog.Safe (collecting pool ns job start) (fun _ => Kept pool ns job start)
      (Leaves pool ns job start) (flattenOne child attempts) st := by
  induction attempts with
  | zero => exact hkept
  | succ attempts ih =>
      refine safe_exceptBackend (Prog.safe_bind ?_)
      refine safe_request ⟨hkept, info, hinspected, hfreeing⟩ (fun graph happly => ?_)
        fun error _ => ?_
      · exact hkept.step (.flatten hscope happly)
      · dsimp only
        split
        · exact hkept
        · exact ih

/-- The inspection of a clone. -/
theorem safe_inspect {child : Spec} (hkept : Kept pool ns job start st) :
    Prog.Safe (collecting pool ns job start)
      (fun found after => Kept pool ns job start after ∧
        ∀ info, found.1 = some info → (child, info) ∈ after.inspected)
      (Leaves pool ns job start) (inspect child) st := by
  refine safe_exceptBackend (Prog.safe_bind ?_)
  refine safe_imageInfo hkept (fun info _ => ?_) fun error _ => ?_
  · refine ⟨hkept.inspect _, fun info' hinfo => ?_⟩
    cases hinfo
    exact List.mem_cons_self
  · exact ⟨hkept, nofun⟩

/-- The loop body for one clone of the object. -/
theorem safe_resolveChild {child : Spec} (hscope : child ∈ start.jobScope pool ns job)
    (t : Tally) (hkept : Kept pool ns job start st) :
    Prog.Safe (collecting pool ns job start) (fun _ => Kept pool ns job start)
      (Leaves pool ns job start) (resolveChild t (Shape.rest.child child)) st := by
  dsimp only [resolveChild, Shape.child]
  split
  · exact hkept
  · refine Prog.safe_bind ((safe_inspect hkept).mono (fun found after hafter => ?_) fun _ _ h => h)
    obtain ⟨found, readable⟩ := found
    obtain ⟨hafter, hinspected⟩ := hafter
    cases found with
    | none => cases readable <;> exact hafter
    | some info =>
        dsimp only
        split
        · exact hafter
        · split
          next hfreeing =>
              refine Prog.safe_bind ?_
              refine (safe_flattenOne hscope hfreeing flattenRetries hafter
                (hinspected info rfl)).mono (fun done final hfinal => ?_) fun _ _ h => h
              exact hfinal
          next => exact hafter

/-- The loops over clones of the object. -/
theorem safe_resolveAll {children : List Spec}
    (hscope : ∀ child ∈ children, child ∈ start.jobScope pool ns job) (t : Tally)
    (hkept : Kept pool ns job start st) :
    Prog.Safe (collecting pool ns job start) (fun _ => Kept pool ns job start)
      (Leaves pool ns job start) (resolveAll t (children.map Shape.rest.child)) st := by
  induction children generalizing t st with
  | nil => exact hkept
  | cons child rest ih =>
      refine Prog.safe_bind ?_
      refine (safe_resolveChild (hscope child List.mem_cons_self) t hkept).mono
        (fun t' after hafter => ?_) fun _ _ h => h
      exact ih (fun c hc => hscope c (List.mem_cons_of_mem _ hc)) t' hafter

/-- Reading the image: it is reported as it is, or it is gone. -/
theorem safe_readOrGone {spec : Spec} (hkept : Kept pool ns job start st) :
    Prog.Safe (collecting pool ns job start)
      (fun found after => Kept pool ns job start after ∧ after.graph = st.graph ∧
        (∀ info, found = some info → st.graph.info .rest spec = some info))
      (Leaves pool ns job start) (readOrGone spec) st := by
  refine safe_exceptBackend (Prog.safe_bind ?_)
  refine safe_imageInfo hkept (fun info hinfo => ?_) fun error _ => ?_
  · refine ⟨hkept.inspect _, rfl, fun info' hsome => ?_⟩
    cases hsome
    exact hinfo
  · dsimp only
    split
    · exact ⟨hkept, rfl, nofun⟩
    · exact hkept.leaves error

/-- `_resolve_children` at the start of a run. -/
theorem safe_resolveChildren {snapFilter : Option String} (hstart : st.graph = start)
    (hscope : ∀ child ∈ start.pinning ⟨pool, ns, job.image⟩ snapFilter,
      child ∈ start.jobScope pool ns job)
    (hkept : Kept pool ns job start st) :
    Prog.Safe (collecting pool ns job start) (fun _ => Kept pool ns job start)
      (Leaves pool ns job start) (resolveChildren ⟨pool, ns, job.image⟩ snapFilter) st := by
  refine Prog.safe_bind ((safe_readOrGone hkept).mono (fun found after hafter => ?_) fun _ _ h => h)
  obtain ⟨hafter, -, hfound⟩ := hafter
  cases found with
  | none => exact hafter
  | some info =>
      dsimp only
      rw [hstart] at hfound
      rw [inScope_info (hfound info rfl) snapFilter]
      exact safe_resolveAll hscope {} hafter

/-- The checks on what `_resolve_children` returned change nothing. -/
theorem safe_checkResolved (t : Tally) (hkept : Kept pool ns job start st) :
    Prog.Safe (collecting pool ns job start) (fun _ => Kept pool ns job start)
      (Leaves pool ns job start) (checkResolved t) st := by
  unfold checkResolved
  split
  · exact ⟨nofun, hkept⟩
  · split
    · exact ⟨nofun, hkept⟩
    · exact hkept

/-- `_purge_snap` of a snapshot that the job covers: where it returns, the snapshot is gone. -/
theorem safe_purgeSnap {snap : String} (hcovers : Covers job snap)
    (hkept : Kept pool ns job start st) :
    Prog.Safe (collecting pool ns job start)
      (fun _ after => Kept pool ns job start after ∧
        after.graph.NoSnap ⟨pool, ns, job.image⟩ snap)
      (Leaves pool ns job start) (purgeSnap ⟨pool, ns, job.image⟩ snap) st := by
  have hremove : ∀ st, Kept pool ns job start st → Prog.Safe (collecting pool ns job start)
      (fun _ after => Kept pool ns job start after ∧
        after.graph.NoSnap ⟨pool, ns, job.image⟩ snap) (Leaves pool ns job start)
      (passNotFound (request (.snapRemove ⟨pool, ns, job.image⟩ snap))) st := by
    intro st hst
    refine safe_exceptBackend (safe_request hst (fun graph happly => ?_) fun error htruthful => ?_)
    · exact ⟨hst.step (.removeSnap hcovers happly), noSnap_of_removed happly⟩
    · dsimp only
      split
      next hnotFound => exact ⟨hst, noSnap_of_not_found (htruthful hnotFound)⟩
      next => exact hst.leaves error
  refine Prog.safe_bind (safe_exceptBackend (safe_request hkept (fun graph happly => ?_)
    fun error _ => ?_))
  · exact hremove _ (hkept.step (.unprotect hcovers happly))
  · exact hremove _ hkept

/-- The purge of snapshots that the job covers. -/
theorem safe_purgeSnaps {snaps : List String} (hcovers : ∀ snap ∈ snaps, Covers job snap)
    (hkept : Kept pool ns job start st) :
    Prog.Safe (collecting pool ns job start) (fun _ => Kept pool ns job start)
      (Leaves pool ns job start) (purgeSnaps ⟨pool, ns, job.image⟩ snaps) st := by
  induction snaps generalizing st with
  | nil => exact hkept
  | cons snap rest ih =>
      refine Prog.safe_bind ?_
      refine (safe_purgeSnap (hcovers snap List.mem_cons_self) hkept).mono
        (fun _ after hafter => ?_) fun _ _ h => h
      exact ih (fun s hs => hcovers s (List.mem_cons_of_mem _ hs)) hafter.1

/-- `run` of a snapshot's job. -/
theorem safe_runSnap {snap : String} (hkind : job.kind = "snap") (hsnap : job.snap = some snap)
    (hstart : st.graph = start) (hkept : Kept pool ns job start st) :
    Prog.Safe (collecting pool ns job start) (fun _ => Done pool ns job start)
      (Leaves pool ns job start) (runSnap ⟨pool, ns, job.image⟩ snap) st := by
  have hscope : start.jobScope pool ns job = start.pinning ⟨pool, ns, job.image⟩ (some snap) := by
    simp [Graph.jobScope, hkind, hsnap]
  refine Prog.safe_bind ((safe_resolveChildren hstart (fun child hchild => by rwa [hscope])
    hkept).mono (fun t after hafter => ?_) fun _ _ h => h)
  refine Prog.safe_bind ((safe_checkResolved t hafter).mono (fun _ checked hchecked => ?_)
    fun _ _ h => h)
  refine (safe_purgeSnap (.inl ⟨hkind, hsnap⟩) hchecked).mono (fun _ final hfinal => ?_)
    fun _ _ h => h
  refine ⟨hfinal.1.jobFile, ?_, final.graph, hfinal.1.collects, .inl rfl⟩
  simpa [Graph.Gone, hkind, hsnap] using hfinal.2

/-- The last request of an image's job. -/
theorem safe_removeImage (hkind : job.kind = "image") (hkept : Kept pool ns job start st) :
    Prog.Safe (collecting pool ns job start) (fun _ => Done pool ns job start)
      (Leaves pool ns job start) (passNotFound (request (.remove ⟨pool, ns, job.image⟩))) st := by
  have hgone : ∀ g : Graph, ⟨pool, ns, job.image⟩ ∉ g.images → g.Gone pool ns job := by
    intro g habsent
    simpa [Graph.Gone, hkind] using habsent
  refine safe_exceptBackend (safe_request hkept (fun graph happly => ?_) fun error htruthful => ?_)
  · refine ⟨hkept.jobFile, hgone _ ?_, st.graph, hkept.collects, .inr happly⟩
    obtain ⟨img, -, hif⟩ := Option.bind_eq_some_iff.mp happly
    obtain ⟨-, hgraph⟩ := Option.ite_none_right_eq_some.mp hif
    cases hgraph
    simp [AList.mem_erase]
  · dsimp only
    split
    next hnotFound =>
        refine ⟨hkept.jobFile, hgone _ ?_, st.graph, hkept.collects, .inl rfl⟩
        exact of_decide_eq_false (htruthful hnotFound)
    next => exact hkept.leaves error

/-- `run` of an image's job. -/
theorem safe_runImage (hkind : job.kind = "image") (hstart : st.graph = start)
    (hkept : Kept pool ns job start st) :
    Prog.Safe (collecting pool ns job start) (fun _ => Done pool ns job start)
      (Leaves pool ns job start) (runImage ⟨pool, ns, job.image⟩) st := by
  have hscope : start.jobScope pool ns job = start.pinning ⟨pool, ns, job.image⟩ none := by
    simp [Graph.jobScope, hkind]
  refine Prog.safe_bind ((safe_resolveChildren hstart (fun child hchild => by rwa [hscope])
    hkept).mono (fun t after hafter => ?_) fun _ _ h => h)
  refine Prog.safe_bind ((safe_checkResolved t hafter).mono (fun _ checked hchecked => ?_)
    fun _ _ h => h)
  refine Prog.safe_bind ((safe_readOrGone hchecked).mono (fun found read hread => ?_)
    fun _ _ h => h)
  refine Prog.safe_bind ((safe_purgeSnaps (fun snap _ => .inr hkind) hread.1).mono
    (fun _ purged hpurged => ?_) fun _ _ h => h)
  exact safe_removeImage hkind hpurged

/-- `run` of any job. -/
theorem safe_run (hstart : st.graph = start) (hkept : Kept pool ns job start st) :
    Prog.Safe (collecting pool ns job start) (fun _ => Done pool ns job start)
      (Leaves pool ns job start) (run pool ns job) st := by
  unfold run
  dsimp only
  split
  next hkind =>
      split
      next snap hsnap => exact safe_runSnap hkind hsnap hstart hkept
      next => exact ⟨nofun, hkept⟩
  next =>
      split
      next hkind => exact safe_runImage hkind hstart hkept
      next => exact ⟨nofun, hkept⟩

/-- `main`: the exit status is 0 only where the object is gone, and otherwise the job file is
kept. -/
theorem safe_main (hstart : st.graph = start) (hkept : Kept pool ns job start st) :
    Prog.Safe (collecting pool ns job start)
      (fun status after => (status = 0 → after.graph.Gone pool ns job ∧
          Finishes pool ns job start after.graph) ∧
        (status ≠ 0 → Kept pool ns job start after))
      (fun _ _ => False) (main pool ns (some job)) st := by
  refine Prog.safe_bind (Prog.safe_tryCatch (Prog.safe_bind ?_))
  refine (safe_run hstart hkept).mono (fun _ after hdone => ?_) fun error after hleaves => ?_
  · refine Prog.safe_bind (Prog.safe_tryCatch ?_)
    intro before hmoves
    obtain rfl := eq_of_alone hmoves
    refine ⟨hdone, fun choice reply final _ hhandle => ?_⟩
    cases choice <;> cases hhandle <;>
      exact ⟨fun _ => ⟨hdone.gone, hdone.finishes⟩, fun hne => absurd rfl hne⟩
  · exact ⟨nofun, fun _ => hleaves.2⟩

end Calls

section Runs

/-- A worker and what it runs against: one call, answered as the environment chooses. -/
def workerStep {α : Type} (w : Py α × State) (choice : Choice) : Option (Py α × State) :=
  w.1.next (handle .rest) choice w.2

/-- Not-found errors are reported only for objects that do not exist. -/
def truthfully {α : Type} (w : Py α × State) (choice : Choice) : Prop :=
  ∀ c, w.1.firstCall = some c → Truthful choice w.2 c

/-- A safe worker stays safe along a run. -/
theorem safe_along {α : Type} {pool ns : String} {job : Job} {start : Graph}
    {post : α → State → Prop} {exc : Exc → State → Prop} {p q : Py α} {st st' : State}
    {choices : List Choice} (h : Prog.Safe (collecting pool ns job start) post exc p st)
    (htruthful : Run.Along workerStep truthfully (p, st) choices)
    (hrun : Run.run workerStep (p, st) choices = some (q, st')) :
    Prog.Safe (collecting pool ns job start) post exc q st' := by
  have hstep : ∀ (w : Py α × State) (choice : Choice) (next : Py α × State),
      Prog.Safe (collecting pool ns job start) post exc w.1 w.2 → truthfully w choice →
      workerStep w choice = some next →
      Prog.Safe (collecting pool ns job start) post exc next.1 next.2 :=
    fun w choice next hsafe hguard hnext => hsafe.next hguard hnext
  exact Run.run_invariant hstep h htruthful hrun

end Runs

end XcpCephRbd.Gc
