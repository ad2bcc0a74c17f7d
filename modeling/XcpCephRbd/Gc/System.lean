import XcpCephRbd.Gc.Ops
import XcpCephRbd.Gc.Collect

/-!
# An operation and the workers

One volume operation and any number of workers on one cluster, call by call. Workers only take away:
they flatten, unprotect and remove, and never make an image or a snapshot or give one a name
(`byWorker`), so an object that is gone stays gone whatever they do.
-/

namespace XcpCephRbd.Gc

open Volume (BackendError Job)
open Prog (AllCalls Setting Safe)

/-- The requests that a worker makes. -/
def Req.byWorker : Req → Bool
  | .flatten _ | .snapRemove _ _ | .snapSetProtected _ _ false | .remove _ => true
  | _ => false

/-- The requests that give a name to an image or a snapshot. -/
def Req.naming : Req → Bool
  | .create _ _ _ | .snapCreate _ _ | .snapRename _ _ _ | .imageRename _ _ | .clone _ _ _ _ => true
  | _ => false

/-- The names that a request gives. -/
def Req.names : Req → List String
  | .create spec _ _ => [spec.image]
  | .clone _ _ dst _ => [dst.image]
  | .snapCreate _ snap => [snap]
  | .snapRename _ _ newSnap => [newSnap]
  | .imageRename _ newName => [newName]
  | _ => []

/-- A request that is no naming one gives no names. -/
theorem Req.names_eq_nil {r : Req} (h : r.naming = false) : r.names = [] := by
  cases r <;> first | rfl | cases h

/-- The calls that a worker makes. -/
def ByWorker : Call → Prop
  | .request r => r.byWorker = true
  | _ => True

section Calls

variable {P : Call → Prop}

/-- The attempts of a flatten. -/
theorem allCalls_flattenOne {child : Spec} (hflatten : P (.request (.flatten child)))
    (attempts : Nat) : AllCalls P (flattenOne child attempts) := by
  have hrequest : AllCalls P (request (.flatten child)) := AllCalls.perform hflatten
  induction attempts with
  | zero => trivial
  | succ attempts ih =>
      refine allCalls_exceptBackend (AllCalls.bind hrequest fun _ => trivial) fun error => ?_
      split
      · trivial
      · exact ih

/-- A report. -/
theorem allCalls_imageInfo (hinfo : ∀ spec, P (.imageInfo spec)) (spec : Spec) :
    AllCalls P (imageInfo spec) :=
  AllCalls.perform (hinfo spec)

/-- The loop body of `_resolve_children`. -/
theorem allCalls_resolveChild (hinfo : ∀ spec, P (.imageInfo spec))
    (hflatten : ∀ child, P (.request (.flatten child))) (t : Tally) (child : Child) :
    AllCalls P (resolveChild t child) := by
  cases child with
  | pair pool image => trivial
  | dict poolName namespaceName imageName =>
      dsimp only [resolveChild]
      split
      · trivial
      · refine AllCalls.bind ?_ fun found => ?_
        · exact allCalls_exceptBackend
            (AllCalls.bind (allCalls_imageInfo hinfo _) fun _ => trivial) fun _ => trivial
        · obtain ⟨found, readable⟩ := found
          cases found with
          | none => cases readable <;> trivial
          | some info =>
              dsimp only
              split
              · trivial
              · split
                · exact AllCalls.bind (allCalls_flattenOne (hflatten _) _) fun _ => trivial
                · trivial

/-- Reading the image. -/
theorem allCalls_readOrGone (hinfo : ∀ spec, P (.imageInfo spec)) (spec : Spec) :
    AllCalls P (readOrGone spec) := by
  refine allCalls_exceptBackend (AllCalls.bind (allCalls_imageInfo hinfo spec) fun _ => trivial)
    fun error => ?_
  split <;> trivial

/-- `_resolve_children`. -/
theorem allCalls_resolveChildren (hinfo : ∀ spec, P (.imageInfo spec))
    (hflatten : ∀ child, P (.request (.flatten child))) (spec : Spec)
    (snapFilter : Option String) : AllCalls P (resolveChildren spec snapFilter) := by
  have hall : ∀ (children : List Child) (t : Tally), AllCalls P (resolveAll t children) := by
    intro children
    induction children with
    | nil => exact fun _ => trivial
    | cons child rest ih =>
        exact fun t => AllCalls.bind (allCalls_resolveChild hinfo hflatten t child) fun t' => ih t'
  refine AllCalls.bind (allCalls_readOrGone hinfo spec) fun found => ?_
  cases found with
  | none => trivial
  | some info => exact hall _ {}

/-- The checks after it. -/
theorem allCalls_checkResolved (t : Tally) : AllCalls P (checkResolved t) := by
  unfold checkResolved
  split
  · trivial
  · split <;> trivial

/-- `_purge_snap`. -/
theorem allCalls_purgeOne {spec : Spec} {snap : String}
    (hunprotect : P (.request (.snapSetProtected spec snap false)))
    (hremove : P (.request (.snapRemove spec snap))) : AllCalls P (purgeSnap spec snap) := by
  refine AllCalls.bind ?_ fun _ => allCalls_passNotFound (AllCalls.perform hremove)
  exact allCalls_exceptBackend (AllCalls.perform hunprotect) fun _ => trivial

/-- `main`: reports, flattens, the purge of the snapshots that the job covers, and the removal of an
image of its own. -/
theorem allCalls_main {pool ns : String} {job : Job} (hinfo : ∀ spec, P (.imageInfo spec))
    (hflatten : ∀ child, P (.request (.flatten child))) (hunlink : P .unlink)
    (hunprotect : ∀ snap, Covers job snap →
      P (.request (.snapSetProtected ⟨pool, ns, job.image⟩ snap false)))
    (hsnapRemove : ∀ snap, Covers job snap →
      P (.request (.snapRemove ⟨pool, ns, job.image⟩ snap)))
    (hremove : job.kind = "image" → P (.request (.remove ⟨pool, ns, job.image⟩))) :
    AllCalls P (main pool ns (some job)) := by
  have hpurge : ∀ snap, Covers job snap → AllCalls P (purgeSnap ⟨pool, ns, job.image⟩ snap) :=
    fun snap hcovers => allCalls_purgeOne (hunprotect snap hcovers) (hsnapRemove snap hcovers)
  have hpart : ∀ snapFilter (rest : Py Unit), AllCalls P rest →
      AllCalls P (resolveChildren ⟨pool, ns, job.image⟩ snapFilter >>= fun t =>
        checkResolved t >>= fun _ => rest) :=
    fun snapFilter rest hrest =>
      AllCalls.bind (allCalls_resolveChildren hinfo hflatten _ snapFilter)
        fun t => AllCalls.bind (allCalls_checkResolved t) fun _ => hrest
  have hrun : AllCalls P (run pool ns job) := by
    unfold run
    dsimp only
    split
    next hkind =>
        split
        next snap hsnap => exact hpart _ _ (hpurge snap (.inl ⟨hkind, hsnap⟩))
        next => trivial
    next =>
        split
        next hkind =>
            have hsnaps : ∀ snaps, AllCalls P (purgeSnaps ⟨pool, ns, job.image⟩ snaps) := by
              intro snaps
              induction snaps with
              | nil => trivial
              | cons snap rest ih => exact AllCalls.bind (hpurge snap (.inr hkind)) fun _ => ih
            refine hpart _ _ (AllCalls.bind (allCalls_readOrGone hinfo _) fun found => ?_)
            exact AllCalls.bind (hsnaps _) fun _ =>
              allCalls_passNotFound (AllCalls.perform (hremove hkind))
        next => trivial
  refine AllCalls.bind (AllCalls.tryCatch (AllCalls.bind hrun fun _ => trivial) fun _ => trivial)
    fun returned => ?_
  cases returned with
  | true =>
      have hask : AllCalls P (ask .unlink) := AllCalls.perform hunlink
      exact AllCalls.bind (AllCalls.tryCatch hask fun _ => trivial) fun _ => trivial
  | false => trivial

/-- Every worker makes the calls of a worker. -/
theorem byWorker_main (pool ns : String) (job : Job) :
    AllCalls ByWorker (main pool ns (some job)) :=
  allCalls_main (fun _ => trivial) (fun _ => rfl) trivial (fun _ _ => rfl) (fun _ _ => rfl)
    fun _ => rfl

end Calls

/-- The answer to a call of a worker, of whose state only the cluster is shared. -/
def workerHandle (shape : Shape) (choice : Choice) (w : Cluster) (c : Call) :
    Option (Except Exc c.Result × Cluster) :=
  (handle shape choice { graph := w.graph } c).map fun (reply, st) =>
    (reply, { w with graph := st.graph })

/-- A call of a worker makes its request, or changes nothing. -/
theorem workerHandle_cases {shape : Shape} {choice : Choice} {w after : Cluster} {c : Call}
    {reply : Except Exc c.Result} (h : workerHandle shape choice w c = some (reply, after)) :
    after = w ∨ ∃ r graph, c = .request r ∧ w.graph.apply r = some graph ∧
      after = { w with graph := graph } := by
  obtain ⟨⟨reply', st⟩, hhandle, hpair⟩ := Option.map_eq_some_iff.mp h
  cases hpair
  cases choice with
  | fail error => cases c <;> cases hhandle <;> exact .inl rfl
  | ok =>
      cases c with
      | unlink =>
          cases hhandle
          exact .inl rfl
      | imageInfo spec =>
          obtain ⟨info, -, hinfo⟩ := Option.map_eq_some_iff.mp hhandle
          cases hinfo
          exact .inl rfl
      | request r =>
          obtain ⟨graph, happly, hgraph⟩ := Option.map_eq_some_iff.mp hhandle
          cases hgraph
          exact .inr ⟨r, graph, rfl, happly, rfl⟩

/-- One operation and any number of workers on one cluster. -/
structure System where
  op : Op Unit
  workers : List (Py Nat) := []
  cluster : Cluster

/-- What happens next: a call of the operation or of a worker, with its answer, or the start of a
worker. -/
inductive Label where
  | op (choice : OpChoice)
  | worker (index : Nat) (choice : Choice)
  | start (pool ns : String) (job : Job)

/-- One step of the system. -/
def systemStep (shape : Shape) (sr : Sr) (s : System) : Label → Option System
  | .op choice => (s.op.next (opHandle shape sr) choice s.cluster).map fun (op, cluster) =>
      { s with op := op, cluster := cluster }
  | .worker index choice => s.workers[index]?.bind fun worker =>
      (worker.next (workerHandle shape) choice s.cluster).map fun (worker, cluster) =>
        { s with workers := s.workers.set index worker, cluster := cluster }
  | .start pool ns job => some { s with workers := main pool ns (some job) :: s.workers }

section Names

variable {g g' : Graph} {img img' : Image}

/-- An edit leaves no new name among the snapshots but those that the request gives. -/
theorem edit_names {r : Req} (h : g.edit r img = some img') :
    ∀ s' ∈ img'.snapshots, (∃ s ∈ img.snapshots, s.name = s'.name) ∨ s'.name ∈ r.names := by
  cases r with
  | put spec body =>
      cases h
      exact fun s hs => .inl ⟨s, by simpa using hs, rfl⟩
  | snapRemove spec snap =>
      obtain ⟨-, -, rfl⟩ := edit_snapRemove h
      exact fun s hs => .inl ⟨s, (List.mem_filter.mp hs).1, rfl⟩
  | snapSetProtected spec snap on =>
      obtain ⟨-, -, rfl⟩ := edit_snapSetProtected h
      intro s' hs'
      obtain ⟨s, hs, rfl⟩ := List.mem_map.mp hs'
      refine .inl ⟨s, hs, ?_⟩
      split <;> rfl
  | snapRollback spec snap =>
      obtain ⟨s, -, rfl⟩ := edit_snapRollback h
      exact fun s hs => .inl ⟨s, hs, rfl⟩
  | flatten spec =>
      obtain ⟨-, rfl⟩ := edit_flatten h
      intro s' hs'
      dsimp only [Image.flatten] at hs'
      split at hs'
      · obtain ⟨s, hs, rfl⟩ := List.mem_map.mp hs'
        exact .inl ⟨s, hs, rfl⟩
      · exact .inl ⟨s', hs', rfl⟩
  | snapCreate spec snap =>
      obtain ⟨-, rfl⟩ := edit_snapCreate h
      intro s' hs'
      obtain hold | hnew := List.mem_append.mp hs'
      · exact .inl ⟨s', hold, rfl⟩
      · rw [List.mem_singleton.mp hnew]
        exact .inr List.mem_cons_self
  | snapRename spec snap newSnap =>
      obtain ⟨-, -, rfl⟩ := edit_snapRename h
      intro s' hs'
      obtain ⟨s, hs, rfl⟩ := List.mem_map.mp hs'
      split
      · exact .inr List.mem_cons_self
      · exact .inl ⟨s, hs, rfl⟩
  | create spec size features => cases h
  | remove spec => cases h
  | imageRename spec newName => cases h
  | clone spec snap dst features => cases h

/-- A request makes no image but of the names that it gives. -/
theorem absent_of_names {r : Req} (h : g.apply r = some g') {spec : Spec}
    (hnew : spec.image ∉ r.names) (habsent : spec ∉ g.images) : spec ∉ g'.images := by
  cases change_of_apply h with
  | @edit r img img' himg hedit =>
      intro hmem
      obtain rfl | hold := AList.mem_insert _ |>.mp hmem
      · exact habsent (AList.lookup_isSome.mp (by rw [himg]; rfl))
      · exact habsent hold
  | remove himg hempty => exact fun hmem => habsent (AList.mem_erase.mp hmem).2
  | create hnot =>
      intro hmem
      obtain rfl | hold := AList.mem_insert _ |>.mp hmem
      · exact hnew List.mem_cons_self
      · exact habsent hold
  | rename himg hnot =>
      intro hmem
      obtain rfl | hold := AList.mem_insert _ |>.mp hmem
      · exact hnew List.mem_cons_self
      · exact habsent (AList.mem_erase.mp hold).2
  | clone himg hs hnot hprotected =>
      intro hmem
      obtain rfl | hold := AList.mem_insert _ |>.mp hmem
      · exact hnew List.mem_cons_self
      · exact habsent hold

/-- A request makes no snapshot but of the names that it gives, or on an image that it gives a
name. -/
theorem noSnap_of_names {r : Req} (h : g.apply r = some g') {spec : Spec} {snap : String}
    (himage : spec.image ∉ r.names) (hsnap : snap ∉ r.names) (hgone : g.NoSnap spec snap) :
    g'.NoSnap spec snap := by
  intro img' himg'
  cases change_of_apply h with
  | @edit r img eimg himg hedit =>
      by_cases hsame : spec = r.spec
      · subst hsame
        cases (AList.lookup_insert _).symm.trans himg'
        have hnone := hgone img himg
        simp only [Image.named, List.filter_eq_nil_iff, beq_iff_eq] at hnone ⊢
        intro s' hs' heq
        obtain ⟨s, hs, hname⟩ | hgiven := edit_names hedit s' hs'
        · exact hnone s hs (hname.trans heq)
        · exact hsnap (heq ▸ hgiven)
      · rw [AList.lookup_insert_ne hsame] at himg'
        exact hgone img' himg'
  | @remove gone img himg hempty =>
      have hother : spec ≠ gone := by
        rintro rfl
        rw [AList.lookup_erase] at himg'
        cases himg'
      rw [AList.lookup_erase_ne hother] at himg'
      exact hgone img' himg'
  | @create new size features hnot =>
      have hother : spec ≠ new := fun heq => himage (heq ▸ List.mem_cons_self)
      rw [AList.lookup_insert_ne hother] at himg'
      exact hgone img' himg'
  | @rename old newName img himg hnot =>
      have hother : spec ≠ { old with image := newName } :=
        fun heq => himage (heq ▸ List.mem_cons_self)
      rw [AList.lookup_insert_ne hother] at himg'
      have hold : spec ≠ old := by
        rintro rfl
        rw [AList.lookup_erase] at himg'
        cases himg'
      rw [AList.lookup_erase_ne hold] at himg'
      exact hgone img' himg'
  | @clone src dst srcSnap features img s himg hs hnot hprotected =>
      have hother : spec ≠ dst := fun heq => himage (heq ▸ List.mem_cons_self)
      rw [AList.lookup_insert_ne hother] at himg'
      exact hgone img' himg'

/-- A request that names nothing makes no image. -/
theorem apply_absent {r : Req} (hnaming : r.naming = false) (h : g.apply r = some g') {spec : Spec}
    (habsent : spec ∉ g.images) : spec ∉ g'.images :=
  absent_of_names h (by simp [Req.names_eq_nil hnaming]) habsent

/-- A request that names nothing makes no snapshot. -/
theorem apply_noSnap {r : Req} (hnaming : r.naming = false) (h : g.apply r = some g') {spec : Spec}
    {snap : String} (hgone : g.NoSnap spec snap) : g'.NoSnap spec snap :=
  noSnap_of_names h (by simp [Req.names_eq_nil hnaming]) (by simp [Req.names_eq_nil hnaming]) hgone

/-- A worker names nothing. -/
theorem naming_of_byWorker {r : Req} (h : r.byWorker = true) : r.naming = false := by
  cases r <;> first | rfl | cases h

end Names

section Answers

variable {shape : Shape} {sr : Sr} {choice : OpChoice} {w after : Cluster} {c : OpCall}

/-- A call that makes a request and succeeds makes it. -/
theorem opHandle_ok {r : Req} {result : c.Result} (hreq : reqOf sr c = some r)
    (h : opHandle shape sr choice w c = some (.ok result, after)) :
    w.graph.apply r = some after.graph := by
  obtain ⟨result', -, heffect⟩ | ⟨-, hother⟩ := opHandle_cases h
  · obtain ⟨r', hreq', happly⟩ | ⟨hnone, -⟩ := opEffect_graph heffect
    · cases hreq.symm.trans hreq'
      exact happly
    · cases hreq.symm.trans hnone
  · -- An answer of the environment's own is not one to a request.
    cases choice with
    | ok =>
        cases c with
        | call c => cases c <;> simp_all [opHandle]
        | imageRename image newName => simp_all [opHandle]
        | clone image snap dst features => simp_all [opHandle]
    | _ =>
        cases c with
        | call c => cases c <;> first | (cases h; done) | cases hreq
        | imageRename image newName => cases h
        | clone image snap dst features => cases h

/-- A call that fails changes nothing. -/
theorem opHandle_error {error : Volume.Exc}
    (h : opHandle shape sr choice w c = some (.error error, after)) :
    after = w ∧ choice = .fail error := by
  obtain ⟨result, hreply, -⟩ | ⟨hsame, ⟨error', hchoice, hreply⟩ | ⟨result, hreply, -⟩⟩ :=
    opHandle_cases h
  · cases hreply
  · cases hreply
    exact ⟨hsame, hchoice⟩
  · cases hreply

/-- What a call does to the graph: its request, or nothing. -/
theorem opHandle_graph {reply : Except Volume.Exc c.Result}
    (h : opHandle shape sr choice w c = some (reply, after)) :
    after.graph = w.graph ∨ ∃ r, reqOf sr c = some r ∧ w.graph.apply r = some after.graph := by
  obtain ⟨result, -, heffect⟩ | ⟨hsame, -⟩ := opHandle_cases h
  · obtain hmade | ⟨-, hgraph⟩ := opEffect_graph heffect
    · exact .inr hmade
    · exact .inl hgraph
  · rw [hsame]
    exact .inl rfl

/-- What a call does to the queue of jobs. -/
theorem opHandle_jobs {reply : Except Volume.Exc c.Result}
    (h : opHandle shape sr choice w c = some (reply, after)) :
    after.jobs = w.jobs ∨ ∃ job, c = .call (.gcSpawn job) ∧ after.jobs = w.jobs ++ [job] := by
  obtain ⟨result, -, heffect⟩ | ⟨hsame, -⟩ := opHandle_cases h
  · cases c with
    | imageRename image newName =>
        obtain ⟨graph, -, hpair⟩ := Option.map_eq_some_iff.mp heffect
        cases hpair
        exact .inl rfl
    | clone image snap dst features =>
        obtain ⟨graph, -, hpair⟩ := Option.map_eq_some_iff.mp heffect
        cases hpair
        exact .inl rfl
    | call c =>
        cases c <;> first
          | (cases heffect; done)
          | (cases heffect; exact .inl rfl)
          | (cases heffect; exact .inr ⟨_, rfl, rfl⟩)
          | (obtain ⟨graph, -, hpair⟩ := Option.map_eq_some_iff.mp heffect
             cases hpair
             exact .inl rfl)
  · rw [hsame]
    exact .inl rfl

/-- The report of an image is one of an image that is there. -/
theorem opHandle_info {choice : OpChoice} {image : String} {info : Volume.Info} {after : Cluster}
    (h : opHandle shape sr choice w (.call (.imageInfo image)) = some (.ok info, after)) :
    after = w ∧ ∃ img, w.graph.images.lookup (sr.spec image) = some img ∧
      info = w.graph.volumeInfo shape image img := by
  cases choice with
  | ok =>
      obtain ⟨⟨result, after'⟩, heffect, hpair⟩ := Option.map_eq_some_iff.mp h
      cases hpair
      obtain ⟨img, himg, hinfo⟩ := Option.map_eq_some_iff.mp heffect
      cases hinfo
      exact ⟨rfl, img, himg, rfl⟩
  | _ => cases h

end Answers

section Rules

variable {α σ ι : Type} {w : Setting Volume.Exc OpCall OpCall.Result σ ι} {post : α → σ → Prop}
  {exc : Volume.Exc → σ → Prop} {s : σ}

/-- A setting as the operations see it that make none of the other calls. -/
def plain (w : Setting Volume.Exc OpCall OpCall.Result σ ι) :
    Setting Volume.Exc Volume.Call Volume.Result σ ι where
  handle choice s c := w.handle choice s (.call c)
  allowed choice s c := w.allowed choice s (.call c)
  rely := w.rely
  asserted s c := w.asserted s (.call c)

/-- An operation is as safe as the plain one that it lifts. -/
theorem safe_lift {p : Volume.Op α} (h : Safe (plain w) post exc p s) :
    Safe w post exc (lift p) s := by
  induction p generalizing s with
  | ret value => exact h
  | raise error => exact h
  | call c resume ih =>
      intro before hmoves
      obtain ⟨hasserted, hrest⟩ := h before hmoves
      exact ⟨hasserted, fun choice reply after hallowed hhandle =>
        ih reply (hrest choice reply after hallowed hhandle)⟩

/-- An operation whose backend errors are handled. -/
theorem safe_catchBackend {p : Op α} {handler : BackendError → Op α}
    (h : Safe w post (fun error s => match error with
      | .backend error => Safe w post exc (handler error) s
      | error => exc error s) p s) :
    Safe w post exc (catchBackend p handler) s := by
  refine Prog.safe_tryCatch (h.mono (fun _ _ hpost => hpost) fun error s herror => ?_)
  cases error <;> exact herror

/-- A plain operation whose backend errors are handled. -/
theorem safe_except {w : Setting Volume.Exc Volume.Call Volume.Result σ ι} {p : Volume.Op α}
    {handler : BackendError → Volume.Op α}
    (h : Safe w post (fun error s => match error with
      | .backend error => Safe w post exc (handler error) s
      | error => exc error s) p s) :
    Safe w post exc (Volume.exceptBackend p handler) s := by
  refine Prog.safe_tryCatch (h.mono (fun _ _ hpost => hpost) fun error s herror => ?_)
  cases error <;> exact herror

/-- A plain operation whose handler may start where it raises. -/
theorem safe_except_of {w : Setting Volume.Exc Volume.Call Volume.Result σ ι} {p : Volume.Op α}
    {handler : BackendError → Volume.Op α} {E : σ → Prop}
    (h : Safe w post (fun _ s => E s) p s)
    (hhandler : ∀ error s, E s → Safe w post exc (handler error) s)
    (hother : ∀ error s, E s → exc error s) :
    Safe w post exc (Volume.exceptBackend p handler) s := by
  refine safe_except (h.mono (fun _ _ hpost => hpost) fun error s hE => ?_)
  cases error with
  | backend error => exact hhandler error s hE
  | unimplemented | calledProcess | other => exact hother _ s hE

/-- An operation whose handler may start where it raises. -/
theorem safe_catch_of {p : Op α} {handler : BackendError → Op α} {E : σ → Prop}
    (h : Safe w post (fun _ s => E s) p s)
    (hhandler : ∀ error s, E s → Safe w post exc (handler error) s)
    (hother : ∀ error s, E s → exc error s) :
    Safe w post exc (catchBackend p handler) s := by
  refine safe_catchBackend (h.mono (fun _ _ hpost => hpost) fun error s hE => ?_)
  cases error with
  | backend error => exact hhandler error s hE
  | unimplemented | calledProcess | other => exact hother _ s hE

end Rules

/-- The calls of a lifted operation. -/
theorem allCalls_lift {α : Type} {P : OpCall → Prop} {p : Volume.Op α}
    (hp : AllCalls (fun c => P (.call c)) p) : AllCalls P (lift p) := by
  induction p with
  | ret value => trivial
  | raise error => trivial
  | call c resume ih => exact ⟨hp.1, fun reply => ih reply (hp.2 reply)⟩

section Parts

variable {P : Volume.Call → Prop}

/-- Handling backend errors makes no call by itself. -/
theorem allCalls_except {α : Type} {p : Volume.Op α} {handler : BackendError → Volume.Op α}
    (hp : AllCalls P p) (hhandler : ∀ error, AllCalls P (handler error)) :
    AllCalls P (Volume.exceptBackend p handler) := by
  refine AllCalls.tryCatch hp fun error => ?_
  cases error <;> first | exact hhandler _ | trivial

/-- Handling a `CalledProcessError` makes no call by itself. -/
theorem allCalls_exceptCalled {α : Type} {p handler : Volume.Op α} (hp : AllCalls P p)
    (hhandler : AllCalls P handler) : AllCalls P (Volume.exceptCalled p handler) := by
  refine AllCalls.tryCatch hp fun error => ?_
  cases error with
  | calledProcess => exact hhandler
  | backend | unimplemented | other => trivial

/-- `_rmw` reads the image twice and writes it. -/
theorem allCalls_rmw {base : String} (mutate : Volume.Desired → Volume.Desired)
    (hinfo : P (.imageInfo base)) (hread : P (.metaRead base))
    (hput : ∀ body, P (.putImage base body)) : AllCalls P (Volume.rmw base mutate) := by
  have hperform : AllCalls P (Volume.perform (.metaRead base)) := AllCalls.perform hread
  refine AllCalls.bind (AllCalls.perform hinfo) fun info => ?_
  refine AllCalls.bind (allCalls_except (AllCalls.bind hperform fun _ => trivial) fun _ => trivial)
    fun current => AllCalls.perform (hput _)

/-- `remove_companion` unmaps the companion and removes it. -/
theorem allCalls_removeCompanion {base gen : String}
    (hunmap : P (.unmap (Volume.Cbtlog.companionName base gen)))
    (hremove : P (.remove (Volume.Cbtlog.companionName base gen))) :
    AllCalls P (Volume.Cbtlog.removeCompanion base gen) := by
  unfold Volume.Cbtlog.removeCompanion
  split
  · trivial
  · refine AllCalls.bind (AllCalls.tryCatch (AllCalls.perform hunmap) fun _ => trivial) fun _ => ?_
    exact AllCalls.tryCatch (AllCalls.perform hremove) fun _ => trivial

/-- `remove_all_companions` does so with all of them. -/
theorem allCalls_removeAllCompanions {base : String} (metadata : Volume.Dict)
    (hunmap : ∀ gen, P (.unmap (Volume.Cbtlog.companionName base gen)))
    (hremove : ∀ gen, P (.remove (Volume.Cbtlog.companionName base gen))) :
    AllCalls P (Volume.Cbtlog.removeAllCompanions base metadata) := by
  unfold Volume.Cbtlog.removeAllCompanions
  induction metadata.entries.filter fun entry =>
      entry.1 == Volume.Cbtlog.kLive || Text.startsWith entry.1 Volume.Cbtlog.snapPrefix with
  | nil => trivial
  | cons entry rest ih =>
      exact AllCalls.bind (allCalls_removeCompanion (hunmap _) (hremove _)) fun _ => ih

/-- The creation of a companion: one request, the rest asks Ceph for nothing. -/
theorem allCalls_createCompanion {sr : Sr} {base : String} (size : Nat)
    (hquiet : ∀ c, reqOf sr (.call c) = none → (∀ job, c ≠ .gcSpawn job) → P c)
    (hcreate : ∀ gen, P (.create (Volume.Cbtlog.companionName base gen)
      (Volume.Cbtlog.companionSize size) ["layering"])) :
    AllCalls P (Volume.Cbtlog.createCompanion base size) := by
  have hunmap : ∀ name, AllCalls P (Volume.Cbtlog.unmap name) := fun name =>
    AllCalls.tryCatch (AllCalls.perform (hquiet _ rfl nofun)) fun _ => trivial
  refine AllCalls.bind (AllCalls.perform (hquiet _ rfl nofun)) fun gen => ?_
  refine AllCalls.bind (AllCalls.perform (hcreate gen)) fun _ => ?_
  refine AllCalls.bind (AllCalls.perform (hquiet _ rfl nofun)) fun _ => ?_
  refine AllCalls.bind ?_ fun _ => trivial
  have hbody : AllCalls P (do
      Volume.perform (.cbtCreate (Volume.Cbtlog.companionName base gen)
        (Volume.Cbtlog.numBlocks size))
      Volume.perform (.cbtSet (Volume.Cbtlog.companionName base gen) size)) :=
    AllCalls.bind (AllCalls.perform (hquiet _ rfl nofun)) fun _ =>
      AllCalls.perform (hquiet _ rfl nofun)
  refine AllCalls.bind (AllCalls.tryCatch hbody fun _ => AllCalls.bind (hunmap _) fun _ => trivial)
    fun _ => AllCalls.bind (hunmap _) fun _ => trivial

/-- The search for a running tapdisk. -/
theorem allCalls_tapRunning {base : String} (hdevice : P (.findDevice base))
    (hfind : P (.tapFind base)) : AllCalls P (Volume.Cbtlog.tapRunning base) := by
  refine AllCalls.bind (AllCalls.perform hdevice) fun mapped => ?_
  split
  · exact allCalls_exceptCalled (AllCalls.perform hfind) trivial
  · trivial

/-- A tapdisk is paused and unpaused on another log. -/
theorem allCalls_relog {target base gen : String}
    (hmap : P (.map (Volume.Cbtlog.companionName base gen))) (hpause : P (.tapPause target))
    (hunpause : P (.tapUnpause target (Volume.Cbtlog.companionName base gen))) :
    AllCalls P (Volume.Cbtlog.relog target base gen) :=
  AllCalls.bind (AllCalls.perform hmap) fun _ =>
    AllCalls.bind (AllCalls.perform hpause) fun _ => AllCalls.perform hunpause

/-- The swap of a running tapdisk to the new log asks Ceph for nothing. -/
theorem allCalls_swapLog {sr : Sr} (base : String) (oldGen : Option String) (newGen : String)
    (hquiet : ∀ c, reqOf sr (.call c) = none → (∀ job, c ≠ .gcSpawn job) → P c) :
    AllCalls P (Volume.Cbtlog.swapLog base oldGen newGen) := by
  refine AllCalls.bind (allCalls_tapRunning (hquiet _ rfl nofun) (hquiet _ rfl nofun))
    fun running => ?_
  cases running with
  | none => trivial
  | some target =>
      refine AllCalls.bind (allCalls_relog (hquiet _ rfl nofun) (hquiet _ rfl nofun)
        (hquiet _ rfl nofun)) fun _ => ?_
      cases oldGen with
      | none => trivial
      | some gen =>
          dsimp only
          split
          · trivial
          · exact AllCalls.tryCatch (AllCalls.perform (hquiet _ rfl nofun)) fun _ => trivial

/-- The rotation of a log: the creation of the new companion, and the swap to it. -/
theorem allCalls_rotate {sr : Sr} {base : String} (snap : String) (metadata : Volume.Dict)
    (size : Nat) (hquiet : ∀ c, reqOf sr (.call c) = none → (∀ job, c ≠ .gcSpawn job) → P c)
    (hcreate : ∀ gen, P (.create (Volume.Cbtlog.companionName base gen)
      (Volume.Cbtlog.companionSize size) ["layering"])) :
    AllCalls P (Volume.Cbtlog.rotate base snap metadata size) :=
  AllCalls.bind (allCalls_createCompanion size hquiet hcreate) fun _ =>
    AllCalls.bind (allCalls_swapLog base _ _ hquiet) fun _ => trivial

/-- The removal of the companion sealed to a snapshot. -/
theorem allCalls_dropSealed {base : String} (snap : String) (hinfo : P (.imageInfo base))
    (hread : P (.metaRead base)) (hput : ∀ body, P (.putImage base body))
    (hunmap : ∀ gen, P (.unmap (Volume.Cbtlog.companionName base gen)))
    (hremove : ∀ gen, P (.remove (Volume.Cbtlog.companionName base gen))) :
    AllCalls P (Volume.dropSealed base snap) := by
  refine allCalls_except (AllCalls.bind (AllCalls.perform hinfo) fun info => ?_) fun _ => trivial
  split
  · split
    · trivial
    · exact AllCalls.bind (allCalls_removeCompanion (hunmap _) (hremove _))
        fun _ => allCalls_rmw _ hinfo hread hput
  · trivial

end Parts

end XcpCephRbd.Gc
