import XcpCephRbd.Gc.Ops
import XcpCephRbd.Gc.Collect
import XcpCephRbd.Lib.Sim

/-!
# The two backends behind one piece of logic

The backends are to be interchangeable, but they list the clones of a snapshot differently: the
dashboard as dictionaries, the binding of librbd as pairs. `Volume.destroy` only asks whether there
are any, so it does the same with both (`destroy_same`). The worker reads the fields of a
dictionary, which a pair does not have: `backends_agree_iff` says that its `run` does the same with
both exactly if no snapshot of the job's object has a clone.
-/

namespace XcpCephRbd.Gc

open Volume (BackendError Info Job)

/-- A snapshot of a listing with its clones reduced to whether there are any. -/
def withoutShape (s : Volume.SnapInfo) : Volume.SnapInfo :=
  { s with children := if s.children.isEmpty then [] else [""] }

/-- Two reports of one image that differ at most in the shape of the clones. -/
structure Alike (i i' : Info) : Prop where
  name : i.name = i'.name
  size : i.size = i'.size
  featuresName : i.featuresName = i'.featuresName
  metadata : i.metadata = i'.metadata
  snapshots : i.snapshots.map withoutShape = i'.snapshots.map withoutShape

/-- Results that differ at most in the shape of the clones. -/
def sameResult : (c : Volume.Call) → Volume.Result c → Volume.Result c → Prop
  | .imageInfo _, i, i' => Alike i i'
  | .metaRead _, i, i' => Alike i i'
  | .listImages, l, l' => List.Forall₂ Alike l l'
  | _, r, r' => r = r'

/-- Results of the calls of operations that differ at most in the shape of the clones. -/
def sameOpResult : (c : OpCall) → c.Result → c.Result → Prop
  | .call c, r, r' => sameResult c r r'
  | _, r, r' => r = r'

section Alike

variable {i i' : Info}

/-- The names of the snapshots are the same. -/
theorem Alike.names (h : Alike i i') :
    i.snapshots.map Volume.SnapInfo.name = i'.snapshots.map Volume.SnapInfo.name := by
  have hnames := congrArg (List.map Volume.SnapInfo.name) h.snapshots
  simpa [Function.comp_def, withoutShape] using hnames

/-- Whether a snapshot has clones does not depend on their shape. -/
theorem isEmpty_withoutShape (s : Volume.SnapInfo) :
    (withoutShape s).children.isEmpty = s.children.isEmpty := by
  unfold withoutShape
  cases s.children.isEmpty <;> simp

/-- Whether any snapshot has clones is the same. -/
theorem Alike.anyChildren (h : Alike i i') : anyChildren i = anyChildren i' := by
  have hany := congrArg (fun l => l.any fun s : Volume.SnapInfo => !s.children.isEmpty) h.snapshots
  simpa [List.any_map, Function.comp_def, isEmpty_withoutShape, Gc.anyChildren] using hany

/-- Whether the snapshot of a name has clones is the same. -/
theorem Alike.findChildren (h : Alike i i') (snap : String) :
    (i.snapshots.find? fun s => s.name == snap).map (fun s => s.children.isEmpty) =
      (i'.snapshots.find? fun s => s.name == snap).map fun s => s.children.isEmpty := by
  have hfind := congrArg (fun l => (l.find? fun s : Volume.SnapInfo => s.name == snap).map
    fun s => s.children.isEmpty) h.snapshots
  simp only [List.find?_map, Function.comp_def, Option.map_map, isEmpty_withoutShape] at hfind
  exact hfind

end Alike

section Destroy

open Prog (Sim AllCalls)

/-- Operations that are related stay so when they are lifted. -/
theorem sim_lift {α : Type} {same : α → α → Prop} {p p' : Volume.Op α}
    (h : Sim sameResult same p p') : Sim sameOpResult same (lift p) (lift p') := by
  induction h with
  | ret hsame => exact .ret hsame
  | raise error => exact .raise error
  | call _ _ ihok iherror => exact .call ihok iherror

/-- A report of an image. -/
theorem sim_info (image : String) :
    Sim sameResult Alike (Volume.imageInfo image) (Volume.imageInfo image) :=
  Sim.perform (Volume.Call.imageInfo image)

/-- A call whose results are never told apart. -/
theorem sim_call (c : Volume.Call) (h : ∀ r r', sameResult c r r' → r = r') :
    Sim sameResult Eq (Volume.perform c) (Volume.perform c) :=
  Sim.refl (AllCalls.perform h)

/-- An operation whose backend errors are handled. -/
theorem sim_exceptBackend {α : Type} {same : α → α → Prop} {p p' : Volume.Op α}
    {handler handler' : BackendError → Volume.Op α} (h : Sim sameResult same p p')
    (hhandler : ∀ error, Sim sameResult same (handler error) (handler' error)) :
    Sim sameResult same (Volume.exceptBackend p handler) (Volume.exceptBackend p' handler') := by
  refine Sim.tryCatch h fun error => ?_
  cases error with
  | backend error => exact hhandler error
  | unimplemented | calledProcess | other => exact .raise _

/-- `_rmw` reads the metadata and the size only. -/
theorem sim_rmw (base : String) (mutate : Volume.Desired → Volume.Desired) :
    Sim sameResult Eq (Volume.rmw base mutate) (Volume.rmw base mutate) := by
  refine Sim.bind (sim_info base) fun i i' hi => ?_
  rw [hi.metadata, hi.size]
  refine Sim.bind_eq (sim_exceptBackend ?_ fun _ => .ret rfl) fun current => ?_
  · have hread : Sim sameResult Alike (Volume.perform (.metaRead base))
        (Volume.perform (.metaRead base)) := Sim.perform (Volume.Call.metaRead base)
    exact Sim.bind hread fun j j' hj => .ret hj.metadata
  · exact sim_call (.putImage _ _) fun _ _ h => h

/-- `_snap_has_children` asks only whether there are any. -/
theorem sim_snapHasChildren (base snap : String) :
    Sim sameResult Eq (Volume.snapHasChildren base snap) (Volume.snapHasChildren base snap) := by
  refine sim_exceptBackend (Sim.bind (sim_info base) fun i i' hi => ?_) fun _ => .ret rfl
  have hfind := hi.findChildren snap
  cases h : i.snapshots.find? fun s => s.name == snap with
  | none =>
      cases h' : i'.snapshots.find? fun s => s.name == snap with
      | none => exact .ret rfl
      | some s' => simp [h, h'] at hfind
  | some s =>
      cases h' : i'.snapshots.find? fun s => s.name == snap with
      | none => simp [h, h'] at hfind
      | some s' =>
          simp only [h, h', Option.map_some, Option.some.injEq] at hfind
          exact .ret (by rw [hfind])

/-- `_remove_snap` reads nothing. -/
theorem sim_removeSnap (base snap : String) :
    Sim sameResult Eq (Volume.removeSnap base snap) (Volume.removeSnap base snap) := by
  refine Sim.bind_eq (sim_exceptBackend ?_ fun _ => .ret rfl) fun _ => ?_
  · exact sim_call (.snapSetProtected base snap false) fun _ _ h => h
  · exact sim_call (.snapRemove base snap) fun _ _ h => h

/-- Removing a companion reads nothing. -/
theorem sim_removeCompanion (base gen : String) :
    Sim sameResult Eq (Volume.Cbtlog.removeCompanion base gen)
      (Volume.Cbtlog.removeCompanion base gen) := by
  unfold Volume.Cbtlog.removeCompanion
  split
  · exact .ret rfl
  · refine Sim.bind_eq (Sim.tryCatch (sim_call (.unmap _) fun _ _ h => h) fun _ => .ret rfl)
      fun _ => ?_
    exact Sim.tryCatch (sim_call (.remove _) fun _ _ h => h) fun _ => .ret rfl

/-- The release of a snapshot does the same with both shapes. -/
theorem sim_releaseSnap (base snap : String) :
    Sim sameResult Eq (Volume.releaseSnap base snap) (Volume.releaseSnap base snap) := by
  refine Sim.bind_eq (sim_snapHasChildren base snap) fun children => ?_
  split
  · refine Sim.bind_eq (sim_call .uuid4 fun _ _ h => h) fun uuid => ?_
    refine Sim.bind_eq (sim_call (.snapRename _ _ _) fun _ _ h => h) fun _ => ?_
    exact sim_call (.gcSpawn _) fun _ _ h => h
  · exact sim_removeSnap base snap

/-- `destroy` of a snapshot does the same with both shapes. -/
theorem sim_destroySnap (base snap : String) :
    Sim sameResult Eq (Volume.destroySnap base snap) (Volume.destroySnap base snap) := by
  refine sim_exceptBackend ?_ fun error => ?_
  · refine Sim.bind_eq (sim_releaseSnap base snap) fun _ => ?_
    refine Sim.bind_eq (sim_exceptBackend (sim_rmw _ _) fun _ => .ret rfl) fun _ => ?_
    refine sim_exceptBackend (Sim.bind (sim_info base) fun i i' hi => ?_) fun _ => .ret rfl
    rw [hi.metadata]
    split
    · split
      · exact .ret rfl
      · exact Sim.bind_eq (sim_removeCompanion _ _) fun _ => sim_rmw _ _
    · exact .ret rfl
  · split
    · exact .ret rfl
    · exact .raise _

/-- The removal of all companions reads nothing. -/
theorem sim_removeAllCompanions (base : String) (metadata : Volume.Dict) :
    Sim sameResult Eq (Volume.Cbtlog.removeAllCompanions base metadata)
      (Volume.Cbtlog.removeAllCompanions base metadata) := by
  unfold Volume.Cbtlog.removeAllCompanions
  induction metadata.entries.filter fun entry =>
      entry.1 == Volume.Cbtlog.kLive || Text.startsWith entry.1 Volume.Cbtlog.snapPrefix with
  | nil => exact .ret rfl
  | cons entry rest ih => exact Sim.bind_eq (sim_removeCompanion _ _) fun _ => ih

/-- A call of an operation whose results are never told apart. -/
theorem sim_opCall (c : OpCall) (h : ∀ r r', sameOpResult c r r' → r = r') :
    Sim sameOpResult Eq (perform c) (perform c) :=
  Sim.refl (AllCalls.perform h)

/-- An operation whose backend errors are handled. -/
theorem sim_catchBackend {α : Type} {same : α → α → Prop} {p p' : Op α}
    {handler handler' : BackendError → Op α} (h : Sim sameOpResult same p p')
    (hhandler : ∀ error, Sim sameOpResult same (handler error) (handler' error)) :
    Sim sameOpResult same (catchBackend p handler) (catchBackend p' handler') := by
  refine Sim.tryCatch h fun error => ?_
  cases error with
  | backend error => exact hhandler error
  | unimplemented | calledProcess | other => exact .raise _

/-- The image as `destroy` reads it. -/
theorem sim_infoOrGone (image : String) :
    Sim sameOpResult (Option.Rel Alike) (infoOrGone image) (infoOrGone image) := by
  refine sim_catchBackend ?_ fun error => ?_
  · have hread : Sim sameOpResult Alike (opInfo image) (opInfo image) :=
      Sim.perform (OpCall.call (Volume.Call.imageInfo image))
    exact Sim.bind hread fun i i' hi => .ret (.some hi)
  · split
    · exact .ret .none
    · exact .raise _

/-- The removal of snapshots reads nothing. -/
theorem sim_removeSnaps (base : String) (snaps : List String) :
    Sim sameOpResult Eq (removeSnaps base snaps) (removeSnaps base snaps) := by
  induction snaps with
  | nil => exact .ret rfl
  | cons snap rest ih => exact Sim.bind_eq (sim_lift (sim_removeSnap base snap)) fun _ => ih

/-- The release of the host's holders reads nothing of the cluster. -/
theorem sim_forceRelease (image : String) :
    Sim sameOpResult Eq (forceRelease image) (forceRelease image) := by
  refine Sim.tryCatch ?_ fun _ => .ret rfl
  refine Sim.bind_eq (sim_opCall (.call (.findDevice image)) fun _ _ h => h) fun mapped => ?_
  split
  · exact sim_opCall (.call (.unmap image)) fun _ _ h => h
  · exact .ret rfl

/-- The removal of an image reads nothing of the cluster. -/
theorem sim_releaseAndRemove (image : String) :
    Sim sameOpResult Eq (releaseAndRemove image) (releaseAndRemove image) := by
  have hremove : Sim sameOpResult Eq (perform (.call (.remove image)))
      (perform (.call (.remove image))) := sim_opCall (.call (.remove image)) fun _ _ h => h
  refine Sim.bind_eq (sim_forceRelease image) fun _ => sim_catchBackend hremove fun error => ?_
  split
  · exact .ret rfl
  · exact Sim.bind_eq (sim_forceRelease image) fun _ => hremove

/-- The renaming to a trash name reads nothing of the cluster. -/
theorem sim_trashImage (image : String) :
    Sim sameOpResult Eq (trashImage image) (trashImage image) := by
  refine Sim.bind_eq (sim_opCall (.call .uuid4) fun _ _ h => h) fun uuid => ?_
  refine Sim.bind_eq (sim_opCall (.imageRename _ _) fun _ _ h => h) fun _ => ?_
  exact sim_opCall (.call (.gcSpawn _)) fun _ _ h => h

/-- `destroy` of a base does the same with both shapes. -/
theorem sim_destroyBase (sxm : Bool) (base : String) :
    Sim sameOpResult Eq (destroyBase sxm base) (destroyBase sxm base) := by
  refine Sim.bind (sim_infoOrGone base) fun found found' hfound => ?_
  cases hfound with
  | none => exact sim_releaseAndRemove base
  | @some i i' hi =>
      have hreal : realSnaps i = realSnaps i' := by
        rw [realSnaps, realSnaps, hi.names]
      simp only [hreal, hi.metadata]
      split
      · exact .raise _
      · refine Sim.bind_eq ?_ fun _ => ?_
        · unfold dropCompanions
          split
          · exact sim_lift (sim_removeAllCompanions _ _)
          · exact .ret rfl
        · unfold disposeBase
          rw [hi.anyChildren, hi.names]
          split
          · exact sim_trashImage base
          · exact Sim.bind_eq (sim_removeSnaps base _) fun _ => sim_releaseAndRemove base

/-- `destroy` does the same with both shapes. -/
theorem sim_destroy (dbg key : String) :
    Sim sameOpResult Eq (destroy dbg key) (destroy dbg key) := by
  have hbase : ∀ base, Sim sameOpResult Eq
      (catchBackend (destroyBase (fromSxm dbg) base) fun error =>
        if error.notFound then pure ()
        else throw (.other ("VDI destroy failed: " ++ error.message)))
      (catchBackend (destroyBase (fromSxm dbg) base) fun error =>
        if error.notFound then pure ()
        else throw (.other ("VDI destroy failed: " ++ error.message))) := by
    intro base
    refine sim_catchBackend (sim_destroyBase _ base) fun error => ?_
    split
    · exact .ret rfl
    · exact .raise _
  unfold destroy
  dsimp only
  split
  · split
    · exact hbase _
    · exact sim_lift (sim_destroySnap _ _)
  · exact hbase _

/-- The reports of one image by the two backends. -/
theorem alike_volumeInfo (g : Graph) (name : String) (img : Image) :
    Alike (g.volumeInfo .rest name img) (g.volumeInfo .local name img) := by
  refine ⟨rfl, rfl, rfl, rfl, ?_⟩
  simp [Graph.volumeInfo, withoutShape]

/-- What the environment answers by itself does not depend on the backend. -/
theorem opHandle_other {sr : Sr} {choice : OpChoice} (h : choice ≠ .ok) (w : Cluster) (c : OpCall) :
    opHandle .rest sr choice w c = opHandle .local sr choice w c := by
  cases choice with
  | ok => exact absurd rfl h
  | _ =>
      cases c with
      | call c => cases c <;> rfl
      | imageRename image newName => rfl
      | clone image snap dst features => rfl

/-- The two backends answer alike. -/
theorem opHandle_alike (sr : Sr) (choice : OpChoice) (w : Cluster) (c : OpCall) :
    opHandle .rest sr choice w c = opHandle .local sr choice w c ∨
      ∃ r r', opHandle .rest sr choice w c = some (.ok r, w) ∧
        opHandle .local sr choice w c = some (.ok r', w) ∧ sameOpResult c r r' := by
  cases choice with
  | ok =>
      cases c with
      | imageRename image newName => exact .inl rfl
      | clone image snap dst features => exact .inl rfl
      | call c =>
          cases c with
          | imageInfo image =>
              simp only [opHandle, opEffect]
              cases w.graph.images.lookup (sr.spec image) with
              | none => exact .inl rfl
              | some img => exact .inr ⟨_, _, rfl, rfl, alike_volumeInfo w.graph image img⟩
          | metaRead image =>
              simp only [opHandle, opEffect]
              cases w.graph.images.lookup (sr.spec image) with
              | none => exact .inl rfl
              | some img => exact .inr ⟨_, _, rfl, rfl, alike_volumeInfo w.graph image img⟩
          | listImages =>
              refine .inr ⟨_, _, rfl, rfl, ?_⟩
              change List.Forall₂ Alike (w.graph.listing .rest sr) (w.graph.listing .local sr)
              simp only [Graph.listing, List.forall₂_map_left_iff, List.forall₂_map_right_iff]
              exact List.forall₂_same.mpr fun entry _ => alike_volumeInfo w.graph _ _
          | _ => exact .inl rfl
  | _ => exact .inl (opHandle_other (by simp) w c)

/-- Results of one call are told apart by no relation that they stand in to themselves. -/
theorem sameOpResult_refl (c : OpCall) (r : c.Result) : sameOpResult c r r := by
  have halike : ∀ i : Info, Alike i i := fun i => ⟨rfl, rfl, rfl, rfl, rfl⟩
  cases c with
  | imageRename image newName => rfl
  | clone image snap dst features => rfl
  | call c =>
      cases c with
      | imageInfo image => exact halike r
      | metaRead image => exact halike r
      | listImages => exact List.forall₂_same.mpr fun i _ => halike i
      | _ => rfl

/-- `destroy` ends alike and leaves the same cluster with both backends, whatever the environment
chooses. -/
theorem destroy_same (sr : Sr) (oracle : Cluster → OpCall → OpChoice) (dbg key : String)
    (w : Cluster) :
    (destroy dbg key).exec (opAnswer .rest sr oracle) w =
      (destroy dbg key).exec (opAnswer .local sr oracle) w := by
  refine (sim_destroy dbg key).exec (fun w c => ?_) w
  unfold opAnswer
  obtain hsame | ⟨r, r', hrest, hlocal, hrel⟩ := opHandle_alike sr (oracle w c) w c
  · rw [hsame]
    cases opHandle .local sr (oracle w c) w c with
    | none => exact .inl ⟨_, w, rfl, rfl⟩
    | some answered =>
        obtain ⟨reply, after⟩ := answered
        cases reply with
        | error error => exact .inl ⟨error, after, rfl, rfl⟩
        | ok r => exact .inr (.inl ⟨r, r, after, rfl, rfl, sameOpResult_refl c r⟩)
  · rw [hrest, hlocal]
    exact .inr (.inl ⟨r, r', w, rfl, rfl, hrel⟩)

end Destroy

/-- How a worker ends, and the cluster that it leaves. -/
def ending {α : Type} (result : Option (Except Exc α × State)) : Option (Except Exc α × Graph) :=
  result.map fun (outcome, st) => (outcome, st.graph)

/-- The call is a request. -/
def IsRequest (c : Call) : Prop := ∃ r, c = .request r

section Run

open Prog (AllCalls)

variable {shape shape' : Shape} {st st' : State}

/-- A part that makes requests only ends alike with both backends. -/
theorem ending_requests {α : Type} {p : Py α} (hp : AllCalls IsRequest p)
    (hgraph : st.graph = st'.graph) :
    ending (p.exec (answer shape) st) = ending (p.exec (answer shape') st') := by
  induction p generalizing st st' with
  | ret value => simp [Prog.exec, ending, hgraph]
  | raise error => simp [Prog.exec, ending, hgraph]
  | call c resume ih =>
      obtain ⟨r, rfl⟩ := hp.1
      cases happly : st'.graph.apply r with
      | none =>
          have h : answer shape st (.request r) = some (.error (.backend
              { message := "refused", notFound := !st'.graph.found r }), st) := by
            simp [answer, handle, hgraph, happly, Graph.foundCall]
          have h' : answer shape' st' (.request r) = some (.error (.backend
              { message := "refused", notFound := !st'.graph.found r }), st') := by
            simp [answer, handle, happly, Graph.foundCall]
          rw [Prog.exec_call h, Prog.exec_call h']
          exact ih _ (hp.2 _) hgraph
      | some graph =>
          have h : answer shape st (.request r) = some (.ok (), { st with graph := graph }) := by
            simp [answer, handle, hgraph, happly]
          have h' : answer shape' st' (.request r) =
              some (.ok (), { st' with graph := graph }) := by
            simp [answer, handle, happly]
          rw [Prog.exec_call h, Prog.exec_call h']
          exact ih _ (hp.2 _) rfl

/-- The request of a program is a request. -/
theorem allCalls_request (r : Req) : AllCalls IsRequest (request r) := AllCalls.perform ⟨r, rfl⟩

/-- `_purge_snap` makes requests only. -/
theorem allCalls_purgeSnap (spec : Spec) (snap : String) :
    AllCalls IsRequest (purgeSnap spec snap) := by
  refine AllCalls.bind ?_ fun _ => allCalls_passNotFound (allCalls_request _)
  exact allCalls_exceptBackend (allCalls_request _) fun _ => trivial

/-- The purge of snapshots makes requests only. -/
theorem allCalls_purgeSnaps (spec : Spec) (snaps : List String) :
    AllCalls IsRequest (purgeSnaps spec snaps) := by
  induction snaps with
  | nil => trivial
  | cons snap rest ih => exact AllCalls.bind (allCalls_purgeSnap spec snap) fun _ => ih

/-- Where no clone pins the object, there is nothing to resolve. -/
theorem exec_resolveChildren_free (shape : Shape) {spec : Spec} {snapFilter : Option String}
    (hfree : st.graph.pinning spec snapFilter = []) :
    ∃ after, (resolveChildren spec snapFilter).exec (answer shape) st = some (.ok {}, after) ∧
      after.graph = st.graph := by
  obtain ⟨after, hread, hgraph, -⟩ := exec_readOrGone shape st spec
  refine ⟨after, (Prog.exec_bind hread).trans ?_, hgraph⟩
  cases hinfo : st.graph.info shape spec with
  | none => rfl
  | some info =>
      have hscope := inScope_info hinfo snapFilter
      rw [hfree, List.map_nil] at hscope
      simp only [hscope]
      rfl

/-- Where no clone pins the snapshot, its job ends alike with both backends. -/
theorem ending_runSnap {spec : Spec} {snap : String} (hgraph : st.graph = st'.graph)
    (hfree : st.graph.pinning spec (some snap) = []) :
    ending ((runSnap spec snap).exec (answer shape) st) =
      ending ((runSnap spec snap).exec (answer shape') st') := by
  obtain ⟨after, hresolve, hafter⟩ := exec_resolveChildren_free shape hfree
  rw [hgraph] at hfree
  obtain ⟨after', hresolve', hafter'⟩ := exec_resolveChildren_free shape' hfree
  rw [runSnap, Prog.exec_bind hresolve, Prog.exec_bind hresolve']
  exact ending_requests (allCalls_purgeSnap spec snap)
    (hafter.trans (hgraph.trans hafter'.symm))

/-- The names of the snapshots do not depend on the backend. -/
theorem names_info (shape shape' : Shape) (g : Graph) (spec : Spec) :
    (g.info shape spec).map (fun info => info.snapshots.map SnapInfo.name) =
      (g.info shape' spec).map fun info => info.snapshots.map SnapInfo.name := by
  simp [Graph.info, Function.comp_def]

/-- Where no clone pins the image, its job ends alike with both backends. -/
theorem ending_runImage {spec : Spec} (hgraph : st.graph = st'.graph)
    (hfree : st.graph.pinning spec none = []) :
    ending ((runImage spec).exec (answer shape) st) =
      ending ((runImage spec).exec (answer shape') st') := by
  obtain ⟨after, hresolve, hafter⟩ := exec_resolveChildren_free shape hfree
  rw [hgraph] at hfree
  obtain ⟨after', hresolve', hafter'⟩ := exec_resolveChildren_free shape' hfree
  obtain ⟨final, hread, hfinal, -⟩ := exec_readOrGone shape after spec
  obtain ⟨final', hread', hfinal', -⟩ := exec_readOrGone shape' after' spec
  have hsame : after.graph = after'.graph := hafter.trans (hgraph.trans hafter'.symm)
  have hcheck : ∀ (shape : Shape) (st : State) (rest : Unit → Py Unit),
      (checkResolved {} >>= rest).exec (answer shape) st = (rest ()).exec (answer shape) st :=
    fun _ _ _ => rfl
  rw [runImage, Prog.exec_bind hresolve, Prog.exec_bind hresolve', hcheck, hcheck,
    Prog.exec_bind hread, Prog.exec_bind hread', hsame, names_info shape shape']
  refine ending_requests (AllCalls.bind (allCalls_purgeSnaps spec _) fun _ => ?_)
    (hfinal.trans (hsame.trans hfinal'.symm))
  exact allCalls_passNotFound (allCalls_request _)

/-- With librbd, the first clone that pins the object ends the resolution: a pair has no fields. -/
theorem exec_resolveChildren_local {spec : Spec} {snapFilter : Option String}
    (hpinned : st.graph.pinning spec snapFilter ≠ []) :
    ∃ after, (resolveChildren spec snapFilter).exec (answer .local) st =
      some (.error .attributeError, after) := by
  obtain ⟨after, hread, -, -⟩ := exec_readOrGone .local st spec
  refine ⟨after, (Prog.exec_bind hread).trans ?_⟩
  cases hinfo : st.graph.info .local spec with
  | none =>
      rw [Graph.info, Option.map_eq_none_iff] at hinfo
      simp [Graph.pinning, hinfo] at hpinned
  | some info =>
      have hscope := inScope_info hinfo snapFilter
      cases hlist : st.graph.pinning spec snapFilter with
      | nil => exact absurd hlist hpinned
      | cons child rest =>
          rw [hlist, List.map_cons] at hscope
          simp only [hscope]
          rfl

/-- With librbd, a job whose object has clones ends with an `AttributeError`. -/
theorem exec_run_local {pool ns : String} {job : Job}
    (hpinned : st.graph.jobScope pool ns job ≠ []) :
    ∃ after, (run pool ns job).exec (answer .local) st = some (.error .attributeError, after) := by
  unfold Graph.jobScope at hpinned
  unfold run
  split
  next hkind =>
      rw [if_pos hkind] at hpinned
      cases hsnap : job.snap with
      | none => simp [hsnap] at hpinned
      | some snap =>
          rw [hsnap] at hpinned
          obtain ⟨after, hresolve⟩ := exec_resolveChildren_local hpinned
          exact ⟨after, Prog.exec_bind_error hresolve⟩
  next hkind =>
      rw [if_neg hkind] at hpinned
      split
      next himage =>
          rw [if_pos himage] at hpinned
          obtain ⟨after, hresolve⟩ := exec_resolveChildren_local hpinned
          exact ⟨after, Prog.exec_bind_error hresolve⟩
      next himage => simp [himage] at hpinned

/-- With the dashboard, no job ends with an `AttributeError`. -/
theorem exec_run_rest {pool ns : String} {job : Job} {g : Graph} {after : State} :
    (run pool ns job).exec (answer .rest)
    { graph := g } ≠ some (.error .attributeError, after) := by
  intro hexec
  have hsafe := @safe_run pool ns job g { graph := g } rfl ⟨rfl, .refl⟩
  have hend := hsafe.exec (fun s c reply next hanswer => handle_of_answer hanswer) hexec
  exact (hend.2 _ rfl).1 rfl

/-- Where no clone pins the object, `run` ends alike with both backends. -/
theorem ending_run {pool ns : String} {job : Job} {g : Graph}
    (hfree : g.jobScope pool ns job = []) :
    ending ((run pool ns job).exec (answer .rest) { graph := g }) =
      ending ((run pool ns job).exec (answer .local) { graph := g }) := by
  unfold Graph.jobScope at hfree
  unfold run
  dsimp only
  split
  next hkind =>
      rw [if_pos hkind] at hfree
      cases hsnap : job.snap with
      | none => rfl
      | some snap =>
          rw [hsnap] at hfree
          exact ending_runSnap rfl hfree
  next hkind =>
      rw [if_neg hkind] at hfree
      split
      next himage =>
          rw [if_pos himage] at hfree
          exact ending_runImage rfl hfree
      next => rfl

end Run

/-- The two backends are interchangeable for `destroy` of any volume and for the worker's `run` of a
job exactly if no snapshot of the job's object has a clone. -/
theorem backends_agree_iff (sr : Sr) (job : Job) (g : Graph) :
    ((∀ oracle dbg key jobs,
        (destroy dbg key).exec (opAnswer .rest sr oracle) { graph := g, jobs := jobs } =
          (destroy dbg key).exec (opAnswer .local sr oracle) { graph := g, jobs := jobs }) ∧
      ending ((run sr.pool sr.ns job).exec (answer .rest) { graph := g }) =
        ending ((run sr.pool sr.ns job).exec (answer .local) { graph := g })) ↔
      g.jobScope sr.pool sr.ns job = [] := by
  constructor
  · rintro ⟨-, hsame⟩
    by_contra hpinned
    obtain ⟨after, hlocal⟩ := @exec_run_local { graph := g } sr.pool sr.ns job hpinned
    rw [hlocal] at hsame
    obtain ⟨⟨outcome, final⟩, hrest, hpair⟩ := Option.map_eq_some_iff.mp hsame
    simp only [Prod.mk.injEq] at hpair
    obtain ⟨rfl, -⟩ := hpair
    exact exec_run_rest hrest
  · intro hfree
    exact ⟨fun oracle dbg key jobs => destroy_same sr oracle dbg key _, ending_run hfree⟩

/-- A trashed snapshot with one clone. -/
def pinnedSnapshot : Graph where
  images := (AList.insert (⟨"rbd", "", "base"⟩ : Spec)
      { id := 0, size := 1, snapshots := [
        { id := 1, name := "xcp-trash-1", size := 1, isProtected := true, content := fun _ => 0 }] }
      ∅).insert ⟨"rbd", "", "clone"⟩ { id := 2, size := 1, parent := some ⟨0, 1⟩ }
  nextId := 3

/-- The worker frees and removes it with the dashboard, and does nothing with librbd. -/
theorem backends_differ :
    ¬∀ (sr : Sr) (job : Job) (g : Graph),
      ending ((run sr.pool sr.ns job).exec (answer .rest) { graph := g }) =
        ending ((run sr.pool sr.ns job).exec (answer .local) { graph := g }) := by
  intro hall
  have hsame := hall ⟨"rbd", ""⟩ { kind := "snap", image := "base", snap := some "xcp-trash-1" }
    pinnedSnapshot
  have hoks := congrArg (fun e => e.map fun r => r.1.isOk) hsame
  revert hoks
  decide +kernel

end XcpCephRbd.Gc
