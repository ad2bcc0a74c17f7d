import XcpCephRbd.Gc.System

/-!
# A destroy that returns

`Volume.destroy` and `CephRBDVDI.delete` take a not-found error of any of their calls for the object
being gone. For a snapshot that is right. For a base image the removal of a snapshot that it listed
may be answered not-found as well, where a worker has removed the snapshot meanwhile, and then the
operation returns with the image still there (`destroy_keeps_image`). `destroyed_gone` says that
this is the only way: in every run in which the snapshots that are to be removed are still there, an
operation that returns leaves no object of that name.
-/

namespace XcpCephRbd.Gc

open Volume (BackendError Job)
open Datapath (splitKey)
open Prog (AllCalls Safe Setting Stable)

/-- What is to be removed: an image or a snapshot of one. -/
inductive Victim where
  | base (image : String)
  | snapshot (image snap : String)
  deriving DecidableEq, Repr

/-- It does not exist under its name. -/
def Victim.Gone (sr : Sr) (g : Graph) : Victim → Prop
  | .base image => sr.spec image ∉ g.images
  | .snapshot image snap => g.NoSnap (sr.spec image) snap

/-- The image or the snapshot that a key names. -/
def victimOf (key : String) : Victim :=
  match splitKey key with
  | (base, some snap) => if snap = "" then .base base else .snapshot base snap
  | (base, none) => .base base

/-- The operations that remove a volume, of the two drivers. -/
inductive Removal where
  | destroy (dbg key : String)
  | delete (image : String) (snap : Option String)

/-- The operation. -/
def Removal.program : Removal → Op Unit
  | .destroy dbg key => Gc.destroy dbg key
  | .delete image snap => Gc.delete image snap

/-- What it is to remove. -/
def Removal.victim : Removal → Victim
  | .destroy _ key => victimOf key
  | .delete image (some snap) => .snapshot image snap
  | .delete image none => .base image

/-- The answer is a not-found error. -/
def OpChoice.notFound : OpChoice → Bool
  | .fail (.backend error) => error.notFound
  | _ => false

/-- A not-found error is reported only for an object that does not exist. -/
def OpTruthful (sr : Sr) (choice : OpChoice) (w : Cluster) (c : OpCall) : Prop :=
  choice.notFound = true → opFound sr w c = false

/-- The snapshot that a call removes. -/
def snapToRemove : OpCall → Option (String × String)
  | .call (.snapRemove base snap) => some (base, snap)
  | _ => none

/-- The image that is to be removed. -/
def Victim.wholeImage : Victim → Option String
  | .base image => some image
  | .snapshot _ _ => none

/-- A snapshot that is removed on the way to the removal of an image is still there, or the image is
gone. -/
def Undisturbed (sr : Sr) (victim : Victim) (w : Cluster) (c : OpCall) : Prop :=
  ∀ image ∈ victim.wholeImage, ∀ target ∈ snapToRemove c, sr.spec image ∈ w.graph.images →
    w.graph.found (.snapRemove (sr.spec target.1) target.2) = true

/-- What a worker does to the cluster. -/
def WorkerMove (w w' : Cluster) : Prop :=
  ∃ r graph, r.byWorker = true ∧ w.graph.apply r = some graph ∧ w' = { w with graph := graph }

/-- The operation among workers. -/
def removing (shape : Shape) (sr : Sr) (victim : Victim) :
    Setting Volume.Exc OpCall OpCall.Result Cluster OpChoice where
  handle := opHandle shape sr
  allowed choice w c := OpTruthful sr choice w c ∧ Undisturbed sr victim w c
  rely := WorkerMove
  asserted := fun _ _ => True

section Gone

variable {shape : Shape} {sr : Sr} {victim : Victim}

/-- A request that names nothing brings nothing back. -/
theorem Victim.gone_apply {g g' : Graph} {r : Req} (hnaming : r.naming = false)
    (h : g.apply r = some g') (hgone : victim.Gone sr g) : victim.Gone sr g' := by
  cases victim with
  | base image => exact apply_absent hnaming h hgone
  | snapshot image snap => exact apply_noSnap hnaming h hgone

/-- Workers bring nothing back. -/
theorem Victim.gone_stable : Stable WorkerMove fun w => victim.Gone sr w.graph := by
  intro w w' hgone hmove
  obtain ⟨r, graph, hby, happly, rfl⟩ := hmove
  exact Victim.gone_apply (naming_of_byWorker hby) happly hgone

/-- A not-found error that an operation raises says that the object is gone. -/
def Says (sr : Sr) (victim : Victim) (error : Volume.Exc) (w : Cluster) : Prop :=
  ∀ e, error = .backend e → e.notFound = true → victim.Gone sr w.graph

/-- One call: what its request leaves, and what a not-found error of it says. -/
theorem safe_step {c : OpCall} {w : Cluster} {post : c.Result → Cluster → Prop}
    (hok : ∀ w choice result after, opHandle shape sr choice w c = some (.ok result, after) →
      post result after)
    (hgone : ∀ w, opFound sr w c = false → Undisturbed sr victim w c → victim.Gone sr w.graph) :
    Safe (removing shape sr victim) post (Says sr victim) (perform c) w := by
  intro before _
  refine ⟨trivial, fun choice reply after hallowed hhandle => ?_⟩
  cases reply with
  | ok result => exact hok before choice result after hhandle
  | error error =>
      intro e he hnotFound
      obtain ⟨rfl, rfl⟩ := opHandle_error hhandle
      exact hgone after (hallowed.1 (by rw [he]; exact hnotFound)) hallowed.2

/-- A call that is about no object is not answered not-found. -/
theorem safe_other {c : OpCall} {w : Cluster} (hfound : ∀ w, opFound sr w c = true) :
    Safe (removing shape sr victim) (fun _ _ => True) (Says sr victim) (perform c) w := by
  refine safe_step (fun _ _ _ _ _ => trivial) fun w hnot _ => ?_
  rw [hfound w] at hnot
  cases hnot

/-- One call of a plain operation. -/
theorem safe_plain {c : Volume.Call} {w : Cluster} {post : Volume.Result c → Cluster → Prop}
    (hok : ∀ w choice result after,
      opHandle shape sr choice w (.call c) = some (.ok result, after) → post result after)
    (hgone : ∀ w, opFound sr w (.call c) = false → Undisturbed sr victim w (.call c) →
      victim.Gone sr w.graph) :
    Safe (plain (removing shape sr victim)) post (Says sr victim) (Volume.perform c) w := by
  intro before _
  refine ⟨trivial, fun choice reply after hallowed hhandle => ?_⟩
  cases reply with
  | ok result => exact hok before choice result after hhandle
  | error error =>
      intro e he hnotFound
      obtain ⟨rfl, rfl⟩ := opHandle_error hhandle
      exact hgone after (hallowed.1 (by rw [he]; exact hnotFound)) hallowed.2

/-- A plain operation whose backend errors are swallowed. -/
theorem safe_swallow {α : Type} (p : Volume.Op α) (value : α) {w : Cluster} :
    Safe (plain (removing shape sr victim)) (fun _ _ => True) (Says sr victim)
      (Volume.exceptBackend p fun _ => pure value) w := by
  refine safe_except ((Prog.safe_of_unasserted (fun _ _ => trivial) p w).mono (fun _ _ h => h) ?_)
  intro error w _
  cases error with
  | backend error => trivial
  | unimplemented | calledProcess | other => exact nofun

/-- The calls that name nothing. -/
def Unnaming (sr : Sr) (c : OpCall) : Prop := ∀ r, reqOf sr c = some r → r.naming = false

/-- What names nothing leaves the object gone. -/
theorem safe_gone {α : Type} {p : Op α} {w : Cluster} (hp : AllCalls (Unnaming sr) p)
    (hgone : victim.Gone sr w.graph) :
    Safe (removing shape sr victim) (fun _ w => victim.Gone sr w.graph)
      (fun _ w => victim.Gone sr w.graph) p w := by
  refine Prog.safe_keep hp Victim.gone_stable (fun _ _ _ _ => trivial) ?_ hgone
  intro w choice c reply after hunnaming hgone _ hhandle
  obtain hsame | ⟨r, hreq, happly⟩ := opHandle_graph hhandle
  · rwa [hsame]
  · exact Victim.gone_apply (hunnaming r hreq) happly hgone

/-- What names nothing leaves the object gone, in a plain operation. -/
theorem safe_gonePlain {α : Type} {p : Volume.Op α} {w : Cluster}
    (hp : AllCalls (fun c => Unnaming sr (.call c)) p) (hgone : victim.Gone sr w.graph) :
    Safe (plain (removing shape sr victim)) (fun _ w => victim.Gone sr w.graph)
      (fun _ w => victim.Gone sr w.graph) p w := by
  refine Prog.safe_keep hp Victim.gone_stable (fun _ _ _ _ => trivial) ?_ hgone
  intro w choice c reply after hunnaming hgone _ hhandle
  obtain hsame | ⟨r, hreq, happly⟩ := opHandle_graph hhandle
  · rwa [hsame]
  · exact Victim.gone_apply (hunnaming r hreq) happly hgone

end Gone

section Snapshots

variable {shape : Shape} {sr : Sr} {w : Cluster}

/-- A snapshot that was renamed is gone. -/
theorem noSnap_of_renamed {g g' : Graph} {spec : Spec} {snap newSnap : String}
    (h : g.apply (.snapRename spec snap newSnap) = some g') : g'.NoSnap spec snap := by
  intro img' himg'
  obtain ⟨img, himg, hmap⟩ := Option.bind_eq_some_iff.mp h
  obtain ⟨edited, hedit, rfl⟩ := Option.map_eq_some_iff.mp hmap
  obtain ⟨hold, hnew, rfl⟩ := edit_snapRename hedit
  cases (AList.lookup_insert _).symm.trans himg'
  have hne : newSnap ≠ snap := by
    rintro rfl
    exact hold hnew
  simp only [Image.named, Image.mapSnap, List.filter_eq_nil_iff, List.mem_map,
    forall_exists_index, and_imp, beq_iff_eq]
  rintro s' s - rfl
  split
  · exact hne
  · assumption

/-- `_remove_snap` of the snapshot that is to go. -/
theorem safe_removeSnap (base snap : String) :
    Safe (plain (removing shape sr (.snapshot base snap)))
      (fun _ w => (Victim.snapshot base snap).Gone sr w.graph) (Says sr (.snapshot base snap))
      (Volume.removeSnap base snap) w := by
  refine Prog.safe_bind ((safe_swallow _ ()).mono (fun _ w _ => ?_) fun _ _ h => h)
  refine safe_plain (fun w choice result after hhandle => ?_) fun w hnot _ => ?_
  · exact noSnap_of_removed (opHandle_ok rfl hhandle)
  · exact noSnap_of_not_found hnot

/-- The release of a snapshot: where it returns the snapshot is gone, and where it raises not-found
too. -/
theorem safe_releaseSnap (base snap : String) :
    Safe (plain (removing shape sr (.snapshot base snap)))
      (fun _ w => (Victim.snapshot base snap).Gone sr w.graph) (Says sr (.snapshot base snap))
      (Volume.releaseSnap base snap) w := by
  refine Prog.safe_bind ((safe_swallow _ false).mono (fun children w _ => ?_) fun _ _ h => h)
  split
  · have huuid : ∀ w, opFound sr w (.call .uuid4) = true := fun _ => rfl
    refine Prog.safe_bind (safe_plain (fun w _ uuid _ _ => ?_) fun w hnot _ => ?_)
    · refine Prog.safe_bind (safe_plain (fun w choice _ after hhandle => ?_) fun w hnot _ => ?_)
      · have hgone : (Victim.snapshot base snap).Gone sr after.graph :=
          noSnap_of_renamed (opHandle_ok rfl hhandle)
        have hspawn : AllCalls (fun c => Unnaming sr (.call c)) (Volume.perform (.gcSpawn
            { kind := "snap", image := base, snap := some (Volume.trashPrefix ++ uuid) })) :=
          AllCalls.perform nofun
        exact (safe_gonePlain hspawn hgone).mono (fun _ _ h => h) fun _ _ h _ _ _ => h
      · exact noSnap_of_not_found hnot
    · rw [huuid w] at hnot
      cases hnot
  · exact safe_removeSnap base snap

/-- `destroy` of a snapshot: where it returns, the snapshot is gone. -/
theorem safe_destroySnap (base snap : String) :
    Safe (plain (removing shape sr (.snapshot base snap)))
      (fun _ w => (Victim.snapshot base snap).Gone sr w.graph) (fun _ _ => True)
      (Volume.destroySnap base snap) w := by
  have hquiet : ∀ {c : Volume.Call}, reqOf sr (.call c) = none → Unnaming sr (.call c) := by
    intro c hnone r hreq
    rw [hnone] at hreq
    cases hreq
  have hput : ∀ body, Unnaming sr (.call (.putImage base body)) := by
    intro body r hreq
    cases hreq
    rfl
  have hremove : ∀ image, Unnaming sr (.call (.remove image)) := by
    intro image r hreq
    cases hreq
    rfl
  have hpurge : AllCalls (fun c => Unnaming sr (.call c)) (Volume.purgeSnapMeta base snap) :=
    allCalls_except (allCalls_rmw _ (hquiet rfl) (hquiet rfl) hput) fun _ => trivial
  have hdrop : AllCalls (fun c => Unnaming sr (.call c)) (Volume.dropSealed base snap) :=
    allCalls_dropSealed snap (hquiet rfl) (hquiet rfl) hput (fun _ => hquiet rfl)
      fun _ => hremove _
  refine safe_except (Prog.safe_bind ((safe_releaseSnap base snap).mono (fun _ w hgone => ?_) ?_))
  · -- The object is gone; the rest only tidies up.
    refine (safe_gonePlain (AllCalls.bind hpurge fun _ => hdrop) hgone).mono (fun _ _ h => h) ?_
    intro error w hgone
    cases error with
    | backend error =>
        dsimp only
        split
        · exact hgone
        · trivial
    | unimplemented | calledProcess | other => trivial
  · intro error w hsays
    cases error with
    | backend error =>
        dsimp only
        split
        next hnotFound => exact hsays error rfl hnotFound
        next => trivial
    | unimplemented | calledProcess | other => trivial

end Snapshots

section Images

variable {shape : Shape} {sr : Sr} {w : Cluster}

/-- An image that was removed is gone. -/
theorem absent_of_removed {g g' : Graph} {spec : Spec} (h : g.apply (.remove spec) = some g') :
    spec ∉ g'.images := by
  obtain ⟨img, -, hif⟩ := Option.bind_eq_some_iff.mp h
  obtain ⟨-, hgraph⟩ := Option.ite_none_right_eq_some.mp hif
  cases hgraph
  simp [AList.mem_erase]

/-- An image that was renamed is gone. -/
theorem absent_of_renamed {g g' : Graph} {spec : Spec} {newName : String}
    (h : g.apply (.imageRename spec newName) = some g') : spec ∉ g'.images := by
  obtain ⟨img, himg, hif⟩ := Option.bind_eq_some_iff.mp h
  obtain ⟨hnew, hgraph⟩ := Option.ite_none_left_eq_some.mp hif
  cases hgraph
  rw [AList.mem_insert, not_or]
  constructor
  · intro hsame
    rw [← hsame] at hnew
    exact hnew (AList.lookup_isSome.mp (by rw [himg]; rfl))
  · simp [AList.mem_erase]

/-- The removal of an image. -/
theorem safe_remove (image : String) :
    Safe (removing shape sr (.base image)) (fun _ w => (Victim.base image).Gone sr w.graph)
      (Says sr (.base image)) (perform (.call (.remove image))) w := by
  refine safe_step (fun w choice result after hhandle => ?_) fun w hnot _ => ?_
  · exact absent_of_removed (opHandle_ok rfl hhandle)
  · exact of_decide_eq_false hnot

/-- The release of the host's holders raises nothing. -/
theorem safe_forceRelease {victim : Victim} (image : String) :
    Safe (removing shape sr victim) (fun _ _ => True) (Says sr victim) (forceRelease image) w := by
  refine Prog.safe_tryCatch ?_
  exact Prog.safe_of_unasserted (fun _ _ => trivial) _ w

/-- `_release_and_remove`: where it returns the image is gone, and where it is not found too. -/
theorem safe_releaseAndRemove (image : String) :
    Safe (removing shape sr (.base image)) (fun _ w => (Victim.base image).Gone sr w.graph)
      (Says sr (.base image)) (releaseAndRemove image) w := by
  refine Prog.safe_bind ((safe_forceRelease image).mono (fun _ w _ => ?_) fun _ _ h => h)
  refine safe_catchBackend ((safe_remove image).mono (fun _ _ h => h) fun error w hsays => ?_)
  cases error with
  | backend error =>
      dsimp only
      split
      next hnotFound => exact hsays error rfl hnotFound
      next =>
          refine Prog.safe_bind ((safe_forceRelease image).mono (fun _ w _ => ?_) fun _ _ h => h)
          exact safe_remove image
  | unimplemented | calledProcess | other => exact nofun

/-- The removal of the snapshots of a listing: as long as each is still there, a not-found error
says that the image is gone. -/
theorem safe_removeSnaps (image : String) (snaps : List String) :
    Safe (removing shape sr (.base image)) (fun _ _ => True) (Says sr (.base image))
      (removeSnaps image snaps) w := by
  induction snaps generalizing w with
  | nil => trivial
  | cons snap rest ih =>
      refine Prog.safe_bind (safe_lift (Prog.safe_bind ?_))
      refine (safe_swallow _ ()).mono (fun _ w _ => ?_) fun _ _ h => h
      refine safe_plain (fun w _ _ _ _ => ih) fun w hnot hundisturbed => ?_
      intro hthere
      have hfound := hundisturbed image rfl (image, snap) rfl hthere
      rw [show opFound sr w (.call (.snapRemove image snap)) =
        w.graph.found (.snapRemove (sr.spec image) snap) from rfl, hfound] at hnot
      cases hnot

/-- The renaming to a trash name: where it returns the image is gone. -/
theorem safe_trashImage (image : String) :
    Safe (removing shape sr (.base image)) (fun _ w => (Victim.base image).Gone sr w.graph)
      (Says sr (.base image)) (trashImage image) w := by
  refine Prog.safe_bind ((safe_other fun _ => rfl).mono (fun uuid w _ => ?_) fun _ _ h => h)
  refine Prog.safe_bind (safe_step (fun w choice _ after hhandle => ?_) fun w hnot _ => ?_)
  · have hgone : (Victim.base image).Gone sr after.graph :=
      absent_of_renamed (opHandle_ok rfl hhandle)
    have hspawn : AllCalls (Unnaming sr) (perform (.call (.gcSpawn
        { kind := "image", image := Volume.trashPrefix ++ uuid }))) := AllCalls.perform nofun
    exact (safe_gone hspawn hgone).mono (fun _ _ h => h) fun _ _ h _ _ _ => h
  · exact of_decide_eq_false hnot

/-- The image as the operations read it; only other errors are raised. -/
theorem safe_infoOrGone {victim : Victim} (image : String) :
    Safe (removing shape sr victim) (fun _ _ => True) (Says sr victim) (infoOrGone image) w := by
  refine safe_catchBackend ?_
  refine (Prog.safe_of_unasserted (fun _ _ => trivial) _ w).mono (fun _ _ h => h) ?_
  intro error w _
  cases error with
  | backend error =>
      dsimp only
      split
      · trivial
      next hother =>
          intro e he hnotFound
          cases he
          exact absurd hnotFound hother
  | unimplemented | calledProcess | other => exact nofun

/-- The removal of the companions raises nothing. -/
theorem safe_removeAllCompanions {victim : Victim} (base : String) (metadata : Volume.Dict) :
    Safe (plain (removing shape sr victim)) (fun _ _ => True) (Says sr victim)
      (Volume.Cbtlog.removeAllCompanions base metadata) w := by
  have hany : ∀ (p : Volume.Op Unit) (w : Cluster), Safe (plain (removing shape sr victim))
      (fun _ _ => True) (Says sr victim) (Volume.exceptAny p (pure ())) w :=
    fun p w => Prog.safe_tryCatch (Prog.safe_of_unasserted (fun _ _ => trivial) p w)
  unfold Volume.Cbtlog.removeAllCompanions
  induction metadata.entries.filter fun entry =>
      entry.1 == Volume.Cbtlog.kLive || Text.startsWith entry.1 Volume.Cbtlog.snapPrefix
    generalizing w with
  | nil => trivial
  | cons entry rest ih =>
      have hone : Safe (plain (removing shape sr victim)) (fun _ _ => True) (Says sr victim)
          (Volume.Cbtlog.removeCompanion base entry.2) w := by
        unfold Volume.Cbtlog.removeCompanion
        split
        · trivial
        · exact Prog.safe_bind ((hany _ w).mono (fun _ w _ => hany _ w) fun _ _ h => h)
      exact Prog.safe_bind (hone.mono (fun _ w _ => ih) fun _ _ h => h)

/-- `destroy` of a base, inside the outer handler. -/
theorem safe_destroyBase (sxm : Bool) (base : String) :
    Safe (removing shape sr (.base base)) (fun _ w => (Victim.base base).Gone sr w.graph)
      (Says sr (.base base)) (destroyBase sxm base) w := by
  refine Prog.safe_bind ((safe_infoOrGone base).mono (fun found w _ => ?_) fun _ _ h => h)
  cases found with
  | none => exact safe_releaseAndRemove base
  | some info =>
      dsimp only
      split
      · exact nofun
      · have hdrop : Safe (removing shape sr (.base base)) (fun _ _ => True) (Says sr (.base base))
            (dropCompanions base info.metadata) w := by
          unfold dropCompanions
          split
          · exact safe_lift (safe_removeAllCompanions base info.metadata)
          · trivial
        refine Prog.safe_bind (hdrop.mono (fun _ w _ => ?_) fun _ _ h => h)
        unfold disposeBase
        split
        · exact safe_trashImage base
        · refine Prog.safe_bind ((safe_removeSnaps base _).mono (fun _ w _ => ?_) fun _ _ h => h)
          exact safe_releaseAndRemove base

/-- `CephRBDVDI.delete` of an image, inside the outer handler. -/
theorem safe_deleteImage (image : String) :
    Safe (removing shape sr (.base image)) (fun _ w => (Victim.base image).Gone sr w.graph)
      (Says sr (.base image)) (deleteImage image) w := by
  refine Prog.safe_bind ((safe_infoOrGone image).mono (fun found w _ => ?_) fun _ _ h => h)
  cases found with
  | none => exact safe_remove image
  | some info =>
      dsimp only
      split
      · exact nofun
      · split
        · exact safe_trashImage image
        · refine Prog.safe_bind ((safe_removeSnaps image _).mono (fun _ w _ => ?_) fun _ _ h => h)
          exact safe_remove image

end Images

section Runs

variable {shape : Shape} {sr : Sr}

/-- An operation whose not-found errors are taken for the object being gone. -/
theorem safe_outer {victim : Victim} {p : Op Unit} {w : Cluster} (prefixed : String → String)
    (h : Safe (removing shape sr victim) (fun _ w => victim.Gone sr w.graph) (Says sr victim) p w) :
    Safe (removing shape sr victim) (fun _ w => victim.Gone sr w.graph) (fun _ _ => True)
      (catchBackend p fun error => if error.notFound then pure ()
        else throw (.other (prefixed error.message))) w := by
  refine safe_catchBackend (h.mono (fun _ _ h => h) fun error w hsays => ?_)
  cases error with
  | backend error =>
      dsimp only
      split
      next hnotFound => exact hsays error rfl hnotFound
      next => trivial
  | unimplemented | calledProcess | other => trivial

/-- An operation that removes a volume: where it returns, the volume is gone. -/
theorem safe_removal (removal : Removal) (w : Cluster) :
    Safe (removing shape sr removal.victim) (fun _ w => removal.victim.Gone sr w.graph)
      (fun _ _ => True) removal.program w := by
  cases removal with
  | destroy dbg key =>
      simp only [Removal.program, Removal.victim, Gc.destroy, victimOf]
      cases splitKey key with
      | mk base snap =>
          cases snap with
          | none => exact safe_outer _ (safe_destroyBase _ base)
          | some snap =>
              dsimp only
              split
              · exact safe_outer _ (safe_destroyBase _ base)
              · exact safe_lift (safe_destroySnap base snap)
  | delete image snap =>
      cases snap with
      | none => exact safe_outer _ (safe_deleteImage image)
      | some snap => exact safe_outer _ (safe_lift (safe_releaseSnap image snap))

/-- What is assumed of a step: not-found errors are truthful, and the snapshots that the operation
is to remove on its way are still there. Workers may be answered in any way. -/
def undisturbed (sr : Sr) (victim : Victim) (s : System) : Label → Prop
  | .op choice => ∀ c ∈ s.op.firstCall,
      OpTruthful sr choice s.cluster c ∧ Undisturbed sr victim s.cluster c
  | _ => True

/-- What holds in every state: what is left of the operation is safe, and the workers are
workers. -/
structure Removing (shape : Shape) (sr : Sr) (victim : Victim) (s : System) : Prop where
  safe : Safe (removing shape sr victim) (fun _ w => victim.Gone sr w.graph) (fun _ _ => True)
    s.op s.cluster
  workers : ∀ worker ∈ s.workers, AllCalls ByWorker worker

/-- Each step keeps it. -/
theorem Removing.step {victim : Victim} {s s' : System} {label : Label}
    (h : Removing shape sr victim s) (hguard : undisturbed sr victim s label)
    (hstep : systemStep shape sr s label = some s') : Removing shape sr victim s' := by
  cases label with
  | op choice =>
      obtain ⟨⟨op, cluster⟩, hnext, heq⟩ := Option.map_eq_some_iff.mp hstep
      cases heq
      exact ⟨h.safe.next hguard hnext, h.workers⟩
  | start pool ns job =>
      cases hstep
      refine ⟨h.safe, fun worker hworker => ?_⟩
      obtain rfl | hold := List.mem_cons.mp hworker
      · exact byWorker_main pool ns job
      · exact h.workers worker hold
  | worker index choice =>
      obtain ⟨worker, hworker, hmap⟩ := Option.bind_eq_some_iff.mp hstep
      obtain ⟨⟨worker', cluster⟩, hnext, heq⟩ := Option.map_eq_some_iff.mp hmap
      cases heq
      obtain ⟨c, resume, reply, rfl, hhandle, rfl⟩ := Prog.next_eq_some_iff.mp hnext
      have hcalls := h.workers _ (List.mem_of_getElem? hworker)
      constructor
      · obtain hsame | ⟨r, graph, rfl, happly, hcluster⟩ := workerHandle_cases hhandle
        · rw [show cluster = s.cluster from hsame]
          exact h.safe
        · exact h.safe.move ⟨r, graph, hcalls.1, happly, hcluster⟩
            (fun _ => Victim.gone_stable) fun _ _ _ _ _ => trivial
      · intro other hother
        obtain hold | rfl := List.mem_or_eq_of_mem_set hother
        · exact h.workers other hold
        · exact hcalls.2 reply

/-- The volume is in no listing of the SR. -/
def Victim.Unlisted (shape : Shape) (sr : Sr) (g : Graph) (victim : Victim) : Prop :=
  ∀ info ∈ g.listing shape sr, match victim with
    | .base image => info.name ≠ image
    | .snapshot image snap => info.name = image → ∀ s ∈ info.snapshots, s.name ≠ snap

/-- A volume that is gone is not listed. -/
theorem unlisted_of_gone {g : Graph} {victim : Victim} (h : victim.Gone sr g) :
    victim.Unlisted shape sr g := by
  intro info hinfo
  obtain ⟨⟨spec, img⟩, hentry, rfl⟩ := List.mem_map.mp hinfo
  obtain ⟨hmem, hours⟩ := List.mem_filter.mp hentry
  have hspec : spec = sr.spec spec.image := by
    simp only [Bool.and_eq_true, beq_iff_eq] at hours
    obtain ⟨pool, ns, image⟩ := spec
    obtain ⟨rfl, rfl⟩ := hours
    rfl
  have himg : g.images.lookup spec = some img := AList.mem_lookup_iff.mpr hmem
  cases victim with
  | base image =>
      rintro rfl
      exact h (hspec ▸ AList.lookup_isSome.mp (by rw [himg]; rfl))
  | snapshot image snap =>
      rintro rfl s hs hname
      obtain ⟨t, ht, rfl⟩ := List.mem_map.mp hs
      have hnone := h img (hspec ▸ himg)
      simp only [Image.named, List.filter_eq_nil_iff, beq_iff_eq] at hnone
      exact hnone t ht hname

/-- In every run of `destroy` or `delete` with any workers, any call failing, in which the snapshots
that the removal of an image comes to remove are still there: where the operation has returned, the
volume no longer exists under its name, and no listing shows it. -/
theorem destroyed_gone (shape : Shape) (sr : Sr) (removal : Removal) (cluster : Cluster)
    (labels : List Label) (final : System)
    (hrun : Run.run (systemStep shape sr) { op := removal.program, cluster := cluster } labels =
      some final)
    (hguard : Run.Along (systemStep shape sr) (undisturbed sr removal.victim)
      { op := removal.program, cluster := cluster } labels)
    (hreturned : final.op = .ret ()) :
    removal.victim.Gone sr final.cluster.graph ∧
      removal.victim.Unlisted shape sr final.cluster.graph := by
  have hinit : Removing shape sr removal.victim { op := removal.program, cluster := cluster } :=
    ⟨safe_removal removal cluster, fun _ h => by cases h⟩
  have hfinal : Removing shape sr removal.victim final :=
    Run.run_invariant (fun _ _ _ h hguard hstep => h.step hguard hstep) hinit hguard hrun
  have hsafe := hfinal.safe
  rw [hreturned] at hsafe
  exact ⟨hsafe, unlisted_of_gone hsafe⟩

end Runs

section Disk

instance (sr : Sr) (choice : OpChoice) (w : Cluster) (c : OpCall) :
    Decidable (OpTruthful sr choice w c) :=
  inferInstanceAs (Decidable (_ → _))

instance (sr : Sr) (victim : Victim) (w : Cluster) (c : OpCall) :
    Decidable (Undisturbed sr victim w c) :=
  inferInstanceAs (Decidable (∀ image ∈ victim.wholeImage, ∀ target ∈ snapToRemove c, _ → _))

instance (sr : Sr) (victim : Victim) (s : System) (label : Label) :
    Decidable (undisturbed sr victim s label) :=
  match label with
  | .op _ => inferInstanceAs (Decidable (∀ c ∈ s.op.firstCall, _ ∧ _))
  | .worker _ _ | .start _ _ _ => isTrue trivial

/-- Not-found errors are truthful in each step. -/
def truthful (sr : Sr) (s : System) : Label → Prop
  | .op choice => ∀ c ∈ s.op.firstCall, OpTruthful sr choice s.cluster c
  | _ => True

instance (sr : Sr) (s : System) (label : Label) : Decidable (truthful sr s label) :=
  match label with
  | .op _ => inferInstanceAs (Decidable (∀ c ∈ s.op.firstCall, _))
  | .worker _ _ | .start _ _ _ => isTrue trivial

/-- The operation has returned. -/
def returned : Op Unit → Bool
  | .ret _ => true
  | _ => false

/-- An operation that has returned is at its end. -/
theorem eq_ret_of_returned {p : Op Unit} (h : returned p = true) : p = .ret () := by
  cases p with
  | ret value => rfl
  | raise error => cases h
  | call c resume => cases h

/-- A disk with a snapshot that waits for the GC and has no clone any more. -/
def diskWithTrash : Cluster where
  graph :=
    { images := (AList.insert (⟨"rbd", "", "disk"⟩ : Spec)
        { id := 0, size := 1
          snapshots := [{ id := 1, name := "xcp-trash-1", size := 1, content := fun _ => 0 }] } ∅)
      nextId := 2 }

/-- The error that Ceph gives to what it refuses. -/
def refusal : BackendError := { message := "refused" }

/-- The error that Ceph gives about what does not exist. -/
def missing : BackendError := { message := "not found", notFound := true }

/-- `destroy` of the disk alone: it unprotects in vain, removes the snapshot and then the image. -/
def aloneLabels : List Label :=
  [.op .ok, .op (.fail (.backend refusal)), .op .ok, .op (.flag false), .op .ok]

/-- `destroy` of the disk with a worker on the snapshot, which removes it after `destroy` has listed
it. -/
def racedLabels : List Label :=
  [.start "rbd" "" { kind := "snap", image := "disk", snap := some "xcp-trash-1" },
    .op .ok, .worker 0 .ok, .worker 0 (.fail refusal), .worker 0 .ok,
    .op (.fail (.backend missing)), .op (.fail (.backend missing))]

/-- A destroy that returns in the way that it should. -/
theorem destroyed_gone_disk :
    ∃ final, Run.run (systemStep .rest ⟨"rbd", ""⟩)
        { op := (Removal.destroy "" "disk").program, cluster := diskWithTrash } aloneLabels =
        some final ∧ final.op = .ret () ∧
      (Removal.destroy "" "disk").victim.Gone ⟨"rbd", ""⟩ final.cluster.graph := by
  have hchecked : ((Run.checked (systemStep .rest ⟨"rbd", ""⟩)
      (undisturbed ⟨"rbd", ""⟩ (Removal.destroy "" "disk").victim)
      { op := (Removal.destroy "" "disk").program, cluster := diskWithTrash } aloneLabels).any
        fun s => returned s.op) = true := by
    decide +kernel
  obtain ⟨final, hrun, hguard, hreturned⟩ := Run.exists_of_checked hchecked
  have hret := eq_ret_of_returned hreturned
  exact ⟨final, hrun, hret, (destroyed_gone _ _ _ _ _ final hrun hguard hret).1⟩

/-- With truthful not-found errors alone a destroy may return and leave the image. -/
theorem destroy_keeps_image :
    ¬∀ (sr : Sr) (removal : Removal) (cluster : Cluster) (labels : List Label) (final : System),
      Run.run (systemStep .rest sr) { op := removal.program, cluster := cluster } labels =
      some final → Run.Along (systemStep .rest sr) (truthful sr)
        { op := removal.program, cluster := cluster } labels →
      final.op = .ret () → removal.victim.Gone sr final.cluster.graph := by
  intro hall
  have hchecked : ((Run.checked (systemStep .rest ⟨"rbd", ""⟩) (truthful ⟨"rbd", ""⟩)
      { op := (Removal.destroy "" "disk").program, cluster := diskWithTrash } racedLabels).any
        fun s => returned s.op && decide ((⟨"rbd", "", "disk"⟩ : Spec) ∈ s.cluster.graph.images)) =
      true := by
    decide +kernel
  obtain ⟨final, hrun, hguard, hfinal⟩ := Run.exists_of_checked hchecked
  rw [Bool.and_eq_true, decide_eq_true_eq] at hfinal
  exact hall _ (.destroy "" "disk") _ _ final hrun hguard (eq_ret_of_returned hfinal.1) hfinal.2

end Disk

end XcpCephRbd.Gc
