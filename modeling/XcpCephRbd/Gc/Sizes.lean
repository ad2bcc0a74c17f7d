import XcpCephRbd.Gc.Spares
import XcpCephRbd.Gc.System
import XcpCephRbd.Gc.Undo
import XcpCephRbd.Volume.Listing
import XcpCephRbd.Volume.Walk

/-!
# Reported sizes

The size in the records that `Volume.create`, `snapshot`, `clone`, `revert`, `stat` and `SR.ls`
return, against the size that the cluster holds for the volume that the record names, along
histories in which Ceph grants what it can. `reported_sizes_iff` says when all of them are the real
ones: `clone` reports the size of the base also for the clone of a snapshot, and `SR.ls` takes a
snapshot of size 0 for one of unknown size.
-/

namespace XcpCephRbd.Gc

open Fault Prog
open Volume (BackendError Info SnapInfo VolumeDict snapKey uuidMatch)
open Datapath (SrMeta splitKey)

/-! ## The sizes that the cluster holds -/

/-- The size of an image, and its snapshots with theirs. -/
def sizesOf (img : Image) : Nat × List (String × Nat) :=
  (img.size, img.snapshots.map fun s => (s.name, s.size))

/-- The sizes under a name. -/
def Graph.sizesAt (g : Graph) (spec : Spec) : Option (Nat × List (String × Nat)) :=
  (g.images.lookup spec).map sizesOf

/-- The size of the volume of a key. -/
def Graph.held (g : Graph) (sr : Sr) (key : String) : Option Nat :=
  match splitKey key with
  | (base, none) => (g.sizesAt (sr.spec base)).map Prod.fst
  | (base, some snap) =>
      if snap = "" then (g.sizesAt (sr.spec base)).map Prod.fst
      else (g.sizesAt (sr.spec base)).bind fun sizes => sizes.2.lookup snap

/-- Every image has one snapshot of a name. -/
def Graph.Unique (g : Graph) : Prop :=
  ∀ spec img, g.images.lookup spec = some img → (img.snapshots.map Snap.name).Nodup

section Sizes

variable {g g' : Graph} {sr : Sr} {img : Image} {spec : Spec} {base snap : String}

/-- Every request that Ceph grants keeps the names of snapshots unique. -/
theorem Change.unique {r : Req} (h : Change g r g') (hg : g.Unique) : g'.Unique := by
  have hinsert : ∀ {images : AList fun _ : Spec => Image} {spec : Spec} {img : Image},
      (∀ other oimg, images.lookup other = some oimg → (oimg.snapshots.map Snap.name).Nodup) →
      (img.snapshots.map Snap.name).Nodup → ∀ other oimg,
        (images.insert spec img).lookup other = some oimg →
          (oimg.snapshots.map Snap.name).Nodup := by
    intro images spec img himages himg other oimg hoimg
    by_cases hother : other = spec
    · subst hother
      cases (AList.lookup_insert _).symm.trans hoimg
      exact himg
    · rw [AList.lookup_insert_ne hother] at hoimg
      exact himages other oimg hoimg
  have herase : ∀ spec other oimg, (g.images.erase spec).lookup other = some oimg →
      (oimg.snapshots.map Snap.name).Nodup := by
    intro spec other oimg hoimg
    by_cases hother : other = spec
    · subst hother
      rw [AList.lookup_erase] at hoimg
      cases hoimg
    · rw [AList.lookup_erase_ne hother] at hoimg
      exact hg other oimg hoimg
  cases h with
  | edit himg hedit => exact hinsert hg (edit_unique hedit (hg _ _ himg))
  | create hnew => exact hinsert hg List.nodup_nil
  | remove himg hempty => exact herase _
  | rename himg hnew => exact hinsert (herase _) (hg _ _ himg)
  | clone himg hs hnew hprotected => exact hinsert hg List.nodup_nil

theorem sizesAt_of_lookup (himg : g.images.lookup spec = some img) :
    g.sizesAt spec = some (sizesOf img) := by
  rw [Graph.sizesAt, himg]
  rfl

/-- The first snapshot of a name. -/
theorem lookup_sizes (img : Image) (snap : String) :
    (sizesOf img).2.lookup snap = (img.named snap).head?.map Snap.size := by
  simp only [sizesOf, Image.named]
  induction img.snapshots with
  | nil => rfl
  | cons s rest ih =>
      rw [List.map_cons, List.lookup_cons, List.filter_cons]
      by_cases hname : s.name = snap
      · subst hname
        simp
      · have hbeq : (snap == s.name) = false := by simpa using Ne.symm hname
        simp only [hbeq, beq_iff_eq, hname, if_false]
        exact ih

/-- A change of the snapshots of a name that leaves their names and sizes. -/
theorem sizesOf_mapSnap {f : Snap → Snap} (hname : ∀ s, (f s).name = s.name)
    (hsize : ∀ s, (f s).size = s.size) : sizesOf (img.mapSnap snap f) = sizesOf img := by
  have hsnaps : ∀ snaps : List Snap, (snaps.map fun s => if s.name == snap then f s else s).map
      (fun s => (s.name, s.size)) = snaps.map fun s => (s.name, s.size) := by
    intro snaps
    rw [List.map_map]
    refine List.map_congr_left fun s _ => ?_
    dsimp only [Function.comp_apply]
    split
    · rw [hname, hsize]
    · rfl
  exact Prod.ext rfl (hsnaps img.snapshots)

/-- The size of a base. -/
theorem held_base (hat : '@' ∉ base.toList) :
    g.held sr base = (g.sizesAt (sr.spec base)).map Prod.fst := by
  rw [Graph.held, Datapath.splitKey_base hat]

/-- The size of a snapshot. -/
theorem held_snap (hat : '@' ∉ base.toList) (hsnap : snap ≠ "") :
    g.held sr (snapKey base snap) =
      (g.sizesAt (sr.spec base)).bind fun sizes => sizes.2.lookup snap := by
  rw [Graph.held, snapKey, Datapath.splitKey_at hat]
  exact if_neg hsnap

/-- The base of a key has no `@`. -/
theorem at_not_mem_base (key : String) : '@' ∉ (splitKey key).1.toList := by
  rw [splitKey, List.span_eq_takeWhile_dropWhile]
  cases hrest : key.toList.dropWhile (· != '@') with
  | nil =>
      rw [List.dropWhile_eq_nil_iff] at hrest
      intro hat
      simpa using hrest '@' hat
  | cons c rest =>
      have hc := List.head?_dropWhile_not (fun c : Char => c != '@') key.toList
      rw [hrest] at hc
      obtain rfl : c = '@' := by simpa using hc
      show '@' ∉ (String.ofList (key.toList.takeWhile (· != '@'))).toList
      rw [String.toList_ofList]
      intro hat
      have hbefore := List.mem_takeWhile_imp hat
      simp at hbefore

end Sizes

/-! ## The calls -/

section Calls

variable {shape : Shape} {sr : Sr} {host : Nat → Cluster → OpCall → OpChoice}
  {error : Volume.Exc} {n : Nat} {s s' : Armed Cluster} {c : OpCall}

/-- A call that returned was answered by the system. -/
theorem of_perform_ok {result : c.Result}
    (h : (perform c).exec (faulty shape sr host error n) s = some (.ok result, s')) :
    granted shape sr host s.time s.state c = some (.ok result, s'.state) := by
  have hreply := of_exec_perform h
  unfold faulty strike at hreply
  split at hreply
  · cases hreply
  · obtain ⟨⟨reply, after⟩, hanswer, heq⟩ := Option.map_eq_some_iff.mp hreply
    cases heq
    exact hanswer

/-- A call of the backend that returned had its effect. -/
theorem of_backend_ok {result : c.Result}
    (h : (perform c).exec (faulty shape sr host error n) s = some (.ok result, s'))
    (hc : isBackend c = true) : opEffect shape sr s.state c = some (result, s'.state) := by
  have hanswer := of_perform_ok h
  rw [granted, opAnswer, if_pos hc, opHandle_granted] at hanswer
  cases heffect : opEffect shape sr s.state c with
  | some pair =>
      obtain ⟨found, after⟩ := pair
      rw [heffect] at hanswer
      obtain ⟨hfound, hafter⟩ := Prod.mk.inj (Option.some.inj hanswer)
      cases hfound
      rw [← hafter]
  | none =>
      rw [heffect] at hanswer
      cases hanswer

/-- A request that returned was granted. -/
theorem of_request_ok {r : Req} {result : c.Result}
    (h : (perform c).exec (faulty shape sr host error n) s = some (.ok result, s'))
    (hc : isBackend c = true) (hreq : reqOf sr c = some r) :
    s.state.graph.apply r = some s'.state.graph := by
  rcases opEffect_graph (of_backend_ok h hc) with ⟨r', hreq', happly⟩ | ⟨hnone, -⟩
  · cases hreq.symm.trans hreq'
    exact happly
  · cases hreq.symm.trans hnone

/-- A report that returned is one of an image that exists. -/
theorem of_info_ok {image : String} {info : Info}
    (h : (opInfo image).exec (faulty shape sr host error n) s = some (.ok info, s')) :
    ∃ img, s.state.graph.images.lookup (sr.spec image) = some img ∧
      info = s.state.graph.volumeInfo shape image img ∧ s'.state = s.state := by
  obtain ⟨img, himg, heq⟩ := Option.map_eq_some_iff.mp (of_backend_ok h rfl)
  obtain ⟨hinfo, hstate⟩ := Prod.mk.inj heq
  exact ⟨img, himg, hinfo.symm, hstate.symm⟩

/-- A new UUID is one, and leaves the cluster as it is. -/
theorem of_uuid_ok {uuid : String}
    (h : uuid4.exec (faulty shape sr host error n) s = some (.ok uuid, s')) :
    Volume.isUuid uuid.toList = true ∧ s'.state = s.state := by
  have hanswer := of_perform_ok h
  rw [granted, opAnswer, if_neg (by decide)] at hanswer
  cases hchoice : host s.time s.state (.call .uuid4) with
  | fresh text =>
      rw [hchoice] at hanswer
      by_cases htext : Volume.isUuid text.toList = true
      · simp only [opHandle, htext, if_true] at hanswer
        obtain ⟨huuid, hstate⟩ := Prod.mk.inj (Option.some.inj hanswer)
        cases huuid
        exact ⟨htext, hstate.symm⟩
      · simp only [opHandle, htext, Bool.false_eq_true, if_false] at hanswer
        cases hanswer
  | _ =>
      rw [hchoice] at hanswer
      cases hanswer

/-- What a call does to the images is a request that was granted. -/
theorem granted_graph {time : Nat} {w after : Cluster} {reply : Except Volume.Exc c.Result}
    (h : granted shape sr host time w c = some (reply, after)) :
    after.graph = w.graph ∨ ∃ r, reqOf sr c = some r ∧ w.graph.apply r = some after.graph := by
  unfold granted opAnswer at h
  split at h
  next answered hanswered =>
      cases h
      exact opHandle_graph hanswered
  next =>
      cases h
      exact .inl rfl

/-- Every run keeps the names of snapshots unique. -/
theorem exec_unique {α : Type} {p : Op α} {out : Except Volume.Exc α}
    (h : p.exec (faulty shape sr host error n) s = some (out, s')) (hs : s.state.graph.Unique) :
    s'.state.graph.Unique := by
  have hall : ∀ {p : Op α}, p.AllCalls fun c => ∀ time state reply after,
      state.graph.Unique → granted shape sr host time state c = some (reply, after) →
        after.graph.Unique := by
    intro p
    induction p with
    | ret value => trivial
    | raise error => trivial
    | call c resume ih =>
        refine ⟨fun time state reply after hstate hanswer => ?_, ih⟩
        rcases granted_graph hanswer with hsame | ⟨r, -, happly⟩
        · rwa [hsame]
        · exact (change_of_apply happly).unique hstate
  exact exec_strike_invariant (I := fun w : Cluster => w.graph.Unique) hall h hs

end Calls

/-! ## Programs that keep the sizes under a name -/

section Keeping

variable (shape : Shape) (sr : Sr) (host : Nat → Cluster → OpCall → OpChoice)
  (error : Volume.Exc) (n : Nat) (spec : Spec) (sizes : Nat × List (String × Nat))

/-- The program leaves the sizes under the name. -/
def Keeping {α : Type} (p : Op α) : Prop :=
  ∀ s s' out, p.exec (faulty shape sr host error n) s = some (out, s') →
    s.state.graph.sizesAt spec = some sizes → s'.state.graph.sizesAt spec = some sizes

/-- The call leaves them. -/
def KeepingCall (c : OpCall) : Prop :=
  ∀ time (w : Cluster) reply after, w.graph.sizesAt spec = some sizes →
    granted shape sr host time w c = some (reply, after) → after.graph.sizesAt spec = some sizes

variable {shape sr host error n spec sizes} {α β : Type}

theorem keeping_of_calls {p : Op α} (hp : p.AllCalls (KeepingCall shape sr host spec sizes)) :
    Keeping shape sr host error n spec sizes p := by
  intro s s' out h hs
  exact exec_strike_invariant (I := fun w : Cluster => w.graph.sizesAt spec = some sizes) hp h hs

theorem Keeping.bind {p : Op α} {f : α → Op β} (hp : Keeping shape sr host error n spec sizes p)
    (hf : ∀ value, Keeping shape sr host error n spec sizes (f value)) :
    Keeping shape sr host error n spec sizes (p >>= f) := by
  intro s s' out h hs
  rcases of_exec_bind h with ⟨value, between, hfirst, hrest⟩ | ⟨e, hfirst, -⟩
  · exact hf value _ _ _ hrest (hp _ _ _ hfirst hs)
  · exact hp _ _ _ hfirst hs

theorem Keeping.tryCatch {p : Op α} {handler : Volume.Exc → Op α}
    (hp : Keeping shape sr host error n spec sizes p)
    (hhandler : ∀ e, Keeping shape sr host error n spec sizes (handler e)) :
    Keeping shape sr host error n spec sizes (MonadExcept.tryCatch p handler) := by
  intro s s' out h hs
  rcases of_exec_tryCatch h with ⟨value, hfirst, -⟩ | ⟨e, between, hfirst, hrest⟩
  · exact hp _ _ _ hfirst hs
  · exact hhandler e _ _ _ hrest (hp _ _ _ hfirst hs)

/-- A call that asks Ceph for nothing. -/
theorem keepingCall_quiet {c : OpCall} (hreq : reqOf sr c = none) :
    KeepingCall shape sr host spec sizes c := by
  intro time w reply after hw hanswer
  rcases granted_graph hanswer with hsame | ⟨r, hreq', -⟩
  · rwa [hsame]
  · cases hreq.symm.trans hreq'

/-- A new image has another name. -/
theorem keepingCall_create (image : String) (size : Nat) (features : List String) :
    KeepingCall shape sr host spec sizes (.call (.create image size features)) := by
  intro time w reply after hw hanswer
  rcases granted_graph hanswer with hsame | ⟨r, hreq, happly⟩
  · rwa [hsame]
  · obtain rfl : Req.create (sr.spec image) size features = r := Option.some.inj hreq
    generalize after.graph = g' at happly ⊢
    cases change_of_apply happly with
    | edit _ hedit => cases hedit
    | create hnew =>
        have hother : spec ≠ sr.spec image := by
          rintro rfl
          rw [Graph.sizesAt, AList.lookup_eq_none.mpr hnew] at hw
          cases hw
        rw [Graph.sizesAt, AList.lookup_insert_ne hother]
        exact hw

/-- A PUT with the size that the image has. -/
theorem keepingCall_put {image : String} {body : Volume.PutBody}
    (hsize : sr.spec image = spec → ∀ size, body.size = some size → size = sizes.1) :
    KeepingCall shape sr host spec sizes (.call (.putImage image body)) := by
  intro time w reply after hw hanswer
  rcases granted_graph hanswer with hsame | ⟨r, hreq, happly⟩
  · rwa [hsame]
  · obtain rfl : Req.put (sr.spec image) body = r := Option.some.inj hreq
    obtain ⟨img, himg, hmap⟩ := Option.bind_eq_some_iff.mp happly
    obtain ⟨img', hedit, hgraph⟩ := Option.map_eq_some_iff.mp hmap
    cases hedit
    rw [← hgraph, Graph.sizesAt]
    by_cases hother : spec = sr.spec image
    · subst hother
      obtain rfl : sizesOf img = sizes := Option.some.inj ((sizesAt_of_lookup himg).symm.trans hw)
      dsimp only [Req.spec]
      rw [AList.lookup_insert, Option.map_some, sizesOf, put_snapshots,
        (put_content (hsize rfl)).1]
      rfl
    · dsimp only [Req.spec]
      rw [AList.lookup_insert_ne hother]
      exact hw

/-- `image_meta_set` with the size that the image has. -/
theorem allCalls_imageMetaSet {image : String} {metadata : Volume.Desired} {size : Nat}
    (hsize : sr.spec image = spec → size = sizes.1) :
    Prog.AllCalls (fun c => KeepingCall shape sr host spec sizes (.call c))
      (Volume.RestBackend.imageMetaSet image metadata size) := by
  have hread : Prog.AllCalls (fun c => KeepingCall shape sr host spec sizes (.call c))
      (Info.metadata <$> Volume.perform (.metaRead image)) :=
    AllCalls.bind (AllCalls.perform (keepingCall_quiet rfl)) fun _ => trivial
  refine AllCalls.bind (AllCalls.tryCatch hread fun e => ?_) fun current => ?_
  · cases e <;> trivial
  · refine AllCalls.perform (keepingCall_put fun hspec size' hsize' => ?_)
    cases hsize'
    exact hsize hspec

theorem keeping_imageMetaSet {image : String} {metadata : Volume.Desired} {size : Nat}
    (hsize : sr.spec image = spec → size = sizes.1) :
    Keeping shape sr host error n spec sizes
      (lift (Volume.RestBackend.imageMetaSet image metadata size)) :=
  keeping_of_calls (allCalls_lift (allCalls_imageMetaSet hsize))

/-- `SR.ls`'s records of a listing that gives the sizes of the images. -/
theorem allCalls_lsImages (m : SrMeta) (targets : List Volume.Job) (infos : List Info)
    (hsizes : ∀ info ∈ infos, sr.spec info.name = spec → info.size = sizes.1) :
    Prog.AllCalls (fun c => KeepingCall shape sr host spec sizes (.call c))
      (Volume.lsImages m targets infos) := by
  have hspawn : ∀ job, KeepingCall shape sr host spec sizes (.call (.gcSpawn job)) :=
    fun job => keepingCall_quiet rfl
  induction infos generalizing targets with
  | nil => trivial
  | cons info infos ih =>
      have hrest := fun targets => ih targets fun info hinfo =>
        hsizes info (List.mem_cons_of_mem _ hinfo)
      unfold Volume.lsImages
      split
      · exact AllCalls.bind (Volume.allCalls_requeue hspawn _ _) fun _ => hrest _
      · split
        · have hprune : Prog.AllCalls (fun c => KeepingCall shape sr host spec sizes (.call c))
              (Volume.pruneOrphans info) := by
            unfold Volume.pruneOrphans
            dsimp only
            split
            · trivial
            · refine allCalls_except (AllCalls.bind (allCalls_imageMetaSet ?_) fun _ => trivial)
                fun _ => trivial
              exact hsizes info List.mem_cons_self
          refine AllCalls.bind hprune fun _ => AllCalls.bind ?_ fun _ => ?_
          · exact Volume.allCalls_lsSnapshots hspawn _ _ _ _ _
          · exact AllCalls.bind (hrest _) fun _ => trivial
        · exact hrest _

/-- A read-modify-write hands back the size that it read. -/
theorem keeping_rmw (base : String) (mutate : Volume.Desired → Volume.Desired) :
    Keeping shape sr host error n spec sizes (lift (Volume.rmw base mutate)) := by
  intro s s' out h hs
  rw [Volume.rmw, lift_bind, Volume.imageInfo, lift_perform] at h
  rcases of_exec_bind h with ⟨info, between, hread, hrest⟩ | ⟨e, hread, -⟩
  · obtain ⟨img, himg, rfl, hstate⟩ := of_info_ok hread
    refine keeping_imageMetaSet (fun hspec => ?_) _ _ _ hrest (hstate ▸ hs)
    rw [hspec] at himg
    exact congrArg Prod.fst (Option.some.inj ((sizesAt_of_lookup himg).symm.trans hs))
  · have hquiet : Keeping shape sr host error n spec sizes (opInfo base) :=
      keeping_of_calls (AllCalls.perform (keepingCall_quiet rfl))
    exact hquiet _ _ _ hread hs

theorem keeping_catchBackend {p : Op α} {handler : BackendError → Op α}
    (hp : Keeping shape sr host error n spec sizes p)
    (hhandler : ∀ b, Keeping shape sr host error n spec sizes (handler b)) :
    Keeping shape sr host error n spec sizes (catchBackend p handler) := by
  refine hp.tryCatch fun e => ?_
  cases e with
  | backend b => exact hhandler b
  | unimplemented | calledProcess | other => exact keeping_of_calls trivial

/-- `snapshot`'s metadata seed. -/
theorem keeping_seedNames (base snap : String) (metadata : Volume.Dict) :
    Keeping shape sr host error n spec sizes (lift (Volume.seedNames base snap metadata)) := by
  rw [Volume.seedNames]
  split
  · rw [lift_exceptBackend]
    exact keeping_catchBackend (keeping_rmw base _) fun _ => keeping_of_calls trivial
  · exact keeping_of_calls trivial

/-- `snapshot`'s rotation of the log. -/
theorem keeping_rotateLog (base snap : String) (metadata : Volume.Dict) (size : Nat) :
    Keeping shape sr host error n spec sizes
      (lift (Volume.rotateLog base snap metadata size)) := by
  rw [Volume.rotateLog]
  split
  · rw [Volume.exceptAny, lift_tryCatch, lift_bind]
    refine Keeping.tryCatch (Keeping.bind (keeping_of_calls (allCalls_lift ?_))
      fun _ => keeping_rmw base _) fun _ => keeping_of_calls trivial
    exact allCalls_rotate snap metadata size (fun _ hreq _ => keepingCall_quiet hreq)
      fun _ => keepingCall_create _ _ _
  · exact keeping_of_calls trivial

end Keeping

/-! ## Histories -/

/-- The operations that make volumes, change their size or report it. -/
inductive SizeOp where
  | create (features : List String) (name description : String) (size : Nat) (sharable : Bool)
  | resize (key : String) (newSize : Nat)
  | snapshot (key : String)
  | clone (features : List String) (key : String)
  | revert (snapshotKey : String)
  | stat (key : String)
  | ls

/-- The operation, with the records that it returns. -/
def SizeOp.records (m : SrMeta) : SizeOp → Op (List VolumeDict)
  | .create features name description size sharable => do
      let record ← Gc.create m features name description size sharable
      return [record]
  | .resize key newSize => do
      lift (Volume.resize key newSize)
      return []
  | .snapshot key => do
      let record ← lift (Volume.snapshot m key)
      return [record]
  | .clone features key => do
      let record ← Gc.clone m features key
      return [record]
  | .revert snapshotKey => do
      let record ← lift (Volume.revert m snapshotKey)
      return [record]
  | .stat key => do
      let record ← lift (Volume.stat m key)
      return [record]
  | .ls => lift (Volume.ls m)

/-- `stat` is asked for a volume that exists. -/
def SizeOp.Asked (sr : Sr) (g : Graph) : SizeOp → Prop
  | .stat key => (g.held sr key).isSome = true
  | _ => True

instance (sr : Sr) (g : Graph) (op : SizeOp) : Decidable (op.Asked sr g) := by
  cases op <;> unfold SizeOp.Asked <;> infer_instance

/-- An operation, with what the host answers to the calls that do not go to Ceph. -/
structure SizeLabel where
  op : SizeOp
  host : Nat → Cluster → OpCall → OpChoice

/-- The cluster, and the records of the last operation. -/
abbrev Reported := Cluster × List VolumeDict

/-- One operation in which no call of the backend is made to fail. -/
def sizeStep (shape : Shape) (sr : Sr) (m : SrMeta) (state : Reported) (label : SizeLabel) :
    Option Reported :=
  if label.op.Asked sr state.1.graph then
    match (label.op.records m).exec (faulty shape sr label.host (.backend { message := "" }) 0)
        { state := state.1, armed := false } with
    | some (.ok records, s) => some (s.state, records)
    | _ => none
  else none

/-- The records have the sizes that the cluster holds. -/
def Reported.Right (sr : Sr) (state : Reported) : Prop :=
  ∀ record ∈ state.2, state.1.graph.held sr record.key = some record.virtualSize

instance (sr : Sr) (state : Reported) : Decidable (state.Right sr) :=
  inferInstanceAs (Decidable (∀ record ∈ state.2, _))

/-- A snapshot that is cloned has the size of its base, and where the SR is listed a snapshot of
size 0 is one of a base of size 0. -/
def Fits (sr : Sr) (state : Reported) (label : SizeLabel) : Prop :=
  match label.op with
  | .clone _ key => ∀ snap sizes size, (splitKey key).2 = some snap →
      state.1.graph.sizesAt (sr.spec (splitKey key).1) = some sizes →
      sizes.2.lookup snap = some size → size = sizes.1
  | .ls => ∀ base sizes snap, uuidMatch base = true →
      state.1.graph.sizesAt (sr.spec base) = some sizes → uuidMatch snap = true →
      (snap, 0) ∈ sizes.2 → sizes.1 = 0
  | _ => True

section Operations

variable {shape : Shape} {sr : Sr} {m : SrMeta} {host : Nat → Cluster → OpCall → OpChoice}
  {error : Volume.Exc} {n : Nat} {s s' : Armed Cluster} {record : VolumeDict}

/-- Where a handler never returns, what it handles did. -/
theorem of_rethrown {α : Type} {p : Op α} {value : α} {handler : BackendError → Op α}
    (h : (catchBackend p handler).exec (faulty shape sr host error n) s = some (.ok value, s'))
    (hraises : ∀ b, Raises (handler b)) :
    p.exec (faulty shape sr host error n) s = some (.ok value, s') := by
  refine of_exec_tryCatch_raises (fun e => ?_) h
  cases e with
  | backend b => exact hraises b
  | unimplemented | calledProcess | other => trivial

/-- A UUID has no `@` and is not empty. -/
theorem at_not_mem_uuid {uuid : String} (h : Volume.isUuid uuid.toList = true) :
    '@' ∉ uuid.toList ∧ uuid ≠ "" := by
  constructor
  · intro hat
    rcases Volume.mem_of_isUuid h hat with hhex | hdash
    · exact absurd hhex (by decide)
    · exact absurd hdash (by decide)
  · rintro rfl
    exact absurd h (by decide)

/-- `create` reports the size that it was asked for. -/
theorem create_right {features : List String} {name description : String} {size : Nat}
    {sharable : Bool}
    (h : (create m features name description size sharable).exec
      (faulty shape sr host error n) s = some (.ok record, s')) :
    s'.state.graph.held sr record.key = some record.virtualSize := by
  obtain ⟨uuid, s₁, huuid, h⟩ := of_exec_bind_ok h
  obtain ⟨_, s₂, hcreate, h⟩ := of_exec_bind_ok h
  obtain ⟨hvalid, hstate⟩ := of_uuid_ok huuid
  have happly := of_request_ok (of_rethrown hcreate fun _ => trivial) rfl rfl
  have hmade : s₂.state.graph.sizesAt (sr.spec uuid) = some (size, []) := by
    simp only [Graph.apply, Option.ite_none_left_eq_some, Option.some.injEq] at happly
    rw [← happly.2, Graph.sizesAt, AList.lookup_insert]
    rfl
  have hdone : record.key = uuid ∧ record.virtualSize = size ∧
      s'.state.graph.sizesAt (sr.spec uuid) = some (size, []) := by
    dsimp only at h
    split at h
    · cases h
      exact ⟨rfl, rfl, hmade⟩
    · obtain ⟨_, s₃, hmeta, hret⟩ := of_exec_bind_ok h
      cases hret
      refine ⟨rfl, rfl, (keeping_catchBackend ?_ fun b => ?_) s₂ s' _ hmeta hmade⟩
      · exact keeping_imageMetaSet fun _ => rfl
      · exact keeping_of_calls trivial
  obtain ⟨hkey, hsize, hsizes⟩ := hdone
  rw [hkey, hsize, held_base (at_not_mem_uuid hvalid).1, hsizes]
  rfl

/-- A protected snapshot is made with the size of the image, and `rest` works on it. -/
theorem of_protected {base snap : String} {rest : Op Unit}
    (h : (do
      perform (.call (.snapCreate base snap))
      perform (.call (.snapSetProtected base snap true))
      rest : Op Unit).exec (faulty shape sr host error n) s = some (.ok (), s')) :
    ∃ s₂ sizes, rest.exec (faulty shape sr host error n) s₂ = some (.ok (), s') ∧
      (s.armed = false → s₂.armed = false) ∧
      s₂.state.graph.sizesAt (sr.spec base) = some sizes ∧ sizes.2.lookup snap = some sizes.1 := by
  obtain ⟨_, s₁, hcreate, h⟩ := of_exec_bind_ok h
  obtain ⟨_, s₂, hprotect, hrest⟩ := of_exec_bind_ok h
  have hcreated := of_request_ok hcreate rfl rfl
  have hprotected := of_request_ok hprotect rfl rfl
  obtain ⟨img, himg, hmap⟩ := Option.bind_eq_some_iff.mp hcreated
  obtain ⟨img₁, hedit, hgraph₁⟩ := Option.map_eq_some_iff.mp hmap
  obtain ⟨hnamed, rfl⟩ := edit_snapCreate hedit
  have himg₁ : s₁.state.graph.images.lookup (sr.spec base) =
      some (img.withSnap (s.state.graph.newSnap img snap)) := by
    rw [← hgraph₁]
    exact AList.lookup_insert _
  obtain ⟨img', himg', hmap'⟩ := Option.bind_eq_some_iff.mp hprotected
  obtain ⟨img₂, hedit', hgraph₂⟩ := Option.map_eq_some_iff.mp hmap'
  obtain ⟨-, -, rfl⟩ := edit_snapSetProtected hedit'
  cases himg₁.symm.trans himg'
  have hprotectedSizes :
      sizesOf ((img.withSnap (s.state.graph.newSnap img snap)).mapSnap snap fun s =>
        { s with isProtected := true }) =
      sizesOf (img.withSnap (s.state.graph.newSnap img snap)) :=
    sizesOf_mapSnap (fun _ => rfl) fun _ => rfl
  have hsizes : s₂.state.graph.sizesAt (sr.spec base) =
      some (sizesOf (img.withSnap (s.state.graph.newSnap img snap))) := by
    rw [← hgraph₂, ← hprotectedSizes]
    exact sizesAt_of_lookup (AList.lookup_insert _)
  have hone : (img.withSnap (s.state.graph.newSnap img snap)).named snap =
      [s.state.graph.newSnap img snap] := named_withSnap hnamed
  refine ⟨s₂, _, hrest, fun hs => exec_unarmed hprotect (exec_unarmed hcreate hs), hsizes, ?_⟩
  rw [lookup_sizes, hone]
  rfl

/-- What `takeSnap` makes: a snapshot with the size of the image. -/
theorem of_takeSnap {base snap : String}
    (h : (lift (Volume.takeSnap base snap)).exec (faulty shape sr host error n) s =
      some (.ok (), s')) :
    ∃ sizes, s'.state.graph.sizesAt (sr.spec base) = some sizes ∧
      sizes.2.lookup snap = some sizes.1 := by
  rw [lift_takeSnap, makeSnap] at h
  obtain ⟨s₂, sizes, hret, -, hsizes, hlookup⟩ :=
    of_protected (of_rethrown h fun _ => raises_bind fun _ => trivial)
  cases hret
  exact ⟨sizes, hsizes, hlookup⟩

/-- Where no call is made to fail, an image that exists is reported. -/
theorem run_info {image : String} {img : Image} (hs : s.armed = false)
    (himg : s.state.graph.images.lookup (sr.spec image) = some img) :
    (opInfo image).exec (faulty shape sr host error n) s =
      some (.ok (s.state.graph.volumeInfo shape image img), { s with time := s.time + 1 }) := by
  obtain ⟨w, t, armed⟩ := s
  subst hs
  exact run_grant rfl (.inl rfl) (by rw [opEffect]; exact congrArg (Option.map _) himg)

/-- `readBase` of an image that exists gives its size, and changes nothing. -/
theorem of_readBase {base : String} {read : Nat × Volume.Dict} {sizes : Nat × List (String × Nat)}
    (h : (lift (Volume.readBase base)).exec (faulty shape sr host error n) s =
      some (.ok read, s')) (hs : s.armed = false)
    (hsizes : s.state.graph.sizesAt (sr.spec base) = some sizes) :
    read.1 = sizes.1 ∧ s'.state = s.state := by
  obtain ⟨img, himg, rfl⟩ := Option.map_eq_some_iff.mp hsizes
  have hread : (lift (Volume.readBase base)).exec (faulty shape sr host error n) s =
      some (.ok (img.size, img.metadata), { s with time := s.time + 1 }) := by
    rw [Volume.readBase, lift_exceptBackend, lift_bind, Volume.imageInfo, lift_perform]
    exact exec_tryCatch ((exec_bind (run_info hs himg)).trans rfl)
  cases hread.symm.trans h
  exact ⟨rfl, rfl⟩

/-- `_size_of` of an image that exists gives its size, and changes nothing. -/
theorem of_sizeOf {image : String} {size : Nat} {sizes : Nat × List (String × Nat)}
    (h : (sizeOf image).exec (faulty shape sr host error n) s = some (.ok size, s'))
    (hs : s.armed = false) (hsizes : s.state.graph.sizesAt (sr.spec image) = some sizes) :
    size = sizes.1 ∧ s'.state = s.state := by
  obtain ⟨img, himg, rfl⟩ := Option.map_eq_some_iff.mp hsizes
  have hread : (sizeOf image).exec (faulty shape sr host error n) s =
      some (.ok img.size, { s with time := s.time + 1 }) :=
    exec_tryCatch ((exec_bind (run_info hs himg)).trans rfl)
  cases hread.symm.trans h
  exact ⟨rfl, rfl⟩

/-- `snapshot` reports the size of the base, which is the one of the snapshot. -/
theorem snapshot_right {key : String}
    (h : (lift (Volume.snapshot m key)).exec (faulty shape sr host error n) s =
      some (.ok record, s')) (hs : s.armed = false) :
    s'.state.graph.held sr record.key = some record.virtualSize := by
  rw [Volume.snapshot] at h
  dsimp only at h
  split at h
  · cases h
  · rw [lift_bind, lift_perform] at h
    obtain ⟨snap, s₁, huuid, h⟩ := of_exec_bind_ok h
    have h₁ := exec_unarmed huuid hs
    obtain ⟨hvalid, -⟩ := of_uuid_ok huuid
    rw [lift_bind] at h
    obtain ⟨_, s₂, htake, h⟩ := of_exec_bind_ok h
    have h₂ := exec_unarmed htake h₁
    obtain ⟨sizes, hsizes, hlookup⟩ := of_takeSnap htake
    rw [lift_bind] at h
    obtain ⟨⟨size, metadata⟩, s₃, hread, h⟩ := of_exec_bind_ok h
    obtain ⟨hsize, hstate⟩ := of_readBase hread h₂ hsizes
    rw [← hstate] at hsizes
    dsimp only at h hsize
    rw [lift_bind] at h
    obtain ⟨_, s₄, hseed, h⟩ := of_exec_bind_ok h
    have hsizes₄ := keeping_seedNames _ _ _ _ _ _ hseed hsizes
    rw [lift_bind] at h
    obtain ⟨_, s₅, hrotate, hret⟩ := of_exec_bind_ok h
    have hsizes₅ := keeping_rotateLog _ _ _ _ _ _ _ hrotate hsizes₄
    cases hret
    show s'.state.graph.held sr (snapKey (splitKey key).1 snap) = some size
    rw [held_snap (at_not_mem_base key) (at_not_mem_uuid hvalid).2, hsizes₅, Option.bind_some,
      hlookup, hsize]

/-- A clone has the size of its snapshot, and leaves the sizes of the image. -/
theorem of_clone {g g' : Graph} {base snap dst : String} {features : List String}
    (h : g.apply (.clone (sr.spec base) snap (sr.spec dst) features) = some g') :
    ∃ sizes size, g.sizesAt (sr.spec base) = some sizes ∧ sizes.2.lookup snap = some size ∧
      g'.sizesAt (sr.spec dst) = some (size, []) ∧ g'.sizesAt (sr.spec base) = some sizes := by
  cases change_of_apply h with
  | edit _ hedit => cases hedit
  | @clone _ _ _ _ img s himg hs hnew hprotected =>
      have hother : sr.spec base ≠ sr.spec dst := by
        intro heq
        rw [heq] at himg
        exact hnew (AList.lookup_isSome.mp (Option.isSome_of_eq_some himg))
      refine ⟨sizesOf img, s.size, sizesAt_of_lookup himg, ?_, ?_, ?_⟩
      · rw [lookup_sizes, hs]
        rfl
      · rw [Graph.sizesAt, AList.lookup_insert]
        rfl
      · rw [Graph.sizesAt, AList.lookup_insert_ne hother]
        exact sizesAt_of_lookup himg

/-- `clone` reports the size of the base: the clone's own where the snapshot has it. -/
theorem clone_right_iff {features : List String} {key : String}
    (h : (clone m features key).exec (faulty shape sr host error n) s = some (.ok record, s'))
    (hs : s.armed = false) :
    s'.state.graph.held sr record.key = some record.virtualSize ↔
      ∀ snap sizes size, (splitKey key).2 = some snap →
        s.state.graph.sizesAt (sr.spec (splitKey key).1) = some sizes →
        sizes.2.lookup snap = some size → size = sizes.1 := by
  -- what follows the clone: the report
  have hreported : ∀ {dst : String} {sizes size s₂ s'}, Volume.isUuid dst.toList = true →
      s₂.armed = false → s₂.state.graph.sizesAt (sr.spec dst) = some (size, []) →
      s₂.state.graph.sizesAt (sr.spec (splitKey key).1) = some sizes →
      (do
        let size ← sizeOf (splitKey key).1
        return Volume.volumeDict m.srUuid dst dst dst "" size {} : Op VolumeDict).exec
          (faulty shape sr host error n) s₂ = some (.ok record, s') →
      (s'.state.graph.held sr record.key = some record.virtualSize ↔ size = sizes.1) := by
    intro dst sizes size s₂ s' hvalid h₂ hdst hbase h
    obtain ⟨reported, s₃, hsize, hret⟩ := of_exec_bind_ok h
    obtain ⟨rfl, hstate⟩ := of_sizeOf hsize h₂ hbase
    cases hret
    show s'.state.graph.held sr dst = some sizes.1 ↔ _
    rw [held_base (at_not_mem_uuid hvalid).1, hstate, hdst]
    exact Option.some_inj
  rw [clone] at h
  dsimp only at h
  obtain ⟨dst, s₁, huuid, h⟩ := of_exec_bind_ok h
  have h₁ := exec_unarmed huuid hs
  obtain ⟨hvalid, hstate⟩ := of_uuid_ok huuid
  cases hsnap : (splitKey key).2 with
  | none =>
      rw [hsnap] at h
      obtain ⟨_, s₂, hlive, h⟩ := of_exec_bind_ok h
      have h₂ := exec_unarmed hlive h₁
      obtain ⟨transient, s₃, htransient, hlive⟩ := of_exec_bind_ok hlive
      obtain ⟨s₄, sizes, hclone, -, hsizes, hlookup⟩ :=
        of_protected (of_rethrown hlive fun _ => raises_bind fun _ => trivial)
      obtain ⟨sizes', size, hsizes', hlookup', hdst, hbase⟩ :=
        of_clone (of_request_ok hclone rfl rfl)
      cases hsizes.symm.trans hsizes'
      cases hlookup.symm.trans hlookup'
      refine (hreported hvalid h₂ hdst hbase h).trans
        ⟨fun _ _ _ _ hsome => (Option.some_ne_none _ hsome.symm).elim, fun _ => rfl⟩
  | some snap =>
      rw [hsnap] at h
      obtain ⟨_, s₂, hclone, h⟩ := of_exec_bind_ok h
      have h₂ := exec_unarmed hclone h₁
      obtain ⟨sizes, size, hsizes, hlookup, hdst, hbase⟩ :=
        of_clone (of_request_ok (of_rethrown hclone fun _ => trivial) rfl rfl)
      rw [hstate] at hsizes
      refine (hreported hvalid h₂ hdst hbase h).trans ⟨?_, ?_⟩
      · intro hsame snap' sizes' size' heq hsizes' hlookup'
        cases heq
        cases hsizes.symm.trans hsizes'
        cases hlookup.symm.trans hlookup'
        exact hsame
      · intro hfits
        exact hfits snap sizes size rfl hsizes hlookup

variable (shape) in
/-- What a report says of a snapshot. -/
theorem find_volumeInfo (g : Graph) (base snap : String) (img : Image) :
    ((g.volumeInfo shape base img).snapshots.find? fun s => s.name == snap).map SnapInfo.size =
      (sizesOf img).2.lookup snap := by
  rw [lookup_sizes, Image.named, List.head?_filter]
  dsimp only [Graph.volumeInfo]
  rw [List.find?_map, Option.map_map]
  rfl

/-- `stat` of a volume that exists reports its size. -/
theorem stat_right {key : String}
    (h : (lift (Volume.stat m key)).exec (faulty shape sr host error n) s =
      some (.ok record, s')) (hasked : (s.state.graph.held sr key).isSome = true) :
    s'.state.graph.held sr record.key = some record.virtualSize ∧ s'.state = s.state := by
  rw [Volume.stat, lift_bind, lift_exceptBackend, Volume.imageInfo, lift_perform] at h
  obtain ⟨info, s₁, hread, h⟩ := of_exec_bind_ok h
  obtain ⟨img, himg, rfl, hstate⟩ := of_info_ok (of_rethrown hread fun _ => trivial)
  have hsizes := sizesAt_of_lookup himg
  have hbase : s₁.state.graph.held sr (splitKey key).1 = some img.size := by
    rw [held_base (at_not_mem_base key), hstate, hsizes]
    rfl
  cases hsnap : (splitKey key).2 with
  | none =>
      rw [hsnap] at h
      cases h
      exact ⟨hbase, hstate⟩
  | some snap =>
      rw [hsnap] at h
      dsimp only at h
      split at h
      · cases h
        exact ⟨hbase, hstate⟩
      next hne =>
          have hkey : splitKey key = ((splitKey key).1, some snap) := Prod.ext rfl hsnap
          rw [Graph.held, hkey] at hasked
          dsimp only at hasked
          rw [if_neg hne, hsizes, Option.bind_some] at hasked
          have hfind := find_volumeInfo shape s.state.graph (splitKey key).1 snap img
          cases hfound : (s.state.graph.volumeInfo shape (splitKey key).1 img).snapshots.find?
              fun s => s.name == snap with
          | none =>
              rw [hfound] at hfind
              rw [← hfind] at hasked
              cases hasked
          | some found =>
              rw [hfound] at h hfind
              cases h
              refine ⟨?_, hstate⟩
              show s'.state.graph.held sr (snapKey (splitKey key).1 snap) = some found.size
              rw [held_snap (at_not_mem_base key) hne, hstate, hsizes, Option.bind_some, ← hfind]
              rfl

/-- `revert` reports the size that the image has afterwards. -/
theorem revert_right {snapshotKey : String}
    (h : (lift (Volume.revert m snapshotKey)).exec (faulty shape sr host error n) s =
      some (.ok record, s')) :
    s'.state.graph.held sr record.key = some record.virtualSize := by
  rw [Volume.revert] at h
  split at h
  · cases h
  next base snap hkey =>
      rw [lift_bind, lift_exceptBackend, lift_perform] at h
      obtain ⟨_, s₁, hrollback, hstat⟩ := of_exec_bind_ok h
      have happly := of_request_ok (of_rethrown hrollback fun _ => trivial) rfl rfl
      obtain ⟨img, -, hmap⟩ := Option.bind_eq_some_iff.mp happly
      obtain ⟨img', -, hgraph⟩ := Option.map_eq_some_iff.mp hmap
      have hat : '@' ∉ base.toList := by
        have hbase := at_not_mem_base snapshotKey
        rwa [hkey] at hbase
      refine (stat_right hstat ?_).1
      rw [held_base hat, ← hgraph, Graph.sizesAt]
      dsimp only [Req.spec]
      rw [AList.lookup_insert]
      rfl

end Operations

/-! ## The listing -/

/-- The sizes that `SR.ls` reports of an image and of its snapshots. -/
def listedOf (info : Info) : List (String × Nat) :=
  if uuidMatch info.name then
    (info.name, info.size) :: (info.snapshots.filter fun s => uuidMatch s.name).map fun s =>
      (snapKey info.name s.name, if s.size = 0 then info.size else s.size)
  else []

/-- The key and the size of a record. -/
def sizeOfRecord (record : VolumeDict) : String × Nat := (record.key, record.virtualSize)

/-- What an operation of the plugin returns, it returns among the worker's calls. -/
theorem returns_lift {α : Type} {Q : α → Prop} {p : Volume.Op α} (h : Returns Q p) :
    Returns Q (lift p) := by
  induction p with
  | ret value => exact h
  | raise error => trivial
  | call c resume ih => exact fun reply => ih reply (h reply)

/-- The sizes in the records of the snapshots of an image. -/
theorem returns_lsSnapshots (m : SrMeta) (info : Info) (metadata : Volume.Dict)
    (targets : List Volume.Job) (snaps : List Volume.SnapInfo) :
    Returns (fun result => result.2.map sizeOfRecord =
      (snaps.filter fun s => uuidMatch s.name).map fun s =>
        (snapKey info.name s.name, if s.size = 0 then info.size else s.size))
      (Volume.lsSnapshots m info metadata targets snaps) := by
  induction snaps generalizing targets with
  | nil => rfl
  | cons snap snaps ih =>
      unfold Volume.lsSnapshots
      split
      next htrash =>
        have hnot : ¬uuidMatch snap.name = true := by
          intro huuid
          rw [Volume.Listing.startsWith_trash huuid] at htrash
          cases htrash
        simp only [List.filter_cons, if_neg hnot]
        exact (Prog.returns_true _).bind fun targets _ => ih targets
      next =>
        split
        next huuid =>
          refine (ih targets).bind fun result hresult => ?_
          simp only [List.filter_cons, if_pos huuid, List.map_cons]
          exact congrArg (_ :: ·) hresult
        next hnot =>
          simp only [List.filter_cons, if_neg hnot]
          exact ih targets

/-- The sizes in the records of a listing. -/
theorem returns_lsImages (m : SrMeta) (targets : List Volume.Job) (infos : List Info) :
    Returns (fun records => records.map sizeOfRecord = infos.flatMap listedOf)
      (Volume.lsImages m targets infos) := by
  induction infos generalizing targets with
  | nil => rfl
  | cons info infos ih =>
      unfold Volume.lsImages
      split
      next htrash =>
        have hnot : ¬uuidMatch info.name = true := by
          intro huuid
          rw [Volume.Listing.startsWith_trash huuid] at htrash
          cases htrash
        rw [List.flatMap_cons, listedOf, if_neg hnot, List.nil_append]
        exact (Prog.returns_true _).bind fun targets _ => ih targets
      next =>
        split
        next huuid =>
          refine (Prog.returns_true _).bind fun metadata _ => ?_
          refine (returns_lsSnapshots m info metadata targets info.snapshots).bind
            fun result hresult => ?_
          refine (ih result.1).bind fun rest hrest => ?_
          rw [List.flatMap_cons, listedOf, if_pos huuid, ← hresult, ← hrest]
          show (_ :: result.2 ++ rest).map sizeOfRecord = _
          rw [List.map_append]
          rfl
        next hnot =>
          rw [List.flatMap_cons, listedOf, if_neg hnot, List.nil_append]
          exact ih targets

section Listing

variable {shape : Shape} {sr : Sr} {m : SrMeta} {host : Nat → Cluster → OpCall → OpChoice}
  {error : Volume.Exc} {n : Nat} {s s' : Armed Cluster} {g : Graph}

/-- What `SR.ls` reports: the sizes of the images that it finds, and it keeps all of them. -/
theorem of_ls {records : List VolumeDict}
    (h : (lift (Volume.ls m)).exec (faulty shape sr host error n) s = some (.ok records, s')) :
    records.map sizeOfRecord = (s.state.graph.listing shape sr).flatMap listedOf ∧
      ∀ name sizes, s.state.graph.sizesAt (sr.spec name) = some sizes →
        s'.state.graph.sizesAt (sr.spec name) = some sizes := by
  rw [Volume.ls, lift_bind, lift_perform] at h
  obtain ⟨targets, s₁, hsweep, h⟩ := of_exec_bind_ok h
  rw [lift_bind, lift_exceptBackend, lift_perform] at h
  obtain ⟨infos, s₂, hlist, hrecords⟩ := of_exec_bind_ok h
  have hgraph : s₁.state.graph = s.state.graph := by
    rcases granted_graph (of_perform_ok hsweep) with hsame | ⟨r, hreq, -⟩
    · exact hsame
    · cases hreq
  have hlisted := of_backend_ok (of_rethrown hlist fun _ => trivial) rfl
  obtain ⟨hinfos, hstate⟩ := Prod.mk.inj (Option.some.inj hlisted)
  rw [hgraph] at hinfos
  subst hinfos
  constructor
  · have hreturns := returns_lsImages m targets (s.state.graph.listing shape sr)
    exact (returns_lift hreturns).of_exec hrecords
  · intro name sizes hsizes
    have hkeeping : Keeping shape sr host error n (sr.spec name) sizes
        (lift (Volume.lsImages m targets (s.state.graph.listing shape sr))) := by
      refine keeping_of_calls (allCalls_lift (allCalls_lsImages m targets _ ?_))
      intro info hinfo hspec
      obtain ⟨img, himg, heq⟩ := mem_listing_iff.mp hinfo
      rw [hspec] at himg
      rw [heq]
      exact congrArg Prod.fst (Option.some.inj ((sizesAt_of_lookup himg).symm.trans hsizes))
    refine hkeeping _ _ _ hrecords ?_
    rw [← hstate, hgraph]
    exact hsizes

/-- The first value of a key that is there once. -/
theorem lookup_of_nodup {snaps : List (String × Nat)} {snap : String} {size : Nat}
    (hnodup : (snaps.map Prod.fst).Nodup) (hmem : (snap, size) ∈ snaps) :
    snaps.lookup snap = some size := by
  induction snaps with
  | nil => cases hmem
  | cons first rest ih =>
      obtain ⟨hfirst, hrest⟩ := List.nodup_cons.mp hnodup
      rw [List.lookup_cons]
      rcases List.mem_cons.mp hmem with heq | hmem
      · subst heq
        simp
      · have hne : (snap == first.1) = false := by
          have hin : snap ∈ rest.map Prod.fst := List.mem_map.mpr ⟨_, hmem, rfl⟩
          simpa using fun heq : snap = first.1 => hfirst (heq ▸ hin)
        simp only [hne]
        exact ih hrest hmem

/-- The sizes that `SR.ls` reports of an image that the cluster holds. -/
theorem mem_listedOf_iff {base : String} {img : Image} {pair : String × Nat} :
    pair ∈ listedOf (g.volumeInfo shape base img) ↔ uuidMatch base = true ∧
      (pair = (base, img.size) ∨ ∃ snap size, uuidMatch snap = true ∧
        (snap, size) ∈ (sizesOf img).2 ∧
        pair = (snapKey base snap, if size = 0 then img.size else size)) := by
  unfold listedOf
  split
  next huuid =>
      refine List.mem_cons.trans ?_
      constructor
      · rintro (rfl | hmem)
        · exact ⟨huuid, .inl rfl⟩
        · obtain ⟨info, hinfo, rfl⟩ := List.mem_map.mp hmem
          obtain ⟨hsnap, hname⟩ := List.mem_filter.mp hinfo
          obtain ⟨z, hz, rfl⟩ := List.mem_map.mp hsnap
          exact ⟨huuid, .inr ⟨z.name, z.size, hname, List.mem_map.mpr ⟨z, hz, rfl⟩, rfl⟩⟩
      · intro ⟨_, hpair⟩
        refine hpair.imp id fun ⟨snap, size, hname, hmem, heq⟩ => ?_
        obtain ⟨z, hz, hzs⟩ := List.mem_map.mp hmem
        obtain ⟨rfl, rfl⟩ := Prod.mk.inj hzs
        rw [heq]
        exact List.mem_map.mpr ⟨_, List.mem_filter.mpr ⟨List.mem_map.mpr ⟨z, hz, rfl⟩, hname⟩, rfl⟩
  next huuid =>
      constructor
      · intro hmem
        cases hmem
      · intro ⟨hbase, _⟩
        exact absurd hbase huuid

/-- `SR.ls` reports the sizes that the cluster holds just where a snapshot of size 0 is one of an
image of size 0. -/
theorem ls_right_iff {records : List VolumeDict}
    (h : (lift (Volume.ls m)).exec (faulty shape sr host error n) s = some (.ok records, s'))
    (hs : s.state.graph.Unique) :
    (∀ record ∈ records, s'.state.graph.held sr record.key = some record.virtualSize) ↔
      ∀ base sizes snap, uuidMatch base = true →
        s.state.graph.sizesAt (sr.spec base) = some sizes → uuidMatch snap = true →
        (snap, 0) ∈ sizes.2 → sizes.1 = 0 := by
  obtain ⟨hrecords, hkept⟩ := of_ls h
  have hpairs : (∀ record ∈ records, s'.state.graph.held sr record.key = some record.virtualSize) ↔
      ∀ pair ∈ (s.state.graph.listing shape sr).flatMap listedOf,
        s'.state.graph.held sr pair.1 = some pair.2 := by
    rw [← hrecords]
    simp only [List.mem_map, forall_exists_index, and_imp, forall_apply_eq_imp_iff₂, sizeOfRecord]
  -- the snapshot that a record names has the size of the entry that the record is of
  have hheld : ∀ {base img snap size}, s.state.graph.images.lookup (sr.spec base) = some img →
      uuidMatch base = true → uuidMatch snap = true → (snap, size) ∈ (sizesOf img).2 →
      s'.state.graph.held sr (snapKey base snap) = some size := by
    intro base img snap size himg hbase hsnap hmem
    have hne : snap ≠ "" := by
      rintro rfl
      exact absurd hsnap (by decide)
    have hnodup : ((sizesOf img).2.map Prod.fst).Nodup := by
      rw [sizesOf, List.map_map]
      exact hs _ _ himg
    rw [held_snap (Volume.Listing.at_not_mem hbase) hne, hkept _ _ (sizesAt_of_lookup himg)]
    exact lookup_of_nodup hnodup hmem
  rw [hpairs]
  constructor
  · intro hright base sizes snap hbase hsizes hsnap hzero
    obtain ⟨img, himg, rfl⟩ := Option.map_eq_some_iff.mp hsizes
    have hreported := hright (snapKey base snap, img.size) <| List.mem_flatMap.mpr
      ⟨_, mem_listing_iff.mpr ⟨img, himg, rfl⟩,
        mem_listedOf_iff.mpr ⟨hbase, .inr ⟨snap, 0, hsnap, hzero, rfl⟩⟩⟩
    exact (Option.some.inj ((hheld himg hbase hsnap hzero).symm.trans hreported)).symm
  · intro hfits pair hpair
    obtain ⟨info, hinfo, hmem⟩ := List.mem_flatMap.mp hpair
    obtain ⟨img, himg, heq⟩ := mem_listing_iff.mp hinfo
    rw [heq] at hmem
    have hsizes := sizesAt_of_lookup himg
    obtain ⟨hbase, rfl | ⟨snap, size, hsnap, hentry, rfl⟩⟩ := mem_listedOf_iff.mp hmem
    · rw [held_base (Volume.Listing.at_not_mem hbase), hkept _ _ hsizes]
      rfl
    · rw [hheld himg hbase hsnap hentry]
      split
      next hzero =>
          subst hzero
          exact congrArg some (hfits _ _ snap hbase hsizes hsnap hentry).symm
      next => rfl

end Listing

/-! ## Every history -/

section Histories

variable {shape : Shape} {sr : Sr} {m : SrMeta} {state next : Reported} {label : SizeLabel}

/-- A step from a cluster whose images have one snapshot of a name leads to such a cluster, and its
records have the sizes that the cluster holds just where the step fits. -/
theorem sizeStep_right_iff (hunique : state.1.graph.Unique)
    (hstep : sizeStep shape sr m state label = some next) :
    next.1.graph.Unique ∧ (next.Right sr ↔ Fits sr state label) := by
  obtain ⟨w, reported⟩ := state
  obtain ⟨op, host⟩ := label
  unfold sizeStep at hstep
  split at hstep
  next hasked =>
    split at hstep
    next records s hrun =>
        cases hstep
        refine ⟨exec_unique hrun hunique, ?_⟩
        have hone : ∀ {p : Op VolumeDict}, (do
              let record ← p
              return [record] : Op (List VolumeDict)).exec
                (faulty shape sr host (.backend { message := "" }) 0)
                  { state := w, armed := false } =
              some (.ok records, s) →
            ∃ record, p.exec (faulty shape sr host (.backend { message := "" }) 0)
                { state := w, armed := false } = some (.ok record, s) ∧ records = [record] := by
          intro p hp
          obtain ⟨record, between, hrecord, hret⟩ := of_exec_bind_ok hp
          cases hret
          exact ⟨record, hrecord, rfl⟩
        cases op with
        | create features name description size sharable =>
            obtain ⟨record, hrecord, rfl⟩ := hone hrun
            exact iff_of_true (List.forall_mem_singleton.mpr (create_right hrecord)) trivial
        | resize key newSize =>
            obtain ⟨_, _, _, hret⟩ := of_exec_bind_ok hrun
            cases hret
            exact iff_of_true (List.forall_mem_nil _) trivial
        | snapshot key =>
            obtain ⟨record, hrecord, rfl⟩ := hone hrun
            exact iff_of_true (List.forall_mem_singleton.mpr (snapshot_right hrecord rfl)) trivial
        | clone features key =>
            obtain ⟨record, hrecord, rfl⟩ := hone hrun
            exact List.forall_mem_singleton.trans (clone_right_iff hrecord rfl)
        | revert snapshotKey =>
            obtain ⟨record, hrecord, rfl⟩ := hone hrun
            exact iff_of_true (List.forall_mem_singleton.mpr (revert_right hrecord)) trivial
        | stat key =>
            obtain ⟨record, hrecord, rfl⟩ := hone hrun
            exact iff_of_true (List.forall_mem_singleton.mpr (stat_right hrecord hasked).1) trivial
        | ls => exact ls_right_iff hrun hunique
    next => cases hstep
  next => cases hstep

/-- Along a history of operations that succeed, every record has the size that the cluster holds for
its volume just where every step fits. -/
theorem reported_sizes_iff {start final : Cluster} {records : List VolumeDict}
    {labels : List SizeLabel} (hunique : start.graph.Unique)
    (hrun : Run.run (sizeStep shape sr m) (start, []) labels = some (final, records)) :
    (∀ first middle, first <+: labels →
      Run.run (sizeStep shape sr m) (start, []) first = some middle → middle.Right sr) ↔
        Run.Along (sizeStep shape sr m) (Fits sr) (start, []) labels := by
  have hstep : ∀ state label next, state.1.graph.Unique → Reported.Right sr state →
      sizeStep shape sr m state label = some next →
        next.1.graph.Unique ∧ (next.Right sr ↔ Fits sr state label) :=
    fun _ _ _ hinv _ hnext => sizeStep_right_iff hinv hnext
  exact Run.prefixes_iff_along hstep hunique (List.forall_mem_nil _) hrun

end Histories

/-- A host whose new UUID is the given one. -/
def givesUuid (text : String) : Nat → Cluster → OpCall → OpChoice := fun _ _ _ => .fresh text

/-- A volume is made, snapshotted, made larger, cloned, asked about, reverted and listed. -/
def grownVolume : List SizeLabel :=
  [⟨.create ["layering"] "disk" "" 4096 false,
      givesUuid "11111111-1111-1111-1111-111111111111"⟩,
    ⟨.snapshot "11111111-1111-1111-1111-111111111111",
      givesUuid "22222222-2222-2222-2222-222222222222"⟩,
    ⟨.resize "11111111-1111-1111-1111-111111111111" 8192, fun _ _ _ => .ok⟩,
    ⟨.clone ["layering"] "11111111-1111-1111-1111-111111111111",
      givesUuid "33333333-3333-3333-3333-333333333333"⟩,
    ⟨.stat "11111111-1111-1111-1111-111111111111@22222222-2222-2222-2222-222222222222",
      fun _ _ _ => .ok⟩,
    ⟨.revert "11111111-1111-1111-1111-111111111111@22222222-2222-2222-2222-222222222222",
      fun _ _ _ => .ok⟩,
    ⟨.ls, fun _ _ _ => .ok⟩]

/-- A run from the empty SR. -/
abbrev runSizes : List SizeLabel → Option Reported :=
  Run.run (sizeStep .rest ⟨"rbd", ""⟩ ⟨"sr", "rbd", none, none⟩) ({ graph := { images := ∅ } }, [])

theorem empty_unique : Graph.Unique { images := ∅ } := by
  intro spec img himg
  rw [AList.lookup_empty] at himg
  cases himg

/-- Every size that is reported on the way is right, and so every step fits. -/
theorem grownVolume_right_iff :
    ∃ final, runSizes grownVolume = some final ∧
      (∀ first middle, first <+: grownVolume → runSizes first = some middle →
        middle.Right ⟨"rbd", ""⟩) ∧
      Run.Along (sizeStep .rest ⟨"rbd", ""⟩ ⟨"sr", "rbd", none, none⟩) (Fits ⟨"rbd", ""⟩)
        ({ graph := { images := ∅ } }, []) grownVolume := by
  have hruns : (runSizes grownVolume).isSome = true := by decide +kernel
  have hprefixes : ∀ first ∈ grownVolume.inits, ∀ middle ∈ runSizes first,
      middle.Right ⟨"rbd", ""⟩ := by
    decide +kernel
  have hright : ∀ first middle, first <+: grownVolume → runSizes first = some middle →
      middle.Right ⟨"rbd", ""⟩ := fun first middle hfirst hmiddle =>
    hprefixes first ((List.mem_inits _ _).mpr hfirst) middle hmiddle
  obtain ⟨⟨final, records⟩, hfinal⟩ := Option.isSome_iff_exists.mp hruns
  exact ⟨(final, records), hfinal, hright, (reported_sizes_iff empty_unique hfinal).mp hright⟩

/-- A snapshot of 4096 bytes whose base grows is cloned. -/
def cloneOfOld : List SizeLabel :=
  grownVolume.take 3 ++
    [⟨.clone ["layering"]
        "11111111-1111-1111-1111-111111111111@22222222-2222-2222-2222-222222222222",
      givesUuid "33333333-3333-3333-3333-333333333333"⟩]

/-- A snapshot of size 0 whose base grows is listed. -/
def listOfEmpty : List SizeLabel :=
  [⟨.create ["layering"] "disk" "" 0 false, givesUuid "11111111-1111-1111-1111-111111111111"⟩,
    ⟨.snapshot "11111111-1111-1111-1111-111111111111",
      givesUuid "22222222-2222-2222-2222-222222222222"⟩,
    ⟨.resize "11111111-1111-1111-1111-111111111111" 8192, fun _ _ _ => .ok⟩,
    ⟨.ls, fun _ _ _ => .ok⟩]

/-- The clone has 4096 bytes and is reported with 8192, and the listing reports a wrong size. -/
theorem old_sizes_misreported :
    (∃ final, runSizes cloneOfOld = some final ∧
      final.2.map sizeOfRecord = [("33333333-3333-3333-3333-333333333333", 8192)] ∧
      final.1.graph.held ⟨"rbd", ""⟩ "33333333-3333-3333-3333-333333333333" = some 4096) ∧
    ∃ final, runSizes listOfEmpty = some final ∧ ¬final.Right ⟨"rbd", ""⟩ := by
  have hclone : (runSizes cloneOfOld).any (fun final =>
      final.2.map sizeOfRecord == [("33333333-3333-3333-3333-333333333333", 8192)] &&
      final.1.graph.held ⟨"rbd", ""⟩ "33333333-3333-3333-3333-333333333333" == some 4096) =
        true := by
    decide +kernel
  have hlist : (runSizes listOfEmpty).any (fun final => !decide (final.Right ⟨"rbd", ""⟩)) =
      true := by
    decide +kernel
  obtain ⟨final, hfinal, htest⟩ := (Option.any_eq_true _ _).mp hclone
  obtain ⟨listed, hlisted, hwrong⟩ := (Option.any_eq_true _ _).mp hlist
  simp only [Bool.and_eq_true, beq_iff_eq] at htest
  exact ⟨⟨final, hfinal, htest⟩, listed, hlisted, by simpa using hwrong⟩

end XcpCephRbd.Gc
