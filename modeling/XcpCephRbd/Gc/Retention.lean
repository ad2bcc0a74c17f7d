import XcpCephRbd.Gc.Retain

/-!
# Each call of a volume operation is harmless

The volume operations among any number of workers on jobs of trash. Each call that an operation
makes is harmless in the state in which it is made, however the workers have moved meanwhile, and so
is each call of a worker. What an operation knows of the cluster it has read earlier, and what of it
the workers keep (`Graph.Erodes`): sizes stay, no snapshot comes and none becomes protected.
-/

namespace XcpCephRbd.Gc

open Volume (BackendError Job VolumeDict uuidMatch trashPrefix)
open Datapath (SrMeta splitKey)
open Prog (AllCalls Safe Setting Stable)

/-- The jobs that are queued: of an image in the trash, or of a snapshot in the trash. -/
def TrashJob (job : Job) : Prop :=
  (job.kind = "image" ∧ isTrash job.image = true) ∨
    (job.kind = "snap" ∧ ∃ snap, job.snap = some snap ∧ isTrash snap = true)

/-- The requests of a worker on such a job. -/
def GcReq : Req → Prop
  | .remove spec => isTrash spec.image = true
  | .snapRemove spec snap => isTrash spec.image = true ∨ isTrash snap = true
  | r => r.byWorker = true

/-- The calls of a worker on such a job. -/
def GcCall : Call → Prop
  | .request r => GcReq r
  | _ => True

section Names

/-- A volume is not named like trash. -/
theorem isTrash_of_uuid {name : String} (h : uuidMatch name = true) : isTrash name = false := by
  by_contra htrash
  obtain ⟨rest, rfl⟩ := Text.startsWith_iff.mp (Bool.not_eq_false _ ▸ htrash)
  have hx : 'x' ∈ (trashPrefix ++ rest).toList := by simp [trashPrefix]
  exact absurd (Volume.mem_of_uuidMatch h hx) (by decide)

/-- Trash is not named like a volume. -/
theorem uuidMatch_of_trash {name : String} (h : isTrash name = true) : uuidMatch name = false := by
  by_contra huuid
  rw [isTrash_of_uuid (Bool.not_eq_false _ ▸ huuid)] at h
  cases h

/-- What is named with the trash prefix is trash. -/
theorem isTrash_append (rest : String) : isTrash (trashPrefix ++ rest) = true :=
  Text.startsWith_append _ _

/-- A companion is named like a CBT log. -/
theorem isLog_companion (base gen : String) :
    isLog (Volume.Cbtlog.companionName base gen) = true := by
  rw [isLog, Volume.Cbtlog.companionName, String.append_assoc, String.append_assoc]
  exact Text.startsWith_append _ _

/-- A transient snapshot of a clone is not named like a volume. -/
theorem uuidMatch_transient (rest : String) : uuidMatch (cloneSnapPrefix ++ rest) = false := by
  by_contra huuid
  have hx : 'x' ∈ (cloneSnapPrefix ++ rest).toList := by simp [cloneSnapPrefix]
  exact absurd (Volume.mem_of_uuidMatch (Bool.not_eq_false _ ▸ huuid) hx) (by decide)

end Names

/-- What workers leave: sizes stay, no snapshot comes, and none becomes protected. -/
def Graph.Erodes (g g' : Graph) : Prop :=
  ∀ spec img', g'.images.lookup spec = some img' → ∃ img, g.images.lookup spec = some img ∧
    img'.size = img.size ∧ ∀ s' ∈ img'.snapshots, ∃ s ∈ img.snapshots, s.name = s'.name ∧
      (s.isProtected = false → s'.isProtected = false)

section Erosion

variable {g g' : Graph} {img img' : Image}

/-- An edit of a worker erodes the image. -/
theorem edit_erodes {r : Req} (hby : r.byWorker = true) (h : g.edit r img = some img') :
    img'.size = img.size ∧ ∀ s' ∈ img'.snapshots, ∃ s ∈ img.snapshots, s.name = s'.name ∧
      (s.isProtected = false → s'.isProtected = false) := by
  cases r with
  | flatten spec =>
      obtain ⟨-, rfl⟩ := edit_flatten h
      refine ⟨rfl, fun s' hs' => ?_⟩
      dsimp only [Image.flatten] at hs'
      split at hs'
      · obtain ⟨s, hs, rfl⟩ := List.mem_map.mp hs'
        exact ⟨s, hs, rfl, id⟩
      · exact ⟨s', hs', rfl, id⟩
  | snapRemove spec snap =>
      obtain ⟨-, -, rfl⟩ := edit_snapRemove h
      exact ⟨rfl, fun s hs => ⟨s, (List.mem_filter.mp hs).1, rfl, id⟩⟩
  | snapSetProtected spec snap on =>
      obtain ⟨-, -, rfl⟩ := edit_snapSetProtected h
      cases on with
      | true => cases hby
      | false =>
          refine ⟨rfl, fun s' hs' => ?_⟩
          obtain ⟨s, hs, rfl⟩ := List.mem_map.mp hs'
          refine ⟨s, hs, ?_⟩
          split
          · exact ⟨rfl, fun _ => rfl⟩
          · exact ⟨rfl, id⟩
  | remove spec => cases h
  | _ => cases hby

/-- A request of a worker erodes the cluster. -/
theorem erodes_of_byWorker {r : Req} (hby : r.byWorker = true) (h : g.apply r = some g') :
    g.Erodes g' := by
  intro spec img' himg'
  cases change_of_apply h with
  | @edit r img eimg himg hedit =>
      by_cases hsame : spec = r.spec
      · subst hsame
        cases (AList.lookup_insert _).symm.trans himg'
        exact ⟨img, himg, edit_erodes hby hedit⟩
      · rw [AList.lookup_insert_ne hsame] at himg'
        exact ⟨img', himg', rfl, fun s hs => ⟨s, hs, rfl, id⟩⟩
  | @remove gone img himg hempty =>
      have hother : spec ≠ gone := by
        rintro rfl
        rw [AList.lookup_erase] at himg'
        cases himg'
      rw [AList.lookup_erase_ne hother] at himg'
      exact ⟨img', himg', rfl, fun s hs => ⟨s, hs, rfl, id⟩⟩
  | create hnew => cases hby
  | rename himg hnew => cases hby
  | clone himg hs hnew hprotected => cases hby

/-- What a worker on a job of trash asks for is asked by workers. -/
theorem byWorker_of_gcReq {r : Req} (h : GcReq r) : r.byWorker = true := by
  cases r <;> first | rfl | exact h

/-- What a worker on a job of trash asks for is harmless. -/
theorem harmless_of_gcReq {o : Orders} {r : Req} (h : GcReq r) : Harmless o g r := by
  cases r with
  | remove spec =>
      intro hkept
      cases hkept.1.symm.trans (show isTrash spec.image = true from h)
  | snapRemove spec snap =>
      intro huuid
      obtain himage | hsnap := (show isTrash spec.image = true ∨ isTrash snap = true from h)
      · exact .inl himage
      · cases (isTrash_of_uuid huuid).symm.trans hsnap
  | flatten spec => trivial
  | snapSetProtected spec snap on => trivial
  | _ => cases h

/-- A worker on a job of trash makes its calls. -/
theorem gcCall_main {pool ns : String} {job : Job} (h : TrashJob job) :
    AllCalls GcCall (main pool ns (some job)) := by
  have himage : job.kind = "image" → isTrash job.image = true := by
    intro hkind
    obtain ⟨-, htrash⟩ | ⟨hsnap, -⟩ := h
    · exact htrash
    · exact absurd (hkind.symm.trans hsnap) (by decide)
  refine allCalls_main (fun _ => trivial) (fun _ => rfl) trivial (fun _ _ => rfl) ?_ himage
  rintro snap (⟨hkind, hsnap⟩ | hkind)
  · obtain ⟨hother, -⟩ | ⟨-, snap', hsnap', htrash⟩ := h
    · exact absurd (hkind.symm.trans hother) (by decide)
    · cases hsnap.symm.trans hsnap'
      exact .inr htrash
  · exact .inl (himage hkind)

end Erosion

/-- A condition on the cluster that workers keep. -/
def Eroding (Q : Graph → Prop) : Prop := ∀ g g', g.Erodes g' → Q g → Q g'

/-- What a worker on a job of trash does to the cluster. -/
def GcMove (w w' : Cluster) : Prop :=
  ∃ r graph, GcReq r ∧ w.graph.apply r = some graph ∧ w' = { w with graph := graph }

/-- No image and no snapshot has this name. -/
def Graph.Unused (g : Graph) (text : String) : Prop :=
  ∀ spec img, g.images.lookup spec = some img → spec.image ≠ text ∧ ∀ s ∈ img.snapshots,
    s.name ≠ text

/-- A new UUID is the name of nothing. -/
def FreshUuid (choice : OpChoice) (w : Cluster) (c : OpCall) : Prop :=
  c = .call .uuid4 → ∀ text, choice = .fresh text → w.graph.Unused text

/-- What holds of each call of an operation: its request is harmless, and its job is one of
trash. -/
def retainAsserted (sr : Sr) (o : Orders) (w : Cluster) (c : OpCall) : Prop :=
  (∀ r, reqOf sr c = some r → Harmless o w.graph r) ∧
    ∀ job, c = .call (.gcSpawn job) → TrashJob job

/-- An operation among workers on jobs of trash. -/
def retaining (shape : Shape) (sr : Sr) (o : Orders) :
    Setting Volume.Exc OpCall OpCall.Result Cluster OpChoice where
  handle := opHandle shape sr
  allowed := FreshUuid
  rely := GcMove
  asserted := retainAsserted sr o

/-- The call is harmless whatever the state, and does not itself change what workers keep. -/
structure Innocent (sr : Sr) (o : Orders) (c : OpCall) : Prop where
  harmless : ∀ r, reqOf sr c = some r → ∀ g, Harmless o g r
  job : ∀ job, c = .call (.gcSpawn job) → TrashJob job

section Rules

variable {shape : Shape} {sr : Sr} {o : Orders} {w : Cluster}

/-- A call that is harmless in every state is so in this one. -/
theorem Innocent.asserted {c : OpCall} (h : Innocent sr o c) : retainAsserted sr o w c :=
  ⟨fun r hreq => h.harmless r hreq w.graph, h.job⟩

/-- What workers keep is stable. -/
theorem Eroding.stable {Q : Graph → Prop} (hQ : Eroding Q) :
    Stable GcMove fun w => Q w.graph := by
  rintro w w' hw ⟨r, graph, hgc, happly, rfl⟩
  exact hQ w.graph graph (erodes_of_byWorker (byWorker_of_gcReq hgc) happly) hw

/-- An operation all of whose calls are harmless in any state. -/
theorem safe_innocent {α : Type} {p : Op α} (hp : AllCalls (Innocent sr o) p) :
    Safe (retaining shape sr o) (fun _ _ => True) (fun _ _ => True) p w := by
  exact Prog.safe_keep hp (fun _ _ _ _ => trivial) (fun _ _ hc _ => hc.asserted)
    (fun _ _ _ _ _ _ _ _ _ => trivial) trivial

/-- An operation that is as harmless and makes no requests but such as workers make. -/
theorem safe_eroding {α : Type} {p : Op α} {Q : Graph → Prop} (hQ : Eroding Q) (hw : Q w.graph)
    (hp : AllCalls (fun c => Innocent sr o c ∧ ∀ r, reqOf sr c = some r → r.byWorker = true) p) :
    Safe (retaining shape sr o) (fun _ w => Q w.graph) (fun _ w => Q w.graph) p w := by
  refine Prog.safe_keep hp hQ.stable (fun _ _ hc _ => hc.1.asserted) ?_ hw
  intro s choice c reply after hc hs _ hhandle
  obtain hsame | ⟨r, hreq, happly⟩ := opHandle_graph hhandle
  · rwa [hsame]
  · exact hQ _ _ (erodes_of_byWorker (hc.2 r hreq) happly) hs

/-- One request: a condition that workers keep makes it harmless, and gives what holds after it. -/
theorem safe_asked {c : OpCall} {r : Req} (Q Q' : Graph → Prop) (hreq : reqOf sr c = some r)
    (hQ : Eroding Q) (hw : Q w.graph) (hharmless : ∀ g, Q g → Harmless o g r)
    (hgranted : ∀ g g', Q g → g.apply r = some g' → Q' g') :
    Safe (retaining shape sr o) (fun _ w => Q' w.graph) (fun _ w => Q w.graph) (perform c) w := by
  refine Prog.safe_perform hQ.stable hw (fun s hs => ⟨fun r' hreq' => ?_, fun job hjob => ?_⟩)
    (fun s choice result after hs _ hhandle => ?_) fun s choice error after hs _ hhandle => ?_
  · cases hreq.symm.trans hreq'
    exact hharmless s.graph hs
  · subst hjob
    cases hreq
  · exact hgranted _ _ hs (opHandle_ok hreq hhandle)
  · obtain ⟨rfl, -⟩ := opHandle_error hhandle
    exact hs

/-- One call, as a plain operation makes it. -/
theorem safe_performed {σ ι : Type} {W : Setting Volume.Exc OpCall OpCall.Result σ ι}
    {c : Volume.Call} {post : Volume.Result c → σ → Prop} {exc : Volume.Exc → σ → Prop} {s : σ}
    (h : Safe W post exc (perform (.call c)) s) :
    Safe (plain W) post exc (Volume.perform c) s := by
  intro before hmoves
  obtain ⟨hasserted, hrest⟩ := h before hmoves
  refine ⟨hasserted, fun choice reply after hallowed hhandle => ?_⟩
  have hafter := hrest choice reply after hallowed hhandle
  cases reply <;> exact hafter

end Rules

/-- The images have these sizes, where they are there. -/
def Graph.Sizes (g : Graph) (sizes : List (Spec × Nat)) : Prop :=
  ∀ entry ∈ sizes, ∀ img, g.images.lookup entry.1 = some img → img.size = entry.2

/-- The image has no snapshot of a user. -/
def Graph.Bare (g : Graph) (spec : Spec) : Prop :=
  ∀ img, g.images.lookup spec = some img → ∀ s ∈ img.snapshots, uuidMatch s.name = false

/-- A snapshot of this name is not protected. -/
def Graph.Loose (g : Graph) (spec : Spec) (snap : String) : Prop :=
  ∀ img, g.images.lookup spec = some img → ∀ s ∈ img.named snap, s.isProtected = false

section Conditions

/-- Workers change no sizes. -/
theorem eroding_sizes (sizes : List (Spec × Nat)) : Eroding fun g => g.Sizes sizes := by
  intro g g' herodes h entry hentry img' himg'
  obtain ⟨img, himg, hsize, -⟩ := herodes _ img' himg'
  rw [hsize]
  exact h entry hentry img himg

/-- Workers make no snapshots of users. -/
theorem eroding_bare (spec : Spec) : Eroding fun g => g.Bare spec := by
  intro g g' herodes h img' himg' s' hs'
  obtain ⟨img, himg, -, hsnaps⟩ := herodes _ img' himg'
  obtain ⟨s, hs, hname, -⟩ := hsnaps s' hs'
  rw [← hname]
  exact h img himg s hs

/-- Workers protect nothing. -/
theorem eroding_loose (spec : Spec) (snap : String) : Eroding fun g => g.Loose spec snap := by
  intro g g' herodes h img' himg' s' hs'
  obtain ⟨hmem, hnamed⟩ := List.mem_filter.mp hs'
  obtain ⟨img, himg, -, hsnaps⟩ := herodes _ img' himg'
  obtain ⟨s, hs, hname, hloose⟩ := hsnaps s' hmem
  exact hloose (h img himg s (List.mem_filter.mpr ⟨hs, hname ▸ hnamed⟩))

/-- Workers bring no snapshot back. -/
theorem eroding_noSnap (spec : Spec) (snap : String) : Eroding fun g => g.NoSnap spec snap := by
  intro g g' herodes h img' himg'
  obtain ⟨img, himg, -, hsnaps⟩ := herodes _ img' himg'
  have hnone := h img himg
  simp only [Image.named, List.filter_eq_nil_iff] at hnone ⊢
  intro s' hs'
  obtain ⟨s, hs, hname, -⟩ := hsnaps s' hs'
  exact hname ▸ hnone s hs

/-- A PUT with the size that an image has leaves the sizes. -/
theorem sizes_put {g g' : Graph} {sizes : List (Spec × Nat)} {spec : Spec}
    {body : Volume.PutBody} {size : Nat} (h : g.Sizes sizes) (hmem : (spec, size) ∈ sizes)
    (hbody : body.size = some size) (happly : g.apply (.put spec body) = some g') :
    g'.Sizes sizes := by
  intro entry hentry img' himg'
  obtain ⟨img, himg, hmap⟩ := Option.bind_eq_some_iff.mp happly
  obtain ⟨edited, hedit, rfl⟩ := Option.map_eq_some_iff.mp hmap
  cases hedit
  by_cases hsame : entry.1 = spec
  · rw [hsame] at himg'
    cases (AList.lookup_insert _).symm.trans himg'
    have hput : ∀ size', body.size = some size' → size' = img.size := by
      intro size' hsize'
      cases hbody.symm.trans hsize'
      exact (h (spec, size) hmem img himg).symm
    rw [(put_content hput).1]
    exact h entry hentry img (hsame ▸ himg)
  · dsimp only [Req.spec] at himg'
    rw [AList.lookup_insert_ne hsame] at himg'
    exact h entry hentry img' himg'

end Conditions

section Metadata

variable {shape : Shape} {sr : Sr} {o : Orders} {w : Cluster}

/-- A call that asks Ceph for nothing and queues nothing. -/
theorem innocent_quiet {c : OpCall} (hreq : reqOf sr c = none)
    (hjob : ∀ job, c ≠ .call (.gcSpawn job)) :
    Innocent sr o c ∧ ∀ r, reqOf sr c = some r → r.byWorker = true := by
  refine ⟨⟨fun r hr => ?_, fun job hc => absurd hc (hjob job)⟩, fun r hr => ?_⟩
  · rw [hreq] at hr
    cases hr
  · rw [hreq] at hr
    cases hr

/-- Reading an image: its size, and whether it has snapshots of users. -/
theorem safe_report (image : String) :
    Safe (retaining shape sr o)
      (fun info w => w.graph.Sizes [(sr.spec image, info.size)] ∧
        (realSnaps info = [] → w.graph.Bare (sr.spec image)))
      (fun _ _ => True) (opInfo image) w := by
  refine Prog.safe_perform (P := fun _ => True) (fun _ _ _ _ => trivial) trivial
    (fun _ _ => (innocent_quiet (c := .call (.imageInfo image)) rfl nofun).1.asserted) ?_
    fun _ _ _ _ _ _ _ => trivial
  intro s choice info after _ _ hhandle
  obtain ⟨rfl, img, himg, rfl⟩ := opHandle_info hhandle
  constructor
  · intro entry hentry img' himg'
    obtain rfl := List.mem_singleton.mp hentry
    cases himg.symm.trans himg'
    rfl
  · intro hreal img' himg' s hs
    cases himg.symm.trans himg'
    simp only [realSnaps, Graph.volumeInfo, List.map_map, List.filter_eq_nil_iff] at hreal
    have hname : s.name ∈ img.snapshots.map (Volume.SnapInfo.name ∘ fun t =>
        ({ name := t.name, size := t.size, isProtected := t.isProtected
           children := (after.graph.children ⟨img.id, t.id⟩).map shape.text } : Volume.SnapInfo)) :=
      List.mem_map.mpr ⟨s, hs, rfl⟩
    exact Bool.eq_false_iff.mpr (hreal s.name hname)

/-- `image_meta_set` with the size that the image has. -/
theorem safe_imageMetaSet {image : String} {size : Nat} {sizes : List (Spec × Nat)}
    (metadata : Volume.Desired) (hmem : (sr.spec image, size) ∈ sizes)
    (hw : w.graph.Sizes sizes) :
    Safe (plain (retaining shape sr o)) (fun _ w => w.graph.Sizes sizes)
      (fun _ w => w.graph.Sizes sizes) (Volume.RestBackend.imageMetaSet image metadata size) w := by
  have hread : ∀ w : Cluster, w.graph.Sizes sizes → Safe (plain (retaining shape sr o))
      (fun _ w => w.graph.Sizes sizes) (fun _ w => w.graph.Sizes sizes)
      (Volume.perform (.metaRead image)) w := by
    intro w hw
    exact safe_performed (safe_eroding (eroding_sizes sizes) hw
      (AllCalls.perform (innocent_quiet rfl nofun)))
  have hput : ∀ (current : Volume.Dict) (w : Cluster), w.graph.Sizes sizes →
      Safe (plain (retaining shape sr o)) (fun _ w => w.graph.Sizes sizes)
        (fun _ w => w.graph.Sizes sizes) (Volume.perform (.putImage image
          { size := some size, metadata := some (Volume.dropAbsent current metadata) })) w := by
    intro current w hw
    refine safe_performed (safe_asked (fun g => g.Sizes sizes) (fun g => g.Sizes sizes) rfl
      (eroding_sizes sizes) hw (fun g hg => ?_) fun g g' hg happly => ?_)
    · intro img size' himg hsize' hne
      cases hsize'
      exact absurd (hg _ hmem img himg).symm hne
    · exact sizes_put hg hmem rfl happly
  refine Prog.safe_bind (safe_except (Prog.safe_bind ((hread w hw).mono ?_ ?_)))
  · exact fun info w hw => hput info.metadata w hw
  · intro error w hw
    cases error with
    | backend error => exact hput ∅ w hw
    | unimplemented | calledProcess | other => exact hw

/-- `_rmw` writes the size that it read. -/
theorem safe_rmw (base : String) (mutate : Volume.Desired → Volume.Desired) :
    Safe (plain (retaining shape sr o)) (fun _ _ => True) (fun _ _ => True)
      (Volume.rmw base mutate) w := by
  refine Prog.safe_bind ((safe_performed (safe_report base)).mono (fun info w hinfo => ?_)
    fun _ _ h => h)
  exact (safe_imageMetaSet _ (List.mem_singleton.mpr rfl) hinfo.1).mono (fun _ _ _ => trivial)
    fun _ _ _ => trivial

end Metadata

section Operations

variable {shape : Shape} {sr : Sr} {o : Orders} {w : Cluster}

/-- The plain calls that are harmless in any state. -/
abbrev InnocentCall (sr : Sr) (o : Orders) (c : Volume.Call) : Prop := Innocent sr o (.call c)

/-- A plain operation all of whose calls are harmless in any state. -/
theorem safe_innocentPlain {α : Type} {p : Volume.Op α} (hp : AllCalls (InnocentCall sr o) p) :
    Safe (plain (retaining shape sr o)) (fun _ _ => True) (fun _ _ => True) p w :=
  Prog.safe_keep hp (fun _ _ _ _ => trivial) (fun _ _ hc _ => Innocent.asserted hc)
    (fun _ _ _ _ _ _ _ _ _ => trivial) trivial

/-- A plain call that asks Ceph for nothing and queues nothing. -/
theorem innocentCall_quiet {c : Volume.Call} (hreq : reqOf sr (.call c) = none)
    (hjob : ∀ job, c ≠ .gcSpawn job) : InnocentCall sr o c :=
  (innocent_quiet hreq fun job hc => hjob job (OpCall.call.inj hc)).1

/-- A plain call whose request is harmless in any state. -/
theorem innocentCall_req {c : Volume.Call} {r : Req} (hreq : reqOf sr (.call c) = some r)
    (hharmless : ∀ g, Harmless o g r) : InnocentCall sr o c := by
  refine ⟨fun r' hr' => ?_, fun job hjob => ?_⟩
  · cases hreq.symm.trans hr'
    exact hharmless
  · cases hjob
    cases hreq

/-- The removal of a companion is harmless. -/
theorem innocentCall_removeLog (base gen : String) :
    InnocentCall sr o (.remove (Volume.Cbtlog.companionName base gen)) := by
  refine innocentCall_req rfl fun g hkept => ?_
  cases hkept.2.symm.trans (isLog_companion base gen)

/-- `snapshot`'s creation of a snapshot with a new name. Where that fails, the snapshot is not there
or not protected, so that unprotecting it fails and nothing is removed. -/
theorem safe_takeSnap {base snap : String} (hbase : isTrash base = false)
    (hfresh : w.graph.NoSnap (sr.spec base) snap) :
    Safe (plain (retaining shape sr o)) (fun _ _ => True) (fun _ _ => True)
      (Volume.takeSnap base snap) w := by
  have hloose : ∀ g : Graph, g.NoSnap (sr.spec base) snap → g.Loose (sr.spec base) snap := by
    intro g hg img himg s hs
    rw [hg img himg] at hs
    cases hs
  have hcreated : ∀ g g' : Graph, g.NoSnap (sr.spec base) snap →
      g.apply (.snapCreate (sr.spec base) snap) = some g' → g'.Loose (sr.spec base) snap := by
    intro g g' hg happly img' himg' s hs
    obtain ⟨img, himg, hmap⟩ := Option.bind_eq_some_iff.mp happly
    obtain ⟨edited, hedit, rfl⟩ := Option.map_eq_some_iff.mp hmap
    obtain ⟨hnone, rfl⟩ := edit_snapCreate hedit
    cases (AList.lookup_insert _).symm.trans himg'
    obtain ⟨hmem, hname⟩ := List.mem_filter.mp hs
    obtain hold | hnew := List.mem_append.mp hmem
    · have : s ∈ img.named snap := List.mem_filter.mpr ⟨hold, hname⟩
      rw [hnone] at this
      cases this
    · obtain rfl := List.mem_singleton.mp hnew
      rfl
  have hcreate : Safe (plain (retaining shape sr o))
      (fun _ w => w.graph.Loose (sr.spec base) snap)
      (fun _ w => w.graph.NoSnap (sr.spec base) snap)
      (Volume.perform (.snapCreate base snap)) w :=
    safe_performed (safe_asked (fun g => g.NoSnap (sr.spec base) snap)
      (fun g => g.Loose (sr.spec base) snap) rfl (eroding_noSnap _ _) hfresh (fun _ _ => hbase)
      hcreated)
  have hprotect : ∀ w : Cluster, w.graph.Loose (sr.spec base) snap →
      Safe (plain (retaining shape sr o)) (fun _ _ => True)
        (fun _ w => w.graph.Loose (sr.spec base) snap)
        (Volume.perform (.snapSetProtected base snap true)) w :=
    fun w hw => safe_performed (safe_asked (fun g => g.Loose (sr.spec base) snap) (fun _ => True)
      rfl (eroding_loose _ _) hw (fun _ _ => trivial) fun _ _ _ _ => trivial)
  have hrefused : ∀ g g' : Graph, g.Loose (sr.spec base) snap →
      g.apply (.snapSetProtected (sr.spec base) snap false) = some g' → False := by
    intro g g' hg happly
    obtain ⟨img, himg, hmap⟩ := Option.bind_eq_some_iff.mp happly
    obtain ⟨edited, hedit, rfl⟩ := Option.map_eq_some_iff.mp hmap
    obtain ⟨hsome, hprotected, -⟩ := edit_snapSetProtected hedit
    obtain ⟨s, hs⟩ := List.exists_mem_of_ne_nil _ hsome
    have htrue := (hprotected s hs).1
    rw [hg img himg s hs] at htrue
    cases htrue
  have hundo : ∀ w : Cluster, w.graph.Loose (sr.spec base) snap →
      Safe (plain (retaining shape sr o)) (fun _ _ => False)
        (fun _ w => w.graph.Loose (sr.spec base) snap)
        (Volume.perform (.snapSetProtected base snap false)) w :=
    fun w hw => safe_performed (safe_asked (fun g => g.Loose (sr.spec base) snap) (fun _ => False)
      rfl (eroding_loose _ _) hw (fun _ _ => trivial) hrefused)
  refine safe_except_of (E := fun w => w.graph.Loose (sr.spec base) snap) (Prog.safe_bind
    (hcreate.mono (fun _ w hw => hprotect w hw) fun _ _ h => hloose _ h)) ?_ fun _ _ _ => trivial
  intro error w hw
  refine Prog.safe_bind (safe_except_of (E := fun _ => True) ?_ (fun _ _ _ => trivial)
    fun _ _ _ => trivial)
  exact Prog.safe_bind ((hundo w hw).mono (fun _ _ h => h.elim) fun _ _ _ => trivial)

/-- A new UUID is the name of no snapshot of the image. -/
theorem safe_uuid4 (base : String) :
    Safe (plain (retaining shape sr o)) (fun snap w => w.graph.NoSnap (sr.spec base) snap)
      (fun _ _ => True) (Volume.perform .uuid4) w := by
  intro before _
  refine ⟨(innocentCall_quiet (c := .uuid4) rfl nofun).asserted,
    fun choice reply after hallowed hhandle => ?_⟩
  cases choice with
  | fresh text =>
      obtain ⟨-, hpair⟩ := Option.ite_none_right_eq_some.mp hhandle
      cases hpair
      intro img himg
      have hunused := hallowed rfl text rfl (sr.spec base) img himg
      simpa [Image.named, List.filter_eq_nil_iff] using hunused.2
  | _ => cases hhandle

/-- `Volume.snapshot`. -/
theorem safe_snapshot (m : SrMeta) {key : String} (hbase : isTrash (splitKey key).1 = false) :
    Safe (plain (retaining shape sr o)) (fun _ _ => True) (fun _ _ => True)
      (Volume.snapshot m key) w := by
  unfold Volume.snapshot
  dsimp only
  split
  · trivial
  · refine Prog.safe_bind ((safe_uuid4 (splitKey key).1).mono (fun snap w hfresh => ?_)
      fun _ _ h => h)
    refine Prog.safe_bind ((safe_takeSnap hbase hfresh).mono (fun _ w _ => ?_) fun _ _ h => h)
    have hread : AllCalls (InnocentCall sr o) (Volume.readBase (splitKey key).1) :=
      allCalls_except (AllCalls.bind (AllCalls.perform (innocentCall_quiet rfl nofun))
        fun _ => trivial) fun _ => trivial
    refine Prog.safe_bind ((safe_innocentPlain hread).mono (fun base w _ => ?_) fun _ _ h => h)
    obtain ⟨size, metadata⟩ := base
    have hseed : Safe (plain (retaining shape sr o)) (fun _ _ => True) (fun _ _ => True)
        (Volume.seedNames (splitKey key).1 snap metadata) w := by
      unfold Volume.seedNames
      dsimp only
      split
      · exact safe_except_of (E := fun _ => True) (safe_rmw _ _) (fun _ _ _ => trivial)
          fun _ _ _ => trivial
      · trivial
    refine Prog.safe_bind (hseed.mono (fun _ w _ => ?_) fun _ _ h => h)
    have hrotateLog : Safe (plain (retaining shape sr o)) (fun _ _ => True) (fun _ _ => True)
        (Volume.rotateLog (splitKey key).1 snap metadata size) w := by
      have hrotate : AllCalls (InnocentCall sr o)
          (Volume.Cbtlog.rotate (splitKey key).1 snap metadata size) :=
        allCalls_rotate snap metadata size (fun _ => innocentCall_quiet)
          fun _ => innocentCall_req rfl fun _ => trivial
      unfold Volume.rotateLog
      split
      · refine Prog.safe_tryCatch (Prog.safe_bind ?_)
        exact (safe_innocentPlain hrotate).mono (fun _ w _ => safe_rmw _ _) fun _ _ h => h
      · trivial
    exact Prog.safe_bind (hrotateLog.mono (fun _ _ _ => trivial) fun _ _ h => h)

/-- `destroy` of a snapshot that was ordered. -/
theorem safe_destroyedSnap {base snap : String} (hordered : o.snap (sr.spec base) snap) :
    Safe (plain (retaining shape sr o)) (fun _ _ => True) (fun _ _ => True)
      (Volume.destroySnap base snap) w := by
  have hhas : AllCalls (InnocentCall sr o) (Volume.snapHasChildren base snap) := by
    refine allCalls_except (AllCalls.bind (AllCalls.perform (innocentCall_quiet rfl nofun))
      fun info => ?_) fun _ => trivial
    split <;> trivial
  have hremove : AllCalls (InnocentCall sr o) (Volume.removeSnap base snap) := by
    refine AllCalls.bind (allCalls_except (AllCalls.perform (innocentCall_req rfl
      fun _ => trivial)) fun _ => trivial) fun _ => ?_
    exact AllCalls.perform (innocentCall_req rfl fun _ _ => .inr hordered)
  have hrelease : AllCalls (InnocentCall sr o) (Volume.releaseSnap base snap) := by
    refine AllCalls.bind hhas fun children => ?_
    split
    · refine AllCalls.bind (AllCalls.perform (innocentCall_quiet rfl nofun)) fun uuid => ?_
      have hrename : InnocentCall sr o (.snapRename base snap (trashPrefix ++ uuid)) :=
        innocentCall_req rfl fun _ =>
          ⟨uuidMatch_of_trash (isTrash_append uuid), fun _ => hordered⟩
      refine AllCalls.bind (AllCalls.perform hrename) fun _ => AllCalls.perform ⟨nofun, ?_⟩
      intro job hjob
      cases hjob
      exact .inr ⟨rfl, _, rfl, isTrash_append uuid⟩
    · exact hremove
  have hpurge : ∀ w : Cluster, Safe (plain (retaining shape sr o)) (fun _ _ => True)
      (fun _ _ => True) (Volume.purgeSnapMeta base snap) w := fun w =>
    safe_except_of (E := fun _ => True) (safe_rmw _ _) (fun _ _ _ => trivial) fun _ _ _ => trivial
  have hdrop : ∀ w : Cluster, Safe (plain (retaining shape sr o)) (fun _ _ => True)
      (fun _ _ => True) (Volume.dropSealed base snap) w := by
    intro w
    refine safe_except_of (E := fun _ => True) ?_ (fun _ _ _ => trivial) fun _ _ _ => trivial
    refine Prog.safe_bind ((safe_performed (safe_report base)).mono (fun info w _ => ?_)
      fun _ _ h => h)
    split
    next gen _ =>
        split
        · trivial
        · have hlog : AllCalls (InnocentCall sr o) (Volume.Cbtlog.removeCompanion base gen) :=
            allCalls_removeCompanion (innocentCall_quiet rfl nofun)
              (innocentCall_removeLog base gen)
          exact Prog.safe_bind ((safe_innocentPlain hlog).mono (fun _ w _ => safe_rmw _ _)
            fun _ _ h => h)
    next => trivial
  refine safe_except_of (E := fun _ => True) ?_ (fun error _ _ => ?_) fun _ _ _ => trivial
  · refine Prog.safe_bind ((safe_innocentPlain hrelease).mono (fun _ w _ => ?_) fun _ _ h => h)
    exact Prog.safe_bind ((hpurge w).mono (fun _ w _ => hdrop w) fun _ _ h => h)
  · split <;> trivial

/-- The release of the host's holders asks Ceph for nothing. -/
theorem innocent_forceRelease (image : String) :
    AllCalls (Innocent sr o) (forceRelease image) := by
  refine AllCalls.tryCatch ?_ fun _ => trivial
  refine AllCalls.bind (AllCalls.perform (innocentCall_quiet rfl nofun)) fun mapped => ?_
  split
  · exact AllCalls.perform (innocentCall_quiet rfl nofun)
  · trivial

/-- `_release_and_remove` of an image that was ordered. -/
theorem innocent_releaseAndRemove {image : String} (hordered : o.base (sr.spec image)) :
    AllCalls (Innocent sr o) (releaseAndRemove image) := by
  have hremove : AllCalls (Innocent sr o) (perform (.call (.remove image))) :=
    AllCalls.perform (innocentCall_req rfl fun _ _ => hordered)
  refine AllCalls.bind (innocent_forceRelease image) fun _ => AllCalls.tryCatch hremove
    fun error => ?_
  cases error with
  | backend error =>
      dsimp only
      split
      · trivial
      · exact AllCalls.bind (innocent_forceRelease image) fun _ => hremove
  | unimplemented | calledProcess | other => trivial

/-- The removal of snapshots that are none of users. -/
theorem innocent_removeSnaps {base : String} {snaps : List String}
    (hsnaps : ∀ snap ∈ snaps, uuidMatch snap = false) :
    AllCalls (Innocent sr o) (removeSnaps base snaps) := by
  induction snaps with
  | nil => trivial
  | cons snap rest ih =>
      refine AllCalls.bind (allCalls_lift ?_) fun _ => ih fun s hs => hsnaps s
        (List.mem_cons_of_mem _ hs)
      refine AllCalls.bind (allCalls_except (AllCalls.perform (innocentCall_req rfl
        fun _ => trivial)) fun _ => trivial) fun _ => ?_
      refine AllCalls.perform (innocentCall_req rfl fun _ huuid => ?_)
      rw [hsnaps snap List.mem_cons_self] at huuid
      cases huuid

/-- The renaming to a trash name of an image that was ordered and has no snapshot of a user. -/
theorem safe_trashed {image : String} (hordered : o.base (sr.spec image))
    (hbare : w.graph.Bare (sr.spec image)) :
    Safe (retaining shape sr o) (fun _ _ => True) (fun _ _ => True) (trashImage image) w := by
  have huuid : Safe (retaining shape sr o) (fun _ w => w.graph.Bare (sr.spec image))
      (fun _ w => w.graph.Bare (sr.spec image)) uuid4 w :=
    safe_eroding (eroding_bare _) hbare (AllCalls.perform (innocent_quiet rfl nofun))
  refine Prog.safe_bind (huuid.mono (fun uuid w hw => ?_) fun _ _ _ => trivial)
  have hrename : Safe (retaining shape sr o) (fun _ _ => True)
      (fun _ w => w.graph.Bare (sr.spec image))
      (perform (.imageRename image (trashPrefix ++ uuid))) w :=
    safe_asked (fun g => g.Bare (sr.spec image)) (fun _ => True) rfl (eroding_bare _) hw
      (fun g hg => ⟨fun _ => hordered, hg⟩) fun _ _ _ _ => trivial
  refine Prog.safe_bind (hrename.mono (fun _ w _ => ?_) fun _ _ _ => trivial)
  refine safe_innocent (AllCalls.perform ⟨nofun, fun job hjob => ?_⟩)
  cases hjob
  exact .inl ⟨rfl, isTrash_append uuid⟩

/-- `destroy` of a base that was ordered, by other than a storage migration. -/
theorem safe_destroyedBase {base : String} (hordered : o.base (sr.spec base)) :
    Safe (retaining shape sr o) (fun _ _ => True) (fun _ _ => True) (destroyBase false base) w := by
  have hinfo : Safe (retaining shape sr o) (fun found w => ∀ info, found = some info →
      realSnaps info = [] → w.graph.Bare (sr.spec base)) (fun _ _ => True) (infoOrGone base) w := by
    refine safe_catch_of (E := fun _ => True) (Prog.safe_bind ((safe_report base).mono ?_
      fun _ _ h => h)) (fun error _ _ => ?_) fun _ _ _ => trivial
    · intro info w hreport info' heq
      cases heq
      exact hreport.2
    · split
      · exact nofun
      · trivial
  refine Prog.safe_bind (hinfo.mono (fun found w hfound => ?_) fun _ _ h => h)
  cases found with
  | none => exact safe_innocent (innocent_releaseAndRemove hordered)
  | some info =>
      dsimp only
      split
      · trivial
      next hreal =>
          have hreal : realSnaps info = [] := by simpa using hreal
          have hdrop : Safe (retaining shape sr o) (fun _ w => w.graph.Bare (sr.spec base))
              (fun _ w => w.graph.Bare (sr.spec base)) (dropCompanions base info.metadata) w := by
            refine safe_eroding (eroding_bare _) (hfound info rfl hreal) ?_
            unfold dropCompanions
            split
            · refine allCalls_lift (allCalls_removeAllCompanions _
                (fun gen => innocent_quiet rfl nofun)
                fun gen => ⟨innocentCall_removeLog base gen, fun r hr => ?_⟩)
              cases hr
              rfl
            · trivial
          refine Prog.safe_bind (hdrop.mono (fun _ w hbare => ?_) fun _ _ _ => trivial)
          unfold disposeBase
          split
          · exact safe_trashed hordered hbare
          · refine safe_innocent (AllCalls.bind (innocent_removeSnaps fun snap hsnap => ?_)
              fun _ => innocent_releaseAndRemove hordered)
            by_contra huuid
            have hmem : snap ∈ realSnaps info :=
              List.mem_filter.mpr ⟨hsnap, Bool.not_eq_false _ ▸ huuid⟩
            rw [hreal] at hmem
            cases hmem

/-- `Volume.create`. -/
theorem safe_create (m : SrMeta) (features : List String) (name description : String) (size : Nat)
    (sharable : Bool) :
    Safe (retaining shape sr o) (fun _ _ => True) (fun _ _ => True)
      (create m features name description size sharable) w := by
  have huuid : AllCalls (Innocent sr o) uuid4 := AllCalls.perform (innocentCall_quiet rfl nofun)
  refine Prog.safe_bind ((safe_innocent huuid).mono (fun vdi w _ => ?_) fun _ _ h => h)
  have hcreated : ∀ g g' : Graph, True → g.apply (.create (sr.spec vdi) size features) = some g' →
      g'.Sizes [(sr.spec vdi, size)] := by
    intro g g' _ happly entry hentry img himg
    obtain rfl := List.mem_singleton.mp hentry
    cases change_of_apply happly with
    | create hnew =>
        cases (AList.lookup_insert _).symm.trans himg
        rfl
    | edit himg hedit => cases hedit
  have hcreate : Safe (retaining shape sr o) (fun _ w => w.graph.Sizes [(sr.spec vdi, size)])
      (fun _ _ => True) (perform (.call (.create vdi size features))) w :=
    safe_asked (fun _ => True) (fun g => g.Sizes [(sr.spec vdi, size)]) rfl (fun _ _ _ h => h)
      trivial (fun _ _ => trivial) hcreated
  refine Prog.safe_bind (safe_catch_of (E := fun _ => True) (hcreate.mono (fun _ w hsizes => ?_)
    fun _ _ h => h) (fun _ _ _ => trivial) fun _ _ _ => trivial)
  dsimp only
  split
  · trivial
  · refine Prog.safe_bind (safe_catch_of (E := fun _ => True) ?_ (fun _ _ _ => trivial)
      fun _ _ _ => trivial)
    exact (safe_lift (safe_imageMetaSet _ (List.mem_singleton.mpr rfl) hsizes)).mono
      (fun _ _ _ => trivial) fun _ _ _ => trivial

/-- `Volume.clone`. -/
theorem innocent_clone (m : SrMeta) (features : List String) {key : String}
    (hbase : isTrash (splitKey key).1 = false) :
    AllCalls (Innocent sr o) (clone m features key) := by
  have hcatch : ∀ {α : Type} {p : Op α} {handler : BackendError → Op α},
      AllCalls (Innocent sr o) p → (∀ error, AllCalls (Innocent sr o) (handler error)) →
      AllCalls (Innocent sr o) (catchBackend p handler) := by
    intro α p handler hp hhandler
    refine AllCalls.tryCatch hp fun error => ?_
    cases error <;> first | exact hhandler _ | trivial
  have hclone : ∀ snap dst, AllCalls (Innocent sr o)
      (perform (.clone (splitKey key).1 snap dst features)) := by
    intro snap dst
    refine AllCalls.perform ⟨fun r hr g => ?_, nofun⟩
    cases hr
    trivial
  have hreq : ∀ {c : Volume.Call} {r : Req}, reqOf sr (.call c) = some r →
      (∀ g, Harmless o g r) → AllCalls (Innocent sr o) (perform (.call c)) :=
    fun hreq hharmless => AllCalls.perform (innocentCall_req hreq hharmless)
  have huuid : AllCalls (Innocent sr o) uuid4 := AllCalls.perform (innocentCall_quiet rfl nofun)
  have hsize : AllCalls (Innocent sr o) (sizeOf (splitKey key).1) :=
    hcatch (AllCalls.bind (AllCalls.perform (innocentCall_quiet rfl nofun)) fun _ => trivial)
      fun _ => trivial
  have hlive : ∀ dst, AllCalls (Innocent sr o) (cloneLive (splitKey key).1 dst features) := by
    intro dst
    refine AllCalls.bind huuid fun uuid => hcatch ?_ fun error => ?_
    · refine AllCalls.bind (hreq rfl fun _ => hbase) fun _ => ?_
      exact AllCalls.bind (hreq rfl fun _ => trivial) fun _ => hclone _ _
    · refine AllCalls.bind (hcatch ?_ fun _ => trivial) fun _ => trivial
      refine AllCalls.bind (hreq rfl fun _ => trivial) fun _ => hreq rfl fun _ hmatch => ?_
      cases (uuidMatch_transient uuid).symm.trans hmatch
  unfold clone
  dsimp only
  refine AllCalls.bind huuid fun dst => ?_
  split
  · exact AllCalls.bind (hlive dst) fun _ => AllCalls.bind hsize fun _ => trivial
  · refine AllCalls.bind (hcatch (hclone _ dst) fun _ => trivial) fun _ => ?_
    exact AllCalls.bind hsize fun _ => trivial

/-- `Volume.revert` of an image whose content is to be changed. -/
theorem innocent_revert (m : SrMeta) {key : String}
    (hordered : o.edited (sr.spec (splitKey key).1)) :
    AllCalls (InnocentCall sr o) (Volume.revert m key) := by
  have hstat : ∀ key, AllCalls (InnocentCall sr o) (Volume.stat m key) := by
    intro key
    unfold Volume.stat
    dsimp only
    refine AllCalls.bind (allCalls_except (AllCalls.perform (innocentCall_quiet rfl nofun))
      fun _ => trivial) fun info => ?_
    split
    · split <;> trivial
    · trivial
  unfold Volume.revert
  split
  · trivial
  next base snap hkey =>
      rw [hkey] at hordered
      refine AllCalls.bind (allCalls_except (AllCalls.perform (innocentCall_req rfl
        fun _ => hordered)) fun _ => trivial) fun _ => hstat base

/-- `Volume.resize` of an image whose content is to be changed. -/
theorem innocent_resize {key : String} (newSize : Nat)
    (hordered : o.edited (sr.spec (splitKey key).1)) :
    AllCalls (InnocentCall sr o) (Volume.resize key newSize) := by
  unfold Volume.resize
  dsimp only
  split
  · trivial
  · exact allCalls_except (AllCalls.perform (innocentCall_req rfl fun _ _ _ _ _ _ => hordered))
      fun _ => trivial

/-- The calls of `SR.ls` that leave what workers keep. -/
abbrev ErodingCall (sr : Sr) (o : Orders) (c : Volume.Call) : Prop :=
  Innocent sr o (.call c) ∧ ∀ r, reqOf sr (.call c) = some r → r.byWorker = true

/-- A plain operation that leaves what workers keep. -/
theorem safe_erodingPlain {α : Type} {p : Volume.Op α} {Q : Graph → Prop} (hQ : Eroding Q)
    (hw : Q w.graph) (hp : AllCalls (ErodingCall sr o) p) :
    Safe (plain (retaining shape sr o)) (fun _ w => Q w.graph) (fun _ w => Q w.graph) p w := by
  refine Prog.safe_keep hp hQ.stable (fun _ _ hc _ => Innocent.asserted hc.1) ?_ hw
  intro s choice c reply after hc hs _ hhandle
  obtain hsame | ⟨r, hreq, happly⟩ := opHandle_graph hhandle
  · rwa [hsame]
  · exact hQ _ _ (erodes_of_byWorker (hc.2 r hreq) happly) hs

/-- The re-queueing of a job of trash. -/
theorem eroding_requeue (targets : List Job) {job : Job} (hjob : TrashJob job) :
    AllCalls (ErodingCall sr o) (Volume.requeue targets job) := by
  unfold Volume.requeue
  split
  · trivial
  · refine AllCalls.bind (AllCalls.perform ⟨⟨nofun, fun job' heq => ?_⟩, nofun⟩) fun _ => trivial
    cases heq
    exact hjob

/-- `SR.ls`'s records of the snapshots of an image. -/
theorem eroding_lsSnapshots (m : SrMeta) (info : Volume.Info) (metadata : Volume.Dict)
    (targets : List Job) (snaps : List Volume.SnapInfo) :
    AllCalls (ErodingCall sr o) (Volume.lsSnapshots m info metadata targets snaps) := by
  induction snaps generalizing targets with
  | nil => trivial
  | cons snap rest ih =>
      unfold Volume.lsSnapshots
      split
      next htrash =>
          exact AllCalls.bind (eroding_requeue targets (.inr ⟨rfl, _, rfl, htrash⟩)) fun _ => ih _
      next =>
          split
          · exact AllCalls.bind (ih targets) fun _ => trivial
          · exact ih targets

/-- `SR.ls`'s records of the images of a listing, as long as they have the sizes that were
listed. -/
theorem safe_lsImages (m : SrMeta) (sizes : List (Spec × Nat)) (targets : List Job)
    (infos : List Volume.Info)
    (hinfos : ∀ info ∈ infos, (sr.spec info.name, info.size) ∈ sizes) (hw : w.graph.Sizes sizes) :
    Safe (plain (retaining shape sr o)) (fun _ _ => True) (fun _ _ => True)
      (Volume.lsImages m targets infos) w := by
  induction infos generalizing targets w with
  | nil => trivial
  | cons info rest ih =>
      have hrest : ∀ info ∈ rest, (sr.spec info.name, info.size) ∈ sizes :=
        fun info hinfo => hinfos info (List.mem_cons_of_mem _ hinfo)
      unfold Volume.lsImages
      split
      next htrash =>
          have hjob : TrashJob { kind := "image", image := info.name } := .inl ⟨rfl, htrash⟩
          refine Prog.safe_bind ((safe_erodingPlain (eroding_sizes sizes) hw
            (eroding_requeue targets hjob)).mono (fun targets' w hw => ?_) fun _ _ _ => trivial)
          exact ih targets' hrest hw
      next =>
          split
          · have hprune : Safe (plain (retaining shape sr o)) (fun _ w => w.graph.Sizes sizes)
                (fun _ _ => True) (Volume.pruneOrphans info) w := by
              unfold Volume.pruneOrphans
              dsimp only
              split
              · exact hw
              · refine safe_except_of (E := fun w => w.graph.Sizes sizes) (Prog.safe_bind ?_)
                  (fun _ _ h => h) fun _ _ _ => trivial
                exact safe_imageMetaSet _ (hinfos info List.mem_cons_self) hw
            refine Prog.safe_bind (hprune.mono (fun metadata w hw => ?_) fun _ _ h => h)
            refine Prog.safe_bind ((safe_erodingPlain (eroding_sizes sizes) hw
              (eroding_lsSnapshots m info metadata targets info.snapshots)).mono
              (fun found w hw => ?_) fun _ _ _ => trivial)
            refine Prog.safe_bind ((ih found.1 hrest hw).mono (fun _ _ _ => trivial) fun _ _ h => h)
          · exact ih targets hrest hw

/-- `SR.ls`. -/
theorem safe_ls (m : SrMeta) :
    Safe (plain (retaining shape sr o)) (fun _ _ => True) (fun _ _ => True) (Volume.ls m) w := by
  have hsweep : AllCalls (InnocentCall sr o) (Volume.perform .gcSweep) :=
    AllCalls.perform (innocentCall_quiet rfl nofun)
  refine Prog.safe_bind ((safe_innocentPlain hsweep).mono (fun targets w _ => ?_) fun _ _ h => h)
  refine Prog.safe_bind (safe_except_of (E := fun _ => True) ?_ (fun _ _ _ => trivial)
    fun _ _ _ => trivial)
  intro before _
  refine ⟨(innocentCall_quiet (c := .listImages) rfl nofun).asserted,
    fun choice reply after _ hhandle => ?_⟩
  cases reply with
  | error error => trivial
  | ok infos =>
      have hlisting : after = before ∧ infos = before.graph.listing shape sr := by
        cases choice with
        | ok =>
            cases hhandle
            exact ⟨rfl, rfl⟩
        | _ => cases hhandle
      obtain ⟨rfl, rfl⟩ := hlisting
      refine safe_lsImages m ((after.graph.listing shape sr).map fun info =>
        (sr.spec info.name, info.size)) targets _ (fun info hinfo => List.mem_map_of_mem hinfo) ?_
      intro entry hentry img himg
      obtain ⟨info, hinfo, rfl⟩ := List.mem_map.mp hentry
      obtain ⟨⟨spec, img'⟩, hmem, rfl⟩ := List.mem_map.mp hinfo
      obtain ⟨hentry', hours⟩ := List.mem_filter.mp hmem
      have hspec : sr.spec spec.image = spec := by
        simp only [Bool.and_eq_true, beq_iff_eq] at hours
        obtain ⟨pool, ns, image⟩ := spec
        obtain ⟨rfl, rfl⟩ := hours
        rfl
      have himg' : after.graph.images.lookup spec = some img' := AList.mem_lookup_iff.mpr hentry'
      dsimp only [Graph.volumeInfo] at himg
      rw [hspec, himg'] at himg
      cases himg
      rfl

end Operations

end XcpCephRbd.Gc
