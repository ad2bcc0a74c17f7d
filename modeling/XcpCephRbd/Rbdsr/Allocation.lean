import XcpCephRbd.Rbdsr.Deletion
import XcpCephRbd.Rbdsr.InStep

/-!
# The virtual allocation of the SR

`_updateStats` adds and subtracts what each operation makes and deletes, and `scan` counts
everything again. `allocation_exact_iff` says along which sequences of operations the two agree:
`snapshot` is the one operation that does not call `_updateStats`, while a scan counts snapshots.
-/

namespace XcpCephRbd.Rbdsr.Life

open Fault Prog
open Gc (Graph Image Snap Spec)
open Datapath (orDefault)
open Volume (BackendError Exc uuidMatch)

/-! ## The database and the inventory -/

/-- The size of the image that a record stands for. -/
def imageSize (record : Record) : Option Nat :=
    if record.isASnapshot then none else some record.size

/-- The records are those of the inventory: each image has one with its size, and each record of a
snapshot is one of a snapshot with its size. -/
structure Matches (inventory : String → Option Entry) (db : AList fun _ : String => Record) :
    Prop where
  image : ∀ uuid, (inventory uuid).map Entry.size = (db.lookup uuid).bind imageSize
  snap : ∀ uuid record, db.lookup uuid = some record → record.isASnapshot = true →
    ∃ base entry, record.snapshotOf = some base ∧ inventory base = some entry ∧
      (uuid, record.size) ∈ entry.snaps

section Matching

variable {inventory : String → Option Entry} {db : AList fun _ : String => Record}
  {uuid base : String} {entry : Entry} {record : Record}

/-- The record of an image of the inventory. -/
theorem Matches.find_record (h : Matches inventory db) (hentry : inventory uuid = some entry) :
    ∃ record, db.lookup uuid = some record ∧ record.isASnapshot = false ∧
      record.size = entry.size := by
  have hsize := h.image uuid
  rw [hentry, Option.map_some] at hsize
  obtain ⟨record, hrecord, himage⟩ := Option.bind_eq_some_iff.mp hsize.symm
  simp only [imageSize, Option.ite_none_left_eq_some, Option.some.injEq, Bool.not_eq_true] at himage
  exact ⟨record, hrecord, himage.1, himage.2⟩

/-- The image of a record. -/
theorem Matches.find_entry (h : Matches inventory db) (hrecord : db.lookup uuid = some record)
    (himage : record.isASnapshot = false) :
    ∃ entry, inventory uuid = some entry ∧ entry.size = record.size := by
  have hsize := h.image uuid
  rw [hrecord, Option.bind_some, imageSize, himage] at hsize
  obtain ⟨entry, hentry, heq⟩ := Option.map_eq_some_iff.mp hsize
  exact ⟨entry, hentry, heq⟩

/-- A snapshot is no image. -/
theorem Matches.no_image (h : Matches inventory db) (hrecord : db.lookup uuid = some record)
    (hsnap : record.isASnapshot = true) : inventory uuid = none := by
  have hsize := h.image uuid
  rw [hrecord, Option.bind_some, imageSize, hsnap, if_pos rfl] at hsize
  exact Option.map_eq_none_iff.mp hsize

/-- The other images and records are not touched. -/
theorem Matches.other (h : Matches inventory db) {other : String} (hother : other ≠ uuid)
    (found : Option Entry) (record : Record) :
    (Function.update inventory uuid found other).map Entry.size =
      ((db.insert uuid record).lookup other).bind imageSize := by
  rw [Function.update_of_ne hother, AList.lookup_insert_ne hother]
  exact h.image other

/-- A new image with its record. -/
theorem Matches.create (h : Matches inventory db) (hnew : uuid ∉ db) (size : Nat) :
    Matches (Function.update inventory uuid (some ⟨size, []⟩))
      (db.insert uuid { size := size }) := by
  have hlookup : db.lookup uuid = none := AList.lookup_eq_none.mpr hnew
  refine ⟨fun other => ?_, fun other record hrecord hsnap => ?_⟩
  · by_cases hother : other = uuid
    · subst hother
      rw [Function.update_self, AList.lookup_insert]
      rfl
    · exact h.other hother _ _
  · have hother : other ≠ uuid := by
      rintro rfl
      cases (AList.lookup_insert _).symm.trans hrecord
      cases hsnap
    rw [AList.lookup_insert_ne hother] at hrecord
    obtain ⟨base, entry, hof, hentry, hmem⟩ := h.snap other record hrecord hsnap
    have hbase : base ≠ uuid := by
      rintro rfl
      obtain ⟨own, hown, -⟩ := h.find_record hentry
      rw [hlookup] at hown
      cases hown
    exact ⟨base, entry, hof, by rwa [Function.update_of_ne hbase], hmem⟩

/-- A new snapshot with its record. -/
theorem Matches.snapshot (h : Matches inventory db) (hnew : uuid ∉ db)
    (hentry : inventory base = some entry) (hsnap : record.isASnapshot = true)
    (hof : record.snapshotOf = some base) (hsize : record.size = entry.size) :
    Matches (Function.update inventory base (some (entry.add uuid))) (db.insert uuid record) := by
  have hlookup : db.lookup uuid = none := AList.lookup_eq_none.mpr hnew
  have hbase : base ≠ uuid := by
    rintro rfl
    obtain ⟨own, hown, -⟩ := h.find_record hentry
    rw [hlookup] at hown
    cases hown
  refine ⟨fun other => ?_, fun other found hfound hfsnap => ?_⟩
  · by_cases hother : other = uuid
    · subst hother
      have himage := h.image other
      rw [hlookup] at himage
      rw [Function.update_of_ne (Ne.symm hbase), AList.lookup_insert, Option.bind_some, imageSize,
        if_pos hsnap, himage]
      rfl
    · rw [AList.lookup_insert_ne hother, ← h.image other]
      by_cases hsame : other = base
      · subst hsame
        rw [Function.update_self, hentry]
        rfl
      · rw [Function.update_of_ne hsame]
  · by_cases hother : other = uuid
    · subst hother
      cases (AList.lookup_insert _).symm.trans hfound
      refine ⟨base, entry.add other, hof, Function.update_self _ _ _, ?_⟩
      rw [hsize]
      exact List.mem_append_right _ (List.mem_singleton.mpr rfl)
    · rw [AList.lookup_insert_ne hother] at hfound
      obtain ⟨owner, oentry, hoof, hoentry, hmem⟩ := h.snap other found hfound hfsnap
      by_cases hsame : owner = base
      · subst hsame
        rw [hentry] at hoentry
        cases hoentry
        exact ⟨owner, entry.add uuid, hoof, Function.update_self _ _ _, List.mem_append_left _ hmem⟩
      · exact ⟨owner, oentry, hoof, by rwa [Function.update_of_ne hsame], hmem⟩

/-- An image of another size, with its record. -/
theorem Matches.resize (h : Matches inventory db) (hentry : inventory uuid = some entry)
    (hrecord : db.lookup uuid = some record) (size : Nat) :
    Matches (Function.update inventory uuid (some { entry with size := size }))
      (db.insert uuid { record with size := size }) := by
  obtain ⟨record', hrecord', himage, -⟩ := h.find_record hentry
  cases hrecord.symm.trans hrecord'
  refine ⟨fun other => ?_, fun other found hfound hfsnap => ?_⟩
  · by_cases hother : other = uuid
    · subst hother
      rw [Function.update_self, AList.lookup_insert, Option.bind_some, imageSize, himage]
      rfl
    · exact h.other hother _ _
  · have hother : other ≠ uuid := by
      rintro rfl
      cases (AList.lookup_insert _).symm.trans hfound
      rw [himage] at hfsnap
      cases hfsnap
    rw [AList.lookup_insert_ne hother] at hfound
    obtain ⟨owner, oentry, hoof, hoentry, hmem⟩ := h.snap other found hfound hfsnap
    by_cases hsame : owner = uuid
    · subst hsame
      rw [hentry] at hoentry
      cases hoentry
      exact ⟨owner, _, hoof, Function.update_self _ _ _, hmem⟩
    · exact ⟨owner, oentry, hoof, by rwa [Function.update_of_ne hsame], hmem⟩

/-- An image without snapshots is deleted, with its record. -/
theorem Matches.deleteImage (h : Matches inventory db) (hentry : inventory uuid = some entry)
    (hbare : entry.snaps = []) : Matches (Function.update inventory uuid none) (db.erase uuid) := by
  refine ⟨fun other => ?_, fun other found hfound hfsnap => ?_⟩
  · by_cases hother : other = uuid
    · subst hother
      rw [Function.update_self, AList.lookup_erase]
      rfl
    · rw [Function.update_of_ne hother, AList.lookup_erase_ne hother]
      exact h.image other
  · have hother : other ≠ uuid := by
      rintro rfl
      rw [AList.lookup_erase] at hfound
      cases hfound
    rw [AList.lookup_erase_ne hother] at hfound
    obtain ⟨owner, oentry, hoof, hoentry, hmem⟩ := h.snap other found hfound hfsnap
    have hsame : owner ≠ uuid := by
      rintro rfl
      cases hentry.symm.trans hoentry
      rw [hbare] at hmem
      cases hmem
    exact ⟨owner, oentry, hoof, by rwa [Function.update_of_ne hsame], hmem⟩

/-- A snapshot is deleted, with its record. -/
theorem Matches.deleteSnap (h : Matches inventory db) (hentry : inventory base = some entry)
    (hrecord : db.lookup uuid = some record) (hsnap : record.isASnapshot = true) :
    Matches (Function.update inventory base (some (entry.drop uuid))) (db.erase uuid) := by
  have hbase : uuid ≠ base := by
    rintro rfl
    rw [h.no_image hrecord hsnap] at hentry
    cases hentry
  refine ⟨fun other => ?_, fun other found hfound hfsnap => ?_⟩
  · by_cases hother : other = uuid
    · subst hother
      rw [Function.update_of_ne hbase, AList.lookup_erase, h.no_image hrecord hsnap]
      rfl
    · rw [AList.lookup_erase_ne hother, ← h.image other]
      by_cases hsame : other = base
      · subst hsame
        rw [Function.update_self, hentry]
        rfl
      · rw [Function.update_of_ne hsame]
  · have hother : other ≠ uuid := by
      rintro rfl
      rw [AList.lookup_erase] at hfound
      cases hfound
    rw [AList.lookup_erase_ne hother] at hfound
    obtain ⟨owner, oentry, hoof, hoentry, hmem⟩ := h.snap other found hfound hfsnap
    by_cases hsame : owner = base
    · subst hsame
      rw [hentry] at hoentry
      cases hoentry
      refine ⟨owner, entry.drop uuid, hoof, Function.update_self _ _ _, ?_⟩
      exact List.mem_filter.mpr ⟨hmem, by simpa using hother⟩
    · exact ⟨owner, oentry, hoof, by rwa [Function.update_of_ne hsame], hmem⟩

end Matching

/-! ## Operations -/

/-- A UUID. -/
abbrev Uuid := { text : String // Volume.isUuid text.toList = true }

/-- What XAPI asks of the driver. -/
inductive Operation where
  | create (uuid : Uuid) (size : Nat)
  | snapshot (uuid : String)
  | clone (uuid : String)
  | resize (uuid : String) (size : Nat)
  | delete (uuid : String)

/-- XAPI has a record of the VDI that it asks for. -/
def Operation.Known (db : AList fun _ : String => Record) : Operation → Prop
  | .create _ _ => True
  | .snapshot uuid | .clone uuid | .resize uuid _ | .delete uuid => uuid ∈ db

instance (db : AList fun _ : String => Record) (op : Operation) : Decidable (op.Known db) := by
  cases op <;> unfold Operation.Known <;> infer_instance

/-- The method, on an object that `load` fills. -/
def Operation.method (features : List String) : Operation → Py String
  | .create uuid size => Life.create features uuid.1 size
  | .snapshot uuid => do
      let self ← load uuid
      Life.snapshot self
  | .clone uuid => do
      let self ← load uuid
      Life.clone self features
  | .resize uuid size => do
      let self ← load uuid
      Life.resize self size
  | .delete uuid => do
      let self ← load uuid
      Life.delete self
      return uuid

/-- An operation, with the UUIDs that the host makes during it. -/
structure Label where
  op : Operation
  uuids : Nat → String

section Runs

variable (features : List String) (shape : Gc.Shape) (sr : Gc.Sr)

/-- The driver on a system in which no call is made to fail. -/
abbrev calm (uuids : Nat → String) : Armed Sys → (c : Call) →
    Option (Except Exc c.Result × Armed Sys) :=
  faulty shape sr (hostOf uuids) (.backend { message := "" }) "" 0

/-- One operation without failures: the state in which it returns. -/
def step (st : Sys) (label : Label) : Option Sys :=
  if label.op.Known st.db then
    match (label.op.method features).exec (calm shape sr label.uuids)
        { state := st, armed := false } with
    | some (.ok _, s) => some s.state
    | _ => none
  else none

variable {features shape sr} {st st' : Sys} {label : Label}

/-- A step is a call that returned. -/
theorem of_step (h : step features shape sr st label = some st') :
    label.op.Known st.db ∧ ∃ result s, (label.op.method features).exec (calm shape sr label.uuids)
      ⟨st, 0, false⟩ = some (.ok result, s) ∧ s.state = st' := by
  unfold step at h
  split at h
  next hknown =>
      refine ⟨hknown, ?_⟩
      split at h
      next result s hrun =>
          cases h
          exact ⟨result, s, hrun, rfl⟩
      next => cases h
  next => cases h

end Runs

/-- The figures that `_updateStats` sets. -/
def Sys.charge (st : Sys) (delta : Int) : Sys :=
  { st with allocation := (max 0 (st.allocation + delta)).toNat, physical := st.pool }

section Calm

variable {features : List String} {shape : Gc.Shape} {sr : Gc.Sr} {uuids : Nat → String}
  {st : Sys} {s : Armed Sys} {t : Nat} {uuid : String} {self : Vdi}

/-- `_updateStats` adds the delta to the allocation, which stays non-negative. -/
theorem run_charge (delta : Int) :
    (updateStats delta).exec (calm shape sr uuids) ⟨st, t, false⟩ =
      some (.ok (), ⟨st.charge delta, t + 3, false⟩) := by
  have hread : (MonadExcept.tryCatch (ask .getVirtualAllocation) fun _ => pure 0 : Py Nat).exec
      (calm shape sr uuids) ⟨st, t, false⟩ = some (.ok st.allocation, ⟨st, t + 1, false⟩) :=
    exec_tryCatch (ask_ok (.inl rfl) rfl)
  have hpool : (exceptBackend (ask .poolStats) fun _ => pure (0, 0) : Py (Nat × Nat)).exec
      (calm shape sr uuids) ⟨st, t + 1, false⟩ = some (.ok st.pool, ⟨st, t + 1 + 1, false⟩) :=
    exec_tryCatch (ask_ok (.inl rfl) rfl)
  have hset : (ask (.setStats (max 0 (st.allocation + delta)).toNat st.pool.1 st.pool.2)).exec
      (calm shape sr uuids) ⟨st, t + 1 + 1, false⟩ =
        some (.ok (), ⟨st.charge delta, t + 1 + 1 + 1, false⟩) := ask_ok (.inl rfl) rfl
  exact (exec_bind hread).trans ((exec_bind hpool).trans hset)

/-- `load` gives what the database has. -/
theorem run_load (uuid : String) :
    (load uuid).exec (calm shape sr uuids) ⟨st, t, false⟩ =
      some (.ok (Vdi.ofRecord uuid (st.db.lookup uuid)), ⟨st, t + 1, false⟩) := by
  have hread : (MonadExcept.tryCatch (ask (.loadVdi uuid)) fun _ => pure none :
      Py (Option Record)).exec (calm shape sr uuids) ⟨st, t, false⟩ =
        some (.ok (st.db.lookup uuid), ⟨st, t + 1, false⟩) :=
    exec_tryCatch (ask_ok (.inl rfl) rfl)
  exact (exec_bind hread).trans rfl

/-- A request of the backend that was not refused. -/
theorem of_ceph {c : Gc.OpCall} {r : Gc.Req} {result : c.Result}
    (h : (ceph c).exec (calm shape sr uuids) ⟨st, t, false⟩ = some (.ok result, s))
    (hc : Gc.isBackend c = true) (hreq : Gc.reqOf sr c = some r) :
    ∃ cluster, st.cluster.graph.apply r = some cluster.graph ∧
      s = ⟨{ st with cluster := cluster }, t + 1, false⟩ := by
  cases heffect : Gc.opEffect shape sr st.cluster c with
  | some pair =>
      obtain ⟨result', cluster⟩ := pair
      have hanswer : answer shape sr (honest (hostOf uuids)) t st (.gc c) =
          some (.ok result', { st with cluster := cluster }) := by
        rw [answer_gc hc, heffect]
      cases (ask_ok (.inl rfl) hanswer).symm.trans h
      rcases Gc.opEffect_graph heffect with ⟨r', hreq', happly⟩ | ⟨hnone, -⟩
      · cases hreq.symm.trans hreq'
        exact ⟨cluster, happly, rfl⟩
      · cases hreq.symm.trans hnone
  | none => cases (ceph_refuse hc (.inl rfl) heffect).symm.trans h

/-- A UUID of the host. -/
theorem of_genUuid (h : genUuid.exec (calm shape sr uuids) ⟨st, t, false⟩ = some (.ok uuid, s)) :
    Volume.isUuid uuid.toList = true ∧ s = ⟨st, t + 1, false⟩ := by
  by_cases huuid : Volume.isUuid (uuids t).toList = true
  · have hrun : genUuid.exec (calm shape sr uuids) ⟨st, t, false⟩ =
        some (.ok (uuids t), ⟨st, t + 1, false⟩) := run_genUuid rfl huuid
    cases hrun.symm.trans h
    exact ⟨huuid, rfl⟩
  · have hanswer : answer shape sr (honest (hostOf uuids)) t st (.gc (.call .uuid4)) =
        some (.error (.backend { message := "refused", notFound := false }), st) := by
      rw [answer, Gc.opAnswer, honest, if_neg (by decide)]
      simp only [hostOf, Gc.opHandle, huuid, Gc.opFound, Gc.reqOf]
      rfl
    cases (strike_miss (.inl rfl) hanswer).symm.trans (of_exec_perform h)

/-- A record that was introduced is new. -/
theorem of_introduce {record : Record} {handler : Exc → Py Unit}
    (h : (MonadExcept.tryCatch (ask (.dbIntroduce uuid record)) handler : Py Unit).exec
      (calm shape sr uuids) ⟨st, t, false⟩ = some (.ok (), s))
    (hraises : ∀ e, Raises (handler e)) :
    uuid ∉ st.db ∧ s = ⟨{ st with db := st.db.insert uuid record }, t + 1, false⟩ := by
  have hask := of_exec_tryCatch_raises hraises h
  by_cases hmem : uuid ∈ st.db
  · cases (ask_refused rfl (.inl rfl) (by rw [answer, if_pos hmem])).symm.trans hask
  · cases (ask_ok (.inl rfl) (by rw [answer, if_neg hmem])).symm.trans hask
    exact ⟨hmem, rfl⟩

/-- What a handler that re-raises was not needed for. -/
theorem of_rethrown {α : Type} {p : Py α} {value : α} {handler : BackendError → Py α}
    (h : (exceptBackend p handler).exec (calm shape sr uuids) ⟨st, t, false⟩ =
      some (.ok value, s)) (hraises : ∀ b, Raises (handler b)) :
    p.exec (calm shape sr uuids) ⟨st, t, false⟩ = some (.ok value, s) := by
  refine of_exec_tryCatch_raises (fun e => ?_) h
  cases e with
  | backend b => exact hraises b
  | unimplemented | calledProcess | other => trivial

/-- The undoing of a snapshot is followed by an error. -/
theorem raises_purge (base snap : String) (e : Exc) :
    Raises (do purgeSnapQuiet base snap; throw e : Py Unit) := raises_bind fun _ => trivial

end Calm

/-! ## What each operation does -/

/-- The cluster is well formed, and the records are those of the inventory. -/
structure Tracked (sr : Gc.Sr) (st : Sys) : Prop where
  wellFormed : st.cluster.graph.WellFormed
  records : Matches (inventory sr st.cluster.graph) st.db

/-- The records stay those of the inventory, the allocation changes by `delta`, and the sum over the
images by `change`. -/
structure Charged (sr : Gc.Sr) (delta change : Int) (st st' : Sys) : Prop where
  tracked : Tracked sr st'
  allocation : st'.allocation = (max 0 (st.allocation + delta)).toNat
  total : (total sr st'.cluster.graph : Int) = total sr st.cluster.graph + change

section Requests

variable {sr : Gc.Sr} {g g' : Graph} {base snap : String}

/-- A new snapshot, taken apart. -/
theorem of_snapCreate (h : g.apply (.snapCreate (sr.spec base) snap) = some g') :
    ∃ img s nextId, g.images.lookup (sr.spec base) = some img ∧ s.name = snap ∧
      s.size = img.size ∧ img.named s.name = [] ∧
      g' = { images := g.images.insert (sr.spec base) (img.withSnap s), nextId := nextId } := by
  obtain ⟨img, img', himg, hedit, rfl⟩ := of_edit _ h
  obtain ⟨hnamed, rfl⟩ := Gc.edit_snapCreate hedit
  exact ⟨img, _, _, himg, rfl, rfl, hnamed, rfl⟩

/-- A snapshot that is protected, taken apart. -/
theorem of_protect {img : Image}
    (h : g.apply (.snapSetProtected (sr.spec base) snap true) = some g')
    (himg : g.images.lookup (sr.spec base) = some img) :
    SameToScan sr g g' ∧ g'.images.lookup (sr.spec base) =
      some (img.mapSnap snap fun s => { s with isProtected := true }) := by
  have hw := (Gc.change_of_apply h).wellFormed trivial
  obtain ⟨img₀, img', himg₀, hedit, rfl⟩ := of_edit _ h
  cases himg.symm.trans himg₀
  obtain ⟨-, -, rfl⟩ := Gc.edit_snapSetProtected hedit
  have hentry : entryOf (img.mapSnap snap fun s => { s with isProtected := true }) = entryOf img :=
    entryOf_mapSnap (fun _ => rfl) fun _ => rfl
  exact ⟨sameToScan_insert himg hentry hw, AList.lookup_insert _⟩

end Requests

/-- The image that a record is named like is its own. -/
theorem Tracked.of_image {sr : Gc.Sr} {st : Sys} {uuid : String} {record : Record} {img : Image}
    (h : Tracked sr st) (hrecord : st.db.lookup uuid = some record)
    (himg : st.cluster.graph.images.lookup (sr.spec uuid) = some img) :
    uuidMatch uuid = true ∧ inventory sr st.cluster.graph uuid = some (entryOf img) ∧
      (entryOf img).size = record.size := by
  cases himage : record.isASnapshot with
  | false =>
      obtain ⟨entry, hentry, hsize⟩ := h.records.find_entry hrecord himage
      obtain ⟨huuid, img', himg', rfl⟩ := lookup_of_inventory hentry
      cases himg.symm.trans himg'
      exact ⟨huuid, hentry, hsize⟩
  | true =>
      obtain ⟨base, entry, -, hentry, hmem⟩ := h.records.snap uuid record hrecord himage
      obtain ⟨-, owner, -, rfl⟩ := lookup_of_inventory hentry
      obtain ⟨s, hs, hpair⟩ := List.mem_map.mp hmem
      have huuid : uuidMatch uuid = true := by
        rw [← (Prod.mk.inj hpair).1]
        exact (List.mem_filter.mp hs).2
      have hnone := h.records.no_image hrecord himage
      rw [inventory_of_lookup himg huuid] at hnone
      cases hnone

section Operations

variable {features : List String} {shape : Gc.Shape} {sr : Gc.Sr} {uuids : Nat → String}
  {st : Sys} {s : Armed Sys} {t : Nat} {uuid result : String} {record : Record}

/-- A new image with its record is charged. -/
theorem charged_new {g : Graph} {cluster : Gc.Cluster} {img : Image} {size nextId : Nat}
    (hst : Tracked sr st) (huuid : uuidMatch uuid = true) (hrecord : uuid ∉ st.db)
    (hsame : SameToScan sr st.cluster.graph g) (hnew : sr.spec uuid ∉ g.images)
    (hentry : entryOf img = ⟨size, []⟩)
    (hcluster : cluster.graph =
      { images := g.images.insert (sr.spec uuid) img, nextId := nextId })
    (hw : g.WellFormed → cluster.graph.WellFormed) :
    Charged sr size size st (Sys.charge { st with
      cluster := cluster, db := st.db.insert uuid { size := size } } size) := by
  refine ⟨⟨hw (hsame.wellFormed hst.wellFormed), ?_⟩, rfl, ?_⟩
  · show Matches (inventory sr cluster.graph) (st.db.insert uuid { size := size })
    rw [hcluster, inventory_insert, if_pos huuid, hentry, hsame.inventory]
    exact hst.records.create hrecord size
  · show ((total sr cluster.graph : Nat) : Int) = _
    rw [hcluster, total_new hnew, if_pos huuid, hentry, hsame.total]
    simp [Entry.weight]

/-- `create`. -/
theorem create_charged {size : Nat}
    (h : (create features uuid size).exec (calm shape sr uuids) ⟨st, t, false⟩ =
      some (.ok result, s)) (huuid : uuidMatch uuid = true) (hst : Tracked sr st) :
    Charged sr size size st s.state := by
  obtain ⟨_, between, hcreate, h⟩ := of_exec_bind_ok h
  obtain ⟨cluster, happly, rfl⟩ := of_ceph (of_rethrown hcreate fun _ => trivial) rfl rfl
  obtain ⟨_, between, hintroduce, h⟩ := of_exec_bind_ok h
  obtain ⟨hnew, rfl⟩ := of_introduce hintroduce fun e => raises_bind fun _ => trivial
  rw [exec_bind (run_charge _)] at h
  cases h
  have hname : Gc.Req.Named (.create (sr.spec uuid) size features) := by
    rintro rfl
    exact absurd huuid (by decide)
  have hw := (Gc.change_of_apply happly).wellFormed hname
  simp only [Graph.apply, Option.ite_none_left_eq_some, Option.some.injEq] at happly
  exact charged_new hst huuid hnew (.refl sr _) happly.1 rfl happly.2.symm hw

/-- The record of a new snapshot, of a VDI that has a record. -/
theorem of_introduceSnap {self : Vdi} {snap : String}
    (h : (introduceSnap self snap).exec (calm shape sr uuids) ⟨st, t, false⟩ =
      some (.ok (), s)) (hrecord : st.db.lookup self.uuid = some record) :
    snap ∉ st.db ∧ ∃ cbt t', s =
      ⟨{ st with db := st.db.insert snap (snapRecord self cbt) }, t', false⟩ := by
  rw [introduceSnap, exec_bind (run_load snap)] at h
  obtain ⟨ref, between, href, h⟩ := of_exec_bind_ok h
  have hmem : self.uuid ∈ st.db := AList.lookup_isSome.mp (Option.isSome_of_eq_some hrecord)
  cases (ask_ok (.inl rfl) (by rw [answer, if_pos hmem])).symm.trans href
  have hcbt : (MonadExcept.tryCatch (ask (.getCbtEnabled self.uuid)) fun _ => pure false :
      Py Bool).exec (calm shape sr uuids) ⟨st, t + 1 + 1, false⟩ =
        some (.ok record.cbtEnabled, ⟨st, t + 1 + 1 + 1, false⟩) :=
    exec_tryCatch (ask_ok (.inl rfl) (by rw [answer, hrecord]))
  rw [exec_bind hcbt] at h
  obtain ⟨hnew, rfl⟩ := of_introduce h fun e => raises_purge _ _ _
  exact ⟨hnew, _, _, rfl⟩

/-- `snapshot` of a VDI: the sum grows by its size, the allocation stays. -/
theorem snapshot_uncharged
    (h : (snapshot (Vdi.ofRecord uuid (some record))).exec (calm shape sr uuids) ⟨st, t, false⟩ =
      some (.ok result, s)) (hrecord : st.db.lookup uuid = some record) (hst : Tracked sr st) :
    Tracked sr s.state ∧ s.state.allocation = st.allocation ∧
      total sr s.state.cluster.graph = total sr st.cluster.graph + record.size := by
  have hself : (Vdi.ofRecord uuid (some record)).isASnapshot = record.isASnapshot := rfl
  cases himage : record.isASnapshot with
  | true =>
      rw [snapshot, hself, himage, if_pos rfl] at h
      cases h
  | false =>
      rw [snapshot, hself, himage, if_neg Bool.false_ne_true] at h
      obtain ⟨snap, between, hgen, h⟩ := of_exec_bind_ok h
      obtain ⟨hvalid, rfl⟩ := of_genUuid hgen
      obtain ⟨_, between, htake, h⟩ := of_exec_bind_ok h
      obtain ⟨_, between, hcreate, hprotect⟩ :=
        of_exec_bind_ok (of_rethrown htake fun _ => raises_purge _ _ _)
      obtain ⟨c₁, hcreated, rfl⟩ := of_ceph hcreate rfl rfl
      obtain ⟨c₂, hprotected, rfl⟩ := of_ceph hprotect rfl rfl
      obtain ⟨_, between, hintroduce, h⟩ := of_exec_bind_ok h
      cases h
      obtain ⟨hnew, cbt, t', rfl⟩ := of_introduceSnap hintroduce hrecord
      -- the entry of the VDI, before and after
      obtain ⟨entry, hentry, hsize⟩ := hst.records.find_entry hrecord himage
      obtain ⟨huuid, img, himg, hentryOf⟩ := lookup_of_inventory hentry
      have hsnap : uuidMatch result = true := Volume.uuidMatch_of_isUuid hvalid
      have happly : st.cluster.graph.apply (.snapCreate (sr.spec uuid) result) = some c₁.graph :=
        hcreated
      have hw := (Gc.change_of_apply happly).wellFormed trivial hst.wellFormed
      obtain ⟨img₀, made, nextId, himg₀, rfl, hmade, hnamed, hg₁⟩ := of_snapCreate happly
      cases himg.symm.trans himg₀
      have hadded : entryOf (img.withSnap made) = entry.add made.name := by
        rw [← hentryOf]
        exact (entryOf_snapCreate img made hmade).trans (if_pos hsnap)
      have hlookup : c₁.graph.images.lookup (sr.spec uuid) = some (img.withSnap made) := by
        rw [hg₁]
        exact AList.lookup_insert _
      obtain ⟨hsame, -⟩ := of_protect hprotected hlookup
      have hinventory : inventory sr c₂.graph =
          Function.update (inventory sr st.cluster.graph) uuid (some (entry.add made.name)) := by
        rw [hsame.inventory, hg₁, inventory_insert, if_pos huuid, hadded]
      refine ⟨⟨hsame.wellFormed hw, ?_⟩, rfl, ?_⟩
      · show Matches (inventory sr c₂.graph) _
        rw [hinventory]
        exact hst.records.snapshot hnew hentry rfl rfl hsize.symm
      · show total sr c₂.graph = _
        have hsum := total_insert himg (img.withSnap made) nextId
        rw [if_pos huuid, if_pos huuid, hadded, hentryOf, Entry.weight_add, hsize, ← hg₁] at hsum
        have htotal : total sr c₂.graph = total sr c₁.graph := hsame.total
        omega

/-- The clone of a snapshot has its size. -/
theorem of_clone {g g' : Graph} {base snap dst : String} {img : Image} {size : Nat}
    (h : g.apply (.clone (sr.spec base) snap (sr.spec dst) features) = some g')
    (himg : g.images.lookup (sr.spec base) = some img)
    (hsize : ∀ s ∈ img.named snap, s.size = size) :
    sr.spec dst ∉ g.images ∧ ∃ new nextId, entryOf new = ⟨size, []⟩ ∧
      g' = { images := g.images.insert (sr.spec dst) new, nextId := nextId } := by
  cases Gc.change_of_apply h with
  | edit _ hedit => cases hedit
  | @clone _ _ _ _ img' s himg' hs hnew hprotected =>
      cases himg.symm.trans himg'
      refine ⟨hnew, _, _, ?_, rfl⟩
      rw [entryOf, hsize s (List.mem_of_head? hs)]
      rfl

/-- The image of a clone, and the cluster in which it is cloned. -/
def Cloned (sr : Gc.Sr) (g₀ : Graph) (cluster : Gc.Cluster) (uuid : String) (size : Nat) : Prop :=
  ∃ g new nextId, SameToScan sr g₀ g ∧ sr.spec uuid ∉ g.images ∧ entryOf new = ⟨size, []⟩ ∧
    cluster.graph = { images := g.images.insert (sr.spec uuid) new, nextId := nextId } ∧
    (g.WellFormed → cluster.graph.WellFormed)

/-- What follows the image of a clone: its record, and the charge. -/
theorem charged_clone {self : Vdi} {transient : Option String} {cluster : Gc.Cluster}
    (h : (do
      introduceClone self transient uuid
      updateStats self.size
      return uuid : Py String).exec (calm shape sr uuids)
      ⟨{ st with cluster := cluster }, t, false⟩ =
        some (.ok result, s))
    (hcloned : Cloned sr st.cluster.graph cluster uuid self.size)
    (huuid : uuidMatch uuid = true) (hst : Tracked sr st) :
    Charged sr self.size self.size st s.state := by
  obtain ⟨g, new, nextId, hsame, hnew, hentry, hcluster, hw⟩ := hcloned
  obtain ⟨_, between, hintroduce, h⟩ := of_exec_bind_ok h
  rw [introduceClone, exec_bind (run_load uuid)] at hintroduce
  -- what the handler undoes, it raises the error again
  obtain ⟨hrecord, rfl⟩ := of_introduce hintroduce fun e => raises_bind fun _ => by
    cases transient with
    | some snap => exact raises_bind fun _ => trivial
    | none => trivial
  rw [exec_bind (run_charge _)] at h
  cases h
  exact charged_new hst huuid hrecord hsame hnew hentry hcluster hw

/-- The clone of a snapshot that has the size of its record. -/
theorem cloned_of_snap {self : Vdi} {base : String} {entry : Entry}
    (h : (cloneSnap self uuid features).exec (calm shape sr uuids) ⟨st, t, false⟩ =
      some (.ok (), s)) (huuid : uuidMatch uuid = true) (hst : Tracked sr st)
    (hparent : self.parentUuid = some base)
    (hentry : inventory sr st.cluster.graph base = some entry)
    (hmem : (self.uuid, self.size) ∈ entry.snaps) :
    ∃ cluster, s = ⟨{ st with cluster := cluster }, t + 1, false⟩ ∧
      Cloned sr st.cluster.graph cluster uuid self.size := by
  obtain ⟨cluster, happly, rfl⟩ := of_ceph (of_rethrown h fun _ => trivial) rfl rfl
  rw [hparent, Option.getD_some] at happly
  obtain ⟨-, img, himg, rfl⟩ := lookup_of_inventory hentry
  have hsize : ∀ s ∈ img.named self.uuid, s.size = self.size := by
    intro s hs
    obtain ⟨hs, hname⟩ := List.mem_filter.mp hs
    obtain ⟨s', hs', hpair⟩ := List.mem_map.mp hmem
    obtain ⟨hname', hsize'⟩ := Prod.mk.inj hpair
    have hunique := hst.wellFormed.unique _ _ himg
    have hsame : s = s' := List.inj_on_of_nodup_map hunique hs (List.mem_filter.mp hs').1
      ((beq_iff_eq.mp hname).trans hname'.symm)
    rw [hsame, hsize']
  have hnamed : Gc.Req.Named (.clone (sr.spec base) self.uuid (sr.spec uuid) features) := by
    rintro rfl
    exact absurd huuid (by decide)
  have hw := (Gc.change_of_apply happly).wellFormed hnamed
  obtain ⟨hnew, new, nextId, hnewEntry, hcluster⟩ := of_clone happly himg hsize
  exact ⟨cluster, rfl, st.cluster.graph, new, nextId, .refl sr _, hnew, hnewEntry, hcluster, hw⟩

/-- The clone of a live image through a transient snapshot. -/
theorem cloned_of_live {self : Vdi} {transient : String} {entry : Entry}
    (h : (cloneLive self (Gc.cloneSnapPrefix ++ transient) uuid features).exec
      (calm shape sr uuids) ⟨st, t, false⟩ = some (.ok (), s)) (huuid : uuidMatch uuid = true)
    (hentry : inventory sr st.cluster.graph self.uuid = some entry)
    (hsize : entry.size = self.size) :
    ∃ cluster, s = ⟨{ st with cluster := cluster }, t + 3, false⟩ ∧
      Cloned sr st.cluster.graph cluster uuid self.size := by
  obtain ⟨_, between, hcreate, h⟩ := of_exec_bind_ok (of_rethrown h fun _ => raises_purge _ _ _)
  obtain ⟨_, between, hprotect, hclone⟩ := of_exec_bind_ok h
  obtain ⟨c₁, hcreated, rfl⟩ := of_ceph hcreate rfl rfl
  obtain ⟨c₂, hprotected, rfl⟩ := of_ceph hprotect rfl rfl
  obtain ⟨cluster, happly, rfl⟩ := of_ceph hclone rfl rfl
  obtain ⟨huuid', img, himg, hentryOf⟩ := lookup_of_inventory hentry
  have hw₁ := (Gc.change_of_apply hcreated).wellFormed trivial
  obtain ⟨img₀, made, nextId, himg₀, hname, hmade, hnamed, hg₁⟩ := of_snapCreate hcreated
  cases himg.symm.trans himg₀
  -- the transient snapshot has no VDI's name, so a scan does not see it
  have hunseen : entryOf (img.withSnap made) = entryOf img := by
    refine (entryOf_snapCreate img made hmade).trans (if_neg ?_)
    rw [hname, Gc.uuidMatch_transient]
    exact Bool.false_ne_true
  rw [hg₁] at hw₁
  have hsame₁ := sameToScan_insert himg hunseen hw₁
  rw [← hg₁] at hsame₁
  have hlookup : c₁.graph.images.lookup (sr.spec self.uuid) = some (img.withSnap made) := by
    rw [hg₁]
    exact AList.lookup_insert _
  obtain ⟨hsame₂, hlookup₂⟩ := of_protect hprotected hlookup
  rw [← hname, Gc.mapSnap_withSnap _ hnamed] at hlookup₂
  have hall : ∀ s ∈ (img.withSnap { made with isProtected := true }).named
      (Gc.cloneSnapPrefix ++ transient), s.size = self.size := by
    intro s hs
    rw [← hname] at hs
    have hone : (img.withSnap { made with isProtected := true }).named made.name =
        [{ made with isProtected := true }] := Gc.named_withSnap hnamed
    rw [hone] at hs
    obtain rfl := List.mem_singleton.mp hs
    rw [← hsize, ← hentryOf]
    exact hmade
  have hreq : Gc.Req.Named (.clone (sr.spec self.uuid) (Gc.cloneSnapPrefix ++ transient)
      (sr.spec uuid) features) := by
    rintro rfl
    exact absurd huuid (by decide)
  have hw := (Gc.change_of_apply happly).wellFormed hreq
  obtain ⟨hnew, new, nextId', hnewEntry, hcluster⟩ := of_clone happly hlookup₂ hall
  exact ⟨cluster, rfl, c₂.graph, new, nextId', hsame₁.trans hsame₂, hnew, hnewEntry, hcluster, hw⟩

/-- `clone` of a VDI, snapshot or image, is charged with its size. -/
theorem clone_charged
    (h : (clone (Vdi.ofRecord uuid (some record)) features).exec (calm shape sr uuids)
      ⟨st, t, false⟩ = some (.ok result, s)) (hrecord : st.db.lookup uuid = some record)
    (hst : Tracked sr st) : Charged sr record.size record.size st s.state := by
  obtain ⟨dst, between, hgen, h⟩ := of_exec_bind_ok h
  obtain ⟨hvalid, rfl⟩ := of_genUuid hgen
  have huuid : uuidMatch dst = true := Volume.uuidMatch_of_isUuid hvalid
  have hself : (Vdi.ofRecord uuid (some record)).isASnapshot = record.isASnapshot := rfl
  dsimp only at h
  cases himage : record.isASnapshot with
  | true =>
      rw [hself, himage, if_pos rfl] at h
      obtain ⟨base, entry, hof, hentry, hmem⟩ := hst.records.snap uuid record hrecord himage
      obtain ⟨_, between, hsnap, h⟩ := of_exec_bind_ok h
      have hparent : (Vdi.ofRecord uuid (some record)).parentUuid = some base :=
        (if_pos himage).trans hof
      obtain ⟨cluster, rfl, hcloned⟩ := cloned_of_snap hsnap huuid hst hparent hentry hmem
      exact charged_clone h hcloned huuid hst
  | false =>
      rw [hself, himage, if_neg Bool.false_ne_true] at h
      obtain ⟨entry, hentry, hsize⟩ := hst.records.find_entry hrecord himage
      obtain ⟨transient, between, hgen', h⟩ := of_exec_bind_ok h
      obtain ⟨-, rfl⟩ := of_genUuid hgen'
      obtain ⟨_, between, hlive, h⟩ := of_exec_bind_ok h
      obtain ⟨cluster, rfl, hcloned⟩ := cloned_of_live hlive huuid hentry hsize
      exact charged_clone h hcloned huuid hst

/-- `resize` of a VDI is charged with the difference. -/
theorem resize_charged {size : Nat}
    (h : (resize (Vdi.ofRecord uuid (some record)) size).exec (calm shape sr uuids) ⟨st, t, false⟩ =
      some (.ok result, s)) (hrecord : st.db.lookup uuid = some record) (hst : Tracked sr st) :
    s.state = st ∧ size = record.size ∨
      Charged sr ((size : Int) - record.size) ((size : Int) - record.size) st s.state := by
  have hself : (Vdi.ofRecord uuid (some record)).size = record.size := rfl
  by_cases hsame : size = record.size
  · rw [resize, hself, if_pos hsame] at h
    cases h
    exact .inl ⟨rfl, hsame⟩
  · rw [resize, hself, if_neg hsame] at h
    obtain ⟨_, between, hput, h⟩ := of_exec_bind_ok h
    obtain ⟨cluster, happly, rfl⟩ := of_ceph (of_rethrown hput fun _ => trivial) rfl rfl
    have happly' : st.cluster.graph.apply (.put (sr.spec uuid) { size := some size }) =
        some cluster.graph := happly
    have hw := (Gc.change_of_apply happly').wellFormed trivial hst.wellFormed
    obtain ⟨img, img', himg, hedit, hgraph⟩ := of_edit _ happly'
    cases hedit
    obtain ⟨_, between, hupdate, h⟩ := of_exec_bind_ok h
    have hanswer : answer shape sr (honest (hostOf uuids)) (t + 1) { st with cluster := cluster }
        (.dbUpdate uuid size) = some (.ok (), { st with
          cluster := cluster, db := st.db.insert uuid { record with size := size } }) := by
      simp only [answer, hrecord]
    cases (ask_ok (.inl rfl) hanswer).symm.trans hupdate
    rw [exec_bind (run_charge _)] at h
    cases h
    obtain ⟨huuid, hentry, hsize⟩ := hst.of_image hrecord himg
    have hentryOf := entryOf_resize img size
    refine .inr ⟨⟨hw, ?_⟩, rfl, ?_⟩
    · show Matches (inventory sr cluster.graph) _
      have hinventory : inventory sr cluster.graph = Function.update
          (inventory sr st.cluster.graph) uuid (some { entryOf img with size := size }) := by
        rw [hgraph, ← hentryOf]
        exact (inventory_insert _ _ _ _).trans (by rw [if_pos huuid])
      rw [hinventory]
      exact hst.records.resize hentry hrecord size
    · show ((total sr cluster.graph : Nat) : Int) = _
      have hsum := total_insert himg (img.put { size := some size }) (st.cluster.graph.nextId + 1)
      dsimp only [Gc.Req.spec] at hgraph
      rw [if_pos huuid, if_pos huuid, hentryOf, ← hgraph] at hsum
      simp only [Entry.weight, hsize] at hsum
      omega

/-- What is modelled as calls on the backend runs as it does there. -/
theorem exec_ofGc {α : Type} (p : Gc.Op α) :
    (ofGc p).exec (calm shape sr uuids) ⟨st, t, false⟩ =
      (p.exec (Gc.faulty shape sr (hostOf uuids) (.backend { message := "" }) 0)
        ⟨st.cluster, t, false⟩).map
        fun (out, after) => (out, ⟨{ st with cluster := after.state }, after.time, false⟩) := by
  induction p generalizing st t with
  | ret value => rfl
  | raise error => rfl
  | call c resume ih =>
      have hcall : calm shape sr uuids ⟨st, t, false⟩ (.gc c) =
          (Gc.faulty shape sr (hostOf uuids) (.backend { message := "" }) 0
            ⟨st.cluster, t, false⟩ c).map
            fun (reply, after) =>
              (reply, ⟨{ st with cluster := after.state }, after.time, false⟩) := by
        simp only [calm, faulty, Gc.faulty, strike, Bool.false_and, Bool.false_eq_true, if_false,
          answer, Option.map_map]
        rfl
      rw [ofGc, exec, exec, hcall]
      cases hreply : Gc.faulty shape sr (hostOf uuids) (.backend { message := "" }) 0
        ⟨st.cluster, t, false⟩ c with
      | none => rfl
      | some pair =>
          obtain ⟨reply, ⟨w, t', armed⟩⟩ := pair
          have hunarmed : armed = false := by
            simp only [Gc.faulty, strike, Bool.false_and, Bool.false_eq_true, if_false] at hreply
            obtain ⟨_, -, heq⟩ := Option.map_eq_some_iff.mp hreply
            cases heq
            rfl
          subst hunarmed
          rw [Option.map_some, Option.bind_some, Option.bind_some]
          exact ih reply

/-- A deletion on the backend that returned. -/
theorem of_ofGc {p : Gc.Op Unit} {u : Unit}
    (h : (ofGc p).exec (calm shape sr uuids) ⟨st, t, false⟩ = some (.ok u, s)) :
    ∃ after, p.exec (Gc.faulty shape sr (hostOf uuids) (.backend { message := "" }) 0)
    ⟨st.cluster, t, false⟩ =
      some (.ok (), after) ∧ s = ⟨{ st with cluster := after.state }, after.time, false⟩ := by
  rw [exec_ofGc] at h
  obtain ⟨⟨out, after⟩, hrun, heq⟩ := Option.map_eq_some_iff.mp h
  cases heq
  exact ⟨after, hrun, rfl⟩

/-- The charge and the record of a VDI that was deleted. -/
theorem of_forget {u : Unit} {size : Nat}
    (h : (do
      updateStats (-(size : Int))
      ask (.dbForget uuid) : Py Unit).exec (calm shape sr uuids) ⟨st, t, false⟩ =
        some (.ok u, s)) :
    s.state = { st.charge (-(size : Int)) with db := st.db.erase uuid } := by
  rw [exec_bind (run_charge _)] at h
  cases (ask_ok (.inl rfl) rfl).symm.trans h
  rfl

/-- `delete` of a VDI, snapshot or image, is charged with its size. -/
theorem delete_charged {u : Unit}
    (h : (delete (Vdi.ofRecord uuid (some record))).exec (calm shape sr uuids) ⟨st, t, false⟩ =
      some (.ok u, s)) (hrecord : st.db.lookup uuid = some record) (hst : Tracked sr st) :
    Charged sr (-(record.size : Int)) (-(record.size : Int)) st s.state := by
  have hself : (Vdi.ofRecord uuid (some record)).isASnapshot = record.isASnapshot := rfl
  cases himage : record.isASnapshot with
  | true =>
      rw [delete, hself, himage, if_pos rfl] at h
      obtain ⟨_, between, hdelete, h⟩ := of_exec_bind_ok h
      obtain ⟨after, hrun, rfl⟩ := of_ofGc hdelete
      obtain ⟨base, entry, hof, hentry, hmem⟩ := hst.records.snap uuid record hrecord himage
      obtain ⟨huuid, img, himg, rfl⟩ := lookup_of_inventory hentry
      have hparent : (Vdi.ofRecord uuid (some record)).parentUuid = some base :=
        (if_pos himage).trans hof
      have hbase : base ≠ "" := by
        rintro rfl
        exact absurd huuid (by decide)
      rw [hparent, orDefault, if_neg hbase] at hrun
      have hnamed : uuid ∈ img.snapshots.map Snap.name := by
        obtain ⟨s, hs, hpair⟩ := List.mem_map.mp hmem
        exact List.mem_map.mpr ⟨s, (List.mem_filter.mp hs).1, (Prod.mk.inj hpair).1⟩
      have hdropped : Dropped sr base uuid img st.cluster.graph after.state.graph :=
        of_delete_snap hrun huuid himg hnamed
      have hunique := entryOf_nodup (hst.wellFormed.unique _ _ himg)
      have hweight := Entry.weight_drop hmem hunique
      have htotal := hdropped.total
      rw [of_forget h]
      refine ⟨⟨hdropped.wellFormed hst.wellFormed, ?_⟩, rfl, ?_⟩
      · show Matches (inventory sr after.state.graph) (st.db.erase uuid)
        rw [hdropped.inventory]
        exact hst.records.deleteSnap hentry hrecord himage
      · show ((total sr after.state.graph : Nat) : Int) = _
        omega
  | false =>
      rw [delete, hself, himage, if_neg Bool.false_ne_true] at h
      obtain ⟨_, between, hdelete, h⟩ := of_exec_bind_ok h
      obtain ⟨after, hrun, rfl⟩ := of_ofGc hdelete
      obtain ⟨entry, hentry, hsize⟩ := hst.records.find_entry hrecord himage
      obtain ⟨huuid, img, himg, rfl⟩ := lookup_of_inventory hentry
      obtain ⟨hbare, hdeleted⟩ := of_delete_image hrun huuid himg (hst.wellFormed.unique _ _ himg)
      have hweight : (entryOf img).weight = record.size := by
        rw [Entry.weight, hbare, hsize]
        rfl
      have htotal := hdeleted.total
      rw [of_forget h]
      refine ⟨⟨hdeleted.wellFormed hst.wellFormed, ?_⟩, rfl, ?_⟩
      · show Matches (inventory sr after.state.graph) (st.db.erase uuid)
        rw [hdeleted.inventory]
        exact hst.records.deleteImage hentry hbare
      · show ((total sr after.state.graph : Nat) : Int) = _
        omega

end Operations

/-! ## The allocation along a run -/

section Exact

variable {features : List String} {shape : Gc.Shape} {sr : Gc.Sr} {st st' : Sys} {label : Label}

/-- The state of the SR is what a scan leaves: the cluster is well formed, the records are those of
its images and snapshots, and the allocation is the figure of the scan. -/
structure Scanned (shape : Gc.Shape) (sr : Gc.Sr) (st : Sys) : Prop where
  tracked : Tracked sr st
  exact : st.allocation = scanAllocation (st.cluster.graph.listing shape sr)

/-- A snapshot is only taken of a VDI of size 0. -/
def Costless (st : Sys) (label : Label) : Prop :=
  ∀ uuid record, label.op = .snapshot uuid → st.db.lookup uuid = some record → record.size = 0

/-- A step keeps the records those of the inventory. From an exact allocation it leads to an exact
one just where it is not a snapshot that counts. -/
theorem step_exact (h : step features shape sr st label = some st') (hst : Tracked sr st)
    (hexact : st.allocation = total sr st.cluster.graph) :
    Tracked sr st' ∧ (st'.allocation = total sr st'.cluster.graph ↔ Costless st label) := by
  have hcharged : ∀ delta, Charged sr delta delta st st' → (∀ uuid, label.op ≠ .snapshot uuid) →
      Tracked sr st' ∧ (st'.allocation = total sr st'.cluster.graph ↔ Costless st label) := by
    intro delta hcharged hother
    have hallocation := hcharged.allocation
    have htotal := hcharged.total
    refine ⟨hcharged.tracked, fun _ uuid record hop _ => absurd hop (hother uuid), fun _ => ?_⟩
    omega
  obtain ⟨hknown, result, s, hrun, rfl⟩ := of_step h
  obtain ⟨op, uuids⟩ := label
  cases op with
  | create uuid size =>
      have huuid := Volume.uuidMatch_of_isUuid uuid.2
      exact hcharged _ (create_charged hrun huuid hst) nofun
  | snapshot uuid =>
      obtain ⟨record, hrecord⟩ := Option.isSome_iff_exists.mp (AList.lookup_isSome.mpr hknown)
      dsimp only [Operation.method] at hrun
      rw [exec_bind (run_load uuid), hrecord] at hrun
      obtain ⟨htracked, hallocation, htotal⟩ := snapshot_uncharged hrun hrecord hst
      refine ⟨htracked, fun hsame uuid' record' hop hrecord' => ?_, fun hcostless => ?_⟩
      · cases hop
        cases hrecord.symm.trans hrecord'
        omega
      · have hzero := hcostless uuid record rfl hrecord
        omega
  | clone uuid =>
      obtain ⟨record, hrecord⟩ := Option.isSome_iff_exists.mp (AList.lookup_isSome.mpr hknown)
      dsimp only [Operation.method] at hrun
      rw [exec_bind (run_load uuid), hrecord] at hrun
      exact hcharged _ (clone_charged hrun hrecord hst) nofun
  | resize uuid size =>
      obtain ⟨record, hrecord⟩ := Option.isSome_iff_exists.mp (AList.lookup_isSome.mpr hknown)
      dsimp only [Operation.method] at hrun
      rw [exec_bind (run_load uuid), hrecord] at hrun
      rcases resize_charged hrun hrecord hst with ⟨hsame, -⟩ | hresized
      · rw [hsame]
        exact ⟨hst, fun _ _ _ hop => (nomatch hop), fun _ => hexact⟩
      · exact hcharged _ hresized nofun
  | delete uuid =>
      obtain ⟨record, hrecord⟩ := Option.isSome_iff_exists.mp (AList.lookup_isSome.mpr hknown)
      dsimp only [Operation.method] at hrun
      rw [exec_bind (run_load uuid), hrecord] at hrun
      obtain ⟨_, between, hdelete, hret⟩ := of_exec_bind_ok hrun
      cases hret
      exact hcharged _ (delete_charged hdelete hrecord hst) nofun

/-- **The allocation is exact along a run just where no snapshot counts.** After a scan, and in
every state that a sequence of operations without failures leads to, the virtual allocation is what
a scan would compute, if and only if each snapshot of the sequence is of a VDI of size 0. -/
theorem allocation_exact_iff {labels : List Label} {final : Sys} (hst : Scanned shape sr st)
    (hrun : Run.run (step features shape sr) st labels = some final) :
    (∀ first mid, first <+: labels → Run.run (step features shape sr) st first = some mid →
      mid.allocation = scanAllocation (mid.cluster.graph.listing shape sr)) ↔
    Run.Along (step features shape sr) Costless st labels := by
  have hexact := hst.exact
  rw [scanAllocation_listing] at hexact
  simp only [scanAllocation_listing]
  exact Run.prefixes_iff_along (fun _ _ _ htracked hgood hstep => step_exact hstep htracked hgood)
    hst.tracked hexact hrun

end Exact

/-- An SR without images, before anything is created. -/
theorem empty_tracked (sr : Gc.Sr) :
    Tracked sr { cluster := { graph := { images := ∅ } }, db := ∅ } := by
  refine ⟨⟨nofun, nofun, nofun⟩, fun uuid => ?_, nofun⟩
  simp [inventory]

/-- The image of `oneVdi` and its record are as a scan leaves them. -/
theorem oneVdi_scanned : Scanned .rest ⟨"rbd", ""⟩ oneVdi := by
  have hempty := empty_tracked ⟨"rbd", ""⟩
  have huuid : uuidMatch "11111111-1111-1111-1111-111111111111" = true := by decide +kernel
  have hinventory : inventory ⟨"rbd", ""⟩ oneVdi.cluster.graph =
      Function.update (inventory ⟨"rbd", ""⟩ { images := ∅ }) "11111111-1111-1111-1111-111111111111"
        (some ⟨4194304, []⟩) :=
    (inventory_insert { images := ∅ } _ { id := 0, size := 4194304 } 1).trans (by
      rw [if_pos huuid]
      rfl)
  refine ⟨⟨hempty.wellFormed.insert (by decide) List.nodup_nil nofun, ?_⟩, by decide +kernel⟩
  rw [hinventory]
  exact hempty.records.create (AList.notMem_empty _) 4194304

/-- A VDI that is created, resized, cloned and deleted. -/
def busyDay : List Label :=
  [⟨.create ⟨"33333333-3333-3333-3333-333333333333", by decide⟩ 8192, fun _ => ""⟩,
    ⟨.resize "33333333-3333-3333-3333-333333333333" 12288, fun _ => ""⟩,
    ⟨.clone "33333333-3333-3333-3333-333333333333",
      fun _ => "44444444-4444-4444-4444-444444444444"⟩,
    ⟨.delete "11111111-1111-1111-1111-111111111111", fun _ => ""⟩]

/-- The allocation is exact all day, and so no snapshot counts. -/
theorem busyDay_exact :
    ∃ final, Run.run (step ["layering"] .rest ⟨"rbd", ""⟩) oneVdi busyDay = some final ∧
      (∀ first mid, first <+: busyDay →
        Run.run (step ["layering"] .rest ⟨"rbd", ""⟩) oneVdi first = some mid →
          mid.allocation = scanAllocation (mid.cluster.graph.listing .rest ⟨"rbd", ""⟩)) ∧
      Run.Along (step ["layering"] .rest ⟨"rbd", ""⟩) Costless oneVdi busyDay := by
  have hruns : (Run.run (step ["layering"] .rest ⟨"rbd", ""⟩) oneVdi busyDay).isSome = true := by
    decide +kernel
  have hprefixes : ∀ first ∈ busyDay.inits,
      ∀ mid ∈ Run.run (step ["layering"] .rest ⟨"rbd", ""⟩) oneVdi first,
        mid.allocation = scanAllocation (mid.cluster.graph.listing .rest ⟨"rbd", ""⟩) := by
    decide +kernel
  have hexact : ∀ first mid, first <+: busyDay →
      Run.run (step ["layering"] .rest ⟨"rbd", ""⟩) oneVdi first = some mid →
        mid.allocation = scanAllocation (mid.cluster.graph.listing .rest ⟨"rbd", ""⟩) :=
    fun first mid hfirst hmid => hprefixes first ((List.mem_inits _ _).mpr hfirst) mid hmid
  obtain ⟨final, hfinal⟩ := Option.isSome_iff_exists.mp hruns
  exact ⟨final, hfinal, hexact, (allocation_exact_iff oneVdi_scanned hfinal).mp hexact⟩

/-- After a snapshot of a VDI of 4 MiB the allocation is half of what a scan computes. -/
theorem snapshot_not_allocated :
    Scanned .rest ⟨"rbd", ""⟩ oneVdi ∧
      ∃ final, Run.run (step ["layering"] .rest ⟨"rbd", ""⟩) oneVdi
          [⟨.snapshot "11111111-1111-1111-1111-111111111111",
            fun _ => "22222222-2222-2222-2222-222222222222"⟩] = some final ∧
        final.allocation = 4194304 ∧
        scanAllocation (final.cluster.graph.listing .rest ⟨"rbd", ""⟩) = 8388608 := by
  have hrun : (Run.run (step ["layering"] .rest ⟨"rbd", ""⟩) oneVdi
      [⟨.snapshot "11111111-1111-1111-1111-111111111111",
        fun _ => "22222222-2222-2222-2222-222222222222"⟩]).any (fun final =>
          final.allocation == 4194304 &&
            scanAllocation (final.cluster.graph.listing .rest ⟨"rbd", ""⟩) == 8388608) = true := by
    decide +kernel
  obtain ⟨final, hfinal, htest⟩ := (Option.any_eq_true _ _).mp hrun
  simp only [Bool.and_eq_true, beq_iff_eq] at htest
  exact ⟨oneVdi_scanned, final, hfinal, htest⟩

end XcpCephRbd.Rbdsr.Life
