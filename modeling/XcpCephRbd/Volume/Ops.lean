import XcpCephRbd.Volume.Cbtlog

/-!
# The operations of the volume plugin

The `Volume.*` operations of `volume.py` that touch one image, and `SR.ls` of `sr.py`, as programs
over the single calls. Every writer of image-meta goes through `_rmw`, or, in `SR.ls`, hands what
the listing said to `image_meta_set`. The pool and the namespace, which are the same in all calls,
and the logging are left out; `destroy` is here for the key of a snapshot.
-/

namespace XcpCephRbd.Volume

open Datapath (SrMeta splitKey orDefault)
open Text (startsWith truthy)

/-- `be.image_info(pool, image)`. -/
def imageInfo (image : String) : Op Info := perform (.imageInfo image)

/-- `RestBackend.resize(pool, image, size)`. -/
def RestBackend.resize (image : String) (size : Nat) : Op Unit :=
  perform (.putImage image { size := some size })

/-- The desired dictionary with a null for every current key that it lacks. -/
def dropAbsent (current : Dict) (metadata : Desired) : Desired :=
  current.keys.foldr (fun key rest => if key ∈ metadata then rest else rest.insert key none)
    metadata

/-- What the dashboard's edit leaves under a key. -/
theorem lookup_setMetadata (metadata : Dict) (given : Desired) (key : String) :
    (Image.setMetadata metadata given).lookup key =
      (given.lookup key).getD (metadata.lookup key) := by
  show (given.entries.foldr _ metadata).lookup key =
    (given.entries.dlookup key).getD (metadata.lookup key)
  generalize given.entries = entries
  induction entries with
  | nil => rfl
  | cons entry rest ih =>
      obtain ⟨name, value⟩ := entry
      rw [List.foldr_cons]
      by_cases hkey : key = name
      · subst hkey
        rw [List.dlookup_cons_eq]
        cases value with
        | none => exact AList.lookup_erase _ _
        | some value => exact AList.lookup_insert _
      · rw [List.dlookup_cons_ne _ _ hkey, ← ih]
        cases value with
        | none => exact AList.lookup_erase_ne hkey
        | some value => exact AList.lookup_insert_ne hkey

/-- The desired dictionary has a null under the keys that it drops. -/
theorem lookup_dropAbsent (current : Dict) (metadata : Desired) (key : String) :
    (dropAbsent current metadata).lookup key =
      if key ∈ current ∧ key ∉ metadata then some none else metadata.lookup key := by
  have hfold : ∀ keys : List String,
      (keys.foldr (fun key rest => if key ∈ metadata then rest else rest.insert key none)
        metadata).lookup key =
      if key ∈ keys ∧ key ∉ metadata then some none else metadata.lookup key := by
    intro keys
    induction keys with
    | nil => simp
    | cons name rest ih =>
        rw [List.foldr_cons]
        by_cases hname : name ∈ metadata
        · rw [if_pos hname, ih]
          by_cases hkey : key = name
          · subst hkey
            simp [hname]
          · simp [hkey]
        · rw [if_neg hname]
          by_cases hkey : key = name
          · subst hkey
            simp [hname, AList.lookup_insert]
          · rw [AList.lookup_insert_ne hkey, ih]
            simp [hkey]
  exact (hfold current.keys).trans (if_congr Iff.rfl rfl rfl)

/-- The image-meta after `image_meta_set`, when nobody else writes it. -/
def replaced (current : Dict) (metadata : Desired) : Dict :=
  Image.setMetadata current (dropAbsent current metadata)

/-- `image_meta_set` replaces the whole dictionary. -/
theorem lookup_replaced (current : Dict) (metadata : Desired) (key : String) :
    (replaced current metadata).lookup key = (metadata.lookup key).join := by
  rw [replaced, lookup_setMetadata, lookup_dropAbsent]
  by_cases hmem : key ∈ metadata
  · obtain ⟨value, hvalue⟩ := Option.isSome_iff_exists.mp (AList.lookup_isSome.mpr hmem)
    simp [hmem, hvalue]
  · have hnone := AList.lookup_eq_none.mpr hmem
    by_cases hcur : key ∈ current
    · simp [hmem, hcur, hnone]
    · simp [hcur, hnone, AList.lookup_eq_none.mpr hcur]

/-- `RestBackend.image_meta_set(pool, image, metadata, size)`. -/
def RestBackend.imageMetaSet (image : String) (metadata : Desired) (size : Nat) : Op Unit := do
  let current : Dict ← exceptBackend (Info.metadata <$> perform (.metaRead image))
    fun _ => pure ∅
  perform (.putImage image { size := some size, metadata := some (dropAbsent current metadata) })

/-- `_rmw(be, pool, ns, base, mutate)`. -/
def rmw (base : String) (mutate : Desired → Desired) : Op Unit := do
  let info ← imageInfo base
  RestBackend.imageMetaSet base (mutate info.metadata.toDesired) info.size

/-- `Volume.set(dbg, sr, key, k, v)`. -/
def set (key k v : String) : Op Unit :=
  let (base, snap) := splitKey key
  rmw base fun m => m.insert ((metaNames snap).2.2 ++ k) (some v)

/-- `Volume.unset(dbg, sr, key, k)`. -/
def unset (key k : String) : Op Unit :=
  let (base, snap) := splitKey key
  rmw base fun m => m.erase ((metaNames snap).2.2 ++ k)

/-- `Volume.set_name(dbg, sr, key, new_name)`. -/
def setName (key newName : String) : Op Unit :=
  let (base, snap) := splitKey key
  rmw base fun m => m.insert (metaNames snap).1 (some newName)

/-- `Volume.set_description(dbg, sr, key, new_description)`. -/
def setDescription (key newDescription : String) : Op Unit :=
  let (base, snap) := splitKey key
  rmw base fun m => m.insert (metaNames snap).2.1 (some newDescription)

/-- `Volume.resize(dbg, sr, key, new_size)`. -/
def resize (key : String) (newSize : Nat) : Op Unit :=
  let (base, snap) := splitKey key
  if truthy snap then throw (.other "cannot resize a snapshot")
  else exceptBackend (RestBackend.resize base newSize) fun error =>
    throw (.other ("VDI resize failed: " ++ error.message))

/-- `Volume.data_destroy(dbg, sr, key)`. -/
def dataDestroy (key : String) : Op Unit :=
  match splitKey key with
  | (_, none) => throw (.other ("data_destroy target is not a snapshot: " ++ key))
  | (base, some snap) => rmw base fun m =>
      m.insert ("snap." ++ snap ++ ".cbt.data_destroyed") (some "1")

/-- `_cbt_key(snap)`. -/
def cbtKey (snap : Option String) : String :=
  match snap with
  | none => "cbt.enabled"
  | some snap => "snap." ++ snap ++ ".cbt.enabled"

/-- `_is_tapdisk_sr(dconf)`. -/
def isTapdiskSr (sr : SrMeta) : Bool := Text.lower (sr.datapath.getD "") == "tapdisk"

/-- The tapdisk route of `enable_cbt`, for a base that is not on yet. -/
def enableTapdisk (base : String) (size : Nat) : Op Unit := do
  let gen ← Cbtlog.createCompanion base size
  rmw base fun m => ((m.insert Cbtlog.kEnabled (some "1")).insert Cbtlog.kMode
    (some Cbtlog.modeTapdisk)).insert Cbtlog.kLive (some gen)
  exceptAny (do let _ ← Cbtlog.injectRunning base gen) (pure ())

/-- The rbd-diff route of `enable_cbt`. -/
def enableRbdDiff (base : String) (snap : Option String) : Op Unit := do
  let info ← imageInfo base
  if "fast-diff" ∈ info.featuresName then
    rmw base fun m => m.insert (cbtKey snap) (some "1")
  else
    throw (.other ("CBT requires fast-diff/object-map on the image " ++
      "(rbd_features 'performance'), or a datapath=tapdisk " ++
      "SR for the cbtlog route; this image is 'compat'"))

/-- `Volume.enable_cbt(dbg, sr, key)`. -/
def enableCbt (sr : SrMeta) (key : String) : Op Unit :=
  let (base, snap) := splitKey key
  if snap.isNone && isTapdiskSr sr then do
    let info ← imageInfo base
    if Cbtlog.isTapdisk info.metadata then pure ()
    else enableTapdisk base info.size
  else enableRbdDiff base snap

/-- The keys that `disable_cbt` clears on the tapdisk route. -/
def isCbtlogKey (key : String) : Bool :=
  key == Cbtlog.kEnabled || key == Cbtlog.kMode || key == Cbtlog.kLive ||
    startsWith key "cbt.snap."

/-- `Volume.disable_cbt(dbg, sr, key)`. -/
def disableCbt (key : String) : Op Unit :=
  let (base, snap) := splitKey key
  let clear := rmw base fun m => m.erase (cbtKey snap)
  if snap.isNone then do
    let info ← imageInfo base
    if Cbtlog.isTapdisk info.metadata then do
      Cbtlog.removeAllCompanions base info.metadata
      rmw base fun m => filterKeys m fun key => !isCbtlogKey key
    else clear
  else clear

/-- `gcjob.TRASH_PREFIX`. -/
def trashPrefix : String := "xcp-trash-"

/-- `_snap_has_children(be, pool, ns, base_image, snap_name)`. -/
def snapHasChildren (base snap : String) : Op Bool :=
  exceptBackend (do
    let info ← imageInfo base
    match info.snapshots.find? fun s => s.name == snap with
    | some s => return !s.children.isEmpty
    | none => return false) fun _ => pure false

/-- `_remove_snap(be, pool, ns, base_image, snap_name)`. -/
def removeSnap (base snap : String) : Op Unit := do
  exceptBackend (perform (.snapSetProtected base snap false)) fun _ => pure ()
  perform (.snapRemove base snap)

/-- `_purge_snap_meta(be, pool, ns, base, snap)`. -/
def purgeSnapMeta (base snap : String) : Op Unit :=
  exceptBackend (rmw base fun m => filterKeys m fun key => !startsWith key (snapMetaPrefix snap))
    fun _ => pure ()

/-- `destroy`'s removal of the companion sealed to the snapshot. -/
def dropSealed (base snap : String) : Op Unit :=
  exceptBackend (do
    let info ← imageInfo base
    match Cbtlog.sealedGen info.metadata snap with
    | some gen =>
        if gen = "" then pure ()
        else do
          Cbtlog.removeCompanion base gen
          rmw base fun m => m.erase (Cbtlog.snapKey snap)
    | none => pure ()) fun _ => pure ()

/-- `destroy`'s removal of the snapshot itself: one with clones is renamed out of the UUID space and
left to the GC. -/
def releaseSnap (base snap : String) : Op Unit := do
  let children ← snapHasChildren base snap
  if children then do
    let uuid : String ← perform .uuid4
    perform (.snapRename base snap (trashPrefix ++ uuid))
    perform (.gcSpawn { kind := "snap", image := base, snap := some (trashPrefix ++ uuid) })
  else removeSnap base snap

/-- `Volume.destroy(dbg, sr, key)` of a snapshot. -/
def destroySnap (base snap : String) : Op Unit :=
  exceptBackend (do
    releaseSnap base snap
    purgeSnapMeta base snap
    dropSealed base snap) fun error =>
      if error.notFound then pure () else throw (.other ("VDI destroy failed: " ++ error.message))

/-- `snapshot`'s creation of the protected RBD snapshot, undone where it fails. -/
def takeSnap (base snap : String) : Op Unit :=
  exceptBackend (do
    perform (.snapCreate base snap)
    perform (.snapSetProtected base snap true)) fun error => do
      exceptBackend (do
        perform (.snapSetProtected base snap false)
        perform (.snapRemove base snap)) fun _ => pure ()
      throw (.other ("VDI snapshot failed: " ++ error.message))

/-- What `snapshot` reads of the base: its size and its image-meta. -/
def readBase (base : String) : Op (Nat × Dict) :=
  exceptBackend (do
    let info ← imageInfo base
    return (info.size, info.metadata)) fun _ => pure (0, ∅)

/-- The values that `_seed` sets. -/
def seedValue (m : Desired) (key : String) (value : Option String) : Desired :=
  if truthy value then m.insert key value else m

/-- `snapshot`'s metadata seed: the snapshot inherits the base's name and description. -/
def seedNames (base snap : String) (metadata : Dict) : Op Unit :=
  let baseName := metadata.lookup (metaNames none).1
  let baseDesc := metadata.lookup (metaNames none).2.1
  if truthy baseName || truthy baseDesc then
    exceptBackend (rmw base fun m =>
      seedValue (seedValue m (metaNames (some snap)).1 baseName) (metaNames (some snap)).2.1
        baseDesc) fun _ => pure ()
  else pure ()

/-- `m.update(updates)`. -/
def updateWith (m : Desired) (updates : List (String × Option String)) : Desired :=
  updates.foldl (fun m update => m.insert update.1 update.2) m

/-- `snapshot`'s rotation of the log. -/
def rotateLog (base snap : String) (metadata : Dict) (size : Nat) : Op Unit :=
  if Cbtlog.isTapdisk metadata then
    exceptAny (do
      let updates ← Cbtlog.rotate base snap metadata size
      rmw base fun m => updateWith m updates) (pure ())
  else pure ()

/-- The volume record of a new snapshot. -/
def snapRecord (sr : SrMeta) (base snap : String) (metadata : Dict) (size : Nat) : VolumeDict :=
  volumeDict sr.srUuid (snapKey base snap) snap
    (orDefault (metadata.lookup (metaNames none).1) snap)
    (orDefault (metadata.lookup (metaNames none).2.1) "") size
    { readWrite := false, cbtEnabled := cbtIsOn metadata }

/-- `Volume.snapshot(dbg, sr, key)`. -/
def snapshot (sr : SrMeta) (key : String) : Op VolumeDict :=
  let (base, existing) := splitKey key
  if truthy existing then throw (.other "cannot snapshot a snapshot")
  else do
    let snap : String ← perform .uuid4
    takeSnap base snap
    let (size, metadata) ← readBase base
    seedNames base snap metadata
    rotateLog base snap metadata size
    return snapRecord sr base snap metadata size

/-- The record that `stat` and `SR.ls` give of a base. -/
def baseRecord (sr : SrMeta) (info : Info) (metadata : Dict) (used : Nat) : VolumeDict :=
  let (name, desc, keys) := metaView metadata none info.name
  volumeDict sr.srUuid info.name info.name name desc info.size
    { physicalUtilisation := used, keys := keys, cbtEnabled := cbtIsOn metadata }

/-- The record that `stat` and `SR.ls` give of a snapshot. -/
def statSnapRecord (sr : SrMeta) (base snap : String) (metadata : Dict) (size : Nat) :
    VolumeDict :=
  let (name, desc, keys) := metaView metadata (some snap) snap
  volumeDict sr.srUuid (snapKey base snap) snap name desc size
    { readWrite := false, keys := keys, cbtEnabled := cbtIsOn metadata }

/-- `Volume.stat(dbg, sr, key)`. -/
def stat (sr : SrMeta) (key : String) : Op VolumeDict := do
  let (base, snap) := splitKey key
  let info ← exceptBackend (imageInfo base) fun error =>
    throw (.other ("VDI stat failed: " ++ error.message))
  match snap with
  | some snap =>
      if snap = "" then return baseRecord sr info info.metadata info.diskUsage
      else
        let size := match info.snapshots.find? fun s => s.name == snap with
          | some s => s.size
          | none => info.size
        return statSnapRecord sr base snap info.metadata size
  | none => return baseRecord sr info info.metadata info.diskUsage

/-- `Volume.revert(dbg, sr, snapshot, key)`. -/
def revert (sr : SrMeta) (snapshotKey : String) : Op VolumeDict :=
  match splitKey snapshotKey with
  | (_, none) => throw (.other ("revert target is not a snapshot: " ++ snapshotKey))
  | (base, some snap) => do
      exceptBackend (perform (.snapRollback base snap)) fun error =>
        throw (.other ("VDI revert failed: " ++ error.message))
      stat sr base

/-- `SR.ls`'s prune of the keys of snapshots that are gone; the metadata to go on with. -/
def pruneOrphans (info : Info) : Op Dict :=
  let orphans := orphanSnapMetaKeys info.metadata (info.snapshots.map SnapInfo.name)
  let kept := filterKeys info.metadata fun key => !orphans.contains key
  if orphans.isEmpty then pure info.metadata
  else exceptBackend (do
    RestBackend.imageMetaSet info.name (Dict.toDesired kept) info.size
    return kept) fun _ => pure info.metadata

/-- Queue a GC job for a trashed object that has none; the targets known afterwards. -/
def requeue (targets : List Job) (job : Job) : Op (List Job) :=
  if job ∈ targets then pure targets
  else do
    perform (.gcSpawn job)
    return job :: targets

/-- `SR.ls`'s records of the snapshots of one image. -/
def lsSnapshots (sr : SrMeta) (info : Info) (metadata : Dict) :
    List Job → List SnapInfo → Op (List Job × List VolumeDict)
  | targets, [] => pure (targets, [])
  | targets, snap :: snaps =>
      if startsWith snap.name trashPrefix then do
        let targets ← requeue targets
          { kind := "snap", image := info.name, snap := some snap.name }
        lsSnapshots sr info metadata targets snaps
      else if uuidMatch snap.name then do
        let (targets, records) ← lsSnapshots sr info metadata targets snaps
        let size := if snap.size = 0 then info.size else snap.size
        return (targets, statSnapRecord sr info.name snap.name metadata size :: records)
      else lsSnapshots sr info metadata targets snaps

/-- `SR.ls`'s records of the images of a listing. -/
def lsImages (sr : SrMeta) : List Job → List Info → Op (List VolumeDict)
  | _, [] => pure []
  | targets, info :: infos =>
      if startsWith info.name trashPrefix then do
        let targets ← requeue targets { kind := "image", image := info.name }
        lsImages sr targets infos
      else if uuidMatch info.name then do
        let metadata ← pruneOrphans info
        let used := if info.totalDiskUsage = 0 then info.diskUsage else info.totalDiskUsage
        let (targets, records) ← lsSnapshots sr info metadata targets info.snapshots
        let rest ← lsImages sr targets infos
        return baseRecord sr info metadata used :: records ++ rest
      else lsImages sr targets infos

/-- `SR.ls(dbg, sr)`. -/
def ls (sr : SrMeta) : Op (List VolumeDict) := do
  let targets : List Job ← perform .gcSweep
  let images : List Info ← exceptBackend (perform .listImages) fun error =>
    throw (.other ("SR.ls failed: " ++ error.message))
  lsImages sr targets images

/-- The blocks of `[offset, offset + length)` that an extent touches, counted from `offset`. -/
def extentBlocks (offset length block : Nat) (d : Extent) : List Nat :=
  let s := max d.offset offset
  let e := min (d.offset + d.length) (offset + length)
  if !d.present || e ≤ s then []
  else List.range' ((s - offset) / block) ((e - 1 - offset) / block + 1 - (s - offset) / block)

/-- `rbdvol_lib.changed_bitmap(diffs, offset, length)`. -/
def changedBitmap (diffs : List Extent) (offset length : Nat) : String :=
  let nblocks := (length + Cbtlog.cbtBlock - 1) / Cbtlog.cbtBlock
  Base64.encode (diffs.foldl (fun bits d =>
    Bitmap.markAll bits (extentBlocks offset length Cbtlog.cbtBlock d))
      (Bitmap.zeros ((nblocks + 7) / 8)))

/-- What `list_changed_blocks` returns. -/
structure ChangedBlocks where
  granularity : Nat
  bitmap : String
  deriving DecidableEq, Repr

/-- The length that `list_changed_blocks` works with: a negative one means up to the end. -/
def clampLength (size offset : Nat) (length : Int) : Nat :=
  let rest : Int := size - offset
  (max 0 (min (if length < 0 then rest else length) rest)).toNat

/-- The rbd-diff route of `list_changed_blocks`. -/
def rbdDiffBlocks (base : String) (fromSnap toSnap : Option String) (offset length : Nat)
    (whole : Bool) : Op ChangedBlocks := do
  let diffs : List Extent ← exceptBackend
    (perform (.imageDiff base fromSnap toSnap offset length whole)) fun error =>
      if error.notSupported then
        throw (.unimplemented ("Volume.list_changed_blocks: " ++ error.message))
      else throw (.other ("list_changed_blocks failed: " ++ error.message))
  return { granularity := Cbtlog.cbtBlock, bitmap := changedBitmap diffs offset length }

/-- `Volume.list_changed_blocks(dbg, sr, key, key2, offset, length)`; `whole` is the SR's
`cbt_whole_object`. -/
def listChangedBlocks (whole : Bool) (key key2 : String) (offset : Nat) (length : Int) :
    Op ChangedBlocks :=
  let (base, fromSnap) := splitKey key
  let (base2, toSnap) := splitKey key2
  if base ≠ base2 then
    throw (.other ("list_changed_blocks across different images: " ++ base ++ " vs " ++ base2))
  else do
    let info ← imageInfo base
    let ln := clampLength info.size offset length
    if Cbtlog.isTapdisk info.metadata then do
      let bitmap ← Cbtlog.changedBitmap base info.metadata fromSnap toSnap offset ln info.size
      return { granularity := Cbtlog.cbtBlock, bitmap := bitmap }
    else rbdDiffBlocks base fromSnap toSnap offset ln whole

end XcpCephRbd.Volume
