import XcpCephRbd.Lib.Safe
import XcpCephRbd.Volume.Changed
import XcpCephRbd.Volume.Updates

/-!
# What `SR.ls` lists

`SR.ls` on the two backends, each with its own `list_images`: the dashboard answers with the images
of the pool in all namespaces, or a page of them, and librbd lists the names of one namespace, after
which the images are read one by one and those that cannot be read are left out. Other hosts create,
change and remove images between the calls. `ls_lists` says what the records of a scan that returns
have to do with the volumes that existed meanwhile.
-/

namespace XcpCephRbd.Volume.Listing

open Datapath (SrMeta splitKey orDefault)
open Prog (Safe Setting Returns)
open Text (startsWith)
open Updates (Backend onLocal)

/-! ## The two backends -/

/-- An image as the dashboard lists it; the `namespace` may be missing. -/
structure RestImage where
  ns : Option String
  info : Info

/-- An item of the dashboard's list. -/
inductive Item where
  | group (poolName : Option String) (value : List RestImage)
  | image (im : RestImage)
  | other

/-- The dashboard's answer: a list, or a dictionary with the list in `value`. -/
inductive Body where
  | list (items : List Item)
  | dict (value : List Item)
  | other

/-- The list in the answer. -/
def Body.items : Body → List Item
  | .list items | .dict items => items
  | .other => []

/-- The images of an item that belong to the pool. -/
def Item.images (pool : String) : Item → List RestImage
  | .group poolName value => if poolName = some pool ∨ poolName = none then value else []
  | .image im => [im]
  | .other => []

/-- The calls of a scan: the two ways to list, and the calls of the volume plugin. -/
inductive LsCall where
  | call (c : Call)
  | getImages
  | rbdList

/-- What a call returns. -/
def LsCall.Result : LsCall → Type
  | .call c => Volume.Result c
  | .getImages => Body
  | .rbdList => List String

/-- A program that makes such calls. -/
abbrev LsOp := Prog Exc LsCall LsCall.Result

/-- Make one call. -/
abbrev perform (c : LsCall) : LsOp c.Result := Prog.perform c

/-- `RestBackend.list_images(pool, namespace)`. -/
def RestBackend.listImages (pool ns : String) : LsOp (List Info) := do
  let body : Body ← perform .getImages
  return ((body.items.flatMap (Item.images pool)).filter
    fun im => im.ns.getD "" == ns).map RestImage.info

/-- The reads of `LocalBackend.list_images`; an image that cannot be read is left out. -/
def LocalBackend.readImages : List String → LsOp (List Info)
  | [] => return []
  | name :: rest => do
      let info : Option Info ← tryCatch (do
        let info : Info ← perform (.call (.imageInfo name))
        return some info) fun _ => pure none
      let infos ← LocalBackend.readImages rest
      return info.toList ++ infos

/-- `LocalBackend.list_images(pool, namespace)`. -/
def LocalBackend.listImages : LsOp (List Info) := do
  let names : List String ← perform .rbdList
  LocalBackend.readImages names

/-- `be.list_images(pool, namespace)`. -/
def listImages (pool ns : String) : Backend → LsOp (List Info)
  | .rest => RestBackend.listImages pool ns
  | .librbd => LocalBackend.listImages

/-- An operation of the plugin with the backend's own listing. -/
def through (pool ns : String) (be : Backend) {α : Type} : Op α → LsOp α
  | .ret value => .ret value
  | .raise error => .raise error
  | .call .listImages resume =>
      (listImages pool ns be).finish fun outcome => through pool ns be (resume outcome)
  | .call c resume => .call (.call c) fun reply => through pool ns be (resume reply)

/-- `lib.pool_ns(meta)`: the namespace. -/
def namespaceOf (sr : SrMeta) : String := orDefault sr.dconfNamespace sr.srUuid

/-- `SR.ls` on a backend. -/
def lsOn (sr : SrMeta) (be : Backend) : LsOp (List VolumeDict) :=
  through sr.pool (namespaceOf sr) be <| match be with
    | .rest => ls sr
    | .librbd => onLocal (.ok ∅) (ls sr)

/-! ## The pool -/

/-- What the pool holds of an image: no two snapshots of it have one name. -/
structure Stored where
  info : Info
  distinct : (info.snapshots.map SnapInfo.name).Nodup

/-- The image as it is reported. -/
def Stored.report (stored : Stored) (name : String) : Info := { stored.info with name := name }

/-- The image after a PUT. -/
def Stored.put (stored : Stored) (body : PutBody) : Stored where
  info := { stored.info with
    size := body.size.getD stored.info.size
    metadata := (body.metadata.map (Image.setMetadata stored.info.metadata)).getD
      stored.info.metadata }
  distinct := stored.distinct

/-- The images of a pool, by namespace and name. -/
abbrev Pool := AList fun _ : String × String => Stored

/-- The images that the dashboard shows. -/
def Pool.shown (pool : Pool) (keep : String × String → Bool) : List RestImage :=
  (pool.entries.filter fun entry => keep entry.1).map fun entry =>
    { ns := if entry.1.1 = "" then none else some entry.1.1, info := entry.2.report entry.1.2 }

/-- The answer of the dashboard: all images of the pool or some, in a group or not, as a list or as
a dictionary. -/
def dashboard (poolName : String) (paged grouped : Bool) (keep : String × String → Bool)
    (pool : Pool) : Body :=
  let items := if grouped then [.group (some poolName) (pool.shown keep)]
    else (pool.shown keep).map .image
  if paged then .dict items else .list items

/-- What the environment decides about a call: it succeeds, it fails, it answers with jobs of the GC
or with a page of the listing. -/
inductive Choice where
  | ok
  | fail (error : Exc)
  | jobs (targets : List Job)
  | page (paged grouped : Bool) (keep : String × String → Bool)

/-- The answer to a call. -/
def handle (sr : SrMeta) : Choice → Pool → (c : LsCall) → Option (Except Exc c.Result × Pool)
  | .fail error, pool, _ => some (.error error, pool)
  | .page paged grouped keep, pool, .getImages =>
      some (.ok (dashboard sr.pool paged grouped keep pool), pool)
  | .ok, pool, .rbdList =>
      some (.ok ((pool.keys.filter fun key => key.1 == namespaceOf sr).map Prod.snd), pool)
  | .ok, pool, .call (.imageInfo image) =>
      (pool.lookup (namespaceOf sr, image)).map fun stored => (.ok (stored.report image), pool)
  | .ok, pool, .call (.metaRead image) =>
      (pool.lookup (namespaceOf sr, image)).map fun stored => (.ok (stored.report image), pool)
  | .ok, pool, .call (.putImage image body) =>
      (pool.lookup (namespaceOf sr, image)).map fun stored =>
        (.ok (), pool.insert (namespaceOf sr, image) (stored.put body))
  | .jobs targets, pool, .call .gcSweep => some (.ok targets, pool)
  | .ok, pool, .call (.gcSpawn _) => some (.ok (), pool)
  | _, _, _ => none

/-- A scan and the pool. -/
structure Scan where
  op : LsOp (List VolumeDict)
  pool : Pool

/-- Others change the pool, or a call of the scan is answered. -/
inductive Label where
  | move (pool : Pool)
  | call (choice : Choice)

/-- One step. -/
def step (sr : SrMeta) (s : Scan) : Label → Option Scan
  | .move pool => some { s with pool := pool }
  | .call choice => (s.op.next (handle sr) choice s.pool).map fun (op, pool) =>
      { op := op, pool := pool }

/-! ## Volumes -/

/-- A volume: an image, or a snapshot of one. -/
inductive Vol where
  | base (image : String)
  | snap (image name : String)
  deriving DecidableEq, Repr

/-- The image. -/
def Vol.image : Vol → String
  | .base image | .snap image _ => image

/-- The key. -/
def Vol.key : Vol → String
  | .base image => image
  | .snap image name => snapKey image name

/-- Both names are UUIDs. -/
def Vol.Valid : Vol → Prop
  | .base image => uuidMatch image = true
  | .snap image name => uuidMatch image = true ∧ uuidMatch name = true

/-- The image has the snapshot. -/
def Vol.On (info : Info) : Vol → Prop
  | .base _ => True
  | .snap _ name => name ∈ info.snapshots.map SnapInfo.name

/-- The volume exists in the namespace. -/
def Present (ns : String) (pool : Pool) (vol : Vol) : Prop :=
  vol.Valid ∧ ∃ stored, pool.lookup (ns, vol.image) = some stored ∧ vol.On stored.info

/-- The name of a volume has no `@`. -/
theorem at_not_mem {name : String} (h : uuidMatch name = true) : '@' ∉ name.toList := by
  intro hat
  exact absurd (mem_of_uuidMatch h hat) (by decide)

/-- A volume is not named like trash. -/
theorem startsWith_trash {name : String} (h : uuidMatch name = true) :
    startsWith name trashPrefix = false := by
  by_contra htrash
  obtain ⟨rest, rfl⟩ := Text.startsWith_iff.mp (Bool.not_eq_false _ ▸ htrash)
  have hx : 'x' ∈ (trashPrefix ++ rest).toList := by simp [trashPrefix]
  exact absurd (mem_of_uuidMatch h hx) (by decide)

/-- The key tells the volume. -/
theorem Vol.splitKey_key {vol : Vol} (h : vol.Valid) : splitKey vol.key = match vol with
    | .base image => (image, none)
    | .snap image name => (image, some name) := by
  cases vol with
  | base image => exact Datapath.splitKey_base (at_not_mem h)
  | snap image name => exact splitKey_snapKey (at_not_mem h.1) name

theorem Vol.key_inj {vol vol' : Vol} (h : vol.Valid) (h' : vol'.Valid) (hkey : vol.key = vol'.key) :
    vol = vol' := by
  have hsplit := (splitKey_key h).symm.trans (hkey ▸ splitKey_key h')
  cases vol <;> cases vol' <;> simp_all

/-! ## The records of a listing -/

/-- The volumes on an image. -/
def volsOf (info : Info) : List Vol :=
  if uuidMatch info.name then
    .base info.name :: ((info.snapshots.map SnapInfo.name).filter uuidMatch).map (.snap info.name)
  else []

/-- The volumes of a listing. -/
def volsIn (infos : List Info) : List Vol := infos.flatMap volsOf

/-- The volumes on an image are valid, and are on it. -/
theorem mem_volsOf {info : Info} {vol : Vol} :
    vol ∈ volsOf info ↔ vol.Valid ∧ vol.image = info.name ∧ vol.On info := by
  unfold volsOf
  cases vol with
  | base image =>
      split <;> simp only [List.mem_cons, Vol.base.injEq, List.mem_map, reduceCtorEq, and_false,
        exists_false, or_false, List.not_mem_nil, Vol.Valid, Vol.image, Vol.On, and_true]
      next huuid =>
        refine ⟨fun h => ⟨h ▸ huuid, h⟩, fun h => h.2⟩
      next huuid =>
        refine ⟨False.elim, fun h => huuid (h.2 ▸ h.1)⟩
  | snap image name =>
      split <;> simp only [List.mem_cons, reduceCtorEq, List.mem_map, List.mem_filter,
        Vol.snap.injEq, false_or, List.not_mem_nil, Vol.Valid, Vol.image, Vol.On]
      next huuid =>
        constructor
        · rintro ⟨snap, ⟨hon, hsnap⟩, rfl, rfl⟩
          exact ⟨⟨huuid, hsnap⟩, rfl, hon⟩
        · rintro ⟨⟨-, hsnap⟩, rfl, hon⟩
          exact ⟨name, ⟨hon, hsnap⟩, rfl, rfl⟩
      next huuid =>
        refine ⟨False.elim, fun h => huuid (h.2.1 ▸ h.1.1)⟩

/-- The volumes of a listing differ when the images and the snapshots of each image do. -/
theorem nodup_volsIn {infos : List Info} (hnames : (infos.map Info.name).Nodup)
    (hsnaps : ∀ info ∈ infos, (info.snapshots.map SnapInfo.name).Nodup) : (volsIn infos).Nodup := by
  rw [volsIn, List.nodup_flatMap]
  constructor
  · intro info hinfo
    unfold volsOf
    split
    · refine List.nodup_cons.mpr ⟨by simp, ?_⟩
      refine ((hsnaps info hinfo).filter _).map fun a b hab => ?_
      exact (Vol.snap.inj hab).2
    · exact List.nodup_nil
  · refine (List.pairwise_map.mp hnames).imp fun {a b} hne => ?_
    intro vol ha hb
    exact hne ((mem_volsOf.mp ha).2.1.symm.trans (mem_volsOf.mp hb).2.1)

/-- The keys of the records of the snapshots of an image. -/
theorem returns_lsSnapshots (sr : SrMeta) (info : Info) (metadata : Dict) (targets : List Job)
    (snaps : List SnapInfo) :
    Returns (fun result => result.2.map VolumeDict.key =
      ((snaps.map SnapInfo.name).filter uuidMatch).map (snapKey info.name))
      (lsSnapshots sr info metadata targets snaps) := by
  induction snaps generalizing targets with
  | nil => rfl
  | cons snap snaps ih =>
      unfold lsSnapshots
      split
      next htrash =>
        have hnot : uuidMatch snap.name = false := by
          by_contra huuid
          rw [startsWith_trash (by simpa using huuid)] at htrash
          cases htrash
        simp only [List.map_cons, List.filter_cons, hnot]
        exact (Prog.returns_true _).bind fun targets _ => ih targets
      next =>
        split
        next huuid =>
          refine (ih targets).bind fun result hresult => ?_
          simp only [List.map_cons, List.filter_cons, huuid, if_true]
          exact congrArg (snapKey info.name snap.name :: ·) hresult
        next hnot =>
          simp only [List.map_cons, List.filter_cons, hnot]
          exact ih targets

/-- The keys of the records of a listing. -/
theorem returns_lsImages (sr : SrMeta) (targets : List Job) (infos : List Info) :
    Returns (fun records => records.map VolumeDict.key = (volsIn infos).map Vol.key)
      (lsImages sr targets infos) := by
  induction infos generalizing targets with
  | nil => rfl
  | cons info infos ih =>
      unfold lsImages
      split
      next htrash =>
        have hnot : uuidMatch info.name = false := by
          by_contra huuid
          rw [startsWith_trash (by simpa using huuid)] at htrash
          cases htrash
        have hnone : volsOf info = [] := by simp [volsOf, hnot]
        simp only [volsIn, List.flatMap_cons, hnone, List.nil_append]
        exact (Prog.returns_true _).bind fun targets _ => ih targets
      next =>
        split
        next huuid =>
          refine (Prog.returns_true _).bind fun metadata _ => ?_
          refine (returns_lsSnapshots sr info metadata targets info.snapshots).bind
            fun result hresult => ?_
          refine (ih result.1).bind fun rest hrest => ?_
          have hvols : (volsOf info).map Vol.key = info.name ::
              ((info.snapshots.map SnapInfo.name).filter uuidMatch).map (snapKey info.name) := by
            simp only [volsOf, huuid, if_true, List.map_cons, List.map_map]
            rfl
          show (_ :: result.2 ++ rest).map VolumeDict.key = _
          simp only [volsIn, List.flatMap_cons, List.map_append, hvols, List.map_cons]
          rw [hresult, hrest]
          rfl
        next hnot =>
          have hnone : volsOf info = [] := by simp [volsOf, hnot]
          simp only [volsIn, List.flatMap_cons, hnone, List.nil_append]
          exact ih targets

/-- The metadata writes of librbd do not change what an operation may return. -/
theorem returns_onLocal {α : Type} {Q : α → Prop} {p : Op α} (hp : Returns Q p)
    (current : Except Exc Dict) : Returns Q (onLocal current p) := by
  induction p generalizing current with
  | ret value => exact hp
  | raise error => trivial
  | call c resume ih =>
      cases c with
      | metaRead image => exact fun reply => ih reply (hp reply) _
      | putImage image body =>
          obtain ⟨size, metadata⟩ := body
          cases metadata with
          | none => exact fun reply => ih reply (hp reply) _
          | some given =>
              cases current with
              | error error => exact ih _ (hp _) _
              | ok current => exact Returns.finish fun reply => ih reply (hp reply) _
      | _ => exact fun reply => ih reply (hp reply) current

/-- Nor does the listing of the backend. -/
theorem returns_through {α : Type} {Q : α → Prop} {p : Op α} (hp : Returns Q p) (pool ns : String)
    (be : Backend) : Returns Q (through pool ns be p) := by
  induction p with
  | ret value => exact hp
  | raise error => trivial
  | call c resume ih =>
      cases c with
      | listImages => exact Returns.finish fun outcome => ih outcome (hp outcome)
      | _ => exact fun reply => ih reply (hp reply)

/-! ## The listing of the backends -/

/-- The answer does not leave the image out: the page of the dashboard has it, or the read of it
does not fail. -/
def Serves (ns : String) (choice : Choice) (image : String) : LsCall → Prop
  | .getImages => ∀ paged grouped keep, choice = .page paged grouped keep → keep (ns, image) = true
  | .call (.imageInfo name) => name = image → ∀ error, choice ≠ .fail error
  | _ => True

/-- A scan during which every call finds the pool in a certain state, and some images are not left
out. -/
def watching (sr : SrMeta) (K : Pool → Prop) (served : String → Prop) :
    Setting Exc LsCall LsCall.Result Pool Choice where
  handle := handle sr
  allowed := fun choice pool c => K pool ∧ ∀ image, served image →
    Serves (namespaceOf sr) choice image c
  rely := fun _ _ => True
  asserted := fun _ _ => True

/-- What a listing is made of: reports of images at some time, no two of the same name, and the
images that were not to be left out. -/
structure Listed (ns : String) (K : Pool → Prop) (served : String → Prop) (infos : List Info) :
    Prop where
  names : (infos.map Info.name).Nodup
  reports : ∀ info ∈ infos, ∃ pool stored, K pool ∧ pool.lookup (ns, info.name) = some stored ∧
    info = stored.report info.name
  complete : ∀ image, served image → ∃ info ∈ infos, info.name = image

section Listings

variable {sr : SrMeta} {K : Pool → Prop} {served : String → Prop} {pool : Pool}

/-- One call: what it leads to where it succeeds. -/
theorem safe_call {c : LsCall} {post : c.Result → Pool → Prop}
    (hok : ∀ p choice result after, K p →
      (∀ image, served image → Serves (namespaceOf sr) choice image c) →
      handle sr choice p c = some (.ok result, after) → post result after) :
    Safe (watching sr K served) post (fun _ _ => True) (perform c) pool := by
  intro before _
  refine ⟨trivial, fun choice reply after hallowed hhandle => ?_⟩
  cases reply with
  | ok result => exact hok before choice result after hallowed.1 hallowed.2 hhandle
  | error error => trivial

/-- Names differ where the keys do, in one namespace. -/
theorem nodup_names {keys : List (String × String)} (ns : String) (h : keys.Nodup)
    (hns : ∀ key ∈ keys, key.1 = ns) : (keys.map Prod.snd).Nodup := by
  refine h.map_on fun a ha b hb hab => ?_
  exact Prod.ext ((hns a ha).trans (hns b hb).symm) hab

/-- Whatever its shape, the answer of the dashboard holds the images that it shows. -/
theorem images_dashboard (poolName : String) (paged grouped : Bool)
    (keep : String × String → Bool) :
    (dashboard poolName paged grouped keep pool).items.flatMap (Item.images poolName) =
      pool.shown keep := by
  cases paged <;> cases grouped <;>
    simp [dashboard, Body.items, Item.images, List.flatMap_map]

/-- The part of the listing that belongs to one namespace. -/
theorem infos_shown (keep : String × String → Bool) (ns : String) :
    ((pool.shown keep).filter fun im => im.ns.getD "" == ns).map RestImage.info =
      (pool.entries.filter fun entry => entry.1.1 == ns && keep entry.1).map
        fun entry => entry.2.report entry.1.2 := by
  rw [Pool.shown, List.filter_map, List.map_map, List.filter_filter]
  congr 1
  refine List.filter_congr fun entry _ => ?_
  by_cases hempty : entry.1.1 = ""
  · simp [hempty]
  · simp [hempty]

/-- `RestBackend.list_images`. -/
theorem safe_restListImages (hserved : ∀ p, K p → ∀ image, served image →
    (namespaceOf sr, image) ∈ p) :
    Safe (watching sr K served) (fun infos _ => Listed (namespaceOf sr) K served infos)
      (fun _ _ => True) (RestBackend.listImages sr.pool (namespaceOf sr)) pool := by
  refine Prog.safe_bind (safe_call fun p choice body after hK hserves hanswer => ?_)
  cases choice with
  | page paged grouped keep =>
      cases hanswer
      show Listed _ _ _ (((_ : List RestImage).filter _).map _)
      rw [images_dashboard, infos_shown]
      refine ⟨?_, fun info hinfo => ?_, fun image himage => ?_⟩
      · rw [List.map_map]
        have hkeys : ((p.entries.filter fun entry => entry.1.1 == namespaceOf sr &&
            keep entry.1).map Sigma.fst).Nodup := p.nodupKeys.sublist List.filter_sublist
        have hnames := nodup_names (namespaceOf sr) hkeys fun key hkey => ?_
        · rwa [List.map_map] at hnames
        · obtain ⟨entry, hentry, rfl⟩ := List.mem_map.mp hkey
          have hkeep := (List.mem_filter.mp hentry).2
          simp only [Bool.and_eq_true, beq_iff_eq] at hkeep
          exact hkeep.1
      · obtain ⟨entry, hentry, rfl⟩ := List.mem_map.mp hinfo
        obtain ⟨hmem, hkeep⟩ := List.mem_filter.mp hentry
        simp only [Bool.and_eq_true, beq_iff_eq] at hkeep
        refine ⟨p, entry.2, hK, ?_, rfl⟩
        rw [← hkeep.1]
        exact AList.mem_lookup_iff.mpr hmem
      · obtain ⟨stored, hstored⟩ := AList.lookup_isSome.mpr (hserved p hK image himage) |>
          Option.isSome_iff_exists.mp
        have hkeep := hserves image himage paged grouped keep rfl
        refine ⟨stored.report image, List.mem_map.mpr ⟨⟨(namespaceOf sr, image), stored⟩, ?_, rfl⟩,
          rfl⟩
        exact List.mem_filter.mpr ⟨AList.mem_lookup_iff.mp hstored, by simp [hkeep]⟩
  | _ => cases hanswer

/-- The reads of `LocalBackend.list_images`. -/
theorem safe_readImages (names : List String) :
    Safe (watching sr K served) (fun infos _ => (infos.map Info.name).Sublist names ∧
      (∀ info ∈ infos, ∃ p stored, K p ∧ p.lookup (namespaceOf sr, info.name) = some stored ∧
        info = stored.report info.name) ∧
      ∀ image ∈ names, served image → ∃ info ∈ infos, info.name = image) (fun _ _ => True)
      (LocalBackend.readImages names) pool := by
  induction names generalizing pool with
  | nil =>
      refine ⟨.slnil, fun info hinfo => ?_, fun image himage => ?_⟩
      · cases hinfo
      · cases himage
  | cons name names ih =>
      have hread : Safe (watching sr K served) (fun read _ => (∀ info ∈ read,
          info.name = name ∧ ∃ p stored, K p ∧ p.lookup (namespaceOf sr, name) = some stored ∧
            info = stored.report name) ∧ (served name → read.isSome)) (fun _ _ => True)
          (tryCatch (do
            let info : Info ← perform (.call (.imageInfo name))
            return some info) fun _ => (pure none : LsOp (Option Info))) pool := by
        intro before _
        refine ⟨trivial, fun choice reply after hallowed hhandle => ?_⟩
        cases reply with
        | ok info =>
            cases choice with
            | ok =>
                obtain ⟨stored, hstored, heq⟩ := Option.map_eq_some_iff.mp hhandle
                cases heq
                refine ⟨fun info hinfo => ?_, fun _ => rfl⟩
                cases hinfo
                exact ⟨rfl, before, stored, hallowed.1, hstored, rfl⟩
            | _ => cases hhandle
        | error error =>
            cases choice with
            | fail error' =>
                refine ⟨nofun, fun hserved => ?_⟩
                exact absurd rfl (hallowed.2 name hserved rfl error')
            | ok =>
                obtain ⟨stored, -, heq⟩ := Option.map_eq_some_iff.mp hhandle
                cases heq
            | _ => cases hhandle
      refine Prog.safe_bind (hread.mono (fun read pool' hread => ?_) fun _ _ h => h)
      refine Prog.safe_bind (ih.mono (fun infos pool'' hrest => ?_) fun _ _ h => h)
      obtain ⟨hfirst, hsome⟩ := hread
      obtain ⟨hsub, hreports, hcomplete⟩ := hrest
      refine ⟨?_, fun info hinfo => ?_, fun image himage hserved => ?_⟩
      · cases read with
        | none => exact hsub.cons name
        | some info =>
            show (info.name :: infos.map Info.name).Sublist _
            rw [(hfirst info rfl).1]
            exact hsub.cons_cons name
      · obtain hinfo | hinfo := List.mem_append.mp hinfo
        · obtain ⟨hname, hreport⟩ := hfirst info (Option.mem_toList.mp hinfo)
          rw [hname]
          exact hreport
        · exact hreports info hinfo
      · obtain rfl | himage := List.mem_cons.mp himage
        · obtain ⟨info, hinfo⟩ := Option.isSome_iff_exists.mp (hsome hserved)
          exact ⟨info, List.mem_append_left _ (Option.mem_toList.mpr hinfo), (hfirst info hinfo).1⟩
        · obtain ⟨info, hinfo, hname⟩ := hcomplete image himage hserved
          exact ⟨info, List.mem_append_right _ hinfo, hname⟩

/-- `LocalBackend.list_images`. -/
theorem safe_localListImages
    (hserved : ∀ p, K p → ∀ image, served image → (namespaceOf sr, image) ∈ p) :
    Safe (watching sr K served) (fun infos _ => Listed (namespaceOf sr) K served infos)
      (fun _ _ => True) LocalBackend.listImages pool := by
  refine Prog.safe_bind (safe_call fun p choice names after hK _ hanswer => ?_)
  cases choice with
  | ok =>
      cases hanswer
      refine (safe_readImages _).mono (fun infos _ hread => ?_) fun _ _ h => h
      obtain ⟨hsub, hreports, hcomplete⟩ := hread
      refine ⟨hsub.nodup (nodup_names (namespaceOf sr) (p.nodupKeys.filter _)
        fun key hkey => ?_), hreports,
        fun image himage => hcomplete image ?_ himage⟩
      · simpa using (List.mem_filter.mp hkey).2
      · refine List.mem_map.mpr ⟨(namespaceOf sr, image), List.mem_filter.mpr ⟨?_, by simp⟩, rfl⟩
        exact AList.mem_keys.mp (hserved p hK image himage)
  | _ => cases hanswer

/-- `SR.ls`: the records are those of the volumes of a listing. -/
theorem safe_ls (be : Backend)
    (hserved : ∀ p, K p → ∀ image, served image → (namespaceOf sr, image) ∈ p) :
    Safe (watching sr K served) (fun records _ => ∃ infos, Listed (namespaceOf sr) K served infos ∧
      records.map VolumeDict.key = (volsIn infos).map Vol.key) (fun _ _ => True)
      (lsOn sr be) pool := by
  have hlisting : ∀ pool, Safe (watching sr K served)
      (fun infos _ => Listed (namespaceOf sr) K served infos) (fun _ _ => True)
      (listImages sr.pool (namespaceOf sr) be) pool := by
    intro pool
    cases be with
    | rest => exact safe_restListImages hserved
    | librbd => exact safe_localListImages hserved
  -- the rest of the scan, on either backend
  have hrest : ∀ (k : Except Exc (List Info) → Op (List VolumeDict)) pool,
      (∀ infos, Returns (fun records => records.map VolumeDict.key = (volsIn infos).map Vol.key)
        (k (.ok infos))) → (∀ error, ∃ error', k (.error error) = .raise error') →
      Safe (watching sr K served)
        (fun records _ => ∃ infos, Listed (namespaceOf sr) K served infos ∧
        records.map VolumeDict.key = (volsIn infos).map Vol.key) (fun _ _ => True)
        ((listImages sr.pool (namespaceOf sr) be).finish fun outcome =>
          through sr.pool (namespaceOf sr) be (k outcome)) pool := by
    intro k pool hok hraise
    refine Prog.safe_finish
      ((hlisting pool).mono (fun infos after hinfos => ?_) fun error _ _ => ?_)
    · exact (Prog.safe_of_returns (fun _ _ => trivial) (returns_through (hok infos) _ _ _)
        after).mono (fun records _ hrecords => ⟨infos, hinfos, hrecords⟩) fun _ _ h => h
    · obtain ⟨error', heq⟩ := hraise error
      rw [heq]
      trivial
  cases be with
  | rest =>
      intro before _
      refine ⟨trivial, fun choice reply after _ _ => ?_⟩
      cases reply with
      | error error => trivial
      | ok targets =>
          refine hrest _ after (fun infos => returns_lsImages sr targets infos) fun error => ?_
          cases error <;> exact ⟨_, rfl⟩
  | librbd =>
      intro before _
      refine ⟨trivial, fun choice reply after _ _ => ?_⟩
      cases reply with
      | error error => trivial
      | ok targets =>
          refine hrest _ after (fun infos => returns_onLocal (returns_lsImages sr targets infos) _)
            fun error => ?_
          cases error <;> exact ⟨_, rfl⟩

end Listings

/-! ## Scans -/

section Scans

variable {sr : SrMeta} {be : Backend} {pool : Pool} {labels : List Label} {s : Scan}
  {records : List VolumeDict}

/-- Before the first call of a scan. -/
def start (sr : SrMeta) (be : Backend) (pool : Pool) : Scan := { op := lsOn sr be, pool := pool }

/-- Every call finds the pool in a certain state, and some images are not left out. -/
def Watched (sr : SrMeta) (K : Pool → Prop) (served : String → Prop) (s : Scan) : Label → Prop
  | .move _ => True
  | .call choice => K s.pool ∧
      ∀ c ∈ s.op.firstCall, ∀ image, served image → Serves (namespaceOf sr) choice image c

/-- The answer does not leave the volume out. -/
def Kept (sr : SrMeta) (vol : Vol) (s : Scan) : Label → Prop
  | .move _ => True
  | .call choice => ∀ c ∈ s.op.firstCall, Serves (namespaceOf sr) choice vol.image c

/-- What a scan that is watched returns. -/
theorem listed_of_run (K : Pool → Prop) (served : String → Prop)
    (hserved : ∀ p, K p → ∀ image, served image → (namespaceOf sr, image) ∈ p)
    (hrun : Run.run (step sr) (start sr be pool) labels = some s) (hreturned : s.op = .ret records)
    (hwatched : Run.Along (step sr) (Watched sr K served) (start sr be pool) labels) :
    ∃ infos, Listed (namespaceOf sr) K served infos ∧
      records.map VolumeDict.key = (volsIn infos).map Vol.key := by
  obtain ⟨inv, hinv⟩ : ∃ inv : Scan → Prop, inv = fun s => Safe (watching sr K served)
    (fun records _ => ∃ infos, Listed (namespaceOf sr) K served infos ∧
      records.map VolumeDict.key = (volsIn infos).map Vol.key) (fun _ _ => True) s.op s.pool :=
        ⟨_, rfl⟩
  have hsteps : ∀ s label s', inv s → Watched sr K served s label → step sr s label = some s' →
      inv s' := by
    subst hinv
    intro s label s' hsafe hguard hstep
    cases label with
    | move pool =>
        cases hstep
        exact hsafe.move trivial (fun _ _ _ h _ => h) fun _ _ _ h _ => h
    | call choice =>
        obtain ⟨⟨op, pool⟩, hnext, rfl⟩ := Option.map_eq_some_iff.mp hstep
        exact hsafe.next (fun c hfirst => ⟨hguard.1, hguard.2 c hfirst⟩) hnext
  have hstart : inv (start sr be pool) := by
    subst hinv
    exact safe_ls be hserved
  have hsafe := Run.run_invariant hsteps hstart hwatched hrun
  subst hinv
  rw [hreturned] at hsafe
  exact hsafe

/-- A volume of a listing existed when its image was read. -/
theorem Listed.present {ns : String} {K : Pool → Prop} {served : String → Prop} {infos : List Info}
    (h : Listed ns K served infos) {vol : Vol} (hvol : vol ∈ volsIn infos) :
    ∃ pool, K pool ∧ Present ns pool vol := by
  obtain ⟨info, hinfo, hvol⟩ := List.mem_flatMap.mp hvol
  obtain ⟨hvalid, himage, hon⟩ := mem_volsOf.mp hvol
  obtain ⟨p, stored, hK, hlookup, hreport⟩ := h.reports info hinfo
  refine ⟨p, hK, hvalid, stored, himage ▸ hlookup, ?_⟩
  rw [hreport] at hon
  cases vol <;> exact hon

/-- Every record of a scan that returns is that of a volume that existed at some time during it, no
volume has two records, and a volume that existed throughout has one, unless it was left out: the
dashboard's answer was a page without it, or librbd could not read its image. -/
theorem ls_lists (hrun : Run.run (step sr) (start sr be pool) labels = some s)
    (hreturned : s.op = .ret records) :
    (records.map VolumeDict.key).Nodup ∧
      (∀ record ∈ records, ∃ vol : Vol, record.key = vol.key ∧
        ¬Run.Along (step sr) (fun s _ => ¬Present (namespaceOf sr) s.pool vol) (start sr be pool)
          labels) ∧
      ∀ vol : Vol, Run.Along (step sr) (fun s label => Present (namespaceOf sr) s.pool vol ∧
          Kept sr vol s label) (start sr be pool) labels →
        ∃ record ∈ records, record.key = vol.key := by
  have hall := listed_of_run (fun _ => True) (fun _ => False)
    (fun _ _ _ h => h.elim) hrun hreturned <| (Run.along_true _ _).mono fun _ label _ => by
        cases label with
        | move pool => trivial
        | call choice => exact ⟨trivial, fun _ _ _ h => h.elim⟩
  obtain ⟨infos, hlisted, hkeys⟩ := hall
  have hvalid : ∀ vol ∈ volsIn infos, vol.Valid := fun vol hvol =>
    let ⟨_, _, hpresent⟩ := hlisted.present hvol
    hpresent.1
  refine ⟨?_, fun record hrecord => ?_, fun vol hvol => ?_⟩
  · rw [hkeys]
    have hvols : (volsIn infos).Nodup := by
      refine nodup_volsIn hlisted.names fun info hinfo => ?_
      obtain ⟨p, stored, -, -, hreport⟩ := hlisted.reports info hinfo
      rw [hreport]
      exact stored.distinct
    exact hvols.map_on fun a ha b hb hab => Vol.key_inj (hvalid a ha) (hvalid b hb) hab
  · have hmem : record.key ∈ (volsIn infos).map Vol.key := by
      rw [← hkeys]
      exact List.mem_map_of_mem hrecord
    obtain ⟨vol, hvol, hkey⟩ := List.mem_map.mp hmem
    refine ⟨vol, hkey.symm, fun habsent => ?_⟩
    -- the same scan, watched from where the volume does not exist
    obtain ⟨infos', hlisted', hkeys'⟩ := listed_of_run
      (fun p => ¬Present (namespaceOf sr) p vol) (fun _ => False)
      (fun _ _ _ h => h.elim) hrun hreturned <| habsent.mono fun _ label h => by
        cases label with
        | move pool => trivial
        | call choice => exact ⟨h, fun _ _ _ h => h.elim⟩
    have hmem' : vol.key ∈ (volsIn infos').map Vol.key := by
      rw [← hkeys', hkeys]
      exact List.mem_map_of_mem hvol
    obtain ⟨vol', hvol', hkey'⟩ := List.mem_map.mp hmem'
    obtain ⟨p, hnot, hpresent⟩ := hlisted'.present hvol'
    cases Vol.key_inj hpresent.1 (hvalid vol hvol) hkey'
    exact hnot hpresent
  · obtain ⟨infos', hlisted', hkeys'⟩ := listed_of_run
      (fun p => Present (namespaceOf sr) p vol) (fun image => image = vol.image)
      (fun p hpresent image himage => by
        obtain ⟨-, stored, hstored, -⟩ := hpresent
        rw [himage]
        exact AList.lookup_isSome.mp (by simp [hstored])) hrun hreturned <|
      hvol.mono fun _ label h => by
        cases label with
        | move pool => trivial
        | call choice => exact ⟨h.1, fun c hc image himage => himage ▸ h.2 c hc⟩
    obtain ⟨info, hinfo, hname⟩ := hlisted'.complete vol.image rfl
    obtain ⟨p, stored, hpresent, hstored, hreport⟩ := hlisted'.reports info hinfo
    obtain ⟨hvalid, stored', hstored', hon⟩ := hpresent
    rw [hname] at hstored hreport
    cases hstored.symm.trans hstored'
    have hvols : vol ∈ volsIn infos' := by
      refine List.mem_flatMap.mpr ⟨info, hinfo, mem_volsOf.mpr ⟨hvalid, hname.symm, ?_⟩⟩
      rw [hreport]
      cases vol <;> exact hon
    have hmem : vol.key ∈ records.map VolumeDict.key := by
      rw [hkeys']
      exact List.mem_map_of_mem hvols
    obtain ⟨record, hrecord, hkey⟩ := List.mem_map.mp hmem
    exact ⟨record, hrecord, hkey⟩

end Scans

section Examples

/-- The name of a volume. -/
def volName (digit : String) : String := "22222222-2222-2222-2222-22222222222" ++ digit

/-- An SR with a namespace of its own. -/
def someSr : SrMeta := ⟨"sr", "rbd", some "ns", none⟩

/-- A volume with a snapshot of the user, one in the trash and one of a migration. -/
def volumeStored : Stored where
  info := { name := "", size := 1, featuresName := [], metadata := ∅, totalDiskUsage := 0
            diskUsage := 0
            snapshots := [{ name := volName "2", size := 1 }, { name := "xcp-trash-x", size := 1 },
              { name := "xcp-sxm-1", size := 1 }] }
  distinct := by decide +kernel

/-- The volume, a log, and a volume of another SR. -/
def somePool : Pool :=
  ((AList.insert ("ns", volName "1") volumeStored ∅).insert ("ns", "cbtlog.x") volumeStored).insert
    ("other", volName "3") volumeStored

/-- The keys that a scan has returned. -/
def returnedKeys (s : Scan) : Option (List String) :=
  match s.op with
  | .ret records => some (records.map VolumeDict.key)
  | _ => none

theorem eq_of_returnedKeys {s : Scan} {keys : List String} (h : returnedKeys s = some keys) :
    ∃ records, s.op = .ret records ∧ records.map VolumeDict.key = keys := by
  unfold returnedKeys at h
  split at h
  next records hop => exact ⟨records, hop, Option.some.inj h⟩
  next => cases h

/-- A scan on the dashboard: the whole listing, and a job for the snapshot in the trash. -/
def restLabels : List Label := [.call (.jobs []), .call (.page true true fun _ => true), .call .ok]

/-- The volume and its snapshot are listed, and the others are not. -/
theorem ls_lists_rest : ∃ s records,
    Run.run (step someSr) (start someSr .rest somePool) restLabels = some s ∧ s.op = .ret records ∧
      records.map VolumeDict.key = [volName "1", snapKey (volName "1") (volName "2")] ∧
      (records.map VolumeDict.key).Nodup ∧
      (∀ record ∈ records, ∃ vol : Vol, record.key = vol.key ∧
        ¬Run.Along (step someSr) (fun s _ => ¬Present (namespaceOf someSr) s.pool vol)
          (start someSr .rest somePool) restLabels) ∧
      ∀ vol : Vol, Run.Along (step someSr) (fun s label => Present (namespaceOf someSr) s.pool vol ∧
          Kept someSr vol s label) (start someSr .rest somePool) restLabels →
        ∃ record ∈ records, record.key = vol.key := by
  have hchecked : (Run.checked (step someSr) (fun _ _ => True) (start someSr .rest somePool)
      restLabels).any (fun s => returnedKeys s ==
        some [volName "1", snapKey (volName "1") (volName "2")]) = true := by
    decide +kernel
  obtain ⟨s, hrun, -, htest⟩ := Run.exists_of_checked hchecked
  obtain ⟨records, hop, hkeys⟩ := eq_of_returnedKeys (beq_iff_eq.mp htest)
  exact ⟨s, records, hrun, hop, hkeys, ls_lists hrun hop⟩

/-- A scan on librbd during which the read of the volume fails. -/
def unreadLabels : List Label :=
  [.call (.jobs []), .call .ok, .call .ok, .call (.fail (.backend { message := "busy" }))]

/-- The volume exists throughout, one call fails, and the scan returns without it. -/
theorem ls_omits_unread : ∃ s records,
    Run.run (step someSr) (start someSr .librbd somePool) unreadLabels = some s ∧
      s.op = .ret records ∧
      Run.Along (step someSr) (fun s _ => Present (namespaceOf someSr) s.pool (.base (volName "1")))
        (start someSr .librbd somePool) unreadLabels ∧
      ¬∃ record ∈ records, record.key = (Vol.base (volName "1")).key := by
  have hchecked : (Run.checked (step someSr) (fun s _ =>
      (s.pool.lookup ("ns", volName "1")).isSome = true) (start someSr .librbd somePool)
      unreadLabels).any (fun s => returnedKeys s == some []) = true := by
    decide +kernel
  obtain ⟨s, hrun, hguard, htest⟩ := Run.exists_of_checked hchecked
  obtain ⟨records, hop, hkeys⟩ := eq_of_returnedKeys (beq_iff_eq.mp htest)
  have huuid : uuidMatch (volName "1") = true := by decide +kernel
  refine ⟨s, records, hrun, hop, hguard.mono fun _ _ hsome => ?_, ?_⟩
  · obtain ⟨stored, hstored⟩ := Option.isSome_iff_exists.mp hsome
    exact ⟨huuid, stored, hstored, trivial⟩
  · rintro ⟨record, hrecord, -⟩
    rw [List.map_eq_nil_iff.mp hkeys] at hrecord
    cases hrecord

end Examples

end XcpCephRbd.Volume.Listing
