import XcpCephRbd.Lib.Split
import XcpCephRbd.Volume.Replace

/-!
# Metadata of the volumes on one base

The names, descriptions and custom keys of a base and of its snapshots stand in one dictionary, each
under keys of its own: those of the base start with `vdi.`, those of a snapshot with `snap.`, its
name and a dot. `volumes_apart` says that the operations on one of the volumes leave what
`meta_view` gives for the others and the changed-block keys of the base, that `set` stores what
`meta_view` gives back, and that the prune of `SR.ls` takes the keys of snapshots that are gone and
no others.
-/

namespace XcpCephRbd.Volume.Apart

open Prog
open MetaWrite
open Text (startsWith dropPrefix truthy)
open Datapath (splitKey orDefault)
open Updates (Backend)

/-! ## Volumes and their keys -/

/-- A volume on a base: the base, or a snapshot that is named like one. -/
def IsVol : Option String → Prop
  | none => True
  | some snap => uuidMatch snap = true

/-- The key of a volume. -/
def volKey (base : String) : Option String → String
  | none => base
  | some snap => snapKey base snap

/-- What the metadata keys of a volume start with. -/
def keyPrefix : Option String → String
  | none => "vdi."
  | some snap => snapMetaPrefix snap

section Keys

variable {base : String} {vol first second : Option String} {key : String}

/-- The key of a volume tells the volume. -/
theorem splitKey_volKey (hat : '@' ∉ base.toList) (vol : Option String) :
    splitKey (volKey base vol) = (base, vol) := by
  cases vol with
  | none => exact Datapath.splitKey_base hat
  | some snap => exact Datapath.splitKey_at hat snap

/-- The parts of the keys of a volume. -/
theorem metaNames_eq (vol : Option String) : metaNames vol =
    (keyPrefix vol ++ "name", keyPrefix vol ++ "desc", keyPrefix vol ++ "k.") := by
  cases vol with
  | none => rfl
  | some snap =>
      have hdot : ∀ rest : String,
          "snap." ++ snap ++ ("." ++ rest) = snapMetaPrefix snap ++ rest := by
        intro rest
        simp only [snapMetaPrefix, String.append_assoc]
      exact Prod.ext (hdot "name") (Prod.ext (hdot "desc") (hdot "k."))

/-- The name of a snapshot has no dot. -/
theorem dot_not_mem {snap : String} (h : uuidMatch snap = true) : '.' ∉ snap.toList := by
  intro hdot
  exact absurd (mem_of_uuidMatch h hdot) (by decide)

/-- The keys of a snapshot tell the snapshot. -/
theorem snapMetaPrefix_inj {snap snap' : String} (h : uuidMatch snap = true)
    (h' : uuidMatch snap' = true) (hkey : startsWith key (snapMetaPrefix snap) = true)
    (hkey' : startsWith key (snapMetaPrefix snap') = true) : snap = snap' := by
  obtain ⟨rest, rfl⟩ := Text.startsWith_iff.mp hkey
  obtain ⟨rest', heq⟩ := Text.startsWith_iff.mp hkey'
  have hlist := congrArg String.toList heq
  simp only [snapMetaPrefix, String.toList_append, List.append_assoc,
    List.append_cancel_left_eq] at hlist
  have hdot : ".".toList = ['.'] := rfl
  rw [hdot, List.singleton_append, List.singleton_append] at hlist
  have hcut := congrArg (Split.cut '.') hlist
  rw [Split.cut_append _ (dot_not_mem h), Split.cut_append _ (dot_not_mem h')] at hcut
  exact String.toList_inj.mp (Prod.mk.inj hcut).1

/-- The keys of a snapshot start with `snap.`. -/
theorem startsWith_snap {snap : String} (h : startsWith key (snapMetaPrefix snap) = true) :
    startsWith key "snap." = true := by
  obtain ⟨rest, rfl⟩ := Text.startsWith_iff.mp h
  rw [snapMetaPrefix, String.append_assoc, String.append_assoc]
  exact Text.startsWith_append _ _

/-- The keys of a volume tell the volume. -/
theorem keyPrefix_inj (hfirst : IsVol first) (hsecond : IsVol second)
    (h : startsWith key (keyPrefix first) = true) (h' : startsWith key (keyPrefix second) = true) :
    first = second := by
  have hvdi : ∀ {snap}, startsWith key (keyPrefix none) = true →
      ¬startsWith key (snapMetaPrefix snap) = true := by
    intro snap hbase hsnap
    exact Bool.false_ne_true ((Text.startsWith_eq_false hbase (by decide) (by decide)).symm.trans
      (startsWith_snap hsnap))
  cases first with
  | none =>
      cases second with
      | none => rfl
      | some snap => exact absurd h' (hvdi h)
  | some snap =>
      cases second with
      | none => exact absurd h (hvdi h')
      | some snap' => exact congrArg some (snapMetaPrefix_inj hfirst hsecond h h')

/-- The changed-block keys of the base are keys of no volume. -/
theorem keyPrefix_of_cbt (h : startsWith key "cbt." = true) (vol : Option String) :
    startsWith key (keyPrefix vol) = false := by
  cases vol with
  | none => exact Text.startsWith_eq_false h (by decide) (by decide)
  | some snap =>
      by_contra hsnap
      have hfalse : startsWith key "snap." = false :=
        Text.startsWith_eq_false h (by decide) (by decide)
      exact Bool.false_ne_true (hfalse.symm.trans (startsWith_snap (Bool.not_eq_false _ ▸ hsnap)))

end Keys

/-! ## What `meta_view` gives -/

/-- What `meta_view` gives for a volume; the custom keys as what is under each of them. -/
structure View where
  name : String
  desc : String
  keys : String → Option String

/-- `meta_view` of a dictionary. -/
def viewOf (metadata : Dict) (vol : Option String) (uuid : String) : View :=
  let (name, desc, keys) := metaView metadata vol uuid
  { name := name, desc := desc, keys := fun k => keys.lookup k }

/-- The volume has a name of its own. -/
def named (metadata : Dict) (vol : Option String) : Bool :=
  truthy (metadata.lookup (metaNames vol).1)

section Views

variable {metadata metadata' : Dict} {vol : Option String}

/-- A custom key is under the prefix of the volume. -/
theorem viewOf_keys (metadata : Dict) (vol : Option String) (uuid k : String) :
    (viewOf metadata vol uuid).keys k = metadata.lookup ((metaNames vol).2.2 ++ k) := by
  show ((metadata.entries.filter fun entry => startsWith entry.1 (metaNames vol).2.2).map
    fun entry => (dropPrefix entry.1 (metaNames vol).2.2, entry.2)).lookup k =
      metadata.entries.dlookup _
  generalize (metaNames vol).2.2 = kp
  induction metadata.entries with
  | nil => rfl
  | cons entry rest ih =>
      obtain ⟨key, value⟩ := entry
      by_cases hkey : kp ++ k = key
      · subst hkey
        rw [List.filter_cons, if_pos (Text.startsWith_append kp k), List.map_cons,
          Text.dropPrefix_append, List.lookup_cons_self, List.dlookup_cons_eq]
      · rw [List.dlookup_cons_ne _ _ hkey, ← ih, List.filter_cons]
        split
        next hstart =>
            obtain ⟨other, rfl⟩ := Text.startsWith_iff.mp hstart
            have hne : (k == other) = false := by
              rw [beq_eq_false_iff_ne]
              rintro rfl
              exact hkey rfl
            rw [List.map_cons, Text.dropPrefix_append, List.lookup_cons, hne]
        next => rfl

/-- What is shown of a volume depends on its keys, and on the name of the base where the volume has
none of its own. -/
theorem viewOf_congr (uuid : String) (hkeys : ∀ key, startsWith key (keyPrefix vol) = true →
      metadata'.lookup key = metadata.lookup key) :
    (viewOf metadata' vol uuid).desc = (viewOf metadata vol uuid).desc ∧
      (viewOf metadata' vol uuid).keys = (viewOf metadata vol uuid).keys ∧
        (named metadata vol = true ∨
          metadata'.lookup (metaNames none).1 = metadata.lookup (metaNames none).1 →
            (viewOf metadata' vol uuid).name = (viewOf metadata vol uuid).name) := by
  have hown : ∀ rest, metadata'.lookup (keyPrefix vol ++ rest) =
      metadata.lookup (keyPrefix vol ++ rest) :=
    fun rest => hkeys _ (Text.startsWith_append _ rest)
  refine ⟨?_, ?_, fun hname => ?_⟩
  · show (metadata'.lookup (metaNames vol).2.1).getD "" =
      (metadata.lookup (metaNames vol).2.1).getD ""
    rw [metaNames_eq, hown]
  · funext k
    rw [viewOf_keys, viewOf_keys, metaNames_eq, String.append_assoc, hown]
  · show orDefault (metadata'.lookup (metaNames vol).1) _ =
      orDefault (metadata.lookup (metaNames vol).1) _
    have hsame : metadata'.lookup (metaNames vol).1 = metadata.lookup (metaNames vol).1 := by
      rw [metaNames_eq]
      exact hown "name"
    rw [hsame]
    rcases hname with hnamed | hbase
    · -- a name of its own hides the rest
      unfold named at hnamed
      cases hvalue : metadata.lookup (metaNames vol).1 with
      | none =>
          rw [hvalue] at hnamed
          cases hnamed
      | some value =>
          rw [hvalue] at hnamed
          have hne : value ≠ "" := by simpa [truthy] using hnamed
          simp [orDefault, hne]
    · rw [hbase]

end Views

/-! ## Operations on one volume -/

/-- The operations on the metadata of a volume; the purge is the one that destroying it makes. -/
inductive Edit where
  | set (k v : String)
  | unset (k : String)
  | setName (newName : String)
  | setDescription (newDescription : String)
  | dataDestroy
  | purge

namespace Edit

/-- The program. -/
def prog (base : String) (vol : Option String) : Edit → Op Unit
  | .set k v => Volume.set (volKey base vol) k v
  | .unset k => Volume.unset (volKey base vol) k
  | .setName newName => Volume.setName (volKey base vol) newName
  | .setDescription newDescription => Volume.setDescription (volKey base vol) newDescription
  | .dataDestroy => Volume.dataDestroy (volKey base vol)
  | .purge => match vol with
    | some snap => purgeSnapMeta base snap
    | none => pure ()

/-- The keys that the operation may change. -/
def touches (vol : Option String) (key : String) : Edit → Bool
  | .set k _ | .unset k => key == (metaNames vol).2.2 ++ k
  | .setName _ => key == (metaNames vol).1
  | .setDescription _ => key == (metaNames vol).2.1
  | .dataDestroy => match vol with
    | some snap => key == "snap." ++ snap ++ ".cbt.data_destroyed"
    | none => false
  | .purge => match vol with
    | some snap => startsWith key (snapMetaPrefix snap)
    | none => false

/-- They are keys of the volume. -/
theorem startsWith_of_touches {vol : Option String} {key : String} {edit : Edit}
    (h : edit.touches vol key = true) : startsWith key (keyPrefix vol) = true := by
  cases edit with
  | set k v | unset k =>
      obtain rfl := beq_iff_eq.mp h
      rw [metaNames_eq, String.append_assoc]
      exact Text.startsWith_append _ _
  | setName newName | setDescription newDescription =>
      obtain rfl := beq_iff_eq.mp h
      rw [metaNames_eq]
      exact Text.startsWith_append _ _
  | dataDestroy =>
      cases vol with
      | none => cases h
      | some snap =>
          obtain rfl := beq_iff_eq.mp h
          refine Text.startsWith_iff.mpr ⟨"cbt.data_destroyed", ?_⟩
          simp only [keyPrefix, snapMetaPrefix, String.append_assoc]
          rfl
  | purge =>
      cases vol with
      | none => cases h
      | some snap => exact h

/-- Only a renaming of the base changes its name. -/
theorem not_touches_baseName {edit : Edit} (h : ∀ newName, edit ≠ .setName newName) :
    edit.touches none (metaNames none).1 = false := by
  cases edit with
  | set k v | unset k =>
      rw [touches, beq_eq_false_iff_ne]
      intro heq
      have hlist := congrArg String.toList heq
      simp only [metaNames, String.toList_append] at hlist
      exact absurd (congrArg (fun text => text.drop 4 |>.head?) hlist) (by simp)
  | setName newName => exact absurd rfl (h newName)
  | setDescription newDescription =>
      show ((metaNames none).1 == (metaNames none).2.1) = false
      decide
  | dataDestroy => rfl
  | purge => rfl

end Edit

section Edits

variable {be : Backend} {env : Env} {w : World} {t : Nat} {s' : World × Nat} {base : String}
  {img : Image} {vol : Option String} {out : Except Exc Unit}

/-- The image is there and the keys that are not touched are as they were. -/
def Untouched (base : String) (img : Image) (touched : String → Bool) (w' : World) : Prop :=
  ∃ img', w'.images.lookup base = some img' ∧
    ∀ key, touched key = false → img'.metadata.lookup key = img.metadata.lookup key

/-- A read-modify-write leaves the keys that its change hands back. -/
theorem untouched_rmw {mutate : Desired → Desired} {touched : String → Bool}
    (hnull : ∀ m, NoNull m → NoNull (mutate m))
    (hmutate : ∀ m key, touched key = false → (mutate m).lookup key = m.lookup key)
    (himg : w.images.lookup base = some img)
    (h : (rmwOn be base mutate).exec (answer be env) (w, t) = some (out, s')) :
    Untouched base img touched s'.1 := by
  obtain ⟨img', himg', hkept, -⟩ := written_rmw (fun m => hnull _ (noNull_toDesired m)) himg h
  refine ⟨img', himg', fun key hkey => ?_⟩
  rcases hkept key with hsame | hset
  · exact hsame
  · exact hset.trans (target_of_same (hmutate _ key hkey))

/-- An operation, whatever becomes of it, leaves the keys that it does not touch. -/
theorem untouched_edit {edit : Edit} (hat : '@' ∉ base.toList)
    (himg : w.images.lookup base = some img)
    (h : (onBackend be (edit.prog base vol)).exec (answer be env) (w, t) = some (out, s')) :
    Untouched base img (fun key => edit.touches vol key) s'.1 := by
  have hsplit := splitKey_volKey hat vol
  have hinsert : ∀ {name value : String} {t out s'},
      (onBackend be (rmw base fun m => m.insert name (some value))).exec (answer be env) (w, t) =
        some (out, s') → Untouched base img (fun key => key == name) s'.1 := by
    intro name value t out s' h
    have hnull : ∀ m : Desired, NoNull m → NoNull (m.insert name (some value)) :=
      fun m hm => hm.insert name value
    rw [onBackend_rmw be base fun m => hnull _ (noNull_toDesired m)] at h
    refine untouched_rmw hnull (fun m key hkey => ?_) himg h
    exact AList.lookup_insert_ne (beq_eq_false_iff_ne.mp hkey)
  have hnone : ∀ {w' touched}, w' = w → Untouched base img touched w' := by
    intro w' touched hsame
    exact ⟨img, hsame ▸ himg, fun _ _ => rfl⟩
  cases edit with
  | set k v =>
      rw [Edit.prog, Volume.set, hsplit] at h
      exact hinsert h
  | unset k =>
      rw [Edit.prog, Volume.unset, hsplit] at h
      have hnull : ∀ m : Desired, NoNull m → NoNull (m.erase ((metaNames vol).2.2 ++ k)) :=
        fun m hm => hm.erase _
      dsimp only at h
      rw [onBackend_rmw be base fun m => hnull _ (noNull_toDesired m)] at h
      refine untouched_rmw hnull (fun m key hkey => ?_) himg h
      exact AList.lookup_erase_ne (beq_eq_false_iff_ne.mp hkey)
  | setName newName =>
      rw [Edit.prog, Volume.setName, hsplit] at h
      exact hinsert h
  | setDescription newDescription =>
      rw [Edit.prog, Volume.setDescription, hsplit] at h
      exact hinsert h
  | dataDestroy =>
      rw [Edit.prog, Volume.dataDestroy, hsplit] at h
      cases vol with
      | none =>
          cases be <;> cases h <;> exact hnone rfl
      | some snap => exact hinsert h
  | purge =>
      cases vol with
      | none =>
          cases be <;> cases h <;> exact hnone rfl
      | some snap =>
          have hnull : ∀ m : Desired, NoNull m →
              NoNull (filterKeys m fun key => !startsWith key (snapMetaPrefix snap)) :=
            fun m hm => hm.filterKeys _
          rw [Edit.prog, purgeSnapMeta, exceptBackend, tryCatch_eq_finish,
            onBackend_rmw_finish be base fun m => hnull _ (noNull_toDesired m)] at h
          obtain ⟨first, ⟨w₁, t₁⟩, hrmw, hrest⟩ := of_exec_finish h
          -- what follows makes no call
          have hsame : s' = (w₁, t₁) := by
            cases first with
            | ok value => cases be <;> cases hrest <;> rfl
            | error error => cases error <;> cases be <;> cases hrest <;> rfl
          rw [hsame]
          refine untouched_rmw hnull (fun m key hkey => ?_) himg hrmw
          have hkeep : startsWith key (snapMetaPrefix snap) = false := hkey
          rw [lookup_filterKeys_not, hkeep]
          rfl

/-- What `set` stored. -/
theorem stored_set {k v : String} (hat : '@' ∉ base.toList)
    (h : (onBackend be (Volume.set (volKey base vol) k v)).exec (answer be env) (w, t) =
      some (.ok (), s')) :
    ∃ img', s'.1.images.lookup base = some img' ∧
      img'.metadata.lookup ((metaNames vol).2.2 ++ k) = some v := by
  rw [Volume.set, splitKey_volKey hat vol] at h
  have hnull : ∀ m : Dict, NoNull (m.toDesired.insert ((metaNames vol).2.2 ++ k) (some v)) :=
    fun m => (noNull_toDesired m).insert _ _
  dsimp only at h
  rw [onBackend_rmw be base hnull] at h
  cases hbase : w.images.lookup base with
  | none => exact absurd rfl (rmw_missing hbase h).2
  | some img =>
      obtain ⟨img', himg', -, hdone⟩ := written_rmw hnull hbase h
      refine ⟨img', himg', ?_⟩
      rw [hdone rfl, target, AList.lookup_insert]

end Edits

/-! ## Histories of operations on one volume -/

/-- An operation on the volume, in its environment, whatever becomes of it. -/
def editStep (be : Backend) (base : String) (vol : Option String) (w : World)
    (label : Edit × Env) : Option World :=
  ((onBackend be (label.1.prog base vol)).exec (answer be label.2) (w, 0)).map fun result =>
    result.2.1

/-- A history leaves the keys that none of its operations touches. -/
theorem untouched_run {be : Backend} {base : String} {vol : Option String} {w w' : World}
    {labels : List (Edit × Env)} {img : Image} (hat : '@' ∉ base.toList)
    (himg : w.images.lookup base = some img)
    (hrun : Run.run (editStep be base vol) w labels = some w') :
    Untouched base img (fun key => labels.any fun label => label.1.touches vol key) w' := by
  induction labels generalizing w img with
  | nil =>
      cases hrun
      exact ⟨img, himg, fun _ _ => rfl⟩
  | cons label rest ih =>
      obtain ⟨next, hstep, hrest⟩ := Run.run_cons_iff.mp hrun
      obtain ⟨⟨out, s'⟩, hexec, rfl⟩ := Option.map_eq_some_iff.mp hstep
      obtain ⟨img₁, himg₁, hfirst⟩ := untouched_edit hat himg hexec
      obtain ⟨img', himg', hlater⟩ := ih himg₁ hrest
      refine ⟨img', himg', fun key hkey => ?_⟩
      dsimp only at hkey
      rw [List.any_cons, Bool.or_eq_false_iff] at hkey
      exact (hlater key hkey.2).trans (hfirst key hkey.1)

/-- What a history on one volume leaves of another one on the base. -/
theorem view_run {be : Backend} {base : String} {first second : Option String} {w w' : World}
    {labels : List (Edit × Env)} {img : Image} (hat : '@' ∉ base.toList) (hfirst : IsVol first)
    (hsecond : IsVol second) (hne : first ≠ second) (himg : w.images.lookup base = some img)
    (hrun : Run.run (editStep be base first) w labels = some w') :
    ∃ img', w'.images.lookup base = some img' ∧ ∀ uuid,
      (viewOf (shown be img'.metadata) second uuid).desc =
          (viewOf (shown be img.metadata) second uuid).desc ∧
        (viewOf (shown be img'.metadata) second uuid).keys =
          (viewOf (shown be img.metadata) second uuid).keys ∧
        ((first = none → named (shown be img.metadata) second = true ∨
            ∀ label ∈ labels, ∀ newName, label.1 ≠ .setName newName) →
          (viewOf (shown be img'.metadata) second uuid).name =
            (viewOf (shown be img.metadata) second uuid).name) := by
  obtain ⟨img', himg', hkept⟩ := untouched_run hat himg hrun
  -- no operation touches a key of the second volume
  have huntouched : ∀ key, startsWith key (keyPrefix first) = false →
      (shown be img'.metadata).lookup key = (shown be img.metadata).lookup key := by
    intro key hkey
    rw [lookup_shown, lookup_shown, hkept key]
    rw [List.any_eq_false]
    intro label _ htouches
    exact Bool.false_ne_true (hkey.symm.trans (Edit.startsWith_of_touches htouches))
  have hother : ∀ key, startsWith key (keyPrefix second) = true →
      (shown be img'.metadata).lookup key = (shown be img.metadata).lookup key := by
    intro key hkey
    refine huntouched key ?_
    by_contra hstart
    exact hne (keyPrefix_inj hfirst hsecond (Bool.not_eq_false _ ▸ hstart) hkey)
  refine ⟨img', himg', fun uuid => ?_⟩
  obtain ⟨hdesc, hkeys, hname⟩ := viewOf_congr uuid hother
  refine ⟨hdesc, hkeys, fun hcase => hname ?_⟩
  cases first with
  | none =>
      refine (hcase rfl).imp id fun hnoName => ?_
      rw [lookup_shown, lookup_shown, hkept]
      dsimp only
      rw [List.any_eq_false]
      intro label hlabel htouches
      exact Bool.false_ne_true
        ((Edit.not_touches_baseName (hnoName label hlabel)).symm.trans htouches)
  | some snap =>
      -- the name of the base is no key of a snapshot
      refine .inr (huntouched _ ?_)
      by_contra hstart
      have hbase : startsWith (metaNames none).1 (keyPrefix none) = true := by decide
      have hvol : IsVol none := trivial
      cases keyPrefix_inj hfirst hvol (Bool.not_eq_false _ ▸ hstart) hbase

/-! ## The prune of `SR.ls` -/

section Prune

variable {be : Backend} {env : Env} {w : World} {t : Nat} {s' : World × Nat} {base : String}
  {img : Image} {out : Except Exc Dict} {key : String}

/-- The group of a key of a snapshot that is named by a UUID. -/
theorem snapMetaGroup_of_prefixed {snap : String} (hsnap : isUuid snap.toList = true)
    (h : startsWith key (snapMetaPrefix snap) = true) : snapMetaGroup key = some snap := by
  obtain ⟨rest, rfl⟩ := Text.startsWith_iff.mp h
  have hlen : snap.toList.length = 36 := by
    simp only [isUuid, Bool.and_eq_true, beq_iff_eq] at hsnap
    exact hsnap.1
  have hkey : (snapMetaPrefix snap ++ rest).toList =
      "snap.".toList ++ (snap.toList ++ '.' :: rest.toList) := by
    simp [snapMetaPrefix]
  have htake : (snapMetaPrefix snap ++ rest).toList.take 5 = "snap.".toList := by
    rw [hkey]
    rfl
  have hdrop : (snapMetaPrefix snap ++ rest).toList.drop 5 =
      snap.toList ++ '.' :: rest.toList := by
    rw [hkey]
    rfl
  have hgroup : ((snapMetaPrefix snap ++ rest).toList.drop 5).take 36 = snap.toList := by
    rw [hdrop, List.take_append_of_le_length hlen.ge, ← hlen, List.take_length]
  have hdot : ((snapMetaPrefix snap ++ rest).toList.drop 41).head? = some '.' := by
    have hsplit : (snapMetaPrefix snap ++ rest).toList.drop 41 =
        ((snapMetaPrefix snap ++ rest).toList.drop 5).drop 36 := by
      rw [List.drop_drop]
    rw [hsplit, hdrop, ← hlen, List.drop_left]
    rfl
  have hall : snap.toList.all (fun c => isHex c || c == '-') = true := by
    rw [List.all_eq_true]
    intro c hc
    rcases mem_of_isUuid hsnap hc with hhex | hdash
    · simp [hhex]
    · simp [hdash]
  rw [snapMetaGroup]
  dsimp only
  rw [htake, hgroup, hdot, hall, hlen, if_pos (by decide), String.ofList_toList]

/-- The keys that are pruned look like those of a snapshot that is gone. -/
theorem mem_orphans_iff {metadata : Dict} {live : List String} :
    key ∈ orphanSnapMetaKeys metadata live ↔ key ∈ metadata ∧
      ∃ snap, snapMetaGroup key = some snap ∧ uuidMatch snap = true ∧ snap ∉ live := by
  rw [orphanSnapMetaKeys, List.mem_filter, AList.mem_keys]
  refine and_congr_right fun _ => ?_
  cases snapMetaGroup key with
  | none => simp
  | some snap => simp

/-- No key of a snapshot that exists is pruned. -/
theorem not_mem_orphans {metadata : Dict} {live : List String} {snap : String}
    (hsnap : uuidMatch snap = true) (hlive : snap ∈ live)
    (hkey : startsWith key (snapMetaPrefix snap) = true) :
    key ∉ orphanSnapMetaKeys metadata live := by
  intro hmem
  obtain ⟨-, group, hgroup, -, hgone⟩ := mem_orphans_iff.mp hmem
  unfold uuidMatch at hsnap
  split at hsnap
  next hlast =>
      -- a name with a newline at the end: the dot stands too late
      obtain ⟨init, hinit⟩ := List.getLast?_eq_some_iff.mp hlast
      rw [hinit, List.dropLast_concat] at hsnap
      have hlen : init.length = 36 := by
        simp only [isUuid, Bool.and_eq_true, beq_iff_eq] at hsnap
        exact hsnap.1
      obtain ⟨rest, rfl⟩ := Text.startsWith_iff.mp hkey
      have hdrop : ((snapMetaPrefix snap ++ rest).toList.drop 41).head? = some '\n' := by
        have hsplit : (snapMetaPrefix snap ++ rest).toList.drop 41 =
            ((snapMetaPrefix snap ++ rest).toList.drop 5).drop 36 := by
          rw [List.drop_drop]
        have hfive : (snapMetaPrefix snap ++ rest).toList.drop 5 =
            init ++ '\n' :: '.' :: rest.toList := by
          simp [snapMetaPrefix, hinit]
        rw [hsplit, hfive, ← hlen, List.drop_left]
        rfl
      rw [snapMetaGroup] at hgroup
      dsimp only at hgroup
      rw [hdrop, if_neg (by simp)] at hgroup
      cases hgroup
  next =>
      cases (snapMetaGroup_of_prefixed hsnap hkey).symm.trans hgroup
      exact hgone hlive

/-- The prune, whatever becomes of it, leaves the keys that are not orphans; where its calls succeed
the orphans go. -/
theorem pruned_run (himg : w.images.lookup base = some img)
    (h : (onBackend be (pruneOrphans (report be (img.info base)))).exec (answer be env) (w, t) =
      some (out, s')) :
    ∃ img', s'.1.images.lookup base = some img' ∧ ∀ key,
      (key ∉ orphanSnapMetaKeys (shown be img.metadata) (img.snapshots.map fun s => s.name) →
        img'.metadata.lookup key = img.metadata.lookup key) ∧
      (env.Granted →
        key ∈ orphanSnapMetaKeys (shown be img.metadata) (img.snapshots.map fun s => s.name) →
          img'.metadata.lookup key = none) := by
  have hnames : (report be (img.info base)).snapshots.map SnapInfo.name =
      img.snapshots.map fun s => s.name := by
    show (img.snapshots.map Snap.toSnapInfo).map SnapInfo.name = _
    rw [List.map_map]
    rfl
  have hmeta : (report be (img.info base)).metadata = shown be img.metadata := rfl
  unfold pruneOrphans at h
  dsimp only at h
  rw [hnames, hmeta] at h
  generalize horphans : orphanSnapMetaKeys (shown be img.metadata)
    (img.snapshots.map fun s => s.name) = orphans at h ⊢
  split at h
  next hempty =>
      have hsame : s' = (w, t) := by
        cases be <;> cases h <;> rfl
      rw [hsame, List.isEmpty_iff.mp hempty]
      exact ⟨img, himg, fun key => ⟨fun _ => rfl, fun _ => nofun⟩⟩
  next =>
      rw [exceptBackend, bind_eq_finish, finish_tryCatch,
        onBackend_imageMetaSet_finish be _ (noNull_toDesired _)] at h
      obtain ⟨first, ⟨w₁, t₁⟩, hset, hrest⟩ := of_exec_finish h
      -- whatever the write ended with is swallowed; what matters is the state it left
      have hsame : s' = (w₁, t₁) := by
        cases first with
        | ok value => cases be <;> cases hrest <;> rfl
        | error error => cases error <;> cases be <;> cases hrest <;> rfl
      have hname : (report be (img.info base)).name = base := rfl
      rw [hname] at hset
      obtain ⟨img', himg', hkept, hdone⟩ := written_imageMetaSet (noNull_toDesired _) himg hset
      have htarget : ∀ key, target be env img.metadata
          (Dict.toDesired (filterKeys (shown be img.metadata) fun key => !orphans.contains key))
            key =
          if orphans.contains key && !leaves be env key then none
          else img.metadata.lookup key := by
        intro key
        refine target_of_removed ?_
        rw [Dict.lookup_toDesired, Dict.lookup_toDesired, lookup_filterKeys]
        cases orphans.contains key <;> rfl
      rw [hsame]
      refine ⟨img', himg', fun key => ⟨fun hkey => ?_, fun hgranted hkey => ?_⟩⟩
      · have hnot : orphans.contains key = false := by simpa using hkey
        rcases hkept key with hold | hnew
        · exact hold
        · rw [hnew, htarget, hnot]
          rfl
      · obtain ⟨s₂, hok⟩ := run_imageMetaSet_granted hgranted _ _ himg
        cases hset.symm.trans hok
        have hleft : leaves be env key = false := by
          cases be with
          | librbd => rfl
          | rest =>
              have hmissed : env.missed = false := by rw [Env.missed, hgranted.1]
              have hshown := (mem_orphans_iff.mp (horphans ▸ hkey)).1
              rw [leaves, (mem_shown_rest.mp hshown).1, hmissed]
              rfl
        rw [hdone rfl key, htarget, hleft, List.contains_iff_mem.mpr hkey]
        rfl

end Prune

/-! ## Volumes are apart -/

/-- What the volumes on a base have of each other. -/
structure Separate (be : Backend) (base : String) : Prop where
  /-- What is shown of a volume does not depend on what is done to another one, but for the name of
  a snapshot that has none of its own when the base is renamed. -/
  kept : ∀ first second w w' labels img, IsVol first → IsVol second → first ≠ second →
    w.images.lookup base = some img → Run.run (editStep be base first) w labels = some w' →
    ∃ img', w'.images.lookup base = some img' ∧ ∀ uuid,
      (viewOf (shown be img'.metadata) second uuid).desc =
          (viewOf (shown be img.metadata) second uuid).desc ∧
        (viewOf (shown be img'.metadata) second uuid).keys =
          (viewOf (shown be img.metadata) second uuid).keys ∧
        ((first = none → named (shown be img.metadata) second = true ∨
            ∀ label ∈ labels, ∀ newName, label.1 ≠ .setName newName) →
          (viewOf (shown be img'.metadata) second uuid).name =
            (viewOf (shown be img.metadata) second uuid).name)
  /-- What `set` stored is what is shown. -/
  stored : ∀ vol k v env w t s', IsVol vol →
    (onBackend be (Volume.set (volKey base vol) k v)).exec (answer be env) (w, t) =
      some (.ok (), s') →
    ∃ img', s'.1.images.lookup base = some img' ∧
      ∀ uuid, (viewOf (shown be img'.metadata) vol uuid).keys k = some v
  /-- The changed-block keys of the base stay. -/
  cbt : ∀ vol w w' labels img, IsVol vol → w.images.lookup base = some img →
    Run.run (editStep be base vol) w labels = some w' →
    ∃ img', w'.images.lookup base = some img' ∧ ∀ key, startsWith key "cbt." = true →
      img'.metadata.lookup key = img.metadata.lookup key
  /-- The prune of `SR.ls` leaves the keys of the base and of the snapshots that exist, and where
  its calls succeed it removes those of snapshots that do not. -/
  pruned : ∀ env w t out s' img, w.images.lookup base = some img →
    (onBackend be (pruneOrphans (report be (img.info base)))).exec (answer be env) (w, t) =
      some (out, s') →
    ∃ img', s'.1.images.lookup base = some img' ∧ ∀ key,
      ((startsWith key "vdi." = true ∨ startsWith key "cbt." = true ∨
          ∃ snap ∈ img.snapshots.map fun s => s.name, uuidMatch snap = true ∧
            startsWith key (snapMetaPrefix snap) = true) →
        img'.metadata.lookup key = img.metadata.lookup key) ∧
      (env.Granted → ∀ snap, isUuid snap.toList = true →
        (snap ∉ img.snapshots.map fun s => s.name) →
          startsWith key (snapMetaPrefix snap) = true → img'.metadata.lookup key = none)

/-- The metadata of the volumes on a base do not interfere. -/
theorem volumes_apart (be : Backend) {base : String} (hat : '@' ∉ base.toList) :
    Separate be base where
  kept := fun first second w w' labels img hfirst hsecond hne himg hrun =>
    view_run hat hfirst hsecond hne himg hrun
  stored := by
    intro vol k v env w t s' _ h
    obtain ⟨img', himg', hvalue⟩ := stored_set hat h
    refine ⟨img', himg', fun uuid => ?_⟩
    rw [viewOf_keys, lookup_shown, isConf_metaNames]
    simpa using hvalue
  cbt := by
    intro vol w w' labels img _ himg hrun
    obtain ⟨img', himg', hkept⟩ := untouched_run hat himg hrun
    refine ⟨img', himg', fun key hkey => hkept key ?_⟩
    rw [List.any_eq_false]
    intro label _ htouches
    exact Bool.false_ne_true
      ((keyPrefix_of_cbt hkey vol).symm.trans (Edit.startsWith_of_touches htouches))
  pruned := by
    intro env w t out s' img himg h
    obtain ⟨img', himg', hkeys⟩ := pruned_run himg h
    refine ⟨img', himg', fun key => ⟨fun hown => (hkeys key).1 fun horphan => ?_, ?_⟩⟩
    · -- a key of the base or of a snapshot that exists is no orphan
      obtain ⟨-, group, hgroup, -⟩ := mem_orphans_iff.mp horphan
      rcases hown with hvdi | hcbt | ⟨snap, hlive, hsnap, hkey⟩
      · rw [snapMetaGroup_eq_none (c := 'v') rfl (by decide) hvdi] at hgroup
        cases hgroup
      · rw [snapMetaGroup_eq_none (c := 'c') rfl (by decide) hcbt] at hgroup
        cases hgroup
      · exact not_mem_orphans hsnap hlive hkey horphan
    · intro hgranted snap hsnap hgone hkey
      by_cases hmem : key ∈ shown be img.metadata
      · refine (hkeys key).2 hgranted (mem_orphans_iff.mpr ⟨hmem, snap, ?_, ?_, hgone⟩)
        · exact snapMetaGroup_of_prefixed hsnap hkey
        · exact uuidMatch_of_isUuid hsnap
      · have hnone := AList.lookup_eq_none.mpr hmem
        rw [lookup_shown, isConf_of_snapMetaPrefix hkey, if_neg (by simp)] at hnone
        rw [← hnone]
        exact (hkeys key).1 fun horphan => hmem (mem_orphans_iff.mp horphan).1

theorem volumes_apart_rest : Separate .rest "11111111-1111-1111-1111-111111111111" :=
  volumes_apart .rest (by decide)

end XcpCephRbd.Volume.Apart
