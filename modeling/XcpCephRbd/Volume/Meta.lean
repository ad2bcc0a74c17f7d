import Mathlib.Data.List.AList
import XcpCephRbd.Datapath.Resolve

/-!
# Names and metadata of volumes

The parts of `rbdvol_lib.py` that name things: the keys under which the fields of a base image and
of its snapshots stand in the base's image-meta, the keys left over by snapshots that are gone, and
the records that the volume operations return. A dictionary is an association list with distinct
keys; a value of a dictionary that is still to be written may be `None`.
-/

namespace XcpCephRbd.Volume

open Text (startsWith dropPrefix truthy)

/-- The image-meta of an image. -/
abbrev Dict := AList fun _ : String => String

/-- A dictionary to be written as image-meta, in which a value may be `None`. -/
abbrev Desired := AList fun _ : String => Option String

/-- `dict(metadata)`, to be changed and written back. -/
def Dict.toDesired (metadata : Dict) : Desired :=
  metadata.entries.foldr (fun entry rest => rest.insert entry.1 (some entry.2)) ∅

/-- The copy of a dictionary has its entries. -/
@[simp] theorem Dict.lookup_toDesired (metadata : Dict) (key : String) :
    metadata.toDesired.lookup key = (metadata.lookup key).map some := by
  have hfold : ∀ entries : List ((_ : String) × String),
      (entries.foldr (fun entry rest => rest.insert entry.1 (some entry.2))
        (∅ : Desired)).lookup key = (entries.dlookup key).map some := by
    intro entries
    induction entries with
    | nil => rfl
    | cons entry rest ih =>
        rw [List.foldr_cons]
        by_cases hkey : key = entry.1
        · subst hkey
          rw [AList.lookup_insert, List.dlookup_cons_eq]
          rfl
        · rw [AList.lookup_insert_ne hkey, ih, List.dlookup_cons_ne _ _ hkey]
  exact hfold metadata.entries

/-- `{k: v for k, v in metadata.items() if keep(k)}`. -/
def filterKeys {β : Type} (metadata : AList fun _ : String => β) (keep : String → Bool) :
    AList fun _ : String => β where
  entries := metadata.entries.filter fun entry => keep entry.1
  nodupKeys := metadata.nodupKeys.sublist List.filter_sublist

/-- The entries that a filter keeps. -/
theorem lookup_filterKeys {β : Type} (metadata : AList fun _ : String => β)
    (keep : String → Bool) (key : String) :
    (filterKeys metadata keep).lookup key = if keep key then metadata.lookup key else none := by
  simp only [AList.lookup, filterKeys]
  induction metadata.entries with
  | nil => simp
  | cons entry rest ih =>
      by_cases hkey : key = entry.1
      · subst hkey
        obtain ⟨key, value⟩ := entry
        by_cases hkeep : keep key = true
        · simp [hkeep]
        · simpa [hkeep] using ih
      · rw [List.dlookup_cons_ne _ _ hkey, List.filter_cons]
        split
        · rw [List.dlookup_cons_ne _ _ hkey, ih]
        · exact ih

/-- A hexadecimal digit, of either case. -/
def isHex (c : Char) : Bool :=
  c.isDigit || ('a' ≤ c && c ≤ 'f') || ('A' ≤ c && c ≤ 'F')

/-- The characters are those of a UUID. -/
def isUuid (text : List Char) : Bool :=
  text.length == 36 &&
    text.zipIdx.all fun (c, i) => if i ∈ [8, 13, 18, 23] then c == '-' else isHex c

/-- `UUID_RE.match(name)`; its `$` also matches before a newline at the end. -/
def uuidMatch (name : String) : Bool :=
  isUuid (if name.toList.getLast? = some '\n' then name.toList.dropLast else name.toList)

/-- The characters of a UUID. -/
theorem mem_of_isUuid {text : List Char} (h : isUuid text = true) {c : Char} (hc : c ∈ text) :
    isHex c = true ∨ c = '-' := by
  simp only [isUuid, Bool.and_eq_true, List.all_eq_true] at h
  obtain ⟨i, hi⟩ := List.mem_iff_getElem?.mp hc
  have hone := h.2 (c, i) (List.mem_zipIdx_iff_getElem?.mpr hi)
  dsimp only at hone
  split at hone
  · exact .inr (by simpa using hone)
  · exact .inl hone

/-- A UUID matches. -/
theorem uuidMatch_of_isUuid {name : String} (h : isUuid name.toList = true) :
    uuidMatch name = true := by
  have hlast : name.toList.getLast? ≠ some '\n' := by
    intro hnewline
    rcases mem_of_isUuid h (List.mem_of_getLast? hnewline) with hhex | hdash
    · exact absurd hhex (by decide)
    · exact absurd hdash (by decide)
  rw [uuidMatch, if_neg hlast]
  exact h

/-- The characters of a name that matches. -/
theorem mem_of_uuidMatch {name : String} (h : uuidMatch name = true) {c : Char}
    (hc : c ∈ name.toList) : isHex c = true ∨ c = '-' ∨ c = '\n' := by
  unfold uuidMatch at h
  split at h
  next hlast =>
    obtain ⟨init, hinit⟩ := List.getLast?_eq_some_iff.mp hlast
    rw [hinit, List.mem_append, List.mem_singleton] at hc
    rw [hinit, List.dropLast_concat] at h
    obtain hc | rfl := hc
    · exact (mem_of_isUuid h hc).imp_right .inl
    · exact .inr (.inr rfl)
  next => exact (mem_of_isUuid h hc).imp_right .inl

/-- `meta_names(snap)`: the keys of the name and of the description, and the prefix of the custom
keys. -/
def metaNames (snap : Option String) : String × String × String :=
  let b := match snap with
    | none => "vdi"
    | some snap => "snap." ++ snap
  (b ++ ".name", b ++ ".desc", b ++ ".k.")

/-- `snap_meta_prefix(snap)`. -/
def snapMetaPrefix (snap : String) : String := "snap." ++ snap ++ "."

/-- Characters that match under `re.I`; the long s is a case of `s`. -/
def sameLetter (c d : Char) : Bool := c.toLower == d || (c == 'ſ' && d == 's')

/-- The group of `_SNAP_META_RE.match(key)`. -/
def snapMetaGroup (key : String) : Option String :=
  let head := key.toList.take 5
  let group := (key.toList.drop 5).take 36
  if head.length == 5 && (head.zip "snap.".toList).all (fun (c, d) => sameLetter c d) &&
      group.length == 36 && group.all (fun c => isHex c || c == '-') &&
      (key.toList.drop 41).head? == some '.' then
    some (String.ofList group)
  else none

/-- `orphan_snap_meta_keys(metadata, live_snap_names)`. -/
def orphanSnapMetaKeys (metadata : Dict) (liveSnapNames : List String) : List String :=
  metadata.keys.filter fun key =>
    match snapMetaGroup key with
    | some snap => uuidMatch snap && !liveSnapNames.contains snap
    | none => false

/-- `meta_view(metadata, snap, uuid)`: the name, the description and the custom keys. -/
def metaView (metadata : Dict) (snap : Option String) (uuid : String) :
    String × String × List (String × String) :=
  let (nk, dk, kp) := metaNames snap
  let fallback := if snap.isSome then metadata.lookup (metaNames none).1 else none
  let name := Datapath.orDefault (metadata.lookup nk) (Datapath.orDefault fallback uuid)
  let keys := (metadata.entries.filter fun entry => startsWith entry.1 kp).map fun entry =>
    (dropPrefix entry.1 kp, entry.2)
  (name, (metadata.lookup dk).getD "", keys)

/-- `cbt_is_on(metadata)`. -/
def cbtIsOn (metadata : Dict) : Bool := truthy (metadata.lookup "cbt.enabled")

/-- `snap_key(base_image, snap_uuid)`. -/
def snapKey (base snap : String) : String := base ++ "@" ++ snap

/-- The volume record that the operations return. -/
structure VolumeDict where
  key : String
  uuid : String
  name : String
  description : String
  readWrite : Bool
  virtualSize : Nat
  physicalUtilisation : Nat
  uri : List String
  sharable : Bool
  keys : List (String × String)
  cbtEnabled : Bool
  deriving DecidableEq, Repr

/-- The keyword arguments of `volume_dict` with their defaults. -/
structure VolumeOptions where
  physicalUtilisation : Nat := 0
  readWrite : Bool := true
  sharable : Bool := false
  keys : List (String × String) := []
  cbtEnabled : Bool := false

/-- `volume_dict(sr_uuid, key, uuid, name, description, size, ...)`. -/
def volumeDict (srUuid key uuid name description : String) (size : Nat)
    (options : VolumeOptions) : VolumeDict where
  key := key
  uuid := uuid
  name := name
  description := description
  readWrite := options.readWrite
  virtualSize := size
  physicalUtilisation := options.physicalUtilisation
  uri := ["rbd://" ++ srUuid ++ "/" ++ key]
  sharable := options.sharable
  keys := options.keys
  cbtEnabled := options.cbtEnabled

end XcpCephRbd.Volume
