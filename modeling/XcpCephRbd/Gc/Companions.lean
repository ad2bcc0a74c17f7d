import XcpCephRbd.Gc.Destroyed
import XcpCephRbd.Volume.Lifecycle

/-!
# Companions and the metadata that records them

On a tapdisk SR the logs of changed-block tracking are images of their own, and the metadata of the
base records their generations. Creating or removing such a companion and recording it are separate
calls, any of which may fail. `companions_in_step` says that companions and records agree after
every operation of a run, if no call fails between the two that the operation cannot do without.

Of the cluster only the images of the SR and their metadata matter here (`Graph.view`).
-/

namespace XcpCephRbd.Gc.Companions

open Volume (Dict Desired isUuid)
open Volume.Cbtlog (companionName kLive kEnabled kMode snapPrefix isTapdisk snapKey)

/-- The metadata of the images of an SR, by name. -/
abbrev View := String → Option Dict

/-- What the cluster holds of it. -/
def view (sr : Sr) (g : Graph) : View :=
    fun image => (g.images.lookup (sr.spec image)).map Image.metadata

/-- The name of a volume. -/
def isVolume (name : String) : Bool := isUuid name.toList

/-- The keys under which generations are recorded. -/
def recording (key : String) : Bool := key == kLive || Text.startsWith key snapPrefix

/-- The generation is recorded. -/
def Recorded (metadata : Dict) (gen : String) : Prop :=
  gen ≠ "" ∧ ∃ key, recording key = true ∧ metadata.lookup key = some gen

/-- A recorded generation of a volume has no companion. -/
def Unbacked (v : View) : Prop :=
  ∃ base metadata gen, isVolume base = true ∧ v base = some metadata ∧ Recorded metadata gen ∧
    v (companionName base gen) = none

/-- A companion of a volume is not recorded. -/
def Unrecorded (v : View) : Prop :=
  ∃ base gen, isVolume base = true ∧ (v (companionName base gen)).isSome ∧
    ∀ metadata, v base = some metadata → ¬Recorded metadata gen

/-- Companions and records agree: every recorded generation of an existing base has its companion,
and every companion is recorded in the metadata of an existing base. -/
def InStep (v : View) : Prop := ¬Unbacked v ∧ ¬Unrecorded v

/-! ## Names -/

/-- The name of a volume is 36 characters long. -/
theorem length_of_isVolume {name : String} (h : isVolume name = true) :
    name.toList.length = 36 := by
  simp only [isVolume, isUuid, Bool.and_eq_true, beq_iff_eq] at h
  exact h.1

/-- A companion has one base and one generation. -/
theorem companionName_inj₂ {base base' gen gen' : String} (hbase : isVolume base = true)
    (hbase' : isVolume base' = true) (h : companionName base gen = companionName base' gen') :
    base = base' ∧ gen = gen' := by
  have hlist := congrArg String.toList h
  simp only [companionName, String.toList_append, List.append_assoc, List.append_cancel_left_eq]
    at hlist
  have hlen := (length_of_isVolume hbase).trans (length_of_isVolume hbase').symm
  obtain ⟨hb, hrest⟩ := List.append_inj hlist hlen
  simp only [List.append_cancel_left_eq] at hrest
  exact ⟨String.toList_inj.mp hb, String.toList_inj.mp hrest⟩

/-- A companion is no volume. -/
theorem isVolume_companionName (base gen : String) : isVolume (companionName base gen) = false := by
  simp [isVolume, isUuid, companionName, Volume.Cbtlog.companionPrefix, Volume.isHex]

/-- What is in the trash is no volume. -/
theorem isVolume_trash (uuid : String) : isVolume (Volume.trashPrefix ++ uuid) = false :=
  Volume.isUuid_trash uuid

/-- What is in the trash is no companion. -/
theorem companionName_ne_trash (base gen uuid : String) :
    companionName base gen ≠ Volume.trashPrefix ++ uuid := by
  intro h
  have hhead := congrArg (fun text => text.toList.head?) h
  simp [companionName, Volume.Cbtlog.companionPrefix, Volume.trashPrefix] at hhead

/-! ## What requests do to the view -/

section View

variable {sr : Sr} {g g' : Graph} {image : String}

/-- The images of an SR differ where their names do. -/
theorem spec_inj {image image' : String} (h : sr.spec image = sr.spec image') : image = image' :=
  congrArg Spec.image h

/-- The image that a request edits, after the edit. -/
theorem view_insert (img : Image) (n : Nat) :
    view sr { images := g.images.insert (sr.spec image) img, nextId := n } =
      Function.update (view sr g) image (some img.metadata) := by
  funext name
  by_cases hname : name = image
  · subst hname
    simp [view]
  · have hne : sr.spec name ≠ sr.spec image := fun h => hname (spec_inj h)
    simp [view, hname, AList.lookup_insert_ne hne]

/-- The image that a request removes. -/
theorem view_erase (n : Nat) :
    view sr { images := g.images.erase (sr.spec image), nextId := n } =
      Function.update (view sr g) image none := by
  funext name
  by_cases hname : name = image
  · subst hname
    simp [view]
  · have hne : sr.spec name ≠ sr.spec image := fun h => hname (spec_inj h)
    simp [view, hname, AList.lookup_erase_ne hne]

/-- The view has the images that there are. -/
theorem view_eq_none_iff : view sr g image = none ↔ sr.spec image ∉ g.images := by
  rw [view, Option.map_eq_none_iff, AList.lookup_eq_none]

/-- A new image has no metadata. -/
theorem view_create {size : Nat} {features : List String}
    (h : g.apply (.create (sr.spec image) size features) = some g') :
    view sr g image = none ∧ view sr g' = Function.update (view sr g) image (some ∅) := by
  cases change_of_apply h with
  | create hnot => exact ⟨view_eq_none_iff.mpr hnot, view_insert _ _⟩
  | edit _ hedit => cases hedit

/-- A removed image is gone. -/
theorem view_remove (h : g.apply (.remove (sr.spec image)) = some g') :
    view sr g' = Function.update (view sr g) image none := by
  cases change_of_apply h with
  | remove himg hempty => exact view_erase _
  | edit _ hedit => cases hedit

/-- A renamed image keeps its metadata. -/
theorem view_rename {newName : String}
    (h : g.apply (.imageRename (sr.spec image) newName) = some g') :
    ∃ metadata, view sr g image = some metadata ∧
      view sr g' = Function.update (Function.update (view sr g) image none) newName
        (some metadata) := by
  cases change_of_apply h with
  | @rename _ _ img himg hnot =>
      refine ⟨img.metadata, by simp [view, himg], ?_⟩
      rw [← view_erase g.nextId]
      exact view_insert (g := { images := g.images.erase (sr.spec image), nextId := g.nextId }) img
        g.nextId
  | edit _ hedit => cases hedit

/-- A PUT edits the metadata. -/
theorem view_put {size : Option Nat} {given : Desired}
    (h : g.apply (.put (sr.spec image) { size := size, metadata := some given }) = some g') :
    ∃ metadata, view sr g image = some metadata ∧
      view sr g' = Function.update (view sr g) image
        (some (Volume.Image.setMetadata metadata given)) := by
  cases change_of_apply h with
  | @edit _ img img' himg hedit =>
      refine ⟨img.metadata, by simpa [view] using ⟨img, himg, rfl⟩, ?_⟩
      refine (view_insert _ _).trans ?_
      cases hedit
      cases size with
      | none => rfl
      | some size =>
          obtain ⟨content, hresize⟩ : ∃ content, img.resize size =
              { img with size := size, content := content } := resize_eq size
          simp [Image.put, hresize]

/-- The requests about snapshots. -/
def snapReq : Req → Bool
  | .snapCreate _ _ | .snapRemove _ _ | .snapSetProtected _ _ _ | .snapRename _ _ _ => true
  | _ => false

/-- A request about a snapshot leaves all metadata as it is. -/
theorem view_snap {r : Req} (hsnap : snapReq r = true) (h : g.apply r = some g') :
    view sr g' = view sr g := by
  have hsame : ∀ {spec : Spec} {img img' : Image} {n : Nat}, g.images.lookup spec = some img →
      img'.metadata = img.metadata →
      view sr { images := g.images.insert spec img', nextId := n } = view sr g := by
    intro spec img img' n himg hmeta
    funext name
    by_cases hname : sr.spec name = spec
    · subst hname
      simp [view, himg, hmeta]
    · simp [view, AList.lookup_insert_ne hname]
  cases change_of_apply h with
  | @edit r img img' himg hedit =>
      cases r with
      | snapCreate spec snap =>
          obtain ⟨-, rfl⟩ := edit_snapCreate hedit
          exact hsame himg rfl
      | snapRemove spec snap =>
          obtain ⟨-, -, rfl⟩ := edit_snapRemove hedit
          exact hsame himg rfl
      | snapSetProtected spec snap on =>
          obtain ⟨-, -, rfl⟩ := edit_snapSetProtected hedit
          exact hsame himg rfl
      | snapRename spec snap newSnap =>
          obtain ⟨-, -, rfl⟩ := edit_snapRename hedit
          exact hsame himg rfl
      | _ => cases hsnap
  | _ => cases hsnap

end View

/-! ## Which views are in step -/

/-- No generation is recorded twice. -/
def Distinct (metadata : Dict) : Prop :=
  ∀ gen key key', gen ≠ "" → recording key = true → recording key' = true →
    metadata.lookup key = some gen → metadata.lookup key' = some gen → key = key'

/-- The companions of one volume and its records agree; generations are recorded only while tracking
is on, and each under one key. -/
structure GoodAt (v : View) (base : String) : Prop where
  backed : ∀ metadata gen, v base = some metadata → Recorded metadata gen →
    (v (companionName base gen)).isSome
  listed : ∀ gen, (v (companionName base gen)).isSome →
    ∃ metadata, v base = some metadata ∧ Recorded metadata gen
  tapdisk : ∀ metadata gen, v base = some metadata → Recorded metadata gen →
    isTapdisk metadata = true
  distinct : ∀ metadata, v base = some metadata → Distinct metadata

/-- This holds of every volume. -/
def Good (v : View) : Prop := ∀ base, isVolume base = true → GoodAt v base

section Good

open Function (update)

variable {v v' : View} {base gen : String} {metadata metadata' : Dict}

/-- What is good is in step. -/
theorem Good.inStep (h : Good v) : InStep v := by
  constructor
  · rintro ⟨base, metadata, gen, hbase, hv, hrec, hnone⟩
    have hsome := (h base hbase).backed metadata gen hv hrec
    simp [hnone] at hsome
  · rintro ⟨base, gen, hbase, hsome, hnot⟩
    obtain ⟨metadata, hv, hrec⟩ := (h base hbase).listed gen hsome
    exact hnot metadata hv hrec

/-- The keys that record generations are those of changed-block tracking. -/
theorem recording_cbt {key : String} (h : recording key = true) :
    Text.startsWith key "cbt." = true := by
  simp only [recording, Bool.or_eq_true, beq_iff_eq] at h
  obtain rfl | h := h
  · decide
  · obtain ⟨rest, rfl⟩ := Text.startsWith_iff.mp h
    refine Text.startsWith_iff.mpr ⟨"snap." ++ rest, ?_⟩
    rw [← String.append_assoc]
    rfl

/-- A volume is not one of the companions. -/
theorem ne_companionName (hbase : isVolume base = true) (base' gen : String) :
    base ≠ companionName base' gen := by
  rintro rfl
  rw [isVolume_companionName] at hbase
  cases hbase

/-- The view changes at one volume and its companions only. -/
structure OnlyAt (base : String) (v v' : View) : Prop where
  volumes : ∀ b, isVolume b = true → b ≠ base → v' b = v b
  companions : ∀ b gen, isVolume b = true → b ≠ base →
    v' (companionName b gen) = v (companionName b gen)

theorem OnlyAt.refl (base : String) (v : View) : OnlyAt base v v :=
    ⟨fun _ _ _ => rfl, fun _ _ _ _ => rfl⟩

/-- One change at the volume after another. -/
theorem OnlyAt.trans {v'' : View} (h : OnlyAt base v v') (h' : OnlyAt base v' v'') :
    OnlyAt base v v'' where
  volumes b hb hne := (h'.volumes b hb hne).trans (h.volumes b hb hne)
  companions b gen hb hne := (h'.companions b gen hb hne).trans (h.companions b gen hb hne)

/-- The metadata of the volume is written, or the volume removed. -/
theorem onlyAt_base (hbase : isVolume base = true) (v : View) (value : Option Dict) :
    OnlyAt base v (update v base value) where
  volumes _ _ hne := Function.update_of_ne hne _ _
  companions b gen _ _ := Function.update_of_ne (ne_companionName hbase b gen).symm _ _

/-- A companion of the volume is created or removed. -/
theorem onlyAt_companion (hbase : isVolume base = true) (v : View) (gen : String)
    (value : Option Dict) : OnlyAt base v (update v (companionName base gen) value) where
  volumes _ hb _ := Function.update_of_ne (ne_companionName hb base gen) _ _
  companions _ _ hb hne := Function.update_of_ne
    (fun heq => hne (companionName_inj₂ hb hbase heq).1) _ _

/-- What matters of one volume: its metadata and its companions. -/
theorem GoodAt.congr (h : GoodAt v base) (hself : v' base = v base)
    (hcompanion : ∀ gen, v' (companionName base gen) = v (companionName base gen)) :
    GoodAt v' base where
  backed md gen hmd hrec := by
    rw [hcompanion]
    exact h.backed md gen (hself ▸ hmd) hrec
  listed gen hsome := by
    rw [hcompanion] at hsome
    rw [hself]
    exact h.listed gen hsome
  tapdisk md gen hmd hrec := h.tapdisk md gen (hself ▸ hmd) hrec
  distinct md hmd := h.distinct md (hself ▸ hmd)

/-- What is good stays good where the view changes at one volume only, if it is good there. -/
theorem Good.onlyAt (h : Good v) (honly : OnlyAt base v v') (hat : GoodAt v' base) : Good v' := by
  intro b hb
  by_cases hne : b = base
  · subst hne
    exact hat
  · exact (h b hb).congr (honly.volumes b hb hne) fun gen => honly.companions b gen hb hne

/-- The metadata of the volume is rewritten, with the same records as before. -/
theorem Good.rewrite (h : Good v) (hbase : isVolume base = true) (hv : v base = some metadata)
    (hsame : ∀ key, recording key = true → metadata'.lookup key = metadata.lookup key)
    (htapdisk : ∀ gen, Recorded metadata gen → isTapdisk metadata' = true) :
    Good (update v base (some metadata')) := by
  have hrecorded : ∀ gen, Recorded metadata' gen ↔ Recorded metadata gen := by
    intro gen
    refine and_congr_right fun _ => exists_congr fun key => and_congr_right fun hkey => ?_
    rw [hsame key hkey]
  have hold := h base hbase
  have hself : ∀ md, update v base (some metadata') base = some md → md = metadata' := by
    intro md hmd
    rw [Function.update_self] at hmd
    exact (Option.some.inj hmd).symm
  have hcompanion : ∀ gen, update v base (some metadata') (companionName base gen) =
      v (companionName base gen) := fun gen =>
    Function.update_of_ne (Volume.Cbtlog.companionName_ne base gen) _ _
  refine h.onlyAt (onlyAt_base hbase v _)
    ⟨fun md gen hmd hrec => ?_, fun gen hsome => ?_, fun md gen hmd hrec => ?_, fun md hmd => ?_⟩
  · cases hself md hmd
    rw [hcompanion]
    exact hold.backed metadata gen hv ((hrecorded gen).mp hrec)
  · rw [hcompanion] at hsome
    obtain ⟨md, hmd, hrec⟩ := hold.listed gen hsome
    cases hv.symm.trans hmd
    exact ⟨metadata', Function.update_self .., (hrecorded gen).mpr hrec⟩
  · cases hself md hmd
    exact htapdisk gen ((hrecorded gen).mp hrec)
  · cases hself md hmd
    intro gen key key' hgen hkey hkey' hlook hlook'
    rw [hsame key hkey] at hlook
    rw [hsame key' hkey'] at hlook'
    exact hold.distinct metadata hv gen key key' hgen hkey hkey' hlook hlook'

/-- Metadata that is the same as far as changed-block tracking goes. -/
theorem Good.sameCbt (h : Good v) (hbase : isVolume base = true) (hv : v base = some metadata)
    (hsame : Volume.SameCbt metadata metadata') : Good (update v base (some metadata')) := by
  refine h.rewrite hbase hv (fun key hkey => hsame key (recording_cbt hkey)) fun gen hrec => ?_
  rw [hsame.isTapdisk]
  exact (h base hbase).tapdisk metadata gen hv hrec

/-- A companion that was created is recorded. -/
theorem Good.record (h : Good v) (hbase : isVolume base = true) (hv : v base = some metadata)
    (hrecorded : ∀ g, Recorded metadata' g ↔ Recorded metadata g ∨ g = gen)
    (htapdisk : isTapdisk metadata' = true) (hdistinct : Distinct metadata') :
    Good (update (update v (companionName base gen) (some ∅)) base (some metadata')) := by
  have hold := h base hbase
  have hself :
      ∀ md, update (update v (companionName base gen) (some ∅)) base (some metadata') base =
      some md → md = metadata' := by
    intro md hmd
    rw [Function.update_self] at hmd
    exact (Option.some.inj hmd).symm
  have hcompanion : ∀ g, update (update v (companionName base gen) (some ∅)) base (some metadata')
      (companionName base g) = if g = gen then some ∅ else v (companionName base g) := by
    intro g
    rw [Function.update_of_ne (Volume.Cbtlog.companionName_ne base g)]
    split
    next heq => rw [heq, Function.update_self]
    next hne =>
      rw [Function.update_of_ne fun heq => hne (Volume.Cbtlog.companionName_inj heq)]
  refine h.onlyAt ((onlyAt_companion hbase v gen _).trans (onlyAt_base hbase _ _))
    ⟨fun md g hmd hrec => ?_, fun g hsome => ?_, fun md g hmd hrec => ?_, fun md hmd => ?_⟩
  · cases hself md hmd
    rw [hcompanion]
    split
    · rfl
    next hne =>
      obtain hrec | heq := (hrecorded g).mp hrec
      · exact hold.backed metadata g hv hrec
      · exact absurd heq hne
  · refine ⟨metadata', Function.update_self .., (hrecorded g).mpr ?_⟩
    rw [hcompanion] at hsome
    split at hsome
    next heq => exact .inr heq
    next =>
      obtain ⟨md, hmd, hrec⟩ := hold.listed g hsome
      cases hv.symm.trans hmd
      exact .inl hrec
  · cases hself md hmd
    exact htapdisk
  · cases hself md hmd
    exact hdistinct

/-- Some companions of the volume have been removed. -/
structure Without (base : String) (gone : String → Prop) (v v' : View) : Prop where
  removed : ∀ gen, gone gen → v' (companionName base gen) = none
  others : ∀ name, (∀ gen, gone gen → name ≠ companionName base gen) → v' name = v name

/-- The volume itself is left as it is. -/
theorem Without.base_eq {gone : String → Prop} (h : Without base gone v v') : v' base = v base :=
  h.others base fun gen _ => (Volume.Cbtlog.companionName_ne base gen).symm

/-- Only companions of the volume are gone. -/
theorem Without.onlyAt {gone : String → Prop} (h : Without base gone v v')
    (hbase : isVolume base = true) : OnlyAt base v v' where
  volumes b hb _ := h.others b fun gen _ => ne_companionName hb base gen
  companions _ _ hb hne := h.others _ fun _ _ heq => hne (companionName_inj₂ hb hbase heq).1

/-- A companion that is left was there before, and is not one that is gone. -/
theorem Without.left {gone : String → Prop} (h : Without base gone v v')
    (hsome : (v' (companionName base gen)).isSome) :
    ¬gone gen ∧ (v (companionName base gen)).isSome := by
  have hnot : ¬gone gen := fun hgone => by simp [h.removed gen hgone] at hsome
  rw [h.others] at hsome
  · exact ⟨hnot, hsome⟩
  · intro gen' hgone heq
    exact hnot (Volume.Cbtlog.companionName_inj heq ▸ hgone)

/-- Companions that were removed are no longer recorded. -/
theorem Good.clear {gone : String → Prop} (h : Good v) (hbase : isVolume base = true)
    (hv : v base = some metadata) (hwithout : Without base gone v v')
    (hsame : ∀ key gen, recording key = true → gen ≠ "" →
      (metadata'.lookup key = some gen ↔ metadata.lookup key = some gen ∧ ¬gone gen))
    (htapdisk : ∀ gen, Recorded metadata' gen → isTapdisk metadata' = true) :
    Good (update v' base (some metadata')) := by
  have hold := h base hbase
  have hrecorded : ∀ gen, Recorded metadata' gen ↔ Recorded metadata gen ∧ ¬gone gen := by
    intro gen
    constructor
    · rintro ⟨hgen, key, hkey, hlook⟩
      obtain ⟨hlook, hnot⟩ := (hsame key gen hkey hgen).mp hlook
      exact ⟨⟨hgen, key, hkey, hlook⟩, hnot⟩
    · rintro ⟨⟨hgen, key, hkey, hlook⟩, hnot⟩
      exact ⟨hgen, key, hkey, (hsame key gen hkey hgen).mpr ⟨hlook, hnot⟩⟩
  have hself : ∀ md, update v' base (some metadata') base = some md → md = metadata' := by
    intro md hmd
    rw [Function.update_self] at hmd
    exact (Option.some.inj hmd).symm
  have hcompanion : ∀ gen, update v' base (some metadata') (companionName base gen) =
      v' (companionName base gen) := fun gen =>
    Function.update_of_ne (Volume.Cbtlog.companionName_ne base gen) _ _
  refine h.onlyAt ((hwithout.onlyAt hbase).trans (onlyAt_base hbase _ _))
    ⟨fun md gen hmd hrec => ?_, fun gen hsome => ?_, fun md gen hmd hrec => ?_, fun md hmd => ?_⟩
  · cases hself md hmd
    obtain ⟨hrec, hnot⟩ := (hrecorded gen).mp hrec
    have hother : v' (companionName base gen) = v (companionName base gen) :=
      hwithout.others _ fun gen' hgone heq => hnot (Volume.Cbtlog.companionName_inj heq ▸ hgone)
    rw [hcompanion, hother]
    exact hold.backed metadata gen hv hrec
  · rw [hcompanion] at hsome
    obtain ⟨hnot, hsome⟩ := hwithout.left hsome
    obtain ⟨md, hmd, hrec⟩ := hold.listed gen hsome
    cases hv.symm.trans hmd
    exact ⟨metadata', Function.update_self .., (hrecorded gen).mpr ⟨hrec, hnot⟩⟩
  · cases hself md hmd
    exact htapdisk gen hrec
  · cases hself md hmd
    intro gen key key' hgen hkey hkey' hlook hlook'
    exact hold.distinct metadata hv gen key key' hgen hkey hkey'
      ((hsame key gen hkey hgen).mp hlook).1 ((hsame key' gen hkey' hgen).mp hlook').1

/-- A volume whose recorded companions have been removed goes. -/
theorem Good.gone (h : Good v) (hbase : isVolume base = true) (hv : v base = some metadata)
    (hwithout : Without base (Recorded metadata) v v') : Good (update v' base none) := by
  refine h.onlyAt ((hwithout.onlyAt hbase).trans (onlyAt_base hbase _ _))
    ⟨fun md gen hmd _ => ?_, fun gen hsome => ?_, fun md gen hmd _ => ?_, fun md hmd => ?_⟩
  · rw [Function.update_self] at hmd
    cases hmd
  · rw [Function.update_of_ne (Volume.Cbtlog.companionName_ne base gen)] at hsome
    obtain ⟨hnot, hsome⟩ := hwithout.left hsome
    obtain ⟨md, hmd, hrec⟩ := (h base hbase).listed gen hsome
    cases hv.symm.trans hmd
    exact absurd hrec hnot
  · rw [Function.update_self] at hmd
    cases hmd
  · rw [Function.update_self] at hmd
    cases hmd

/-- An image that is neither a volume nor a companion does not matter. -/
theorem Good.other {name : String} (h : Good v) (hvolume : isVolume name = false)
    (hcompanion : ∀ b gen, companionName b gen ≠ name) (value : Option Dict) :
    Good (update v name value) := by
  intro b hb
  have hself : update v name value b = v b := by
    refine Function.update_of_ne (fun heq => ?_) _ _
    rw [heq, hvolume] at hb
    cases hb
  exact (h b hb).congr hself fun gen => Function.update_of_ne (hcompanion b gen) _ _

/-- Where no recorded companion is missing after all, nothing was removed that is recorded. -/
theorem Good.of_not_unbacked {gone : String → Prop} (h : Good v) (hbase : isVolume base = true)
    (hwithout : Without base gone v v') (hbacked : ¬Unbacked v') : Good v' := by
  have hold := h base hbase
  refine h.onlyAt (hwithout.onlyAt hbase)
    ⟨fun md gen hmd hrec => ?_, fun gen hsome => ?_, fun md gen hmd hrec => ?_, fun md hmd => ?_⟩
  · by_contra hnone
    exact hbacked ⟨base, md, gen, hbase, hmd, hrec, by simpa using hnone⟩
  · obtain ⟨md, hmd, hrec⟩ := hold.listed gen (hwithout.left hsome).2
    exact ⟨md, hwithout.base_eq ▸ hmd, hrec⟩
  · exact hold.tapdisk md gen (hwithout.base_eq ▸ hmd) hrec
  · exact hold.distinct md (hwithout.base_eq ▸ hmd)

end Good

/-! ## The records of a generation -/

section Records

variable {metadata metadata' : Dict} {desired : Desired} {gen snap : String}

/-- The metadata that `image_meta_set` leaves, of whose reads the second one may have failed. -/
def Left (metadata : Dict) (desired : Desired) (metadata' : Dict) : Prop :=
  metadata' = Volume.replaced metadata desired ∨
    metadata' = Volume.Image.setMetadata metadata desired

/-- Where nothing is dropped, the metadata is what was desired. -/
theorem lookup_left (h : Left metadata desired metadata')
    (hkeeps : ∀ key, desired.lookup key = none → metadata.lookup key = none) (key : String) :
    metadata'.lookup key = (desired.lookup key).join := by
  obtain rfl | rfl := h
  · exact Volume.lookup_replaced _ _ _
  · rw [Volume.lookup_setMetadata]
    cases hlook : desired.lookup key with
    | some value => rfl
    | none => exact hkeeps key hlook

/-- A lookup after an assignment. -/
theorem lookup_assign (m : Desired) (key key' : String) (value : Option String) :
    (m.insert key' value).lookup key = if key = key' then some value else m.lookup key := by
  split
  next h => rw [h, AList.lookup_insert]
  next h => exact AList.lookup_insert_ne h

/-- Where values are only handed back or dropped, a failed read leaves the metadata as it was. -/
theorem lookup_blind (hpart : ∀ key value, desired.lookup key = some value →
      value = metadata.lookup key) (key : String) :
    (Volume.Image.setMetadata metadata desired).lookup key = metadata.lookup key := by
  rw [Volume.lookup_setMetadata]
  cases hlook : desired.lookup key with
  | some value => exact hpart key value hlook
  | none => rfl

theorem recording_kLive : recording kLive = true := by decide

/-- The key of a sealed generation records it. -/
theorem recording_snapKey (snap : String) : recording (snapKey snap) = true := by
  simp only [recording, Bool.or_eq_true]
  exact .inr (Text.startsWith_append _ _)

/-- The live generation has a key of its own. -/
theorem kLive_ne_snapKey (snap : String) : kLive ≠ snapKey snap := by
  intro h
  have hlist := congrArg (fun text => text.toList.drop 4) h
  simp [kLive, snapKey, snapPrefix] at hlist

/-- The keys that switch tracking on record nothing. -/
theorem recording_kEnabled : recording kEnabled = false := by decide

theorem recording_kMode : recording kMode = false := by decide

/-- A key that records a generation is none of the others. -/
theorem ne_of_recording {key key' : String} (h : recording key = true)
    (h' : recording key' = false) : key ≠ key' := by
  rintro rfl
  rw [h] at h'
  cases h'

/-- Tracking that is switched on records the first generation. -/
theorem recorded_enabled (hnone : ∀ g, ¬Recorded metadata g) (hgen : gen ≠ "")
    (hlook : ∀ key, recording key = true →
      metadata'.lookup key = if key = kLive then some gen else metadata.lookup key) :
    (∀ g, Recorded metadata' g ↔ Recorded metadata g ∨ g = gen) ∧ Distinct metadata' := by
  have honly : ∀ g key, g ≠ "" → recording key = true → metadata'.lookup key = some g →
      key = kLive ∧ g = gen := by
    intro g key hg hkey hlook'
    rw [hlook key hkey] at hlook'
    split at hlook'
    next heq =>
      cases hlook'
      exact ⟨heq, rfl⟩
    next => exact absurd ⟨hg, key, hkey, hlook'⟩ (hnone g)
  refine ⟨fun g => ⟨?_, ?_⟩, fun g key key' hg hkey hkey' h h' => ?_⟩
  · rintro ⟨hg, key, hkey, h⟩
    exact .inr (honly g key hg hkey h).2
  · rintro (hrec | rfl)
    · exact absurd hrec (hnone g)
    · exact ⟨hgen, kLive, recording_kLive, by rw [hlook _ recording_kLive, if_pos rfl]⟩
  · rw [(honly g key hg hkey h).1, (honly g key' hg hkey' h').1]

/-- A rotation records the new generation as the live one and the old one for the snapshot. -/
theorem recorded_rotated (hnew : ¬Recorded metadata gen) (hgen : gen ≠ "")
    (hsnap : metadata.lookup (snapKey snap) = none) (hdistinct : Distinct metadata)
    (hlook : ∀ key, recording key = true → metadata'.lookup key =
      if key = kLive then some gen
      else if key = snapKey snap then metadata.lookup kLive else metadata.lookup key) :
    (∀ g, Recorded metadata' g ↔ Recorded metadata g ∨ g = gen) ∧ Distinct metadata' := by
  -- where a record of the new metadata comes from
  have hsource : ∀ g key, recording key = true → metadata'.lookup key = some g →
      (key = kLive ∧ g = gen) ∨ (key = snapKey snap ∧ metadata.lookup kLive = some g) ∨
        (key ≠ kLive ∧ key ≠ snapKey snap ∧ metadata.lookup key = some g) := by
    intro g key hkey h
    rw [hlook key hkey] at h
    split at h
    next heq =>
      cases h
      exact .inl ⟨heq, rfl⟩
    next hlive =>
      split at h
      next heq => exact .inr (.inl ⟨heq, h⟩)
      next hne => exact .inr (.inr ⟨hlive, hne, h⟩)
  refine ⟨fun g => ⟨?_, ?_⟩, fun g key key' hg hkey hkey' h h' => ?_⟩
  · rintro ⟨hg, key, hkey, h⟩
    obtain ⟨-, rfl⟩ | ⟨-, h⟩ | ⟨-, -, h⟩ := hsource g key hkey h
    · exact .inr rfl
    · exact .inl ⟨hg, kLive, recording_kLive, h⟩
    · exact .inl ⟨hg, key, hkey, h⟩
  · rintro (⟨hg, key, hkey, h⟩ | rfl)
    · by_cases hlive : key = kLive
      · subst hlive
        refine ⟨hg, snapKey snap, recording_snapKey snap, ?_⟩
        rw [hlook _ (recording_snapKey snap), if_neg (kLive_ne_snapKey snap).symm, if_pos rfl]
        exact h
      · refine ⟨hg, key, hkey, ?_⟩
        have hne : key ≠ snapKey snap := by
          rintro rfl
          rw [hsnap] at h
          cases h
        rw [hlook key hkey, if_neg hlive, if_neg hne]
        exact h
    · exact ⟨hgen, kLive, recording_kLive, by rw [hlook _ recording_kLive, if_pos rfl]⟩
  · have hold : ∀ k, recording k = true → metadata.lookup k = some g → g ≠ gen := by
      rintro k hk hlook' rfl
      exact hnew ⟨hg, k, hk, hlook'⟩
    obtain ⟨rfl, rfl⟩ | ⟨rfl, hl⟩ | ⟨hne, -, hl⟩ := hsource g key hkey h
    · obtain ⟨rfl, -⟩ | ⟨-, hl'⟩ | ⟨-, -, hl'⟩ := hsource g key' hkey' h'
      · rfl
      · exact absurd rfl (hold _ recording_kLive hl')
      · exact absurd rfl (hold _ hkey' hl')
    · obtain ⟨-, heq⟩ | ⟨rfl, -⟩ | ⟨hne', -, hl'⟩ := hsource g key' hkey' h'
      · exact absurd heq (hold _ recording_kLive hl)
      · rfl
      · exact absurd (hdistinct g _ _ hg recording_kLive hkey' hl hl').symm hne'
    · obtain ⟨-, heq⟩ | ⟨-, hl'⟩ | ⟨-, -, hl'⟩ := hsource g key' hkey' h'
      · exact absurd heq (hold _ hkey hl)
      · exact absurd (hdistinct g _ _ hg hkey recording_kLive hl hl') hne
      · exact hdistinct g key key' hg hkey hkey' hl hl'

end Records

end XcpCephRbd.Gc.Companions
