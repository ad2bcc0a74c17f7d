import XcpCephRbd.Volume.MetaWrite

/-!
# Replacing image-meta

`image_meta_set` is to replace the dictionary of an image, and the operations that drop keys rely on
it. `metadata_replaced_iff` says when a write that returned has done so: on librbd always, on REST
where its own read did not fail or showed nothing that had to go.
-/

namespace XcpCephRbd.Volume.MetaWrite

open Prog
open Text (startsWith)
open Datapath (splitKey)
open Updates (Backend)

/-! ## The operations that remove keys -/

/-- `Volume.unset`, the purge of a destroyed snapshot, `Volume.disable_cbt` and the prune of `SR.ls`
with what its listing said of an image. -/
inductive Removal where
  | unset (key k : String)
  | purge (base snap : String)
  | disableCbt (key : String)
  | prune (info : Info)

namespace Removal

/-- The image. -/
def image : Removal → String
  | .unset key _ => (splitKey key).1
  | .purge base _ => base
  | .disableCbt key => (splitKey key).1
  | .prune info => info.name

/-- The operation; the purge and the prune up to where they log a failure and go on. -/
def prog : Removal → Op Unit
  | .unset key k => Volume.unset key k
  | .purge base snap =>
      rmw base fun m => filterKeys m fun key => !startsWith key (snapMetaPrefix snap)
  | .disableCbt key => Volume.disableCbt key
  | .prune info =>
      let orphans := orphanSnapMetaKeys info.metadata (info.snapshots.map SnapInfo.name)
      let kept := filterKeys info.metadata fun key => !orphans.contains key
      RestBackend.imageMetaSet info.name (Dict.toDesired kept) info.size

/-- The keys that the operation removes from a dictionary. -/
def removes (op : Removal) (metadata : Dict) (key : String) : Bool :=
  match op with
  | .unset key' k => key == (metaNames (splitKey key').2).2.2 ++ k
  | .purge _ snap => startsWith key (snapMetaPrefix snap)
  | .disableCbt key' =>
      if (splitKey key').2.isNone && Cbtlog.isTapdisk metadata then isCbtlogKey key
      else key == cbtKey (splitKey key').2
  | .prune info =>
      (orphanSnapMetaKeys info.metadata (info.snapshots.map SnapInfo.name)).contains key

end Removal

/-- The purge goes on where its read-modify-write fails. -/
theorem purgeSnapMeta_eq (base snap : String) :
    purgeSnapMeta base snap = exceptBackend (Removal.purge base snap).prog fun _ => pure () := rfl

/-- So does the prune, with the metadata as it was. -/
theorem pruneOrphans_eq (info : Info) : pruneOrphans info =
    if (orphanSnapMetaKeys info.metadata (info.snapshots.map SnapInfo.name)).isEmpty then
      pure info.metadata
    else exceptBackend (do
      (Removal.prune info).prog
      return filterKeys info.metadata fun key =>
        !(orphanSnapMetaKeys info.metadata (info.snapshots.map SnapInfo.name)).contains key)
      fun _ => pure info.metadata := rfl

/-- The custom keys of a volume start like its other keys. -/
theorem isConf_metaNames (snap : Option String) (k : String) :
    isConf ((metaNames snap).2.2 ++ k) = false := by
  cases snap with
  | none =>
      have hstart : startsWith ("vdi" ++ ".k." ++ k) "vdi" = true := by
        rw [String.append_assoc]
        exact Text.startsWith_append _ _
      exact Text.startsWith_eq_false hstart (by decide) (by decide)
  | some snap =>
      have hstart : startsWith ("snap." ++ snap ++ ".k." ++ k) "snap." = true := by
        rw [String.append_assoc, String.append_assoc]
        exact Text.startsWith_append _ _
      exact Text.startsWith_eq_false hstart (by decide) (by decide)

/-- A key of a snapshot is no key of the configuration. -/
theorem isConf_of_snapMetaPrefix {snap key : String}
    (h : startsWith key (snapMetaPrefix snap) = true) : isConf key = false := by
  obtain ⟨rest, rfl⟩ := Text.startsWith_iff.mp h
  have hstart : startsWith (snapMetaPrefix snap ++ rest) "snap." = true := by
    rw [snapMetaPrefix, String.append_assoc, String.append_assoc]
    exact Text.startsWith_append _ _
  exact Text.startsWith_eq_false hstart (by decide) (by decide)

/-- A key whose first letter is no `s` does not look like one of a snapshot. -/
theorem snapMetaGroup_eq_none {c : Char} {pre key : String} (hpre : pre.toList.head? = some c)
    (hc : sameLetter c 's' = false) (hkey : startsWith key pre = true) :
    snapMetaGroup key = none := by
  obtain ⟨rest, rfl⟩ := Text.startsWith_iff.mp hkey
  obtain ⟨more, hmore⟩ := List.head?_eq_some_iff.mp hpre
  rw [snapMetaGroup]
  dsimp only
  rw [String.toList_append, hmore]
  refine if_neg ?_
  simp [hc]

/-- A key that looks like one of a snapshot is no key of the configuration. -/
theorem isConf_of_snapMetaGroup {key : String} (h : (snapMetaGroup key).isSome = true) :
    isConf key = false := by
  by_contra hconf
  rw [snapMetaGroup_eq_none (c := 'c') rfl (by decide) (Bool.not_eq_false _ ▸ hconf)] at h
  cases h

/-- The keys of changed-block tracking are no keys of the configuration. -/
theorem isConf_of_isCbtlogKey {key : String} (h : isCbtlogKey key = true) :
    isConf key = false := by
  simp only [isCbtlogKey, Bool.or_eq_true, beq_iff_eq] at h
  rcases h with ((rfl | rfl) | rfl) | hsnap
  · decide
  · decide
  · decide
  · exact Text.startsWith_eq_false hsnap (by decide) (by decide)

/-- No key of the configuration is removed. -/
theorem isConf_of_removes {op : Removal} {metadata : Dict} {key : String}
    (h : op.removes metadata key = true) : isConf key = false := by
  cases op with
  | unset key' k =>
      obtain rfl := beq_iff_eq.mp h
      exact isConf_metaNames _ k
  | purge base snap => exact isConf_of_snapMetaPrefix h
  | disableCbt key' =>
      simp only [Removal.removes] at h
      split at h
      · exact isConf_of_isCbtlogKey h
      · obtain rfl := beq_iff_eq.mp h
        cases (splitKey key').2 with
        | none => decide
        | some snap =>
            have hstart : startsWith (cbtKey (some snap)) (snapMetaPrefix snap) = true := by
              refine Text.startsWith_iff.mpr ⟨"cbt.enabled", ?_⟩
              rw [cbtKey, snapMetaPrefix, String.append_assoc, String.append_assoc]
              rfl
            exact isConf_of_snapMetaPrefix hstart
  | prune info =>
      have hgroup := List.of_mem_filter (List.contains_iff_mem.mp h)
      refine isConf_of_snapMetaGroup ?_
      cases hsnap : snapMetaGroup key with
      | some snap => rfl
      | none =>
          rw [hsnap] at hgroup
          cases hgroup

section Removals

variable {be : Backend} {env : Env} {w : World} {t : Nat} {s' : World × Nat} {base : String}
  {img : Image}

/-- What becomes of a key where some are removed. -/
theorem target_of_removed {current : Dict} {m : Desired} {key : String} {removed : Bool}
    (h : m.lookup key = if removed then none else (shown be current).toDesired.lookup key) :
    target be env current m key =
      if removed && !leaves be env key then none else current.lookup key := by
  cases removed with
  | false => exact target_of_same h
  | true =>
      rw [target_of_none h]
      cases leaves be env key <;> simp

/-- A read-modify-write that removes keys. -/
theorem removed_rmw {mutate : Desired → Desired} {removed : String → Bool}
    (hmutate : ∀ m key, (mutate m).lookup key = if removed key then none else m.lookup key)
    (h : (onBackend be (rmw base mutate)).exec (answer be env) (w, t) = some (.ok (), s')) :
    ∃ img img', w.images.lookup base = some img ∧ s'.1.images.lookup base = some img' ∧
      ∀ key, img'.metadata.lookup key =
        if removed key && !leaves be env key then none else img.metadata.lookup key := by
  have hnull : ∀ m : Dict, NoNull (mutate m.toDesired) := by
    intro m key
    rw [hmutate]
    split
    · simp
    · exact noNull_toDesired m key
  rw [onBackend_rmw be base hnull] at h
  cases hbase : w.images.lookup base with
  | none => exact absurd rfl (rmw_missing hbase h).2
  | some img =>
      obtain ⟨img', himg', -, hdone⟩ := written_rmw hnull hbase h
      refine ⟨img, img', rfl, himg', fun key => ?_⟩
      rw [hdone rfl key]
      exact target_of_removed (hmutate _ key)

/-- The companions of a base are removed by calls that write no metadata. -/
theorem quiet_removeAllCompanions (base : String) (metadata : Dict) :
    AllCalls (Quiet base) (Cbtlog.removeAllCompanions base metadata) := by
  have hone : ∀ gen, AllCalls (Quiet base) (Cbtlog.removeCompanion base gen) := by
    intro gen
    unfold Cbtlog.removeCompanion
    split
    · trivial
    · refine .bind (.tryCatch (.perform trivial) fun _ => trivial) fun _ => ?_
      exact .tryCatch (.perform (Cbtlog.companionName_ne base gen)) fun _ => trivial
  unfold Cbtlog.removeAllCompanions
  induction metadata.entries.filter fun entry =>
      entry.1 == Cbtlog.kLive || startsWith entry.1 Cbtlog.snapPrefix with
  | nil => trivial
  | cons entry rest ih => exact .bind (hone _) fun _ => ih

/-- A dictionary without one key. -/
theorem lookup_erase_ite (m : Desired) (dropped key : String) :
    (m.erase dropped).lookup key = if key == dropped then none else m.lookup key := by
  by_cases hkey : key = dropped
  · subst hkey
    simp
  · simp [hkey, AList.lookup_erase_ne hkey]

/-- A filtered dictionary. -/
theorem lookup_filterKeys_not (m : Desired) (dropped : String → Bool) (key : String) :
    (filterKeys m fun key => !dropped key).lookup key =
      if dropped key then none else m.lookup key := by
  rw [lookup_filterKeys]
  cases dropped key <;> rfl

/-- `disable_cbt` on either route. -/
theorem removed_disableCbt {key : String}
    (h : (onBackend be (disableCbt key)).exec (answer be env) (w, t) = some (.ok (), s')) :
    ∃ img img', w.images.lookup (splitKey key).1 = some img ∧
      s'.1.images.lookup (splitKey key).1 = some img' ∧
      ∀ other, img'.metadata.lookup other =
        if (Removal.disableCbt key).removes (shown be img.metadata) other && !leaves be env other
        then none else img.metadata.lookup other := by
  have hclear : ∀ {w t}, (onBackend be (rmw (splitKey key).1 fun m =>
        m.erase (cbtKey (splitKey key).2))).exec (answer be env) (w, t) = some (.ok (), s') →
      ∃ img img', w.images.lookup (splitKey key).1 = some img ∧
        s'.1.images.lookup (splitKey key).1 = some img' ∧
        ∀ other, img'.metadata.lookup other =
          if other == cbtKey (splitKey key).2 && !leaves be env other then none
          else img.metadata.lookup other := by
    intro w t hclear
    exact removed_rmw (fun m other => lookup_erase_ite m _ other) hclear
  unfold disableCbt at h
  dsimp only at h
  split at h
  next hbase =>
      have hread : AllCalls (Quiet (splitKey key).1) (imageInfo (splitKey key).1) :=
        .perform trivial
      rw [onBackend_quiet_bind (splitKey key).1 hread] at h
      obtain ⟨info, ⟨w₁, t₁⟩, hinfo, hrest⟩ := of_exec_bind_ok h
      obtain ⟨hsame, hfound⟩ := of_imageInfo hinfo
      obtain ⟨img, himg, rfl⟩ := hfound info rfl
      dsimp only at hsame
      rw [hsame] at hrest
      have hmeta : (report be (img.info (splitKey key).1)).metadata = shown be img.metadata := rfl
      rw [hmeta] at hrest
      split at hrest
      next htapdisk =>
          rw [onBackend_quiet_bind (splitKey key).1 (quiet_removeAllCompanions _ _)] at hrest
          obtain ⟨_, ⟨w₂, t₂⟩, hcompanions, hrmw⟩ := of_exec_bind_ok hrest
          obtain ⟨img₂, himg₂, hkept⟩ :=
            metadata_of_quiet (quiet_removeAllCompanions _ _) himg hcompanions
          obtain ⟨img₃, img', himg₃, himg', hkeys⟩ :=
            removed_rmw (fun m other => lookup_filterKeys_not m isCbtlogKey other) hrmw
          cases himg₂.symm.trans himg₃
          refine ⟨img, img', himg, himg', fun other => ?_⟩
          have hremoves : (Removal.disableCbt key).removes (shown be img.metadata) other =
              isCbtlogKey other := by
            simp only [Removal.removes, hbase, htapdisk, Bool.and_self, if_true]
          rw [hkeys other, hkept, hremoves]
      next hroute =>
          obtain ⟨img₁, img', himg₁, himg', hkeys⟩ := hclear hrest
          cases himg.symm.trans himg₁
          refine ⟨img, img', himg, himg', fun other => ?_⟩
          have hremoves : (Removal.disableCbt key).removes (shown be img.metadata) other =
              (other == cbtKey (splitKey key).2) := by
            simp only [Removal.removes, Bool.eq_false_of_not_eq_true hroute, Bool.and_false,
              Bool.false_eq_true, if_false]
          rw [hkeys other, hremoves]
  next hbase =>
      have hroute : (splitKey key).2.isNone = false := Bool.eq_false_of_not_eq_true hbase
      simpa only [Removal.removes, hroute, Bool.false_and, Bool.false_eq_true, if_false]
        using hclear h

/-- An operation that returned: the keys that it removes are gone, but for those that are left. -/
theorem removed_of_removal {op : Removal}
    (hasked : ∀ info, op = .prune info → ∃ img, w.images.lookup info.name = some img ∧
      info = report be (img.info info.name))
    (h : (onBackend be op.prog).exec (answer be env) (w, t) = some (.ok (), s')) :
    ∃ img img', w.images.lookup op.image = some img ∧ s'.1.images.lookup op.image = some img' ∧
      ∀ key, img'.metadata.lookup key =
        if op.removes (shown be img.metadata) key && !leaves be env key then none
        else img.metadata.lookup key := by
  cases op with
  | unset key' k => exact removed_rmw (fun m key => lookup_erase_ite m _ key) h
  | purge base snap => exact removed_rmw (fun m key => lookup_filterKeys_not m _ key) h
  | disableCbt key' => exact removed_disableCbt h
  | prune info =>
      obtain ⟨img, himg, hinfo⟩ := hasked info rfl
      have hmeta : info.metadata = shown be img.metadata := congrArg Info.metadata hinfo
      dsimp only [Removal.prog] at h
      rw [onBackend_imageMetaSet be info.name (noNull_toDesired _)] at h
      obtain ⟨img', himg', -, hdone⟩ := written_imageMetaSet (noNull_toDesired _) himg h
      refine ⟨img, img', himg, himg', fun key => ?_⟩
      rw [hdone rfl key]
      refine target_of_removed ?_
      rw [Dict.lookup_toDesired, Dict.lookup_toDesired, lookup_filterKeys, hmeta, Removal.removes,
        hmeta]
      cases (orphanSnapMetaKeys (shown be img.metadata)
        (info.snapshots.map SnapInfo.name)).contains key <;> rfl

end Removals

/-! ## Every write -/

/-- An `image_meta_set`, or an operation that removes keys. -/
inductive Write where
  | replace (image : String) (metadata : Dict) (size : Nat)
  | remove (op : Removal)

namespace Write

variable (be : Backend)

/-- The image. -/
def image : Write → String
  | .replace image _ _ => image
  | .remove op => op.image

/-- The program on the backend. -/
def prog : Write → Op Unit
  | .replace image metadata size => imageMetaSet be image metadata.toDesired size
  | .remove op => onBackend be op.prog

/-- The prune works on what the listing reports of the image. -/
def Asked (w : World) : Write → Prop
  | .remove (.prune info) => ∃ img, w.images.lookup info.name = some img ∧
      info = report be (img.info info.name)
  | _ => True

/-- The keys of the image that have to go. -/
def goes (metadata : Dict) (key : String) : Write → Bool
  | .replace _ desired _ => decide (key ∉ desired)
  | .remove op => op.removes metadata key

/-- The write has done what it is for: the dictionary is the new one, but for the keys of the
configuration that the backend does not show, or the keys are gone. -/
def Done (w w' : World) : Write → Prop
  | .replace image metadata _ => ∃ img img', w.images.lookup image = some img ∧
      w'.images.lookup image = some img' ∧ ∀ key, img'.metadata.lookup key =
        if be = .rest ∧ isConf key = true ∧ key ∉ metadata then img.metadata.lookup key
        else metadata.lookup key
  | .remove op => ∃ img img', w.images.lookup op.image = some img ∧
      w'.images.lookup op.image = some img' ∧
        ∀ key, op.removes (shown be img.metadata) key = true → key ∉ img'.metadata

/-- On REST the read of `image_meta_set` does not fail with an `RbdBackendError`, or there is
nothing that has to go. -/
def Safe (env : Env) (w : World) (write : Write) : Prop :=
  be = .rest → env.missed = true → ∀ img, w.images.lookup write.image = some img →
    ∀ key ∈ shown be img.metadata, write.goes (shown be img.metadata) key = false

end Write

/-- The dashboard shows the keys that are not of the configuration. -/
theorem mem_shown_rest {metadata : Dict} {key : String} :
    key ∈ shown .rest metadata ↔ isConf key = false ∧ key ∈ metadata := by
  rw [← AList.lookup_isSome, ← AList.lookup_isSome, lookup_shown]
  cases isConf key <;> simp

/-- A write that returned has done what it is for just where the read of `image_meta_set` did not
fail on REST or nothing had to go. -/
theorem metadata_replaced_iff {be : Backend} {env : Env} {write : Write} {w : World} {t : Nat}
    {s' : World × Nat} (hasked : write.Asked be w)
    (h : (write.prog be).exec (answer be env) (w, t) = some (.ok (), s')) :
    write.Done be w s'.1 ↔ write.Safe be env w := by
  cases write with
  | replace image metadata size =>
      obtain ⟨img, himg⟩ := Option.isSome_iff_exists.mp
        (AList.lookup_isSome.mpr (mem_of_imageMetaSet h))
      obtain ⟨img', himg', -, hdone⟩ := written_imageMetaSet (noNull_toDesired metadata) himg h
      have hkeys : ∀ key, img'.metadata.lookup key =
          if key ∈ metadata then metadata.lookup key
          else if leaves be env key then img.metadata.lookup key else none := by
        intro key
        rw [hdone rfl key, target, Dict.lookup_toDesired]
        by_cases hmem : key ∈ metadata
        · obtain ⟨value, hvalue⟩ := Option.isSome_iff_exists.mp (AList.lookup_isSome.mpr hmem)
          simp [hmem, hvalue]
        · simp [hmem, AList.lookup_eq_none.mpr hmem]
      constructor
      · rintro ⟨img₀, img₀', himg₀, himg₀', hreplaced⟩ rfl hmissed img₁ himg₁ key hkey
        cases himg.symm.trans himg₀
        cases himg.symm.trans himg₁
        cases himg'.symm.trans himg₀'
        by_contra hgoes
        have hnot : key ∉ metadata := by simpa [Write.goes] using hgoes
        -- the key was not removed
        obtain ⟨hconf, hmem⟩ := mem_shown_rest.mp hkey
        have hleft : leaves .rest env key = true := by rw [leaves, hmissed, Bool.or_true]
        have hsame := hreplaced key
        rw [hkeys key, if_neg hnot, if_pos hleft, hconf, if_neg (by simp),
          AList.lookup_eq_none.mpr hnot] at hsame
        exact AList.lookup_eq_none.mp hsame hmem
      · intro hsafe
        refine ⟨img, img', himg, himg', fun key => ?_⟩
        rw [hkeys key]
        by_cases hmem : key ∈ metadata
        · simp [hmem]
        · have hnone := AList.lookup_eq_none.mpr hmem
          rw [if_neg hmem]
          cases be with
          | librbd => simp [leaves, hnone]
          | rest =>
              cases hconf : isConf key with
              | true => simp [leaves, hconf, hmem]
              | false =>
                  cases hmissed : env.missed with
                  | false => simp [leaves, hconf, hmissed, hnone]
                  | true =>
                      have hgone : key ∉ img.metadata := by
                        intro hcur
                        have hgoes := hsafe rfl hmissed img himg key
                          (mem_shown_rest.mpr ⟨hconf, hcur⟩)
                        exact absurd hmem (by simpa [Write.goes] using hgoes)
                      simp [hnone, AList.lookup_eq_none.mpr hgone]
  | remove op =>
      have hlisted : ∀ info, op = .prune info → ∃ img, w.images.lookup info.name = some img ∧
          info = report be (img.info info.name) := by
        intro info hop
        subst hop
        exact hasked
      obtain ⟨img, img', himg, himg', hkeys⟩ := removed_of_removal hlisted h
      constructor
      · rintro ⟨img₀, img₀', himg₀, himg₀', hgone⟩ rfl hmissed img₁ himg₁ key hkey
        cases himg.symm.trans himg₀
        cases himg.symm.trans himg₁
        cases himg'.symm.trans himg₀'
        by_contra hgoes
        have hremoves : op.removes (shown .rest img.metadata) key = true := by
          simpa [Write.goes] using hgoes
        have hleft : leaves .rest env key = true := by rw [leaves, hmissed, Bool.or_true]
        have hsame := hkeys key
        rw [hremoves, hleft, AList.lookup_eq_none.mpr (hgone key hremoves)] at hsame
        exact AList.lookup_eq_none.mp hsame.symm (mem_shown_rest.mp hkey).2
      · intro hsafe
        refine ⟨img, img', himg, himg', fun key hremoves => AList.lookup_eq_none.mp ?_⟩
        have hconf := isConf_of_removes hremoves
        rw [hkeys key, hremoves]
        cases be with
        | librbd => rfl
        | rest =>
            cases hmissed : env.missed with
            | false => simp [leaves, hconf, hmissed]
            | true =>
                have hgone : key ∉ img.metadata := by
                  intro hcur
                  have hgoes := hsafe rfl hmissed img himg key (mem_shown_rest.mpr ⟨hconf, hcur⟩)
                  exact Bool.false_ne_true (hgoes.symm.trans hremoves)
                simp [AList.lookup_eq_none.mpr hgone]

/-- A volume with one custom key. -/
def keyed : World where
  images := AList.insert "11111111-1111-1111-1111-111111111111"
    { size := 4096, metadata := AList.insert "vdi.k.color" "red" ∅ } ∅

/-- The removal of this key. -/
def unsetColor : Write := .remove (.unset "11111111-1111-1111-1111-111111111111" "color")

/-- Nothing fails, and the key is gone. -/
theorem unsetColor_done_iff :
    ∃ s', (unsetColor.prog .rest).exec (answer .rest { answers := fun _ _ => .ok }) (keyed, 0) =
        some (.ok (), s') ∧ unsetColor.Done .rest keyed s'.1 := by
  have hrun : ((unsetColor.prog .rest).exec (answer .rest { answers := fun _ _ => .ok })
      (keyed, 0)).any (fun result => result.1.isOk) = true := by
    decide +kernel
  obtain ⟨⟨out, s'⟩, hfinal, hok⟩ := (Option.any_eq_true _ _).mp hrun
  cases out with
  | error error => cases hok
  | ok value =>
      have hsafe : unsetColor.Safe .rest { answers := fun _ _ => .ok } keyed :=
        fun _ hmissed => (by cases hmissed)
      have hiff : unsetColor.Done .rest keyed s'.1 ↔
          unsetColor.Safe .rest { answers := fun _ _ => .ok } keyed :=
        metadata_replaced_iff trivial hfinal
      exact ⟨s', hfinal, hiff.mpr hsafe⟩

/-- Where the read of `image_meta_set` fails, `unset` returns and its key is still there. -/
theorem unset_leaves_key :
    ∃ s', (unsetColor.prog .rest).exec (answer .rest
        { answers := fun _ _ => .ok, reread := some (.backend { message := "timeout" }) })
        (keyed, 0) = some (.ok (), s') ∧ ¬unsetColor.Done .rest keyed s'.1 := by
  have hrun : ((unsetColor.prog .rest).exec (answer .rest
      { answers := fun _ _ => .ok, reread := some (.backend { message := "timeout" }) })
      (keyed, 0)).any (fun result => result.1.isOk &&
        (result.2.1.images.lookup "11111111-1111-1111-1111-111111111111").any fun img =>
          decide ("vdi.k.color" ∈ img.metadata)) = true := by
    decide +kernel
  obtain ⟨⟨out, s'⟩, hfinal, htest⟩ := (Option.any_eq_true _ _).mp hrun
  obtain ⟨hok, himage⟩ := Bool.and_eq_true_iff.mp htest
  obtain ⟨img, himg, hkey⟩ := (Option.any_eq_true _ _).mp himage
  cases out with
  | error error => cases hok
  | ok value =>
      refine ⟨s', hfinal, ?_⟩
      intro ⟨_, img', _, himg', hgone⟩
      cases himg.symm.trans himg'
      have hname : (("vdi.k.color" : String) == (metaNames (splitKey
          "11111111-1111-1111-1111-111111111111").2).2.2 ++ "color") = true := by
        decide +kernel
      exact hgone "vdi.k.color" hname (of_decide_eq_true hkey)

end XcpCephRbd.Volume.MetaWrite
