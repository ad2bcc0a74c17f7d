import XcpCephRbd.Volume.Concurrent

/-!
# The life of a tracked disk

Sequential histories of a tracked base: the guest writes while no operation is under way, snapshots
are made and destroyed, the base is reverted to a snapshot and grown. The sealed log of a destroyed
snapshot is removed, a rollback is not logged, and a log has no bits for blocks that come later, so
each of these operations asks for something of the state it starts in, which `Covered` says.
`history_complete` shows that nothing else is needed, and `history_loses_changes` has a history for
each operation in which a change is lost.
-/

namespace XcpCephRbd.Volume

open Bitmap (Bytes bit)
open Cbtlog (cbtBlock numBlocks companionName liveGen sealedGen)
open Datapath (SrMeta)

section Head

variable {base live : String} {old : List String} {w : World} {img : Image} {h : Host}

/-- The head takes another state, which the live log links to the newest sealed snapshot. -/
theorem Tracked.setHead (hkept : Kept base old none w img live)
    (hlogged : Logged base w img (history img.metadata img.snapshots) live)
    (htap : TapOn base w live) {size : Nat} {content : Content} (hzero : Disk.Zero ⟨size, content⟩)
    (hblocks : history img.metadata img.snapshots = [] ∨ numBlocks size = numBlocks img.size)
    (hlink : ∀ e ∈ (history img.metadata img.snapshots).getLast?,
      changedBlocks e.disk ⟨size, content⟩ ⊆ marked w base live) :
    Tracked base old { w with
      images := w.images.insert base { img with size := size, content := content } } := by
  have hlogs := logsKept_insert_base w base { img with size := size, content := content }
  refine ⟨{ img with size := size, content := content }, live, ?_, ⟨?_, fun hne => ?_⟩, htap⟩
  · exact
      { hkept with
        found := AList.lookup_insert _
        readable := hkept.readable.frame hlogs
        zero := hzero
        blocks := fun e he => by
          obtain hnil | hsame := hblocks
          · rw [hnil] at he
            cases he
          · exact (hkept.blocks e he).trans hsame.symm }
  · obtain ⟨hline, -⟩ := Delta.linked_concat_iff.mp hlogged.linked
    refine Delta.linked_concat_iff.mpr ⟨?_, fun e he => ?_⟩
    · exact hline.grow (fun _ _ => rfl) fun e _ => hlogs.marked e.gen
    · exact (hlink e he).trans (hlogs.marked live)
  · obtain ⟨bits, hbits, hlength⟩ := hlogged.room hne
    refine ⟨bits, hlogs live bits hbits, ?_⟩
    rw [hlength, hblocks.resolve_left hne]

/-- The blocks that differ from a state depend on its content and the number of its blocks. -/
theorem changedBlocks_congr {a b b' : Disk} (hcontent : b'.content = b.content)
    (hblocks : numBlocks b'.size = numBlocks b.size) : changedBlocks a b' = changedBlocks a b := by
  simp only [changedBlocks, hcontent, hblocks]

/-- Growing the base keeps the invariant where no snapshot is logged or the number of blocks
stays. -/
theorem ends_resize (sr : SrMeta) (hat : '@' ∉ base.toList) {newSize : Nat}
    (htracked : Tracked base old h.world)
    (hgrow : ∀ img, h.world.images.lookup base = some img → img.size ≤ newSize)
    (hblocks : ∀ img, h.world.images.lookup base = some img →
      history img.metadata img.snapshots = [] ∨ numBlocks newSize = numBlocks img.size) :
    Ends Still (fun _ h => Tracked base old h.world) ((VolOp.resize newSize).prog sr base) h := by
  obtain ⟨img, live, hkept, hlogged, htap⟩ := htracked
  simp only [VolOp.prog, resize, Datapath.splitKey_base hat, Text.truthy, Bool.false_eq_true,
    if_false]
  refine Prog.wp_tryCatch (ends_call (stable_still (· = h)) rfl rfl fun h' _ w heq heffect => ?_)
  obtain rfl := heq
  obtain ⟨_, hupdate, heq⟩ := Option.map_eq_some_iff.mp heffect
  cases heq
  obtain ⟨img', img₂, hfound, hput, rfl⟩ := World.update_eq_some_iff.mp hupdate
  cases hfound.symm.trans hkept.found
  cases hput
  have hcontent : (img.resize newSize).content = img.content := by
    funext i
    refine ite_eq_left_iff.mpr fun hge => (hkept.zero i ?_).symm
    exact (hgrow img hfound).trans (Nat.le_of_not_lt hge)
  refine Tracked.setHead hkept hlogged htap (fun i hi => if_neg (Nat.not_lt.mpr hi))
    (hblocks img hfound) fun e he => ?_
  have hsame := (hblocks img hfound).resolve_left fun hnil => by simp [hnil] at he
  have hchanged : changedBlocks e.disk ⟨newSize, (img.resize newSize).content⟩ =
      changedBlocks e.disk img.disk := changedBlocks_congr hcontent hsame
  exact hchanged ▸ (Delta.linked_concat_iff.mp hlogged.linked).2 e he

/-- A rollback keeps the invariant where the live log has what it changes. -/
theorem ends_revert (sr : SrMeta) (hat : '@' ∉ base.toList) {snap : String}
    (htracked : Tracked base old h.world)
    (hcovered : ∀ img live s, h.world.images.lookup base = some img →
      liveGen img.metadata = some live → img.findSnap snap = some s →
        history img.metadata img.snapshots = [] ∨ (numBlocks s.size = numBlocks img.size ∧
          ∀ e ∈ (history img.metadata img.snapshots).getLast?,
            changedBlocks e.disk s.disk ⊆ marked h.world base live)) :
    Ends Still (fun _ h => Tracked base old h.world) ((VolOp.revert snap).prog sr base) h := by
  obtain ⟨img, live, hkept, hlogged, htap⟩ := htracked
  simp only [VolOp.prog, revert, splitKey_snapKey hat]
  refine Prog.wp_bind (Prog.wp_bind (Prog.wp_tryCatch
    (ends_call (stable_still (· = h)) rfl rfl fun h' _ w heq heffect => ?_)))
  obtain rfl := heq
  obtain ⟨_, hupdate, heq⟩ := Option.map_eq_some_iff.mp heffect
  cases heq
  obtain ⟨img', img₂, hfound, hroll, rfl⟩ := World.update_eq_some_iff.mp hupdate
  cases hfound.symm.trans hkept.found
  obtain ⟨s, hs, rfl⟩ := Image.snapRollback_eq_some_iff.mp hroll
  have hmem : s ∈ img.snapshots := List.mem_of_find?_eq_some hs
  have hcov := hcovered img live s hfound hkept.recorded.live hs
  have htracked := Tracked.setHead hkept hlogged htap (hkept.zeros s hmem) (hcov.imp_right And.left)
    fun e he => by
      obtain hnil | ⟨-, hlink⟩ := hcov
      · simp [hnil] at he
      · exact hlink e he
  simp only [stat, Datapath.splitKey_base hat]
  refine Prog.wp_bind (Prog.wp_tryCatch (ends_call
    (stable_still fun h => Tracked base old h.world) htracked rfl fun h _ w htracked heffect => ?_))
  obtain ⟨info, -, heq⟩ := Option.map_eq_some_iff.mp heffect
  cases heq
  exact htracked

end Head

section Dropped

variable {snap : String} {snaps snaps₁ snaps' : List Snap} {metadata : Dict}

/-- `snaps'` is `snaps` without the volume `snap`; a snapshot that is still there for its clones has
a name that is none of a volume. -/
structure Dropped (snap : String) (snaps snaps' : List Snap) : Prop where
  history_eq : ∀ metadata : Dict, (∀ x, (sealedGen metadata x).isSome →
    x ≠ snap ∧ x ∈ snaps.map fun s => s.name) → history metadata snaps' = history metadata snaps
  names : (snaps.map fun s => s.name).Nodup → (snaps'.map fun s => s.name).Nodup
  owned : ∀ x ∈ snaps.map (fun s => s.name), x ≠ snap → x ∈ snaps'.map fun s => s.name
  volumes : ∀ s ∈ snaps', isUuid s.name.toList = true →
    s.name ≠ snap ∧ s.name ∈ snaps.map fun s => s.name
  disks : ∀ s ∈ snaps', ∃ s₀ ∈ snaps, s₀.disk = s.disk

/-- A snapshot that is removed. -/
theorem dropped_filter (snap : String) (snaps : List Snap) :
    Dropped snap snaps (snaps.filter fun s => s.name != snap) where
  history_eq metadata hsealed := by
    rw [history, List.filterMap_filter]
    refine List.filterMap_congr fun s _ => ?_
    by_cases hname : s.name = snap
    · have hnone : sealedGen metadata s.name = none := by
        by_contra hsome
        exact (hsealed s.name (Option.isSome_iff_ne_none.mpr hsome)).1 hname
      simp [hname, hname ▸ hnone]
    · simp [hname]
  names hnodup := hnodup.sublist (List.filter_sublist.map _)
  owned x hx hne := by
    obtain ⟨s, hs, rfl⟩ := List.mem_map.mp hx
    exact List.mem_map_of_mem (List.mem_filter.mpr ⟨hs, bne_iff_ne.mpr hne⟩)
  volumes s hs _ := by
    obtain ⟨hs, hne⟩ := List.mem_filter.mp hs
    exact ⟨bne_iff_ne.mp hne, List.mem_map_of_mem hs⟩
  disks s hs := ⟨s, (List.mem_filter.mp hs).1, rfl⟩

/-- The flags of the snapshots do not matter. -/
theorem Dropped.relabel (hdropped : Dropped snap snaps₁ snaps')
    (hmarks : snaps₁.map Snap.mark = snaps.map Snap.mark) : Dropped snap snaps snaps' := by
  have hnames : snaps₁.map (fun s => s.name) = snaps.map fun s => s.name := by
    have hfst := congrArg (List.map Prod.fst) hmarks
    simpa [Function.comp_def, Snap.mark] using hfst
  obtain ⟨hhistory, hnodup, howned, hvolumes, hdisks⟩ := hdropped
  rw [hnames] at hnodup howned
  refine ⟨fun metadata hsealed => ?_, hnodup, howned, fun s hs huuid => ?_, fun s hs => ?_⟩
  · rw [← history_congr hmarks]
    exact hhistory metadata (hnames ▸ hsealed)
  · exact hnames ▸ hvolumes s hs huuid
  · obtain ⟨s₁, hs₁, hdisk⟩ := hdisks s hs
    have hmem : s₁.mark ∈ snaps.map Snap.mark := hmarks ▸ List.mem_map_of_mem hs₁
    obtain ⟨s₀, hs₀, hmark⟩ := List.mem_map.mp hmem
    exact ⟨s₀, hs₀, (congrArg Prod.snd hmark).trans hdisk⟩

/-- The name of trash is none of a volume. -/
theorem isUuid_trash (uuid : String) : isUuid (trashPrefix ++ uuid).toList = false := by
  simp [isUuid, trashPrefix, isHex]

/-- A snapshot that is renamed out of the volumes. -/
theorem dropped_rename {trash : String} (hnew : trash ∉ snaps.map fun s => s.name)
    (huuid : isUuid trash.toList = false) :
    Dropped snap snaps
    (snaps.map fun s => if s.name == snap then { s with name := trash } else s) where
  history_eq metadata hsealed := by
    have hnone : ∀ x, (x = snap ∨ x = trash) → sealedGen metadata x = none := by
      intro x hx
      by_contra hsome
      obtain ⟨hsnap, hmem⟩ := hsealed x (Option.isSome_iff_ne_none.mpr hsome)
      obtain rfl | rfl := hx
      · exact hsnap rfl
      · exact hnew hmem
    rw [history, List.filterMap_map]
    refine List.filterMap_congr fun s _ => ?_
    by_cases hname : s.name = snap
    · simp [hname, hnone snap (.inl rfl), hnone trash (.inr rfl)]
    · simp [hname]
  names hnodup := by
    have hmap : (snaps.map fun s => if s.name == snap then { s with name := trash } else s).map
        (fun s => s.name) = (snaps.map fun s => s.name).map fun x => if x = snap then trash
          else x := by
      rw [List.map_map, List.map_map]
      refine List.map_congr_left fun s _ => ?_
      by_cases hname : s.name = snap <;> simp [hname]
    rw [hmap]
    refine hnodup.map_on fun x hx y hy heq => ?_
    split at heq <;> split at heq
    · simp_all
    · exact absurd (heq ▸ hy) hnew
    · exact absurd (heq ▸ hx) hnew
    · exact heq
  owned x hx hne := by
    obtain ⟨s, hs, rfl⟩ := List.mem_map.mp hx
    exact List.mem_map.mpr ⟨s, List.mem_map.mpr ⟨s, hs, by simp [hne]⟩, rfl⟩
  volumes s hs htrue := by
    obtain ⟨s₀, hs₀, rfl⟩ := List.mem_map.mp hs
    split at htrue
    · rw [huuid] at htrue
      cases htrue
    next hname =>
      rw [if_neg hname]
      exact ⟨by simpa using hname, List.mem_map_of_mem hs₀⟩
  disks s hs := by
    obtain ⟨s₀, hs₀, rfl⟩ := List.mem_map.mp hs
    refine ⟨s₀, hs₀, ?_⟩
    split <;> rfl

end Dropped

/-- A state in the course of an operation on a tracked base: the base as it is now, with the logs of
the state `w` before it, except for the one that was removed. -/
structure Underway (base : String) (w : World) (img : Image) (removed : Option String) (h : Host) :
    Prop where
  found : h.world.images.lookup base = some img
  logs : ∀ gen, removed ≠ some gen → logBits h.world base gen = logBits w base gen
  tap : ∀ gen, TapOn base w gen → TapOn base h.world gen

section Underway

variable {base snap gen : String} {w after : World} {img : Image} {removed : Option String}
  {h : Host}

/-- The base is changed. -/
theorem Underway.setBase (hway : Underway base w img removed h) (img' : Image) :
    Underway base w img' removed
      ⟨{ h.world with images := h.world.images.insert base img' }, h.sealing⟩ where
  found := AList.lookup_insert _
  logs gen hgen := (logBits_insert_base _ _ _ _).trans (hway.logs gen hgen)
  tap := hway.tap

/-- A call on the snapshots of the base. -/
theorem Underway.update {f : Image → Option Image} (hway : Underway base w img removed h)
    (hupdate : (h.world.update base f).map (fun w => ((), w)) = some ((), after)) :
    ∃ img', f img = some img' ∧ Underway base w img' removed ⟨after, h.sealing⟩ := by
  obtain ⟨_, hupdate, heq⟩ := Option.map_eq_some_iff.mp hupdate
  cases heq
  obtain ⟨img₁, img', hfound, hf, rfl⟩ := World.update_eq_some_iff.mp hupdate
  cases hfound.symm.trans hway.found
  exact ⟨img', hf, hway.setBase img'⟩

/-- A call on the maps. -/
theorem Underway.frame (hway : Underway base w img removed h)
    (himages : after.images = h.world.images)
    (htap : ∀ gen, TapOn base h.world gen → TapOn base after gen) :
    Underway base w img removed ⟨after, h.sealing⟩ where
  found := by rw [himages, hway.found]
  logs gen hgen := by
    rw [← hway.logs gen hgen]
    simp only [logBits, himages]
  tap gen hon := htap gen (hway.tap gen hon)

/-- `_snap_has_children` asks whether the snapshot has clones. -/
theorem ends_snapHasChildren (hway : Underway base w img removed h) :
    Ends Still (fun _ h => Underway base w img removed h) (snapHasChildren base snap) h := by
  refine Prog.wp_tryCatch (Prog.wp_bind
    (ends_call (stable_still _) hway rfl fun h info after hway heffect => ?_))
  obtain ⟨_, -, heq⟩ := Option.map_eq_some_iff.mp heffect
  cases heq
  split <;> exact hway

/-- `destroy` takes the snapshot out of the volumes. -/
theorem ends_releaseSnap (hway : Underway base w img none h) :
    Ends Still (fun _ h => ∃ snaps, Dropped snap img.snapshots snaps ∧
      Underway base w { img with snapshots := snaps } none h) (releaseSnap base snap) h := by
  refine Prog.wp_bind ((ends_snapHasChildren hway).mono fun children h hway => ?_)
  cases children with
  | true =>
      refine Prog.wp_bind (ends_uuid4 (stable_still _) hway fun h uuid hway _ => ?_)
      refine Prog.wp_bind (ends_call (stable_still _) hway rfl fun h _ after hway heffect => ?_)
      obtain ⟨img', hrename, hway⟩ := hway.update heffect
      obtain ⟨-, hnew, rfl⟩ := Image.snapRename_eq_some_iff.mp hrename
      refine ends_call (stable_still _) hway rfl fun h _ after hway heffect => ?_
      cases heffect
      exact ⟨_, dropped_rename (not_mem_names hnew) (isUuid_trash uuid),
        hway.frame rfl fun gen htap => htap⟩
  | false =>
      refine Prog.wp_bind (Prog.wp_tryCatch
        (ends_call (stable_still _) hway rfl fun h _ after hway heffect => ?_))
      obtain ⟨img', hprotect, hway⟩ := hway.update heffect
      obtain ⟨-, -, -, rfl⟩ := Image.snapSetProtected_eq_some_iff.mp hprotect
      refine ends_call (stable_still _) hway rfl fun h _ after hway heffect => ?_
      obtain ⟨img', hremove, hway⟩ := hway.update heffect
      obtain ⟨-, -, -, rfl⟩ := Image.snapRemove_eq_some_iff.mp hremove
      exact ⟨_, (dropped_filter snap _).relabel (mark_mapSnap img snap false), hway⟩

/-- A rewrite of the metadata of the base. -/
theorem Underway.rmw {mutate : Desired → Desired} (hway : Underway base w img removed h)
    (hzero : img.disk.Zero) : Ends Still (fun _ h => Underway base w { img with
      metadata := replaced img.metadata (mutate img.metadata.toDesired) } removed h)
        (Volume.rmw base mutate) h := by
  refine ends_rmw (stable_still _) hway (fun h hway => ⟨img, hway.found, rfl, rfl, hzero⟩)
    fun h img' hway hfound => ?_
  cases hfound.symm.trans hway.found
  exact hway.setBase _

/-- The purge of a snapshot's keys touches none of changed-block tracking. -/
theorem lookup_purged (snap : String) (m : Desired) {key : String}
    (hkey : Text.startsWith key "cbt." = true) :
    (filterKeys m fun key => !Text.startsWith key (snapMetaPrefix snap)).lookup key =
      m.lookup key := by
  rw [lookup_filterKeys, if_pos]
  rw [Bool.not_eq_true', ← Bool.not_eq_true]
  intro hprefix
  obtain ⟨rest, heq⟩ := Text.startsWith_iff.mp hprefix
  simp only [snapMetaPrefix, String.append_assoc] at heq
  exact ne_of_startsWith hkey heq

/-- The keys of the snapshot are none of changed-block tracking. -/
theorem sameCbt_purge (metadata : Dict) (snap : String) : SameCbt metadata
    (replaced metadata (filterKeys metadata.toDesired fun key =>
      !Text.startsWith key (snapMetaPrefix snap))) :=
  sameCbt_replaced (fun m => filterKeys m fun key => !Text.startsWith key (snapMetaPrefix snap))
    fun m _ hkey => lookup_purged snap m hkey

/-- The metadata after `destroy`: no log is sealed to the snapshot, and the rest of changed-block
tracking is as it was. -/
structure Cleared (snap : String) (metadata metadata' : Dict) : Prop where
  sealed : ∀ x, sealedGen metadata' x = if x = snap then none else sealedGen metadata x
  live : liveGen metadata' = liveGen metadata
  tapdisk : Cbtlog.isTapdisk metadata' = Cbtlog.isTapdisk metadata

/-- Where no log was sealed to the snapshot, nothing has to be cleared. -/
theorem SameCbt.cleared {metadata metadata' : Dict} (hsame : SameCbt metadata metadata')
    (hnone : Cbtlog.sealedGen metadata snap = none) : Cleared snap metadata metadata' where
  sealed x := by
    rw [hsame.sealedGen]
    split
    next heq => rw [heq, hnone]
    next => rfl
  live := hsame.liveGen
  tapdisk := hsame.isTapdisk

/-- The key of the sealed log is removed. -/
theorem SameCbt.cleared_erase {metadata metadata' : Dict} (hsame : SameCbt metadata metadata') :
    Cleared snap metadata
      (replaced metadata' (metadata'.toDesired.erase (Cbtlog.snapKey snap))) := by
  have hlookup : ∀ key, (replaced metadata' (metadata'.toDesired.erase
      (Cbtlog.snapKey snap))).lookup key =
        if key = Cbtlog.snapKey snap then none else metadata'.lookup key := by
    intro key
    rw [lookup_replaced]
    by_cases hkey : key = Cbtlog.snapKey snap
    · rw [if_pos hkey, hkey, AList.lookup_erase]
      rfl
    · rw [if_neg hkey, AList.lookup_erase_ne hkey, Dict.lookup_toDesired]
      cases metadata'.lookup key <;> rfl
  have hother : ∀ key, Text.startsWith key Cbtlog.snapPrefix = false →
      (replaced metadata' (metadata'.toDesired.erase (Cbtlog.snapKey snap))).lookup key =
        metadata'.lookup key := by
    intro key hkey
    rw [hlookup, if_neg (snapKey_ne hkey snap).symm]
  refine ⟨fun x => ?_, (hother _ (by decide)).trans hsame.liveGen, ?_⟩
  · refine (hlookup _).trans ?_
    by_cases hx : x = snap
    · rw [if_pos hx, if_pos (congrArg _ hx)]
    · rw [if_neg hx, if_neg fun heq => hx (snapKey_inj heq)]
      exact hsame.sealedGen x
  · rw [← hsame.isTapdisk]
    simp only [Cbtlog.isTapdisk, Cbtlog.isEnabled, hother Cbtlog.kEnabled (by decide),
      hother Cbtlog.kMode (by decide)]

/-- `remove_companion` removes one log. -/
theorem ends_removeCompanion (hway : Underway base w img none h) (hgen : gen ≠ "") :
    Ends Still (fun _ h => Underway base w img (some gen) h)
    (Cbtlog.removeCompanion base gen) h := by
  have hne := Cbtlog.companionName_ne base gen
  rw [Cbtlog.removeCompanion, if_neg hgen]
  refine Prog.wp_bind ((ends_unmap (stable_still _) hway
    (fun h after hway himages htap => hway.frame himages htap) hne).mono fun _ h hway => ?_)
  refine Prog.wp_tryCatch (ends_call (stable_still _) hway rfl fun h _ after hway heffect => ?_)
  obtain ⟨companion, -, hremove⟩ := Option.bind_eq_some_iff.mp heffect
  obtain ⟨-, heq⟩ := Option.ite_none_right_eq_some.mp hremove
  cases heq
  exact
    { found := (AList.lookup_erase_ne hne.symm).trans hway.found
      logs := fun gen' hgen' => by
        have hname : companionName base gen' ≠ companionName base gen := fun heq =>
          hgen' (congrArg some (Cbtlog.companionName_inj heq).symm)
        rw [← hway.logs gen' nofun, logBits, logBits, AList.lookup_erase_ne hname]
      tap := hway.tap }

/-- `destroy` removes the log that is sealed to the snapshot. -/
theorem ends_dropSealed {metadata : Dict} (hway : Underway base w img none h)
    (hzero : img.disk.Zero) (hsame : SameCbt metadata img.metadata)
    (hnamed : ∀ gen, sealedGen metadata snap = some gen → gen ≠ "") :
    Ends Still (fun _ h => ∃ metadata', Cleared snap metadata metadata' ∧
      Underway base w { img with metadata := metadata' } (sealedGen metadata snap) h)
      (dropSealed base snap) h := by
  refine Prog.wp_tryCatch (Prog.wp_bind
    (ends_call (stable_still _) hway rfl fun h info after hway heffect => ?_))
  simp only [effect, hway.found, Option.map_some] at heffect
  cases heffect
  simp only [Image.info, hsame.sealedGen]
  cases hsealed : sealedGen metadata snap with
  | none => exact ⟨img.metadata, hsame.cleared hsealed, hway⟩
  | some gen =>
      have hgen := hnamed gen hsealed
      simp only [hgen, if_false]
      refine Prog.wp_bind ((ends_removeCompanion hway hgen).mono fun _ h hway => ?_)
      exact (hway.rmw hzero).mono fun _ h hway => ⟨_, hsame.cleared_erase, hway⟩

end Underway

section Destroy

variable {base snap live : String} {old : List String} {w : World} {img : Image} {h : Host}
  {snaps : List Snap} {metadata : Dict}

/-- What differs between the logged states before and after the snapshot is in the log of the one
after it. -/
def Bridged (base : String) (w : World) (img : Image) (live snap : String) : Prop :=
  ∀ first e last, history img.metadata img.snapshots = first ++ e :: last → e.name = snap →
    ∀ a ∈ first.getLast?,
      ∀ c ∈ (last.map (·.item w base) ++ [(img.disk, marked w base live)]).head?,
      changedBlocks a.disk c.1 ⊆ c.2

/-- The history loses the entry of the snapshot. -/
theorem Cleared.history_eq (hcleared : Cleared snap img.metadata metadata) :
    history metadata img.snapshots =
      (history img.metadata img.snapshots).filter fun e => e.name != snap := by
  rw [history, history, List.filter_filterMap]
  refine List.filterMap_congr fun s _ => ?_
  rw [hcleared.sealed]
  by_cases hname : s.name = snap
  · cases sealedGen img.metadata s.name <;> simp [Option.filter_some, hname]
  · cases sealedGen img.metadata s.name <;> simp [Option.filter_some, hname]

/-- The names of the history are those of snapshots, in their order. -/
theorem names_history_sublist (metadata : Dict) (snaps : List Snap) :
    ((history metadata snaps).map Entry.name).Sublist (snaps.map fun s => s.name) := by
  induction snaps with
  | nil => exact .slnil
  | cons s snaps ih =>
      cases hsealed : sealedGen metadata s.name with
      | none =>
          rw [history_cons_none hsealed]
          exact ih.cons _
      | some gen =>
          rw [history_cons_some hsealed]
          exact ih.cons_cons _

/-- Taking the entry of one name out of a line of distinct names. -/
theorem filter_name_of_nodup {first last : List Entry} {e : Entry}
    (h : ((first ++ e :: last).map Entry.name).Nodup) :
    ((first ++ e :: last).filter fun e' => e'.name != e.name) = first ++ last := by
  rw [List.map_append, List.map_cons, List.nodup_middle, List.nodup_cons, ← List.map_append] at h
  have hkeep : ∀ e' ∈ first ++ last, (e'.name != e.name) = true := fun e' he' =>
    bne_iff_ne.mpr fun heq => h.1 (heq ▸ List.mem_map_of_mem he')
  rw [List.filter_append, List.filter_cons_of_neg (by simp), ← List.filter_append]
  exact List.filter_eq_self.mpr hkeep

/-- The line without the snapshot is linked. -/
theorem linked_without (hkept : Kept base old none w img live)
    (hlogged : Logged base w img (history img.metadata img.snapshots) live)
    (hbridged : Bridged base w img live snap) :
    Delta.Linked changedBlocks (((history img.metadata img.snapshots).filter fun e =>
      e.name != snap).map (·.item w base) ++ [(img.disk, marked w base live)]) := by
  by_cases hmem : ∃ e ∈ history img.metadata img.snapshots, e.name = snap
  · obtain ⟨e, he, rfl⟩ := hmem
    obtain ⟨first, last, hsplit⟩ := List.append_of_mem he
    have hnodup := hkept.names.sublist (names_history_sublist img.metadata img.snapshots)
    have hfilter : ((history img.metadata img.snapshots).filter fun e' => e'.name != e.name) =
        first ++ last := by
      rw [hsplit] at hnodup ⊢
      exact filter_name_of_nodup hnodup
    have hlinked := hlogged.linked
    rw [hsplit, List.map_append, List.map_cons, List.append_assoc] at hlinked
    rw [hfilter, List.map_append, List.append_assoc]
    refine Delta.Linked.remove hlinked fun a ha c hc => ?_
    rw [List.getLast?_map] at ha
    obtain ⟨entry, hentry, rfl⟩ := Option.map_eq_some_iff.mp ha
    exact hbridged first e last hsplit rfl entry hentry c hc
  · have hfilter : ((history img.metadata img.snapshots).filter fun e => e.name != snap) =
        history img.metadata img.snapshots := by
      refine List.filter_eq_self.mpr fun e he => bne_iff_ne.mpr fun heq => hmem ⟨e, he, heq⟩
    rw [hfilter]
    exact hlogged.linked

/-- The logs that are still recorded are those there were. -/
theorem Underway.logBits_eq {img' : Image} {x gen : String} (hkept : Kept base old none w img live)
    (hway : Underway base w img' (sealedGen img.metadata snap) h) (hx : x ≠ snap)
    (hgen : sealedGen img.metadata x = some gen) : logBits h.world base gen = logBits w base gen :=
  hway.logs gen fun heq => hx (hkept.distinct x snap gen hgen heq)

/-- A log that is still recorded was recorded, and for another snapshot. -/
theorem Cleared.sealed_eq_some {x gen : String} (hcleared : Cleared snap img.metadata metadata)
    (hgen : sealedGen metadata x = some gen) : x ≠ snap ∧ sealedGen img.metadata x = some gen := by
  rw [hcleared.sealed] at hgen
  split at hgen
  · cases hgen
  next hne => exact ⟨hne, hgen⟩

/-- The logs that are still recorded are those of other snapshots. -/
theorem Cleared.owned (hcleared : Cleared snap img.metadata metadata)
    (hkept : Kept base old none w img live) (x : String) (hsome : (sealedGen metadata x).isSome) :
    x ≠ snap ∧ x ∈ img.snapshots.map fun s => s.name := by
  obtain ⟨gen, hgen⟩ := Option.isSome_iff_exists.mp hsome
  obtain ⟨hne, hold⟩ := hcleared.sealed_eq_some hgen
  exact ⟨hne, hkept.recorded.owned x (by simp [hold])⟩

/-- The history after `destroy`. -/
theorem history_destroyed (hkept : Kept base old none w img live)
    (hdropped : Dropped snap img.snapshots snaps) (hcleared : Cleared snap img.metadata metadata) :
    history metadata snaps =
      (history img.metadata img.snapshots).filter fun e => e.name != snap := by
  rw [hdropped.history_eq metadata (hcleared.owned hkept), hcleared.history_eq]

/-- After `destroy` the base has its shape. -/
theorem Kept.destroyed (hkept : Kept base old none w img live)
    (hdropped : Dropped snap img.snapshots snaps) (hcleared : Cleared snap img.metadata metadata)
    (hway : Underway base w { img with snapshots := snaps, metadata := metadata }
      (sealedGen img.metadata snap) h) :
    Kept base old none h.world { img with snapshots := snaps, metadata := metadata } live where
  found := hway.found
  recorded :=
    { tapdisk := hcleared.tapdisk.trans hkept.recorded.tapdisk
      live := hcleared.live.trans hkept.recorded.live
      owned := fun x hsome => by
        obtain ⟨hne, hmem⟩ := hcleared.owned hkept x hsome
        exact hdropped.owned x hmem hne }
  readable :=
    { sealed := fun x gen hgen => by
        obtain ⟨hne, hold⟩ := hcleared.sealed_eq_some hgen
        rw [hway.logBits_eq hkept hne hold]
        exact hkept.readable.sealed x gen hold
      live := by
        rw [hway.logs live (hkept.unsealed snap)]
        exact hkept.readable.live }
  distinct x x' gen hgen hgen' :=
    hkept.distinct x x' gen (hcleared.sealed_eq_some hgen).2 (hcleared.sealed_eq_some hgen').2
  unsealed x hgen := hkept.unsealed x (hcleared.sealed_eq_some hgen).2
  since s hs huuid hold _ := by
    obtain ⟨hne, hmem⟩ := hdropped.volumes s hs huuid
    obtain ⟨s₀, hs₀, hname⟩ := List.mem_map.mp hmem
    rw [hcleared.sealed, if_neg hne]
    rw [← hname] at huuid hold ⊢
    exact hkept.since s₀ hs₀ huuid hold nofun
  names := hdropped.names hkept.names
  zero := hkept.zero
  zeros s hs := by
    obtain ⟨s₀, hs₀, hdisk⟩ := hdropped.disks s hs
    rw [← hdisk]
    exact hkept.zeros s₀ hs₀
  blocks e he := by
    rw [history_destroyed hkept hdropped hcleared] at he
    exact hkept.blocks e (List.mem_filter.mp he).1

/-- After `destroy` the line without the snapshot is linked by the logs that are left. -/
theorem Logged.destroyed (hlogged : Logged base w img (history img.metadata img.snapshots) live)
    (hkept : Kept base old none w img live) (hbridged : Bridged base w img live snap)
    {img' : Image} (hdisk : img'.disk = img.disk)
    (hway : Underway base w img' (sealedGen img.metadata snap) h) :
    Logged base h.world img' ((history img.metadata img.snapshots).filter fun e => e.name != snap)
      live := by
  have hlive := hway.logs live (hkept.unsealed snap)
  have hmarked : marked h.world base live = marked w base live := by simp only [marked, hlive]
  obtain ⟨hline, hlast⟩ := Delta.linked_concat_iff.mp (linked_without hkept hlogged hbridged)
  refine ⟨Delta.linked_concat_iff.mpr ⟨?_, ?_⟩, fun hne => ?_⟩
  · refine hline.grow (fun _ _ => rfl) fun e he => ?_
    obtain ⟨hmem, hname⟩ := List.mem_filter.mp he
    have hlog := hway.logBits_eq hkept (bne_iff_ne.mp hname) (sealedGen_of_mem_history hmem)
    exact (by simp only [marked, hlog] : marked w base e.gen = marked h.world base e.gen).subset
  · rw [hdisk, hmarked]
    exact hlast
  · have hsize : img'.size = img.size := congrArg Disk.size hdisk
    rw [hlive, hsize]
    refine hlogged.room fun hnil => hne ?_
    rw [hnil, List.filter_nil]

/-- `destroy` of a snapshot keeps the invariant where the log after it has what it takes away. -/
theorem ends_destroy (sr : SrMeta) (htracked : Tracked base old h.world)
    (hbridged : ∀ img live, h.world.images.lookup base = some img →
      liveGen img.metadata = some live → Bridged base h.world img live snap) :
    Ends Still (fun _ h => Tracked base old h.world) ((VolOp.destroy snap).prog sr base) h := by
  obtain ⟨img, live, hkept, hlogged, htap⟩ := htracked
  have hway : Underway base h.world img none h := ⟨hkept.found, fun _ _ => rfl, fun _ => id⟩
  have hbridged := hbridged img live hkept.found hkept.recorded.live
  refine Prog.wp_tryCatch (Prog.wp_bind ((ends_releaseSnap hway).mono fun _ h₁ hreleased => ?_))
  obtain ⟨snaps, hdropped, hway⟩ := hreleased
  refine Prog.wp_bind (Prog.wp_tryCatch ((hway.rmw hkept.zero).mono fun _ h₂ hway => ?_))
  refine (ends_dropSealed hway hkept.zero (sameCbt_purge img.metadata snap) fun gen hgen =>
    (hkept.readable.sealed snap gen hgen).1).mono fun _ h₃ hdestroyed => ?_
  obtain ⟨metadata, hcleared, hway⟩ := hdestroyed
  refine ⟨_, live, hkept.destroyed hdropped hcleared hway, ?_, hway.tap live htap⟩
  have hhistory := history_destroyed hkept hdropped hcleared
  exact hhistory ▸ hlogged.destroyed hkept hbridged rfl hway

end Destroy

/-- What the operation has to find in the logs. A destroyed snapshot leaves its changes to the log
after it; a rollback is in the live log already, and leaves the number of blocks; a resize leaves it
too. Where no snapshot is logged, there is nothing to lose. -/
def VolOp.Covered (base : String) (w : World) (img : Image) (live : String) : VolOp → Prop
  | .destroy snap => Bridged base w img live snap
  | .revert snap => ∀ s, img.findSnap snap = some s →
      history img.metadata img.snapshots = [] ∨ (numBlocks s.size = numBlocks img.size ∧
        ∀ e ∈ (history img.metadata img.snapshots).getLast?,
          changedBlocks e.disk s.disk ⊆ marked w base live)
  | .resize newSize =>
      history img.metadata img.snapshots = [] ∨ numBlocks newSize = numBlocks img.size
  | .snapshot | .set _ _ _ => True

/-- Every operation that begins finds it, and no listing shows the tapdisk of another image in the
place of that of the base. -/
def Covered (base : String) (s : Sys) : Act → Prop
  | .begin op => ∀ img live, s.host.world.images.lookup base = some img →
      liveGen img.metadata = some live → op.Covered base s.host.world img live
  | .call choice => choice.own = true
  | .write _ _ => True

/-- The guest writes while no operation is under way, and a resize does not shrink the base. -/
def sequential (base : String) (s : Sys) : Act → Bool
  | .write _ _ => s.prog.finished
  | .begin (.resize newSize) =>
      (s.host.world.images.lookup base).all fun img => decide (img.size ≤ newSize)
  | _ => true

section Runs

variable {sr : SrMeta} {base live : String} {old : List String} {w : World} {img : Image}
  {s s' final : Sys} {acts : List Act}

/-- An operation that finds its changes in the logs leads back to the invariant. -/
theorem settles_begin (hat : '@' ∉ base.toList) {h : Host} {op : VolOp}
    (htracked : Tracked base old h.world)
    (hgrow : ∀ newSize, op = .resize newSize →
      ∀ img, h.world.images.lookup base = some img → img.size ≤ newSize)
    (hcovered : ∀ img live, h.world.images.lookup base = some img →
      liveGen img.metadata = some live → op.Covered base h.world img live) :
    Ends Still (fun _ h => Tracked base old h.world) (op.prog sr base) h := by
  cases op with
  | snapshot => exact (ends_snapshot sr hat htracked).anti fun _ _ => False.elim
  | set snap k v => exact (ends_set sr hat htracked snap k v).anti fun _ _ => False.elim
  | destroy snap => exact ends_destroy sr htracked hcovered
  | revert snap =>
      exact ends_revert sr hat htracked fun img live s hfound hlive =>
        hcovered img live hfound hlive s
  | resize newSize =>
      refine ends_resize sr hat htracked (hgrow newSize rfl) fun img hfound => ?_
      obtain ⟨img', live, hkept, -⟩ := htracked
      cases hfound.symm.trans hkept.found
      exact hcovered img live hfound hkept.recorded.live

/-- Every step of a sequential history leads on. -/
theorem settles_step (hat : '@' ∉ base.toList) {act : Act} (h : s.Leads Still base old)
    (hact : sequential base s act = true ∧ Covered base s act)
    (hstep : Sys.step sr base s act = some s') : s'.Leads Still base old := by
  cases act with
  | begin op =>
      obtain ⟨hidle, rfl⟩ := step_begin hstep
      refine settles_begin hat (h.tracked hidle) ?_ hact.2
      rintro newSize rfl img hfound
      simpa [sequential, hfound] using hact.1
  | call choice => exact h.call hact.2 hstep
  | write off data =>
      obtain ⟨after, hwrite, rfl⟩ := Option.map_eq_some_iff.mp hstep
      have htracked := (h.tracked hact.1).write hwrite
      obtain ⟨host, prog⟩ := s
      cases prog with
      | ret value => exact htracked
      | raise error => exact h.elim
      | call c resume => cases hact.1

/-- **Changed-block tracking over whole histories.** In every sequential history without failures
from a base on which tracking has just been enabled, of guest writes, snapshots, custom keys,
destroyed snapshots, rollbacks and growing resizes, in which every operation finds in the logs what
it changes and no tapdisk of another image is taken for that of the base, `list_changed_blocks`
marks every block that differs between two snapshots, and between a snapshot and the head, whenever
no operation is under way. -/
theorem history_complete (hat : '@' ∉ base.toList) (henabled : Enabled base old w img live)
    (hrun : Run.run (Sys.step sr base) (Sys.start w) acts = some final)
    (hseq : Run.Along (Sys.step sr base) (fun s act => sequential base s act = true)
      (Sys.start w) acts)
    (hcovered : Run.Along (Sys.step sr base) (Covered base) (Sys.start w) acts)
    (hidle : final.prog.finished = true) : Complete base old final.host.world := by
  have hinit : (Sys.start w).Leads Still base old := henabled.tracked
  have hleads : final.Leads Still base old := Run.run_invariant
    (fun _ _ _ h hact hstep => settles_step hat h hact hstep) hinit (hseq.and hcovered) hrun
  exact complete_of_tracked hat (hleads.tracked hidle)

end Runs

/-- Operations that need nothing of the logs: the oldest logged snapshot is destroyed, the base is
reverted to the newest one, and a resize keeps the number of blocks. -/
def plain (base : String) (s : Sys) : Act → Bool
  | .begin op => (s.host.world.images.lookup base).all fun img =>
      let line := history img.metadata img.snapshots
      match op with
      | .destroy snap => line.tail.all fun e => e.name != snap
      | .revert snap => line.getLast?.all fun e => e.name == snap &&
          decide (numBlocks e.disk.size = numBlocks img.size) &&
            decide (img.snapshots.map fun s => s.name).Nodup
      | .resize newSize => line.isEmpty || decide (numBlocks newSize = numBlocks img.size)
      | .snapshot | .set _ _ _ => true
  | .call choice => choice.own
  | .write _ _ => true

/-- A logged snapshot is found by its name. -/
theorem disk_eq_of_findSnap {img : Image} {e : Entry} {s : Snap}
    (hnodup : (img.snapshots.map fun s => s.name).Nodup)
    (he : e ∈ history img.metadata img.snapshots) (hs : img.findSnap e.name = some s) :
    s.disk = e.disk := by
  obtain ⟨s', hs', hname, hdisk⟩ := exists_snap_of_mem_history he
  have hfound : s.name = e.name := by
    have htest := List.find?_some hs
    exact beq_iff_eq.mp htest
  have hsame := List.inj_on_of_nodup_map hnodup (List.mem_of_find?_eq_some hs) hs'
    (hfound.trans hname.symm)
  rw [hsame, hdisk]

/-- They find what they change. -/
theorem covered_of_plain {base : String} {s : Sys} {act : Act} (h : plain base s act = true) :
    Covered base s act := by
  cases act with
  | begin op =>
      intro img live hfound hlive
      simp only [plain, hfound, Option.all_some] at h
      cases op with
      | snapshot => trivial
      | set snap k v => trivial
      | destroy snap =>
          intro first e last hsplit hname a ha
          cases first with
          | nil => cases ha
          | cons x first =>
              have hmem : e ∈ (history img.metadata img.snapshots).tail := by simp [hsplit]
              have hne := List.all_eq_true.mp h e hmem
              simp [hname] at hne
      | revert snap =>
          intro t ht
          cases hlast : (history img.metadata img.snapshots).getLast? with
          | none => exact .inl (List.getLast?_eq_none_iff.mp hlast)
          | some e =>
              simp only [hlast, Option.all_some, Bool.and_eq_true, beq_iff_eq,
                decide_eq_true_eq] at h
              obtain ⟨⟨rfl, hblocks⟩, hnodup⟩ := h
              have hdisk := disk_eq_of_findSnap hnodup (List.mem_of_getLast? hlast) ht
              refine .inr ⟨(congrArg (numBlocks ·.size) hdisk).trans hblocks, fun e' he' => ?_⟩
              cases he'
              rw [hdisk]
              exact fun blk hblk => absurd hblk (not_mem_changedBlocks_self _ _)
      | resize newSize => simpa [VolOp.Covered] using h
  | call choice => exact h
  | write off data => trivial

/-- A snapshot is destroyed. -/
def destroyed (snap : String) : List Act := .begin (.destroy snap) :: calls 12

/-- The disk grows to nine blocks, and the guest writes into the ninth; two snapshots with a write
between them; the base is reverted to the second one, and the first one is destroyed. -/
def plainActs : List Act :=
  .begin (.resize 589824) :: calls 1 ++ [.write 524288 [1]] ++
    snapshotWith firstSnap secondGen "1" [] [] ++ [.write 0 [1]] ++
      snapshotWith secondSnap "222222222222" "2" [] [] ++ [.write 65536 [1]] ++
        .begin (.revert secondSnap) :: calls 2 ++ destroyed firstSnap

/-- Nothing is missed. -/
theorem history_complete_plain :
    ∃ final, Run.run (Sys.step tapdiskSr "vdi") (Sys.start trackedDisk) plainActs = some final ∧
      Complete "vdi" [] final.host.world := by
  have hchecked : (Run.checked (Sys.step tapdiskSr "vdi") (fun s act =>
      sequential "vdi" s act = true ∧ plain "vdi" s act = true)
        (Sys.start trackedDisk) plainActs).any (fun s => s.prog.finished) = true := by
    decide +kernel
  obtain ⟨final, hrun, hplain, hidle⟩ := Run.exists_of_checked hchecked
  exact ⟨final, hrun, history_complete (by decide) enabled_trackedDisk hrun
    (hplain.mono fun _ _ => And.left) (hplain.mono fun _ _ h => covered_of_plain h.2) hidle⟩

/-- A write between two snapshots, the second of which is destroyed. -/
def destroyActs : List Act :=
  snapshotWith firstSnap secondGen "1" [] [] ++ [.write 0 [1]] ++
    snapshotWith secondSnap "222222222222" "2" [] [] ++ destroyed secondSnap

/-- A write between two snapshots, and a rollback to the first of them. -/
def revertActs : List Act :=
  snapshotWith firstSnap secondGen "1" [] [] ++ [.write 0 [1]] ++
    snapshotWith secondSnap "222222222222" "2" [] [] ++ .begin (.revert firstSnap) :: calls 2

/-- A snapshot of the eight blocks, and a write into a ninth one that came later. -/
def resizeActs : List Act :=
  snapshotWith firstSnap secondGen "1" [] [] ++ .begin (.resize 589824) :: calls 1 ++
    [.write 524288 [1]]

/-- The change before a destroyed snapshot is lost with its log, a rollback is not logged, and
neither is a write beyond the end of the log. -/
theorem history_loses_changes :
    Enabled "vdi" [] trackedDisk eightBlocks firstGen ∧
      ∀ acts ∈ [destroyActs, revertActs, resizeActs], ∃ final,
        Run.run (Sys.step tapdiskSr "vdi") (Sys.start trackedDisk) acts = some final ∧
          Run.Along (Sys.step tapdiskSr "vdi") (fun s act => sequential "vdi" s act = true)
            (Sys.start trackedDisk) acts ∧
          final.prog.finished = true ∧ ¬Complete "vdi" [] final.host.world := by
  refine ⟨enabled_trackedDisk, fun acts hacts => ?_⟩
  have hchecked : ∃ i, (Run.checked (Sys.step tapdiskSr "vdi")
      (fun s act => sequential "vdi" s act = true) (Sys.start trackedDisk) acts).any
        (fun s => s.prog.finished && loses "vdi" [] i s.host.world) = true := by
    simp only [List.mem_cons, List.not_mem_nil, or_false] at hacts
    obtain rfl | rfl | rfl := hacts
    · exact ⟨0, by decide +kernel⟩
    · exact ⟨0, by decide +kernel⟩
    · exact ⟨524288, by decide +kernel⟩
  obtain ⟨i, hchecked⟩ := hchecked
  obtain ⟨final, hrun, hseq, htest⟩ := Run.exists_of_checked hchecked
  obtain ⟨hidle, hloses⟩ := Bool.and_eq_true_iff.mp htest
  exact ⟨final, hrun, hseq, hidle, not_complete_of_loses hloses⟩

end XcpCephRbd.Volume
