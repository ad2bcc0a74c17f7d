import XcpCephRbd.Volume.Rules

/-!
# A snapshot under guest writes

`Volume.snapshot` on the tapdisk route, followed through call by call while the guest writes.
Between `snap_create` and the unpause of the tapdisk the base is `Captured`: the new snapshot holds
the state of the head, which the old live log still describes. From the unpause on it is `Rotated`:
what the guest writes now goes to the new log, and only the metadata has to follow. A guest write
that changes something while the base is `Captured` would be logged before a snapshot that does not
have it, so `ends_snapshot` is about guests that change nothing then.
-/

namespace XcpCephRbd.Volume

open Bitmap (Bytes bit)
open Cbtlog (cbtBlock numBlocks companionName liveGen sealedGen bitmapBytes)
open Datapath (SrMeta)
open Prog (Stable)

/-- The newest snapshot of the base is `snap`, it captured `disk`, and no log is sealed to it. -/
structure Newest (img : Image) (snap : String) (disk : Disk) : Prop where
  last : ∃ front s, img.snapshots = front ++ [s] ∧ s.name = snap ∧ s.disk = disk
  unrecorded : sealedGen img.metadata snap = none

/-- After `snap_create`: the new snapshot holds the state of the head, and the tapdisk writes to the
log that will be sealed to it. -/
structure Captured (base : String) (old : List String) (snap live : String) (metadata : Dict)
    (size : Nat) (h : Host) (img : Image) : Prop where
  kept : Kept base old (some snap) h.world img live
  logged : Logged base h.world img (history img.metadata img.snapshots) live
  tap : TapOn base h.world live
  newest : Newest img snap img.disk
  metadata_eq : img.metadata = metadata
  size_eq : img.size = size
  sealing : h.sealing = true

/-- A generation that no log of the base has, with what its companion holds. -/
structure Opened (base live : String) (metadata : Dict) (gen : String) (bits : Option Bytes)
    (w : World) : Prop where
  named : gen ≠ ""
  live : gen ≠ live
  sealed : ∀ snap, sealedGen metadata snap ≠ some gen
  log : logBits w base gen = bits

/-- The captured state with a new companion beside it. -/
def Prepared (base : String) (old : List String) (snap live : String) (metadata : Dict) (size : Nat)
    (gen : String) (bits : Option Bytes) (h : Host) : Prop :=
  ∃ img, Captured base old snap live metadata size h img ∧
    Opened base live metadata gen bits h.world

/-- After the unpause: what the head has and the new snapshot has not is in the new log. -/
structure Rotated (base : String) (old : List String) (snap live gen : String) (metadata : Dict)
    (size : Nat) (w : World) (img : Image) (disk : Disk) : Prop where
  kept : Kept base old (some snap) w img live
  logged : Logged base w img (history img.metadata img.snapshots ++ [⟨snap, disk, live⟩]) gen
  tap : TapOn base w gen
  newest : Newest img snap disk
  blocks : numBlocks disk.size = numBlocks img.size
  metadata_eq : img.metadata = metadata
  size_eq : img.size = size
  named : gen ≠ ""
  apart : gen ≠ live
  sealed : ∀ snap, sealedGen metadata snap ≠ some gen

section Stages

variable {base snap live gen : String} {old : List String} {metadata : Dict} {size : Nat}
  {h : Host} {img : Image} {w after : World} {disk : Disk} {bits : Option Bytes}

/-- A write leaves the snapshots and the metadata alone. -/
theorem Newest.write (hnewest : Newest img snap disk) (off : Nat) (data : Bytes) :
    Newest (img.write off data) snap disk := ⟨hnewest.last, hnewest.unrecorded⟩

/-- A call that leaves the base and the logs alone. -/
theorem Captured.frame (hcap : Captured base old snap live metadata size h img)
    (hfound : after.images.lookup base = h.world.images.lookup base)
    (hlogs : LogsKept base h.world after) (htap : TapOn base after live) :
    Captured base old snap live metadata size ⟨after, h.sealing⟩ img :=
  { hcap with
    kept := hcap.kept.frame (hfound.trans hcap.kept.found) hlogs
    logged := hcap.logged.frame hlogs rfl
    tap := htap }

/-- A call that leaves the base and the logs alone. -/
theorem Rotated.frame (hrot : Rotated base old snap live gen metadata size w img disk)
    (hfound : after.images.lookup base = w.images.lookup base) (hlogs : LogsKept base w after)
    (htap : TapOn base after gen) :
    Rotated base old snap live gen metadata size after img disk :=
  { hrot with
    kept := hrot.kept.frame (hfound.trans hrot.kept.found) hlogs
    logged := hrot.logged.frame hlogs rfl
    tap := htap }

/-- A write that changes nothing leaves the captured state captured. -/
theorem Captured.write {off : Nat} {data : Bytes}
    (hcap : Captured base old snap live metadata size h img)
    (hwrite : h.world.guestWrite base off data = some after)
    (hharmless : harmless h.world base off data = true) :
    Captured base old snap live metadata size ⟨after, h.sealing⟩ (img.write off data) where
  kept := hcap.kept.write hcap.tap hwrite
  logged := hcap.logged.write hcap.kept.found hcap.tap hwrite
  tap := hcap.tap.write hcap.kept.found hcap.tap hwrite
  newest := by
    rw [disk_write_of_harmless hcap.kept.found hharmless]
    exact hcap.newest.write off data
  metadata_eq := hcap.metadata_eq
  size_eq := hcap.size_eq
  sealing := hcap.sealing

/-- A write while the tapdisk is on the live log leaves the new companion alone. -/
theorem Opened.write {off : Nat} {data : Bytes} (hopen : Opened base live metadata gen bits w)
    (hfound : w.images.lookup base = some img) (htap : TapOn base w live)
    (hwrite : w.guestWrite base off data = some after) :
    Opened base live metadata gen bits after := by
  obtain ⟨-, -, -, -, -, hother⟩ :=
    guestWrite_spec hfound (fun tap ht => (htap tap ht).1) hwrite
  exact { hopen with log := (hother gen hopen.live).trans hopen.log }

/-- A write after the unpause is in the new log. -/
theorem Rotated.write {off : Nat} {data : Bytes}
    (hrot : Rotated base old snap live gen metadata size w img disk)
    (hwrite : w.guestWrite base off data = some after) :
    Rotated base old snap live gen metadata size after (img.write off data) disk :=
  { hrot with
    kept := hrot.kept.write hrot.tap hwrite
    logged := hrot.logged.write hrot.kept.found hrot.tap hwrite
    tap := hrot.tap.write hrot.kept.found hrot.tap hwrite
    newest := hrot.newest.write off data }

/-- The invariant between operations is kept by the guest. -/
theorem stable_tracked : Stable (GuestMove base) fun h => Tracked base old h.world := by
  rintro h h' htracked ⟨-, off, data, hwrite, -⟩
  exact htracked.write hwrite

/-- The invariant with the metadata and the size of the base. -/
theorem stable_trackedAs (metadata : Dict) (size : Nat) : Stable (GuestMove base) fun h =>
    ∃ img live, Kept base old none h.world img live ∧
      Logged base h.world img (history img.metadata img.snapshots) live ∧ TapOn base h.world live ∧
        img.metadata = metadata ∧ img.size = size := by
  rintro h h' ⟨img, live, hkept, hlogged, htap, hmeta, hsize⟩ ⟨-, off, data, hwrite, -⟩
  exact ⟨img.write off data, live, hkept.write htap hwrite, hlogged.write hkept.found htap hwrite,
    htap.write hkept.found htap hwrite, hmeta, hsize⟩

/-- The captured state is kept by a guest that changes nothing. -/
theorem stable_captured : Stable (GuestMove base) fun h =>
    ∃ img, Captured base old snap live metadata size h img := by
  rintro h ⟨after, sealing⟩ ⟨img, hcap⟩ ⟨rfl, off, data, hwrite, hharmless⟩
  exact ⟨_, hcap.write hwrite (hharmless hcap.sealing)⟩

/-- So it is with a new companion beside it. -/
theorem stable_prepared :
    Stable (GuestMove base) (Prepared base old snap live metadata size gen bits) := by
  rintro h ⟨after, sealing⟩ ⟨img, hcap, hopen⟩ ⟨rfl, off, data, hwrite, hharmless⟩
  exact ⟨_, hcap.write hwrite (hharmless hcap.sealing),
    hopen.write hcap.kept.found hcap.tap hwrite⟩

/-- The rotated state is kept by every guest write. -/
theorem stable_rotated : Stable (GuestMove base) fun h =>
    ∃ img disk, Rotated base old snap live gen metadata size h.world img disk := by
  rintro h h' ⟨img, disk, hrot⟩ ⟨-, off, data, hwrite, -⟩
  exact ⟨_, disk, hrot.write hwrite⟩

/-- Mapping an image leaves the tapdisk on its log. -/
theorem TapOn.map (htap : TapOn base w gen) (image : String) :
    TapOn base { w with mapped := w.mapped.insert image } gen := by
  intro tap hfound
  exact ⟨(htap tap hfound).1, List.mem_insert_of_mem (htap tap hfound).2⟩

/-- Unmapping a companion leaves the tapdisk on its log. -/
theorem TapOn.unmap (htap : TapOn base w gen) {image : String} (hne : image ≠ base) :
    TapOn base (if w.isLog image then w else { w with mapped := w.mapped.erase image }) gen := by
  split
  · exact htap
  · intro tap hfound
    exact ⟨(htap tap hfound).1, (List.mem_erase_of_ne hne.symm).mpr (htap tap hfound).2⟩

/-- An image is unmapped, where the condition before it allows for that. -/
theorem ends_unmap {rely : Host → Host → Prop} {P : Host → Prop} {image : String}
    (hstable : Stable rely P) (hP : P h)
    (hframe : ∀ h w, P h → w.images = h.world.images →
      (∀ gen, TapOn base h.world gen → TapOn base w gen) → P ⟨w, h.sealing⟩)
    (hne : image ≠ base) : Ends rely (fun _ h => P h) (Cbtlog.unmap image) h := by
  refine Prog.wp_tryCatch (ends_call hstable hP rfl fun h result w hP heffect => ?_)
  cases heffect
  refine hframe h _ hP ?_ fun gen htap => htap.unmap hne
  split <;> rfl

/-- A change of the maps and the tapdisks keeps the logs. -/
theorem logsKept_of_images (himages : after.images = w.images) : LogsKept base w after := by
  intro gen bits hbits
  simp only [logBits, himages] at hbits ⊢
  exact hbits

end Stages

section Taken

variable {base snap live gen : String} {old : List String} {metadata : Dict} {size : Nat}
  {h : Host} {img : Image} {w : World}

/-- A snapshot that is not found has no name among the snapshots. -/
theorem not_mem_names (h : img.findSnap snap = none) :
    snap ∉ img.snapshots.map fun s => s.name := by
  intro hmem
  obtain ⟨s, hs, rfl⟩ := List.mem_map.mp hmem
  have hnone := List.find?_eq_none.mp h s hs
  simp at hnone

/-- The snapshot that `snap_create` makes. -/
def Image.captured (img : Image) (snap : String) : Snap :=
  { name := snap, size := img.size, content := img.content }

/-- The base with it. -/
def Image.withSnap (img : Image) (snap : String) : Image :=
  { img with snapshots := img.snapshots ++ [img.captured snap] }

/-- A new snapshot has no sealed log. -/
theorem Kept.unrecorded (hkept : Kept base old none w img live) (hnew : img.findSnap snap = none) :
    sealedGen img.metadata snap = none := by
  by_contra hsome
  exact not_mem_names hnew (hkept.recorded.owned snap (Option.isSome_iff_ne_none.mpr hsome))

/-- A new snapshot leaves the history as it was. -/
theorem history_withSnap (h : sealedGen img.metadata snap = none) :
    history img.metadata (img.withSnap snap).snapshots = history img.metadata img.snapshots := by
  have hnone : history img.metadata [img.captured snap] = [] := history_cons_none h
  rw [Image.withSnap, history_append, hnone, List.append_nil]

/-- After `snap_create` the new snapshot is the only one without a log. -/
theorem Kept.withSnap (hkept : Kept base old none w img live) (hnew : img.findSnap snap = none) :
    Kept base old (some snap) { w with images := w.images.insert base (img.withSnap snap) }
      (img.withSnap snap) live where
  found := AList.lookup_insert _
  recorded :=
    { tapdisk := hkept.recorded.tapdisk
      live := hkept.recorded.live
      owned := fun snap' hsealed => by
        rw [Image.withSnap, List.map_append]
        exact List.mem_append_left _ (hkept.recorded.owned snap' hsealed) }
  readable := hkept.readable.frame (logsKept_insert_base _ _ _)
  distinct := hkept.distinct
  unsealed := hkept.unsealed
  since s hs huuid hold hpending := by
    obtain hs | hs := List.mem_append.mp hs
    · exact hkept.since s hs huuid hold nofun
    · cases List.mem_singleton.mp hs
      exact absurd rfl hpending
  names := by
    rw [Image.withSnap, List.map_append, List.nodup_append]
    refine ⟨hkept.names, List.nodup_singleton _, fun a ha b hb heq => ?_⟩
    cases List.mem_singleton.mp hb
    cases heq
    exact not_mem_names hnew ha
  zero := hkept.zero
  zeros s hs := by
    obtain hs | hs := List.mem_append.mp hs
    · exact hkept.zeros s hs
    · cases List.mem_singleton.mp hs
      exact hkept.zero
  blocks := by
    have hhistory := history_withSnap (hkept.unrecorded hnew)
    intro e he
    exact hkept.blocks e (hhistory ▸ he)

/-- `snap_create` captures the head. -/
theorem captured_of_snapCreate {result : Unit} (htracked : Tracked base old h.world)
    (heffect : effect h.world (.snapCreate base snap) = some (result, w)) :
    ∃ live metadata size img, Captured base old snap live metadata size ⟨w, true⟩ img := by
  obtain ⟨img, live, hkept, hlogged, htap⟩ := htracked
  obtain ⟨_, hupdate, heq⟩ := Option.map_eq_some_iff.mp heffect
  cases heq
  obtain ⟨img', img₂, hfound, hsnap, rfl⟩ := World.update_eq_some_iff.mp hupdate
  cases hfound.symm.trans hkept.found
  obtain ⟨hnew, rfl⟩ := Image.snapCreate_eq_some_iff.mp hsnap
  have hunrecorded := hkept.unrecorded hnew
  refine ⟨live, img.metadata, img.size, img.withSnap snap, ?_⟩
  exact
    { kept := hkept.withSnap hnew
      logged := by
        have hhistory := history_withSnap hunrecorded
        exact hhistory ▸ hlogged.frame (logsKept_insert_base _ _ _) rfl
      tap := htap
      newest := ⟨⟨img.snapshots, img.captured snap, rfl, rfl, rfl⟩, hunrecorded⟩
      metadata_eq := rfl
      size_eq := rfl
      sealing := rfl }

/-- The names and the states of the snapshots do not depend on their protection. -/
theorem mark_mapSnap (img : Image) (snap : String) (on : Bool) :
    (img.mapSnap snap fun s => { s with isProtected := on }).snapshots.map Snap.mark =
      img.snapshots.map Snap.mark := by
  rw [Image.mapSnap, List.map_map]
  refine List.map_congr_left fun s _ => ?_
  rw [Function.comp_apply]
  split <;> rfl

/-- The newest snapshot stays the newest when flags of snapshots change. -/
theorem Newest.relabel {disk : Disk} {snaps : List Snap} (hnewest : Newest img snap disk)
    (hmarks : snaps.map Snap.mark = img.snapshots.map Snap.mark) :
    Newest { img with snapshots := snaps } snap disk := by
  obtain ⟨⟨front, s, hsnaps, hname, hdisk⟩, hunrecorded⟩ := hnewest
  rw [hsnaps, List.map_append] at hmarks
  obtain ⟨front', last, rfl, -, hlast⟩ := List.map_eq_append_iff.mp hmarks
  obtain ⟨s', rfl, hmark⟩ := List.map_eq_singleton_iff.mp hlast
  refine ⟨⟨front', s', rfl, ?_, ?_⟩, hunrecorded⟩
  · exact (congrArg Prod.fst hmark).trans hname
  · exact (congrArg Prod.snd hmark).trans hdisk

/-- `snap_set_protected` changes no state. -/
theorem captured_of_protect {result : Unit} {on : Bool}
    (hcap : Captured base old snap live metadata size h img)
    (heffect : effect h.world (.snapSetProtected base snap on) = some (result, w)) :
    ∃ img, Captured base old snap live metadata size ⟨w, h.sealing⟩ img := by
  obtain ⟨_, hupdate, heq⟩ := Option.map_eq_some_iff.mp heffect
  cases heq
  obtain ⟨img', img₂, hfound, hprotect, rfl⟩ := World.update_eq_some_iff.mp hupdate
  cases hfound.symm.trans hcap.kept.found
  obtain ⟨-, -, -, rfl⟩ := Image.snapSetProtected_eq_some_iff.mp hprotect
  have hmarks := mark_mapSnap img snap on
  refine ⟨img.mapSnap snap fun s => { s with isProtected := on }, ?_⟩
  exact
    { hcap with
      kept := hcap.kept.relabel hmarks
      logged := by
        have hhistory : history img.metadata _ = _ := history_congr hmarks
        exact hhistory ▸ hcap.logged.frame (logsKept_insert_base _ _ _) rfl
      newest := hcap.newest.relabel hmarks }

/-- The new snapshot is taken and protected. -/
theorem ends_takeSnap (htracked : Tracked base old h.world) :
    Ends (GuestMove base) (fun _ h => ∃ live metadata size img,
      Captured base old snap live metadata size h img) (takeSnap base snap) h := by
  refine Prog.wp_tryCatch (Prog.wp_bind
    (ends_call stable_tracked htracked rfl fun h result w htracked heffect => ?_))
  obtain ⟨live, metadata, size, hcap⟩ := captured_of_snapCreate htracked heffect
  refine ends_call stable_captured hcap rfl fun h result w hcap heffect => ?_
  obtain ⟨img, hcap⟩ := hcap
  exact ⟨live, metadata, size, captured_of_protect hcap heffect⟩

/-- `snapshot` reads the size and the metadata of the base. -/
theorem ends_readBase (hcap : ∃ img, Captured base old snap live metadata size h img) :
    Ends (GuestMove base) (fun result h => result = (size, metadata) ∧
      ∃ img, Captured base old snap live metadata size h img) (readBase base) h := by
  refine Prog.wp_tryCatch (Prog.wp_bind
    (ends_call stable_captured hcap rfl fun h result w hcap heffect => ?_))
  obtain ⟨img, hcap⟩ := hcap
  simp only [effect, hcap.kept.found, Option.map_some] at heffect
  cases heffect
  refine ⟨?_, img, hcap⟩
  rw [← hcap.size_eq, ← hcap.metadata_eq]
  rfl

end Taken

section Seed

variable {base snap live : String} {old : List String} {metadata : Dict} {size : Nat} {h : Host}
  {img : Image}

/-- The new metadata agrees with the old one where the desired dictionary was left alone. -/
theorem sameCbt_replaced (mutate : Desired → Desired)
    (hmutate : ∀ (m : Desired) key, Text.startsWith key "cbt." = true →
      (mutate m).lookup key = m.lookup key) :
    SameCbt metadata (replaced metadata (mutate metadata.toDesired)) := by
  intro key hkey
  rw [lookup_replaced, hmutate _ _ hkey, Dict.lookup_toDesired]
  cases metadata.lookup key <;> rfl

/-- The keys of a snapshot's fields are none of changed-block tracking. -/
theorem ne_of_startsWith {key rest : String} (h : Text.startsWith key "cbt." = true) :
    key ≠ "snap." ++ rest := by
  rintro rfl
  obtain ⟨rest', heq⟩ := Text.startsWith_iff.mp h
  have hhead := congrArg (fun text => text.toList.head?) heq
  simp at hhead

/-- A seeded value stands under its own key. -/
theorem lookup_seedValue (m : Desired) {key key' : String} (value : Option String)
    (hne : key ≠ key') : (seedValue m key' value).lookup key = m.lookup key := by
  unfold seedValue
  split
  · exact AList.lookup_insert_ne hne
  · rfl

/-- A rewrite of other metadata leaves the captured state captured. -/
theorem Captured.rewrite (hcap : Captured base old snap live metadata size h img) {metadata' : Dict}
    (hsame : SameCbt metadata metadata') :
    Captured base old snap live metadata' size
      ⟨{ h.world with
        images := h.world.images.insert base { img with metadata := metadata' } }, h.sealing⟩
      { img with metadata := metadata' } := by
  obtain rfl := hcap.metadata_eq
  exact
    { hcap with
      kept := hcap.kept.rewrite hsame
      logged := by
        have hhistory := hsame.history img.snapshots
        exact hhistory ▸ hcap.logged.frame (logsKept_insert_base _ _ _) rfl
      newest := ⟨hcap.newest.last, (hsame.sealedGen snap).trans hcap.newest.unrecorded⟩
      metadata_eq := rfl }

/-- What `rmw` needs to know of the base. -/
theorem Captured.base_eq (hcap : Captured base old snap live metadata size h img) :
    ∃ img, h.world.images.lookup base = some img ∧ img.metadata = metadata ∧ img.size = size ∧
      img.disk.Zero :=
  ⟨img, hcap.kept.found, hcap.metadata_eq, hcap.size_eq, hcap.kept.zero⟩

/-- The names a snapshot is seeded with are none of changed-block tracking's keys. -/
theorem lookup_seeded (m : Desired) {snap key : String} (name desc : Option String)
    (hkey : Text.startsWith key "cbt." = true) :
    (seedValue (seedValue m (metaNames (some snap)).1 name) (metaNames (some snap)).2.1
      desc).lookup key = m.lookup key := by
  have hname : key ≠ (metaNames (some snap)).1 := by
    simp only [metaNames, String.append_assoc]
    exact ne_of_startsWith hkey
  have hdesc : key ≠ (metaNames (some snap)).2.1 := by
    simp only [metaNames, String.append_assoc]
    exact ne_of_startsWith hkey
  rw [lookup_seedValue _ _ hdesc, lookup_seedValue _ _ hname]

/-- The metadata seed keeps the captured state. -/
theorem ends_seedNames (hcap : ∃ img, Captured base old snap live metadata size h img) :
    Ends (GuestMove base) (fun _ h => ∃ metadata' img, SameCbt metadata metadata' ∧
      Captured base old snap live metadata' size h img) (seedNames base snap metadata) h := by
  dsimp only [seedNames]
  split
  · refine Prog.wp_tryCatch (ends_rmw stable_captured hcap (fun h ⟨img, hcap⟩ => hcap.base_eq)
      fun h img hcap hfound => ?_)
    obtain ⟨img', hcap⟩ := hcap
    cases hfound.symm.trans hcap.kept.found
    have hsame : SameCbt metadata (replaced metadata (seedValue (seedValue metadata.toDesired
        (metaNames (some snap)).1 (metadata.lookup (metaNames none).1)) (metaNames (some snap)).2.1
          (metadata.lookup (metaNames none).2.1))) := by
      exact sameCbt_replaced (fun m => seedValue (seedValue m _ _) _ _)
        fun m key hkey => lookup_seeded m _ _ hkey
    exact ⟨_, _, hsame, hcap.rewrite hsame⟩
  · obtain ⟨img, hcap⟩ := hcap
    exact ⟨metadata, img, fun _ _ => rfl, hcap⟩

end Seed

section Companion

variable {base snap live gen : String} {old : List String} {metadata : Dict} {size : Nat}
  {h : Host} {img : Image} {w : World} {bits : Option Bytes}

/-- `create` opens a generation that no log of the base has. -/
theorem opened_of_create {result : Unit} (hcap : Captured base old snap live metadata size h img)
    (hgen : gen ≠ "") {companionSize : Nat} {features : List String}
    (heffect : effect h.world (.create (companionName base gen) companionSize features) =
      some (result, w)) :
    Captured base old snap live metadata size ⟨w, h.sealing⟩ img ∧
      Opened base live metadata gen none w := by
  simp only [effect, Option.ite_none_left_eq_some, Option.some.injEq, Prod.mk.injEq] at heffect
  obtain ⟨hnew, -, rfl⟩ := heffect
  have hnone : logBits h.world base gen = none := by
    simp [logBits, AList.lookup_eq_none.mpr hnew]
  have hapart : ∀ gen', (logBits h.world base gen').isSome → gen ≠ gen' := by
    rintro gen' hsome rfl
    simp [hnone] at hsome
  have hlogs : LogsKept base h.world { h.world with
      images := h.world.images.insert (companionName base gen)
        { size := companionSize, features := features } } := by
    intro gen' bits hbits
    rw [logBits_insert_ne _ _ (hapart gen' (by simp [hbits])).symm, hbits]
  refine ⟨hcap.frame ?_ hlogs hcap.tap, ?_⟩
  · exact AList.lookup_insert_ne (Cbtlog.companionName_ne base gen).symm
  · exact
      { named := hgen
        live := hapart live hcap.kept.readable.live.2
        sealed := fun snap' hsealed =>
          hapart gen (hcap.kept.readable.sealed snap' gen (hcap.metadata_eq ▸ hsealed)).2 rfl
        log := logBits_insert_self _ _ _ _ }

/-- A call on the maps or the tapdisks leaves it so. -/
theorem Prepared.frame (hprep : Prepared base old snap live metadata size gen bits h)
    (himages : w.images = h.world.images) (htap : TapOn base h.world live → TapOn base w live) :
    Prepared base old snap live metadata size gen bits ⟨w, h.sealing⟩ := by
  obtain ⟨img, hcap, hopen⟩ := hprep
  refine ⟨img, hcap.frame (by rw [himages]) (logsKept_of_images himages) (htap hcap.tap), ?_⟩
  have hlog : logBits w base gen = logBits h.world base gen := by simp only [logBits, himages]
  exact { hopen with log := hlog.trans hopen.log }

/-- The companion is mapped. -/
theorem prepared_of_map {result : Unit} {image : String}
    (hprep : Prepared base old snap live metadata size gen bits h)
    (heffect : effect h.world (.map image) = some (result, w)) :
    Prepared base old snap live metadata size gen bits ⟨w, h.sealing⟩ := by
  simp only [effect, Option.ite_none_right_eq_some, Option.some.injEq, Prod.mk.injEq] at heffect
  obtain ⟨-, -, rfl⟩ := heffect
  exact hprep.frame rfl fun htap => htap.map image

/-- A change of the log of the new companion. -/
theorem Prepared.relog {bits' : Option Bytes} {companion : Image}
    (hprep : Prepared base old snap live metadata size gen bits h)
    (hlog : companion.log.map Log.bitmap = bits')
    (hkeep : bits.isSome → bits' = bits) :
    Prepared base old snap live metadata size gen bits'
      ⟨{ h.world with
        images := h.world.images.insert (companionName base gen) companion }, h.sealing⟩ := by
  obtain ⟨img, hcap, hopen⟩ := hprep
  have hlogs : LogsKept base h.world { h.world with
      images := h.world.images.insert (companionName base gen) companion } := by
    intro gen' found hfound
    by_cases hgen : gen' = gen
    · subst hgen
      obtain rfl := hopen.log.symm.trans hfound
      rw [logBits_insert_self, hlog, hkeep rfl]
    · rw [logBits_insert_ne _ _ hgen, hfound]
  refine ⟨img, hcap.frame ?_ hlogs hcap.tap, { hopen with log := ?_ }⟩
  · exact AList.lookup_insert_ne (Cbtlog.companionName_ne base gen).symm
  · rw [logBits_insert_self, hlog]

/-- `cbt-util create` gives the companion an empty log. -/
theorem prepared_of_cbtCreate {result : Unit} {blocks : Nat}
    (hprep : Prepared base old snap live metadata size gen none h)
    (heffect : effect h.world (.cbtCreate (companionName base gen) blocks) = some (result, w)) :
    Prepared base old snap live metadata size gen (some (Bitmap.zeros ((blocks + 7) / 8)))
      ⟨w, h.sealing⟩ := by
  obtain ⟨_, hupdate, heq⟩ := Option.map_eq_some_iff.mp heffect
  cases heq
  obtain ⟨companion, companion', -, hcreate, rfl⟩ := World.update_eq_some_iff.mp hupdate
  cases hcreate
  exact hprep.relog rfl nofun

/-- `cbt-util set` leaves the bits of the log alone. -/
theorem prepared_of_cbtSet {result : Unit} {logSize : Nat}
    (hprep : Prepared base old snap live metadata size gen bits h)
    (heffect : effect h.world (.cbtSet (companionName base gen) logSize) = some (result, w)) :
    Prepared base old snap live metadata size gen bits ⟨w, h.sealing⟩ := by
  obtain ⟨_, hupdate, heq⟩ := Option.map_eq_some_iff.mp heffect
  cases heq
  obtain ⟨companion, companion', hfound, hset, rfl⟩ := World.update_eq_some_iff.mp hupdate
  obtain ⟨log, hlog, rfl⟩ := Image.cbtSet_eq_some_iff.mp hset
  refine hprep.relog ?_ fun _ => rfl
  obtain ⟨img, -, hopen⟩ := hprep
  rw [← hopen.log]
  simp [logBits, hfound, hlog]

/-- `create_companion` beside the captured state. -/
theorem ends_createCompanion (hcap : ∃ img, Captured base old snap live metadata size h img) :
    Ends (GuestMove base) (fun gen h => Prepared base old snap live metadata size gen
      (some (Bitmap.zeros (bitmapBytes size))) h) (Cbtlog.createCompanion base size) h := by
  refine Prog.wp_bind (ends_gen stable_captured hcap fun h gen hcap hgen => ?_)
  refine Prog.wp_bind (ends_call stable_captured hcap rfl fun h _ w hcap heffect => ?_)
  obtain ⟨img, hcap⟩ := hcap
  have hprep : Prepared base old snap live metadata size gen none _ :=
    ⟨img, opened_of_create hcap hgen heffect⟩
  refine Prog.wp_bind (ends_call stable_prepared hprep rfl fun h _ w hprep heffect => ?_)
  have hprep := prepared_of_map hprep heffect
  refine Prog.wp_bind (ends_finallyDo (Prog.wp_bind
    (ends_call stable_prepared hprep rfl fun h _ w hprep heffect => ?_)))
  have hprep := prepared_of_cbtCreate hprep heffect
  refine ends_call stable_prepared hprep rfl fun h _ w hprep heffect => ?_
  have hprep := prepared_of_cbtSet hprep heffect
  exact ends_unmap stable_prepared hprep
    (fun h w hprep himages htap => hprep.frame himages (htap live))
    (Cbtlog.companionName_ne base gen)

end Companion

section Swap

variable {base snap live gen : String} {old : List String} {metadata : Dict} {size : Nat}
  {h : Host} {img : Image} {w : World} {bits : Option Bytes}

/-- Nothing differs between a state and itself. -/
theorem not_mem_changedBlocks_self (disk : Disk) (blk : Nat) : blk ∉ changedBlocks disk disk := by
  rintro (⟨i, -, hne⟩ | ⟨hge, hlt⟩)
  · exact hne rfl
  · exact absurd hlt (Nat.not_lt.mpr hge)

/-- Once no write can go to the old log, the new one takes over. -/
theorem Prepared.rotate
    (hprep : Prepared base old snap live metadata size gen
      (some (Bitmap.zeros (bitmapBytes size))) h)
    (himages : w.images = h.world.images) (htap : TapOn base w gen) :
    ∃ img disk, Rotated base old snap live gen metadata size w img disk := by
  obtain ⟨img, hcap, hopen⟩ := hprep
  have hlogs : LogsKept base h.world w := logsKept_of_images himages
  have hbits := hlogs gen _ hopen.log
  have hline : Delta.Linked changedBlocks ((history img.metadata img.snapshots ++
      [(⟨snap, img.disk, live⟩ : Entry)]).map (·.item w base)) := by
    rw [List.map_append]
    exact (hcap.logged.frame hlogs rfl).linked
  refine ⟨img, img.disk, ?_⟩
  exact
    { kept := hcap.kept.frame (by rw [himages, hcap.kept.found]) hlogs
      logged :=
        { linked := Delta.linked_concat_iff.mpr ⟨hline, fun e he blk hblk => by
            rw [List.getLast?_concat] at he
            cases he
            exact absurd hblk (not_mem_changedBlocks_self _ _)⟩
          room := fun _ => ⟨_, hbits, by rw [Bitmap.length_zeros, bitmapBytes, hcap.size_eq]⟩ }
      tap := htap
      newest := hcap.newest
      blocks := rfl
      metadata_eq := hcap.metadata_eq
      size_eq := hcap.size_eq
      named := hopen.named
      apart := hopen.live
      sealed := hopen.sealed }

/-- `tapRunning` finds the tapdisk of the base, if there is one. -/
theorem ends_tapRunning (hprep : Prepared base old snap live metadata size gen bits h) :
    Ends (GuestMove base) (fun running h => Prepared base old snap live metadata size gen bits h ∧
      (running = some base ∨ (running = none ∧ h.world.taps.lookup base = none)))
      (Cbtlog.tapRunning base) h := by
  refine Prog.wp_bind (ends_call stable_prepared hprep rfl fun h result w hprep heffect => ?_)
  cases heffect
  split
  next =>
    refine Prog.wp_tryCatch (ends_call stable_prepared hprep rfl fun h result w hprep heffect => ?_)
    cases heffect
    refine ⟨hprep, ?_⟩
    split
    · exact .inl rfl
    · exact .inr ⟨rfl, AList.lookup_eq_none.mpr ‹_›⟩
  next hmapped =>
    refine ⟨hprep, .inr ⟨rfl, ?_⟩⟩
    obtain ⟨img, hcap, -⟩ := hprep
    by_contra hsome
    obtain ⟨tap, htap⟩ := Option.ne_none_iff_exists'.mp hsome
    exact hmapped (List.contains_iff_mem.mpr (hcap.tap tap htap).2)

/-- A paused tapdisk keeps its log. -/
theorem prepared_of_pause {result : Unit}
    (hprep : Prepared base old snap live metadata size gen bits h)
    (heffect : effect h.world (.tapPause base) = some (result, w)) :
    Prepared base old snap live metadata size gen bits ⟨w, h.sealing⟩ := by
  obtain ⟨_, hupdate, heq⟩ := Option.map_eq_some_iff.mp heffect
  cases heq
  obtain ⟨tap, hfound, rfl⟩ := World.updateTap_eq_some_iff.mp hupdate
  refine hprep.frame rfl fun htap tap' hfound' => ?_
  cases (AList.lookup_insert _).symm.trans hfound'
  exact htap tap hfound

/-- The running tapdisk is paused and unpaused on the new log. -/
theorem ends_relog
    (hprep : Prepared base old snap live metadata size gen
      (some (Bitmap.zeros (bitmapBytes size))) h) :
    Ends (GuestMove base) (fun _ h => ∃ img disk,
      Rotated base old snap live gen metadata size h.world img disk)
      (Cbtlog.relog base base gen) h := by
  refine Prog.wp_bind (ends_call stable_prepared hprep rfl fun h _ w hprep heffect => ?_)
  have hprep := prepared_of_map hprep heffect
  refine Prog.wp_bind (ends_call stable_prepared hprep rfl fun h _ w hprep heffect => ?_)
  have hprep := prepared_of_pause hprep heffect
  refine ends_call stable_prepared hprep rfl fun h _ w hprep heffect => ?_
  obtain ⟨_, hupdate, heq⟩ := Option.map_eq_some_iff.mp heffect
  cases heq
  obtain ⟨tap, hfound, rfl⟩ := World.updateTap_eq_some_iff.mp hupdate
  refine hprep.rotate rfl fun tap' hfound' => ?_
  cases (AList.lookup_insert _).symm.trans hfound'
  obtain ⟨img, hcap, -⟩ := hprep
  exact ⟨rfl, (hcap.tap tap hfound).2⟩

/-- The rotation moves a running tapdisk to the new log. -/
theorem ends_swapLog
    (hprep : Prepared base old snap live metadata size gen
      (some (Bitmap.zeros (bitmapBytes size))) h) :
    Ends (GuestMove base) (fun _ h => ∃ img disk,
      Rotated base old snap live gen metadata size h.world img disk)
      (Cbtlog.swapLog base (some live) gen) h := by
  refine Prog.wp_bind ((ends_tapRunning hprep).mono fun running h hfound => ?_)
  obtain ⟨hprep, rfl | ⟨rfl, hnone⟩⟩ := hfound
  case inr =>
      refine hprep.rotate rfl fun tap hfound => ?_
      cases hnone.symm.trans hfound
  case inl =>
      refine Prog.wp_bind ((ends_relog hprep).mono fun _ h hrot => ?_)
      dsimp only
      split
      · exact hrot
      · refine ends_unmap stable_rotated hrot (fun h w hrot himages htap => ?_)
          (Cbtlog.companionName_ne base live)
        obtain ⟨img, disk, hrot⟩ := hrot
        exact ⟨img, disk,
          hrot.frame (by rw [himages]) (logsKept_of_images himages) (htap gen hrot.tap)⟩

end Swap

section Record

variable {base snap live gen : String} {old : List String} {metadata : Dict} {size : Nat}
  {h : Host} {img : Image} {w : World} {disk : Disk}

/-- The metadata that a rotation writes. -/
def sealedMeta (metadata : Dict) (snap live gen : String) : Dict :=
  replaced metadata (updateWith metadata.toDesired
    [(Cbtlog.snapKey snap, some live), (Cbtlog.kLive, some gen)])

/-- What it holds under a key. -/
theorem lookup_sealedMeta (key : String) :
    (sealedMeta metadata snap live gen).lookup key =
      if key = Cbtlog.kLive then some gen
      else if key = Cbtlog.snapKey snap then some live else metadata.lookup key := by
  rw [sealedMeta, lookup_replaced]
  simp only [updateWith, List.foldl_cons, List.foldl_nil]
  by_cases hlive : key = Cbtlog.kLive
  · subst hlive
    rw [AList.lookup_insert, if_pos rfl]
    rfl
  · rw [AList.lookup_insert_ne hlive, if_neg hlive]
    by_cases hsnap : key = Cbtlog.snapKey snap
    · subst hsnap
      rw [AList.lookup_insert, if_pos rfl]
      rfl
    · rw [AList.lookup_insert_ne hsnap, if_neg hsnap, Dict.lookup_toDesired]
      cases metadata.lookup key <;> rfl

/-- The keys of sealed logs differ from those of the state of tracking. -/
theorem snapKey_ne {key : String} (hkey : Text.startsWith key Cbtlog.snapPrefix = false)
    (snap : String) : Cbtlog.snapKey snap ≠ key := by
  rintro rfl
  rw [Cbtlog.snapKey, Text.startsWith_append] at hkey
  cases hkey

/-- Snapshots have keys of their own. -/
theorem snapKey_inj {snap snap' : String} (h : Cbtlog.snapKey snap = Cbtlog.snapKey snap') :
    snap = snap' := by
  have hlist := congrArg String.toList h
  simp only [Cbtlog.snapKey, String.toList_append, List.append_cancel_left_eq] at hlist
  exact String.toList_inj.mp hlist

theorem liveGen_sealedMeta : liveGen (sealedMeta metadata snap live gen) = some gen :=
  (lookup_sealedMeta _).trans (if_pos rfl)

theorem sealedGen_sealedMeta (snap' : String) :
    sealedGen (sealedMeta metadata snap live gen) snap' =
      if snap' = snap then some live else sealedGen metadata snap' := by
  refine (lookup_sealedMeta _).trans ?_
  rw [if_neg (snapKey_ne (by decide) snap')]
  by_cases hsnap : snap' = snap
  · rw [if_pos hsnap, if_pos (congrArg _ hsnap)]
  · rw [if_neg hsnap, if_neg fun heq => hsnap (snapKey_inj heq)]
    rfl

theorem isTapdisk_sealedMeta :
    Cbtlog.isTapdisk (sealedMeta metadata snap live gen) = Cbtlog.isTapdisk metadata := by
  have hother : ∀ key, key ≠ Cbtlog.kLive → Text.startsWith key Cbtlog.snapPrefix = false →
      (sealedMeta metadata snap live gen).lookup key = metadata.lookup key := by
    intro key hlive hsnap
    rw [lookup_sealedMeta, if_neg hlive, if_neg (snapKey_ne hsnap snap).symm]
  simp only [Cbtlog.isTapdisk, Cbtlog.isEnabled, hother Cbtlog.kEnabled (by decide) (by decide),
    hother Cbtlog.kMode (by decide) (by decide)]

/-- The history with the new snapshot at its end. -/
theorem history_sealedMeta (live gen : String) (hnewest : Newest img snap disk)
    (hnames : (img.snapshots.map fun s => s.name).Nodup) :
    history (sealedMeta img.metadata snap live gen) img.snapshots =
      history img.metadata img.snapshots ++ [⟨snap, disk, live⟩] := by
  obtain ⟨⟨front, s, hsnaps, rfl, rfl⟩, hunrecorded⟩ := hnewest
  rw [hsnaps, List.map_append, List.nodup_append] at hnames
  have hfront : history (sealedMeta img.metadata s.name live gen) front =
      history img.metadata front := by
    refine List.filterMap_congr fun s' hs' => ?_
    have hne : s'.name ≠ s.name := hnames.2.2 _ (List.mem_map_of_mem hs') _ List.mem_cons_self
    rw [sealedGen_sealedMeta, if_neg hne]
  have hlast : sealedGen (sealedMeta img.metadata s.name live gen) s.name = some live := by
    rw [sealedGen_sealedMeta, if_pos rfl]
  rw [hsnaps, history_append, history_append, hfront, history_cons_some hlast,
    history_cons_none hunrecorded]
  exact (congrArg (· ++ _) (List.append_nil _)).symm

/-- A log that the new metadata records is the old live one or was recorded before. -/
theorem sealedGen_sealedMeta_eq_some {snap' gen' : String}
    (h : sealedGen (sealedMeta metadata snap live gen) snap' = some gen') :
    (snap' = snap ∧ gen' = live) ∨ (snap' ≠ snap ∧ sealedGen metadata snap' = some gen') := by
  rw [sealedGen_sealedMeta] at h
  split at h
  next heq => exact .inl ⟨heq, (Option.some.inj h).symm⟩
  next hne => exact .inr ⟨hne, h⟩

/-- After the metadata update the new snapshot has its log. -/
theorem Rotated.kept_sealedMeta (hrot : Rotated base old snap live gen metadata size w img disk) :
    Kept base old none { w with
      images := w.images.insert base { img with metadata := sealedMeta metadata snap live gen } }
      { img with metadata := sealedMeta metadata snap live gen } gen := by
  obtain rfl := hrot.metadata_eq
  have hkept := hrot.kept
  obtain ⟨bits, hbits, -⟩ := hrot.logged.room (by simp)
  have hsnap : snap ∈ img.snapshots.map fun s => s.name := by
    obtain ⟨front, s, hsnaps, rfl, -⟩ := hrot.newest.last
    simp [hsnaps]
  exact
    { found := AList.lookup_insert _
      recorded :=
        { tapdisk := isTapdisk_sealedMeta.trans hkept.recorded.tapdisk
          live := liveGen_sealedMeta
          owned := fun snap' hsome => by
            obtain ⟨gen', hgen'⟩ := Option.isSome_iff_exists.mp hsome
            obtain ⟨rfl, -⟩ | ⟨-, hold⟩ := sealedGen_sealedMeta_eq_some hgen'
            · exact hsnap
            · exact hkept.recorded.owned snap' (by simp [hold]) }
      readable :=
        { sealed := fun snap' gen' hgen' => by
            rw [logBits_insert_base]
            obtain ⟨-, rfl⟩ | ⟨-, hold⟩ := sealedGen_sealedMeta_eq_some hgen'
            · exact hkept.readable.live
            · exact hkept.readable.sealed snap' gen' hold
          live := by
            rw [logBits_insert_base, hbits]
            exact ⟨hrot.named, rfl⟩ }
      -- no two snapshots share a log: the live one was nobody's until now
      distinct := fun snap₁ snap₂ gen' h₁ h₂ => by
        obtain ⟨rfl, rfl⟩ | ⟨hne₁, hold₁⟩ := sealedGen_sealedMeta_eq_some h₁
        · obtain ⟨rfl, -⟩ | ⟨-, hold₂⟩ := sealedGen_sealedMeta_eq_some h₂
          · rfl
          · exact absurd hold₂ (hkept.unsealed snap₂)
        · obtain ⟨rfl, rfl⟩ | ⟨-, hold₂⟩ := sealedGen_sealedMeta_eq_some h₂
          · exact absurd hold₁ (hkept.unsealed snap₁)
          · exact hkept.distinct snap₁ snap₂ gen' hold₁ hold₂
      unsealed := fun snap' hgen' => by
        obtain ⟨-, heq⟩ | ⟨-, hold⟩ := sealedGen_sealedMeta_eq_some hgen'
        · exact hrot.apart heq
        · exact hrot.sealed snap' hold
      since := fun s hs huuid hold _ => by
        rw [sealedGen_sealedMeta]
        split
        · rfl
        next hne => exact hkept.since s hs huuid hold fun heq => hne (Option.some.inj heq).symm
      names := hkept.names
      zero := hkept.zero
      zeros := hkept.zeros
      blocks := fun e he => by
        rw [history_sealedMeta live gen hrot.newest hkept.names] at he
        obtain he | he := List.mem_append.mp he
        · exact hkept.blocks e he
        · cases List.mem_singleton.mp he
          exact hrot.blocks }

/-- The metadata update closes the rotation. -/
theorem Rotated.record (hrot : Rotated base old snap live gen metadata size w img disk) :
    Tracked base old { w with
      images :=
        w.images.insert base { img with metadata := sealedMeta metadata snap live gen } } := by
  refine ⟨_, gen, hrot.kept_sealedMeta, ?_, hrot.tap⟩
  obtain rfl := hrot.metadata_eq
  have hhistory := history_sealedMeta live gen hrot.newest hrot.kept.names
  exact hhistory ▸ hrot.logged.frame (logsKept_insert_base _ _ _) rfl

/-- `snapshot`'s rotation of the log keeps the invariant. -/
theorem ends_rotateLog {metadata' : Dict} (hsame : SameCbt metadata metadata')
    (hcap : ∃ img, Captured base old snap live metadata' size h img) :
    Ends (GuestMove base) (fun _ h => Tracked base old h.world)
      (rotateLog base snap metadata size) h := by
  have hrecorded : ∃ snaps, Recorded metadata' snaps live := by
    obtain ⟨img, hcap⟩ := hcap
    exact ⟨img.snapshots, hcap.metadata_eq ▸ hcap.kept.recorded⟩
  obtain ⟨snaps, hrecorded⟩ := hrecorded
  have htapdisk := hsame.isTapdisk.symm.trans hrecorded.tapdisk
  have hlive := hsame.liveGen.symm.trans hrecorded.live
  rw [rotateLog, if_pos htapdisk, Cbtlog.rotate, hlive]
  refine Prog.wp_tryCatch (Prog.wp_bind (Prog.wp_bind
    ((ends_createCompanion hcap).mono fun gen h hprep => ?_)))
  refine Prog.wp_bind ((ends_swapLog hprep).mono fun _ h hrot => ?_)
  change Ends (GuestMove base) _ (rmw base fun m =>
    updateWith m [(Cbtlog.snapKey snap, some live), (Cbtlog.kLive, some gen)]) h
  refine ends_rmw stable_rotated hrot (fun h ⟨img, disk, hrot⟩ => ⟨img, hrot.kept.found,
    hrot.metadata_eq, hrot.size_eq, hrot.kept.zero⟩) fun h img hrot hfound => ?_
  obtain ⟨img', disk, hrot⟩ := hrot
  cases hfound.symm.trans hrot.kept.found
  exact hrot.record

end Record

section Operations

variable {base : String} {old : List String} {h : Host}

/-- **A snapshot keeps the invariant.** -/
theorem ends_snapshot (sr : SrMeta) (hat : '@' ∉ base.toList)
    (htracked : Tracked base old h.world) :
    Ends (GuestMove base) (fun _ h => Tracked base old h.world)
    (VolOp.snapshot.prog sr base) h := by
  refine Prog.wp_bind ?_
  simp only [snapshot, Datapath.splitKey_base hat, Text.truthy, Bool.false_eq_true, if_false]
  refine Prog.wp_bind (ends_uuid4 stable_tracked htracked fun h snap htracked _ => ?_)
  refine Prog.wp_bind ((ends_takeSnap htracked).mono fun _ h hcap => ?_)
  obtain ⟨live, metadata, size, hcap⟩ := hcap
  refine Prog.wp_bind ((ends_readBase hcap).mono fun read h hread => ?_)
  obtain ⟨rfl, hcap⟩ := hread
  refine Prog.wp_bind ((ends_seedNames hcap).mono fun _ h hseed => ?_)
  obtain ⟨metadata', img, hsame, hcap⟩ := hseed
  exact Prog.wp_bind ((ends_rotateLog hsame ⟨img, hcap⟩).mono fun _ h htracked => htracked)

/-- A custom key of a snapshot, such as its time, keeps the invariant. -/
theorem ends_set (sr : SrMeta) (hat : '@' ∉ base.toList) (htracked : Tracked base old h.world)
    (snap k v : String) : Ends (GuestMove base) (fun _ h => Tracked base old h.world)
      ((VolOp.set snap k v).prog sr base) h := by
  obtain ⟨img, live, hkept, hlogged, htap⟩ := htracked
  simp only [VolOp.prog, set, splitKey_snapKey hat]
  refine ends_rmw (stable_trackedAs img.metadata img.size)
    ⟨img, live, hkept, hlogged, htap, rfl, rfl⟩
    (fun h ⟨img', live, hkept, _, _, hmeta, hsize⟩ => ⟨img', hkept.found, hmeta, hsize, hkept.zero⟩)
    fun h img' hidle hfound => ?_
  obtain ⟨img₂, live, hkept, hlogged, htap, hmeta, -⟩ := hidle
  cases hfound.symm.trans hkept.found
  rw [← hmeta]
  refine Tracked.rewrite hkept hlogged htap (sameCbt_replaced
    (fun m => m.insert ((metaNames (some snap)).2.2 ++ k) (some v)) fun m key hkey => ?_)
  refine AList.lookup_insert_ne ?_
  simp only [metaNames, String.append_assoc]
  exact ne_of_startsWith hkey

end Operations

end XcpCephRbd.Volume
