import XcpCephRbd.Volume.Guest

/-!
# The chain of logs of a base

The invariant that ties the logs of a CBT-enabled base to the states of its disk. `Kept` is what the
metadata and the companions look like, `Logged` says that the line of sealed snapshots and the head
is linked, the head being logged by a given generation, and `TapOn` that this is the log the tapdisk
writes to. `Tracked` is the invariant between operations; `complete_of_tracked` derives from it that
`list_changed_blocks` answers completely. The rest of the module says what guest writes and rewrites
of the metadata keep, and gives the rules for the programs of the operations.
-/

namespace XcpCephRbd.Volume

open Bitmap (Bytes bit)
open Cbtlog (cbtBlock numBlocks companionName liveGen sealedGen)
open Datapath (SrMeta)

/-- Beyond its end a disk reads as zeros. -/
def Disk.Zero (d : Disk) : Prop := ∀ i, d.size ≤ i → d.content i = 0

/-- What holds of the base, its metadata and its companions throughout: `old` are the snapshots that
existed when tracking began, and `pending` is a new one whose log has not been recorded yet. -/
structure Kept (base : String) (old : List String) (pending : Option String) (w : World)
    (img : Image) (live : String) : Prop where
  found : w.images.lookup base = some img
  recorded : Recorded img.metadata img.snapshots live
  readable : Readable w base img.metadata live
  distinct : ∀ snap snap' gen, sealedGen img.metadata snap = some gen →
    sealedGen img.metadata snap' = some gen → snap = snap'
  unsealed : ∀ snap, sealedGen img.metadata snap ≠ some live
  since : ∀ s ∈ img.snapshots, isUuid s.name.toList = true → s.name ∉ old →
    pending ≠ some s.name → (sealedGen img.metadata s.name).isSome
  names : (img.snapshots.map fun s => s.name).Nodup
  zero : img.disk.Zero
  zeros : ∀ s ∈ img.snapshots, s.disk.Zero
  blocks : ∀ e ∈ history img.metadata img.snapshots, numBlocks e.disk.size = numBlocks img.size

/-- The states of `line` and then the head are linked by their logs, the head's being `gen`, which
has a bit for every block of the disk as soon as there is a state before the head. -/
structure Logged (base : String) (w : World) (img : Image) (line : List Entry) (gen : String) :
    Prop where
  linked : Delta.Linked changedBlocks
    (line.map (·.item w base) ++ [(img.disk, marked w base gen)])
  room : line ≠ [] → ∃ bits, logBits w base gen = some bits ∧
    bits.length = (numBlocks img.size + 7) / 8

/-- The tapdisk of `base`, if one runs, logs to `gen`, and its device is mapped. -/
def TapOn (base : String) (w : World) (gen : String) : Prop :=
  ∀ tap, w.taps.lookup base = some tap →
    tap.log = some (companionName base gen) ∧ base ∈ w.mapped

/-- The invariant between operations. -/
def Tracked (base : String) (old : List String) (w : World) : Prop :=
  ∃ img live, Kept base old none w img live ∧
    Logged base w img (history img.metadata img.snapshots) live ∧ TapOn base w live

/-- A volume that was made since tracking began. -/
def Since (old : List String) (s : Snap) : Prop := isUuid s.name.toList = true ∧ s.name ∉ old

/-- `list_changed_blocks` over the whole disk answers, and marks every block that differs between
the states `a` and `b`. -/
def Marks (w : World) (key key2 : String) (a b : Disk) : Prop :=
  ∀ whole, ∃ answer after, (listChangedBlocks whole key key2 0 (-1)).exec (handle .ok) w =
    some (.ok answer, after) ∧
      ∀ blk ∈ changedBlocks a b, bit (Base64.decode answer.bitmap) blk = true

/-- For any two snapshots made since tracking began, and for each of them and the head, every block
that differs is marked, provided the recorded snapshot times grow. -/
def Complete (base : String) (old : List String) (w : World) : Prop :=
  ∃ img, w.images.lookup base = some img ∧ (TimesGrow img.metadata img.snapshots →
    (∀ front mid back s₁ s₂, img.snapshots = front ++ s₁ :: (mid ++ s₂ :: back) →
      Since old s₁ → Since old s₂ →
        Marks w (snapKey base s₁.name) (snapKey base s₂.name) s₁.disk s₂.disk) ∧
    ∀ s ∈ img.snapshots, Since old s → Marks w (snapKey base s.name) base s.disk img.disk)

/-- Blocks that differ between two disks of one number of blocks, zero beyond their ends, are blocks
of both. -/
theorem lt_of_mem_changedBlocks {a b : Disk} {n blk : Nat} (ha : a.Zero) (hb : b.Zero)
    (hna : numBlocks a.size = n) (hnb : numBlocks b.size = n) (h : blk ∈ changedBlocks a b) :
    blk < n := by
  have hin : ∀ d : Disk, d.Zero → numBlocks d.size = n → ∀ i, d.content i ≠ 0 →
      i / cbtBlock < n := by
    intro d hd hn i hi
    have hlt : i < d.size := by
      by_contra hge
      exact hi (hd i (Nat.le_of_not_lt hge))
    have htouched : i / cbtBlock ∈ touched i 1 := by simp [touched]
    exact hn ▸ lt_of_mem_touched htouched hlt
  obtain ⟨i, rfl, hne⟩ | ⟨-, hlt⟩ := h
  · by_cases hzero : a.content i = 0
    · exact hin b hb hnb i fun hb0 => hne (hzero.trans hb0.symm)
    · exact hin a ha hna i hzero
  · exact hnb ▸ hlt

@[simp] theorem history_append (metadata : Dict) (first second : List Snap) :
    history metadata (first ++ second) = history metadata first ++ history metadata second :=
  List.filterMap_append

theorem history_cons_some {metadata : Dict} {s : Snap} {snaps : List Snap} {gen : String}
    (h : sealedGen metadata s.name = some gen) :
    history metadata (s :: snaps) = ⟨s.name, s.disk, gen⟩ :: history metadata snaps :=
  List.filterMap_cons_some (by simp [h])

theorem history_cons_none {metadata : Dict} {s : Snap} {snaps : List Snap}
    (h : sealedGen metadata s.name = none) :
    history metadata (s :: snaps) = history metadata snaps :=
  List.filterMap_cons_none (by simp [h])

/-- The states of the history are those of snapshots. -/
theorem exists_snap_of_mem_history {metadata : Dict} {snaps : List Snap} {e : Entry}
    (h : e ∈ history metadata snaps) : ∃ s ∈ snaps, s.name = e.name ∧ s.disk = e.disk := by
  obtain ⟨s, hs, he⟩ := List.mem_filterMap.mp h
  obtain ⟨gen, -, rfl⟩ := Option.map_eq_some_iff.mp he
  exact ⟨s, hs, rfl, rfl⟩

section Complete

variable {base : String} {old : List String} {w : World}

/-- **The invariant makes the answers complete.** -/
theorem complete_of_tracked (hat : '@' ∉ base.toList) (h : Tracked base old w) :
    Complete base old w := by
  obtain ⟨img, live, hkept, hlogged, -⟩ := h
  have hsealed : ∀ s ∈ img.snapshots, Since old s →
      ∃ gen, sealedGen img.metadata s.name = some gen := fun s hs hsince =>
    Option.isSome_iff_exists.mp (hkept.since s hs hsince.1 hsince.2 nofun)
  have hentry : ∀ s ∈ img.snapshots, ∀ gen, sealedGen img.metadata s.name = some gen →
      numBlocks s.disk.size = numBlocks img.size := by
    intro s hs gen hgen
    have hmem : (⟨s.name, s.disk, gen⟩ : Entry) ∈ history img.metadata img.snapshots :=
      List.mem_filterMap.mpr ⟨s, hs, by simp [hgen]⟩
    exact hkept.blocks _ hmem
  refine ⟨img, hkept.found, fun htimes => ⟨?_, ?_⟩⟩
  · intro front mid back s₁ s₂ hsplit hsince₁ hsince₂ whole
    have hs₁ : s₁ ∈ img.snapshots := by simp [hsplit]
    have hs₂ : s₂ ∈ img.snapshots := by simp [hsplit]
    obtain ⟨gen₁, hgen₁⟩ := hsealed s₁ hs₁ hsince₁
    obtain ⟨gen₂, hgen₂⟩ := hsealed s₂ hs₂ hsince₂
    have hhistory : history img.metadata img.snapshots = history img.metadata front ++
        ⟨s₁.name, s₁.disk, gen₁⟩ :: (history img.metadata mid ++
          ⟨s₂.name, s₂.disk, gen₂⟩ :: history img.metadata back) := by
      rw [hsplit, history_append, history_cons_some hgen₁, history_append, history_cons_some hgen₂]
    obtain ⟨answer, after, hanswer, hmarks⟩ := list_complete_snapshot hat hkept.found
      hkept.recorded hkept.readable (Delta.linked_concat_iff.mp hlogged.linked).1 htimes hhistory
      whole
    refine ⟨answer, after, hanswer, fun blk hblk => hmarks blk hblk ?_⟩
    exact lt_of_mem_changedBlocks (hkept.zeros s₁ hs₁) (hkept.zeros s₂ hs₂)
      (hentry s₁ hs₁ gen₁ hgen₁) (hentry s₂ hs₂ gen₂ hgen₂) hblk
  · intro s hs hsince whole
    obtain ⟨gen, hgen⟩ := hsealed s hs hsince
    obtain ⟨front, back, hsplit⟩ := List.append_of_mem hs
    have hhistory : history img.metadata img.snapshots = history img.metadata front ++
        ⟨s.name, s.disk, gen⟩ :: history img.metadata back := by
      rw [hsplit, history_append, history_cons_some hgen]
    obtain ⟨answer, after, hanswer, hmarks⟩ := list_complete_head hat hkept.found hkept.recorded
      hkept.readable hlogged.linked htimes hhistory whole
    refine ⟨answer, after, hanswer, fun blk hblk => hmarks blk hblk ?_⟩
    exact lt_of_mem_changedBlocks (hkept.zeros s hs) hkept.zero (hentry s hs gen hgen) rfl hblk

end Complete

section Frame

variable {base : String} {old : List String} {pending : Option String} {w after : World}
  {img : Image} {live gen : String} {line : List Entry}

/-- Every log is what it was. -/
def LogsKept (base : String) (w after : World) : Prop :=
  ∀ gen bits, logBits w base gen = some bits → logBits after base gen = some bits

/-- A change of the base keeps the logs. -/
theorem logsKept_insert_base (w : World) (base : String) (img : Image) :
    LogsKept base w { w with images := w.images.insert base img } := by
  intro gen bits hbits
  rw [logBits_insert_base, hbits]

theorem LogsKept.isSome (h : LogsKept base w after) (hsome : (logBits w base gen).isSome) :
    (logBits after base gen).isSome := by
  obtain ⟨bits, hbits⟩ := Option.isSome_iff_exists.mp hsome
  simp [h gen bits hbits]

theorem LogsKept.marked (h : LogsKept base w after) (gen : String) :
    marked w base gen ⊆ marked after base gen := by
  rintro blk ⟨bits, hbits, hbit⟩
  exact ⟨bits, h gen bits hbits, hbit⟩

/-- What the metadata records can be read as long as the logs are kept. -/
theorem Readable.frame {metadata : Dict} (hreadable : Readable w base metadata live)
    (hlogs : LogsKept base w after) : Readable after base metadata live where
  sealed snap gen hgen :=
    ⟨(hreadable.sealed snap gen hgen).1, hlogs.isSome (hreadable.sealed snap gen hgen).2⟩
  live := ⟨hreadable.live.1, hlogs.isSome hreadable.live.2⟩

/-- A call that leaves the base and the logs alone keeps the shape of the base. -/
theorem Kept.frame (hkept : Kept base old pending w img live)
    (hfound : after.images.lookup base = some img) (hlogs : LogsKept base w after) :
    Kept base old pending after img live :=
  { hkept with found := hfound, readable := hkept.readable.frame hlogs }

/-- A change that keeps the logs and the state of the head keeps the line linked. -/
theorem Logged.frame {img' : Image} (hlogged : Logged base w img line gen)
    (hlogs : LogsKept base w after) (hdisk : img'.disk = img.disk) :
    Logged base after img' line gen := by
  have hsize : img'.size = img.size := congrArg Disk.size hdisk
  obtain ⟨hline, hlast⟩ := Delta.linked_concat_iff.mp hlogged.linked
  refine ⟨Delta.linked_concat_iff.mpr ⟨?_, ?_⟩, fun hne => ?_⟩
  · exact hline.grow (fun _ _ => rfl) fun e _ => hlogs.marked e.gen
  · intro e he
    rw [hdisk]
    exact (hlast e he).trans (hlogs.marked gen)
  · obtain ⟨bits, hbits, hlength⟩ := hlogged.room hne
    exact ⟨bits, hlogs gen bits hbits, by rw [hsize, hlength]⟩

/-- The name of a snapshot and the state it captured. -/
def Snap.mark (s : Snap) : String × Disk := (s.name, s.disk)

/-- The history depends on the names and the states only. -/
theorem history_congr {metadata : Dict} {snaps snaps' : List Snap}
    (h : snaps'.map Snap.mark = snaps.map Snap.mark) :
    history metadata snaps' = history metadata snaps := by
  have hmarks : ∀ snaps : List Snap, history metadata snaps = (snaps.map Snap.mark).filterMap
      fun m => (sealedGen metadata m.1).map fun gen => ⟨m.1, m.2, gen⟩ := by
    intro snaps
    rw [List.filterMap_map]
    rfl
  rw [hmarks, hmarks, h]

/-- A change of the flags of snapshots keeps the shape of the base. -/
theorem Kept.relabel (hkept : Kept base old pending w img live) {snaps : List Snap}
    (hmarks : snaps.map Snap.mark = img.snapshots.map Snap.mark) :
    Kept base old pending
      { w with images := w.images.insert base { img with snapshots := snaps } }
      { img with snapshots := snaps } live := by
  have hnames : snaps.map (fun s => s.name) = img.snapshots.map fun s => s.name := by
    have hfst := congrArg (List.map Prod.fst) hmarks
    simpa [Function.comp_def, Snap.mark] using hfst
  have hsame : ∀ s ∈ snaps, ∃ s' ∈ img.snapshots, s'.name = s.name ∧ s'.disk = s.disk := by
    intro s hs
    have hmem : s.mark ∈ img.snapshots.map Snap.mark := hmarks ▸ List.mem_map_of_mem hs
    obtain ⟨s', hs', heq⟩ := List.mem_map.mp hmem
    exact ⟨s', hs', congrArg Prod.fst heq, congrArg Prod.snd heq⟩
  exact
    { found := AList.lookup_insert _
      recorded :=
        { tapdisk := hkept.recorded.tapdisk
          live := hkept.recorded.live
          owned := fun snap hsnap => hnames ▸ hkept.recorded.owned snap hsnap }
      readable := hkept.readable.frame (logsKept_insert_base _ _ _)
      distinct := hkept.distinct
      unsealed := hkept.unsealed
      since := fun s hs huuid hold hpending => by
        obtain ⟨s', hs', hname, -⟩ := hsame s hs
        rw [← hname] at huuid hold hpending ⊢
        exact hkept.since s' hs' huuid hold hpending
      names := hnames ▸ hkept.names
      zero := hkept.zero
      zeros := fun s hs => by
        obtain ⟨s', hs', -, hdisk⟩ := hsame s hs
        rw [← hdisk]
        exact hkept.zeros s' hs'
      blocks := by
        rw [history_congr hmarks]
        exact hkept.blocks }

/-- The two dictionaries agree on the keys of changed-block tracking. -/
def SameCbt (metadata metadata' : Dict) : Prop :=
  ∀ key, Text.startsWith key "cbt." = true → metadata'.lookup key = metadata.lookup key

section SameCbt

variable {metadata metadata' : Dict}

theorem SameCbt.sealedGen (h : SameCbt metadata metadata') (snap : String) :
    sealedGen metadata' snap = Cbtlog.sealedGen metadata snap := by
  refine h _ (Text.startsWith_iff.mpr ⟨"snap." ++ snap, ?_⟩)
  rw [← String.append_assoc]
  rfl

theorem SameCbt.liveGen (h : SameCbt metadata metadata') :
    liveGen metadata' = Cbtlog.liveGen metadata := h _ (by decide)

theorem SameCbt.isTapdisk (h : SameCbt metadata metadata') :
    Cbtlog.isTapdisk metadata' = Cbtlog.isTapdisk metadata := by
  have henabled := h Cbtlog.kEnabled (by decide)
  have hmode := h Cbtlog.kMode (by decide)
  simp only [Cbtlog.isTapdisk, Cbtlog.isEnabled, henabled, hmode]

theorem SameCbt.history (h : SameCbt metadata metadata') (snaps : List Snap) :
    history metadata' snaps = Volume.history metadata snaps := by
  simp only [Volume.history, h.sealedGen]

end SameCbt

/-- A rewrite of other metadata keeps the shape of the base. -/
theorem Kept.rewrite (hkept : Kept base old pending w img live) {metadata : Dict}
    (hsame : SameCbt img.metadata metadata) :
    Kept base old pending
      { w with images := w.images.insert base { img with metadata := metadata } }
      { img with metadata := metadata } live where
  found := AList.lookup_insert _
  recorded :=
    { tapdisk := hsame.isTapdisk.trans hkept.recorded.tapdisk
      live := hsame.liveGen.trans hkept.recorded.live
      owned := fun snap hsnap => hkept.recorded.owned snap (hsame.sealedGen snap ▸ hsnap) }
  readable :=
    { sealed := fun snap gen hgen => by
        rw [logBits_insert_base]
        exact hkept.readable.sealed snap gen (hsame.sealedGen snap ▸ hgen)
      live := by
        rw [logBits_insert_base]
        exact hkept.readable.live }
  distinct snap snap' gen h h' :=
    hkept.distinct snap snap' gen (hsame.sealedGen snap ▸ h) (hsame.sealedGen snap' ▸ h')
  unsealed snap h := hkept.unsealed snap (hsame.sealedGen snap ▸ h)
  since s hs huuid hold hpending := by
    rw [hsame.sealedGen]
    exact hkept.since s hs huuid hold hpending
  names := hkept.names
  zero := hkept.zero
  zeros := hkept.zeros
  blocks := by
    rw [hsame.history]
    exact hkept.blocks

/-- A rewrite of other metadata keeps the invariant. -/
theorem Tracked.rewrite {metadata : Dict} (hkept : Kept base old none w img live)
    (hlogged : Logged base w img (history img.metadata img.snapshots) live)
    (htap : TapOn base w live) (hsame : SameCbt img.metadata metadata) :
    Tracked base old
    { w with images := w.images.insert base { img with metadata := metadata } } := by
  refine ⟨_, live, hkept.rewrite hsame, ?_, htap⟩
  rw [hsame.history]
  exact hlogged.frame (logsKept_insert_base _ _ _) rfl

end Frame

section Write

variable {base gen : String} {old : List String} {pending : Option String} {w after : World}
  {img : Image} {live : String} {off : Nat} {data : Bytes} {line : List Entry}

/-- A guest write lets logs grow. -/
theorem marked_subset_write (hfound : w.images.lookup base = some img) (htap : TapOn base w gen)
    (h : w.guestWrite base off data = some after) (gen' : String) :
    marked w base gen' ⊆ marked after base gen' := by
  obtain ⟨-, -, -, -, hself, hother⟩ := guestWrite_spec hfound (fun tap ht => (htap tap ht).1) h
  rintro blk ⟨bits, hbits, hbit⟩
  by_cases hgen : gen' = gen
  · subst hgen
    refine ⟨Bitmap.markAll bits (touched off data.length), by simp [hself, hbits], ?_⟩
    simp [Bitmap.bit_markAll, hbit]
  · exact ⟨bits, (hother gen' hgen).trans hbits, hbit⟩

/-- A guest write keeps the logs there are. -/
theorem logBits_isSome_write (hfound : w.images.lookup base = some img) (htap : TapOn base w gen)
    (h : w.guestWrite base off data = some after) (gen' : String) :
    (logBits after base gen').isSome = (logBits w base gen').isSome := by
  obtain ⟨-, -, -, -, hself, hother⟩ := guestWrite_spec hfound (fun tap ht => (htap tap ht).1) h
  by_cases hgen : gen' = gen
  · subst hgen
    simp [hself]
  · rw [hother gen' hgen]

/-- A guest write keeps the shape of the base. -/
theorem Kept.write (hkept : Kept base old pending w img live) (htap : TapOn base w gen)
    (h : w.guestWrite base off data = some after) :
    Kept base old pending after (img.write off data) live := by
  obtain ⟨hend, hfound, -, -, -, -⟩ :=
    guestWrite_spec hkept.found (fun tap ht => (htap tap ht).1) h
  have hsome := logBits_isSome_write hkept.found htap h
  exact
    { found := hfound
      recorded := hkept.recorded
      readable :=
        { sealed := fun snap gen' hgen => by
            rw [hsome]
            exact hkept.readable.sealed snap gen' hgen
          live := by
            rw [hsome]
            exact hkept.readable.live }
      distinct := hkept.distinct
      unsealed := hkept.unsealed
      since := hkept.since
      names := hkept.names
      zero := fun i hi => by
        have hout : ¬(off ≤ i ∧ i < off + data.length) := by
          have : img.size ≤ i := hi
          omega
        have hzero := hkept.zero i hi
        simpa [Image.disk, Image.write, hout] using hzero
      zeros := hkept.zeros
      blocks := hkept.blocks }

/-- A guest write through the log of the head keeps the line linked. -/
theorem Logged.write (hlogged : Logged base w img line gen)
    (hfound : w.images.lookup base = some img) (htap : TapOn base w gen)
    (h : w.guestWrite base off data = some after) :
    Logged base after (img.write off data) line gen := by
  obtain ⟨hend, -, -, -, hself, -⟩ := guestWrite_spec hfound (fun tap ht => (htap tap ht).1) h
  obtain ⟨hline, hlast⟩ := Delta.linked_concat_iff.mp hlogged.linked
  have hgrow := marked_subset_write hfound htap h
  refine ⟨Delta.linked_concat_iff.mpr ⟨?_, ?_⟩, fun hne => ?_⟩
  · exact hline.grow (fun _ _ => rfl) fun e _ => hgrow e.gen
  · intro e he blk hblk
    have hne : line ≠ [] := by
      rintro rfl
      simp at he
    obtain hbefore | hwrite := triangle_changedBlocks _ img.disk _ hblk
    · exact hgrow gen (hlast e he hbefore)
    · have htouched := changedBlocks_write hwrite
      obtain ⟨bits, hbits, hlength⟩ := hlogged.room hne
      have hlt := lt_of_mem_touched htouched hend
      refine ⟨Bitmap.markAll bits (touched off data.length), by simp [hself, hbits], ?_⟩
      have hbyte : blk / 8 < bits.length := by omega
      simp [Bitmap.bit_markAll, htouched, hbyte]
  · obtain ⟨bits, hbits, hlength⟩ := hlogged.room hne
    refine ⟨Bitmap.markAll bits (touched off data.length), by simp [hself, hbits], ?_⟩
    rw [Bitmap.length_markAll]
    exact hlength

/-- A guest write leaves the tapdisk where it is. -/
theorem TapOn.write {gen' : String} (htap' : TapOn base w gen')
    (hfound : w.images.lookup base = some img) (htap : TapOn base w gen)
    (h : w.guestWrite base off data = some after) : TapOn base after gen' := by
  obtain ⟨-, -, htaps, hmapped, -, -⟩ := guestWrite_spec hfound (fun tap ht => (htap tap ht).1) h
  rw [TapOn, htaps, hmapped]
  exact htap'

/-- Between operations a guest write keeps the invariant. -/
theorem Tracked.write (htracked : Tracked base old w)
    (h : w.guestWrite base off data = some after) :
    Tracked base old after := by
  obtain ⟨img, live, hkept, hlogged, htap⟩ := htracked
  exact ⟨img.write off data, live, hkept.write htap h, hlogged.write hkept.found htap h,
    htap.write hkept.found htap h⟩

end Write

end XcpCephRbd.Volume
