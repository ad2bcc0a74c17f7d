import Mathlib.Data.String.Basic
import XcpCephRbd.Lib.Delta
import XcpCephRbd.Volume.Ops

/-!
# What `list_changed_blocks` answers on the tapdisk route

The snapshots of a base that have a sealed log, with the states they captured, are a line of states
with the logs of the changes between them, and the head with the live log is its end.
`changedBlocks` says which blocks differ between two states. `list_complete_snapshot` and
`list_complete_head` are the specification of `list_changed_blocks`: when the line is linked and the
recorded snapshot times grow along it, the bitmap has the bit of every block that differs between
two of its states.
-/

namespace XcpCephRbd.Volume

open Bitmap (Bytes bit)
open Cbtlog (cbtBlock numBlocks companionName liveGen sealedGen snapTime)
open Datapath (splitKey)

/-- One state of a disk. -/
structure Disk where
  size : Nat
  content : Content

/-- The state that a snapshot captured. -/
def Snap.disk (s : Snap) : Disk := ⟨s.size, s.content⟩

/-- The state of the head. -/
def Image.disk (img : Image) : Disk := ⟨img.size, img.content⟩

/-- The blocks whose content differs between two states, and those that exist only in the second. -/
def changedBlocks (a b : Disk) : Set Nat :=
  { blk | (∃ i, i / cbtBlock = blk ∧ a.content i ≠ b.content i) ∨
    (numBlocks a.size ≤ blk ∧ blk < numBlocks b.size) }

theorem triangle_changedBlocks : Delta.Triangle changedBlocks := by
  intro a b c blk hblk
  obtain ⟨i, hi, hne⟩ | ⟨hge, hlt⟩ := hblk
  · by_cases hab : a.content i = b.content i
    · exact .inr (.inl ⟨i, hi, hab ▸ hne⟩)
    · exact .inl (.inl ⟨i, hi, hab⟩)
  · by_cases hb : blk < numBlocks b.size
    · exact .inl (.inr ⟨hge, hb⟩)
    · exact .inr (.inr ⟨Nat.le_of_not_lt hb, hlt⟩)

/-- A snapshot with a sealed log: its name, what it captured and the generation of the log. -/
structure Entry where
  name : String
  disk : Disk
  gen : String

/-- The snapshots that the metadata records a sealed log of, in the order they were made. -/
def history (metadata : Dict) (snaps : List Snap) : List Entry :=
  snaps.filterMap fun s => (sealedGen metadata s.name).map fun gen => ⟨s.name, s.disk, gen⟩

/-- The bitmap of a log. -/
def logBits (w : World) (base gen : String) : Option Bytes :=
  (w.images.lookup (companionName base gen)).bind fun img => img.log.map Log.bitmap

/-- The blocks that a log marks. -/
def marked (w : World) (base gen : String) : Set Nat :=
  { blk | ∃ bits, logBits w base gen = some bits ∧ bit bits blk = true }

/-- A snapshot as a state with its log. -/
def Entry.item (w : World) (base : String) (e : Entry) : Disk × Set Nat :=
  (e.disk, marked w base e.gen)

section Query

variable {w : World} {base : String} {img : Image} {live : String}

/-- A call that succeeds, run on its own. -/
theorem exec_perform {w after : World} {c : Call} {result : Result c}
    (h : effect w c = some (result, after)) :
    (perform c).exec (handle .ok) w = some (.ok result, after) := by
  simp only [perform, Prog.perform, Prog.exec, handle_ok, h, Option.map_some, Option.bind_some]

/-- Unmapping changes no image. -/
theorem exec_unmap (w : World) (image : String) :
    ∃ after, (Cbtlog.unmap image).exec (handle .ok) w = some (.ok (), after) ∧
      after.images = w.images := by
  refine ⟨_, Prog.exec_tryCatch (exec_perform rfl), ?_⟩
  split <;> rfl

/-- A log is read and no image is changed. -/
theorem exec_readBitmap {w : World} {base gen : String} {bits : Bytes}
    (hbits : logBits w base gen = some bits) :
    ∃ after, (Cbtlog.readBitmap base gen).exec (handle .ok) w = some (.ok bits, after) ∧
      after.images = w.images := by
  obtain ⟨img, himg, hlog⟩ := Option.bind_eq_some_iff.mp hbits
  obtain ⟨log, hsome, rfl⟩ := Option.map_eq_some_iff.mp hlog
  have hmem : companionName base gen ∈ w.images := AList.lookup_isSome.mp (by simp [himg])
  have hmap : effect w (.map (companionName base gen)) =
      some ((), { w with mapped := w.mapped.insert (companionName base gen) }) := if_pos hmem
  have hget : effect { w with mapped := w.mapped.insert (companionName base gen) }
      (.cbtGet (companionName base gen)) =
        some (log.bitmap, { w with mapped := w.mapped.insert (companionName base gen) }) := by
    simp only [effect, himg, hsome, Option.bind_some, Option.map_some]
  obtain ⟨after, hunmap, himages⟩ :=
    exec_unmap { w with mapped := w.mapped.insert (companionName base gen) }
      (companionName base gen)
  refine ⟨after, ?_, himages⟩
  refine (Prog.exec_bind (exec_perform hmap)).trans ?_
  refine (Prog.exec_bind (Prog.exec_tryCatch (exec_perform hget))).trans ?_
  exact Prog.exec_bind hunmap

/-- The logs are read one after the other. -/
theorem exec_readBitmaps {w : World} {base : String} {gens : List String}
    (hlogs : ∀ gen ∈ gens, (logBits w base gen).isSome) :
    ∃ after, (Cbtlog.readBitmaps base gens).exec (handle .ok) w =
      some (.ok (gens.filterMap (logBits w base)), after) := by
  induction gens generalizing w with
  | nil => exact ⟨w, rfl⟩
  | cons gen gens ih =>
      obtain ⟨bits, hbits⟩ := Option.isSome_iff_exists.mp (hlogs gen List.mem_cons_self)
      obtain ⟨next, hread, himages⟩ := exec_readBitmap hbits
      have hsame : logBits next base = logBits w base := by
        funext gen
        simp only [logBits, himages]
      obtain ⟨after, hrest⟩ := ih (w := next) fun g hg => by
        rw [hsame]
        exact hlogs g (List.mem_cons_of_mem _ hg)
      refine ⟨after, ?_⟩
      have hsome : (some <$> Cbtlog.readBitmap base gen : Op (Option Bytes)).exec (handle .ok) w =
          some (.ok (some bits), next) := Prog.exec_bind hread
      refine (Prog.exec_bind (Prog.exec_tryCatch hsome)).trans ((Prog.exec_bind hrest).trans ?_)
      simp [hbits, hsame, Prog.exec]

/-- A sealed log that the metadata records. -/
theorem mem_sealedLogs {metadata : Dict} {snap gen : String}
    (h : sealedGen metadata snap = some gen) :
    ⟨snapTime metadata (some snap), snap, gen⟩ ∈ Cbtlog.sealedLogs metadata := by
  have hentry := AList.mem_lookup_iff.mp (Option.mem_def.mpr h)
  refine List.mem_filterMap.mpr ⟨_, hentry, ?_⟩
  simp [Cbtlog.snapKey]

/-- Every sealed log comes from an entry of the metadata. -/
theorem sealedGen_of_mem {metadata : Dict} {s : Cbtlog.Sealed}
    (h : s ∈ Cbtlog.sealedLogs metadata) : sealedGen metadata s.snap = some s.gen := by
  obtain ⟨⟨key, gen⟩, hentry, hs⟩ := List.mem_filterMap.mp h
  split at hs
  next hprefix =>
    cases hs
    obtain ⟨snap, rfl⟩ := Text.startsWith_iff.mp hprefix
    rw [Text.dropPrefix_append]
    exact AList.mem_lookup_iff.mpr hentry
  next => cases hs

/-- The generations between two snapshots include every log that is sealed after the first one, and
not after the second. -/
theorem mem_gensBetween {metadata : Dict} {fromSnap toSnap : Option String} {snap gen : String}
    (h : sealedGen metadata snap = some gen) (hgen : gen ≠ "")
    (hfrom : snapTime metadata fromSnap < snapTime metadata (some snap))
    (hto : Text.truthy toSnap = true →
      ¬snapTime metadata toSnap < snapTime metadata (some snap)) :
    gen ∈ Cbtlog.gensBetween metadata fromSnap toSnap := by
  have hsealed : gen ∈ (((Cbtlog.sealedLogs metadata).insertionSort Cbtlog.Sealed.le).filter
      fun s => decide (snapTime metadata fromSnap < s.time) &&
        (!Text.truthy toSnap || !decide (snapTime metadata toSnap < s.time)) &&
          s.gen != "").map Cbtlog.Sealed.gen := by
    refine List.mem_map.mpr ⟨_, List.mem_filter.mpr
      ⟨(List.mem_insertionSort _).mpr (mem_sealedLogs h), ?_⟩, rfl⟩
    cases htruthy : Text.truthy toSnap with
    | false => simp [hfrom, hgen]
    | true => simp [hfrom, hgen, hto htruthy]
  dsimp only [Cbtlog.gensBetween]
  split
  · split
    · exact hsealed
    · exact List.mem_append_left _ hsealed
  · exact hsealed

/-- The generations up to the head include the live log. -/
theorem live_mem_gensBetween {metadata : Dict} {fromSnap : Option String} {live : String}
    (h : liveGen metadata = some live) (hgen : live ≠ "") :
    live ∈ Cbtlog.gensBetween metadata fromSnap none := by
  dsimp only [Cbtlog.gensBetween]
  rw [h]
  simp [hgen]

/-- Every generation between two snapshots is sealed or live. -/
theorem of_mem_gensBetween {metadata : Dict} {fromSnap toSnap : Option String} {gen : String}
    (h : gen ∈ Cbtlog.gensBetween metadata fromSnap toSnap) :
    (∃ snap, sealedGen metadata snap = some gen) ∨ liveGen metadata = some gen := by
  have hsealed : ∀ p : Cbtlog.Sealed → Bool,
      gen ∈ (((Cbtlog.sealedLogs metadata).insertionSort Cbtlog.Sealed.le).filter p).map
        Cbtlog.Sealed.gen → ∃ snap, sealedGen metadata snap = some gen := by
    intro p hmem
    obtain ⟨s, hs, rfl⟩ := List.mem_map.mp hmem
    have hs := (List.mem_insertionSort _).mp (List.mem_filter.mp hs).1
    exact ⟨s.snap, sealedGen_of_mem hs⟩
  dsimp only [Cbtlog.gensBetween] at h
  split at h
  next hlive =>
    split at h
    · exact .inl (hsealed _ h)
    · obtain h | h := List.mem_append.mp h
      · exact .inl (hsealed _ h)
      · rw [List.mem_singleton.mp h]
        exact .inr hlive
  next => exact .inl (hsealed _ h)

/-- The bits over a range are those of the logs, counted from its first block. -/
theorem bit_coalesce_range {bitmaps : List Bytes} {off length size blk : Nat} {bits : Bytes}
    (hmem : bits ∈ bitmaps) (hbit : bit bits blk = true) (hfirst : off / cbtBlock ≤ blk)
    (hblk : blk < numBlocks size) (hlast : blk < (off + length + cbtBlock - 1) / cbtBlock) :
    bit (Cbtlog.coalesce bitmaps off length size) (blk - off / cbtBlock) = true := by
  have hbyte : blk / 8 < (numBlocks size + 7) / 8 := by omega
  have hacc : bit (Bitmap.unionAll (Bitmap.zeros ((numBlocks size + 7) / 8)) bitmaps) blk = true :=
    (Bitmap.bit_unionAll _ _ _).mpr (.inr ⟨⟨bits, hmem, hbit⟩, by simpa using hbyte⟩)
  have hrange : blk ∈ List.range' (off / cbtBlock)
      (min ((off + length + cbtBlock - 1) / cbtBlock) (numBlocks size) - off / cbtBlock) :=
    List.mem_range'_1.mpr ⟨hfirst, by omega⟩
  dsimp only [Cbtlog.coalesce]
  rw [Bitmap.bit_markAll, Bool.or_eq_true, decide_eq_true_eq, Bitmap.length_zeros]
  exact .inr ⟨List.mem_map.mpr ⟨blk, List.mem_filter.mpr ⟨hrange, hacc⟩, rfl⟩, by omega⟩

/-- The bits over the whole disk are those of the logs. -/
theorem bit_coalesce {bitmaps : List Bytes} {size blk : Nat} {bits : Bytes} (hmem : bits ∈ bitmaps)
    (hbit : bit bits blk = true) (hblk : blk < numBlocks size) :
    bit (Cbtlog.coalesce bitmaps 0 size size) blk = true := by
  have hend : (0 + size + cbtBlock - 1) / cbtBlock = numBlocks size := by
    simp [numBlocks]
  have hfirst : 0 / cbtBlock ≤ blk := Nat.zero_div cbtBlock ▸ Nat.zero_le blk
  simpa using bit_coalesce_range hmem hbit hfirst hblk (hend ▸ hblk)

/-- The key of a snapshot of `base`. -/
theorem splitKey_snapKey (hat : '@' ∉ base.toList) (snap : String) :
    splitKey (snapKey base snap) = (base, some snap) := Datapath.splitKey_at hat snap

/-- What the metadata records of the logs: the tapdisk route is on, the live log, and sealed logs of
snapshots that exist. -/
structure Recorded (metadata : Dict) (snaps : List Snap) (live : String) : Prop where
  tapdisk : Cbtlog.isTapdisk metadata = true
  live : liveGen metadata = some live
  owned : ∀ snap, (sealedGen metadata snap).isSome → snap ∈ snaps.map fun s => s.name

/-- Every log that the metadata records can be read. -/
structure Readable (w : World) (base : String) (metadata : Dict) (live : String) : Prop where
  sealed : ∀ snap gen, sealedGen metadata snap = some gen → gen ≠ "" ∧ (logBits w base gen).isSome
  live : live ≠ "" ∧ (logBits w base live).isSome

/-- The answer over the whole disk is the union of the logs between the two states. -/
theorem exec_listChangedBlocks (hfound : w.images.lookup base = some img)
    (hrecorded : Recorded img.metadata img.snapshots live)
    (hreadable : Readable w base img.metadata live) (whole : Bool) {key key2 : String}
    {fromSnap toSnap : Option String} (hkey : splitKey key = (base, fromSnap))
    (hkey2 : splitKey key2 = (base, toSnap)) :
    ∃ after, (listChangedBlocks whole key key2 0 (-1)).exec (handle .ok) w =
      some (.ok { granularity := cbtBlock
                  bitmap := Base64.encode (Cbtlog.coalesce
                    ((Cbtlog.gensBetween img.metadata fromSnap toSnap).filterMap (logBits w base))
                    0 img.size img.size) }, after) := by
  have hlogs : ∀ gen ∈ Cbtlog.gensBetween img.metadata fromSnap toSnap,
      (logBits w base gen).isSome := by
    intro gen hgen
    obtain ⟨snap, hsnap⟩ | hlive := of_mem_gensBetween hgen
    · exact (hreadable.sealed snap gen hsnap).2
    · cases hrecorded.live.symm.trans hlive
      exact hreadable.live.2
  have hinfo : effect w (.imageInfo base) = some (img.info base, w) := by
    simp only [effect, hfound, Option.map_some]
  have hclamp : clampLength img.size 0 (-1) = img.size := by
    simp [clampLength]
  obtain ⟨after, hread⟩ := exec_readBitmaps hlogs
  refine ⟨after, ?_⟩
  simp only [listChangedBlocks, hkey, hkey2, ne_eq, not_true_eq_false, if_false]
  refine (Prog.exec_bind (exec_perform hinfo)).trans ?_
  simp only [Image.info, hrecorded.tapdisk, if_true, hclamp]
  exact Prog.exec_bind (Prog.exec_bind hread)

/-- An entry of the history is recorded. -/
theorem sealedGen_of_mem_history {metadata : Dict} {snaps : List Snap} {e : Entry}
    (h : e ∈ history metadata snaps) : sealedGen metadata e.name = some e.gen := by
  obtain ⟨s, -, hs⟩ := List.mem_filterMap.mp h
  obtain ⟨gen, hgen, rfl⟩ := Option.map_eq_some_iff.mp hs
  exact hgen

/-- The recorded times grow along the history. -/
def TimesGrow (metadata : Dict) (snaps : List Snap) : Prop :=
  (history metadata snaps).Pairwise fun a b =>
    snapTime metadata (some a.name) < snapTime metadata (some b.name)

/-- The answer marks what one of the logs it is made of marks. -/
theorem bit_answer {gens : List String} {gen : String} {blk : Nat} (hgen : gen ∈ gens)
    (hmarked : blk ∈ marked w base gen) (hblk : blk < numBlocks img.size) :
    bit (Base64.decode (Base64.encode (Cbtlog.coalesce (gens.filterMap (logBits w base)) 0 img.size
      img.size))) blk = true := by
  obtain ⟨bits, hbits, hbit⟩ := hmarked
  rw [Base64.decode_encode]
  exact bit_coalesce (List.mem_filterMap.mpr ⟨gen, hgen, hbits⟩) hbit hblk

/-- **What `list_changed_blocks` marks, up to a snapshot.** -/
theorem list_complete_snapshot (hat : '@' ∉ base.toList) (hfound : w.images.lookup base = some img)
    (hrecorded : Recorded img.metadata img.snapshots live)
    (hreadable : Readable w base img.metadata live)
    (hlinked : Delta.Linked changedBlocks
      ((history img.metadata img.snapshots).map (·.item w base)))
    (htimes : TimesGrow img.metadata img.snapshots) {first mid last : List Entry} {a c : Entry}
    (hsplit : history img.metadata img.snapshots = first ++ a :: (mid ++ c :: last))
    (whole : Bool) :
    ∃ answer after,
    (listChangedBlocks whole (snapKey base a.name) (snapKey base c.name) 0 (-1)).exec
        (handle .ok) w = some (.ok answer, after) ∧
      ∀ blk ∈ changedBlocks a.disk c.disk, blk < numBlocks img.size →
        bit (Base64.decode answer.bitmap) blk = true := by
  obtain ⟨after, hanswer⟩ := exec_listChangedBlocks hfound hrecorded hreadable whole
    (splitKey_snapKey hat a.name) (splitKey_snapKey hat c.name)
  refine ⟨_, after, hanswer, fun blk hchanged hblk => ?_⟩
  have hsegment : Delta.Linked changedBlocks
      (a.item w base :: (mid.map (·.item w base) ++ [c.item w base])) := by
    rw [hsplit] at hlinked
    refine hlinked.infix ⟨first.map (·.item w base), last.map (·.item w base), ?_⟩
    simp
  obtain ⟨item, hitem, hmarked⟩ := hsegment.covers triangle_changedBlocks hchanged
  have hitem' : item ∈ (mid ++ [c]).map (·.item w base) := by simpa using hitem
  obtain ⟨e, he, rfl⟩ := List.mem_map.mp hitem'
  -- the log that marks the block is sealed after the first snapshot and not after the second
  have hmem : e ∈ history img.metadata img.snapshots := by
    rw [hsplit]
    simp only [List.mem_append, List.mem_cons, List.not_mem_nil, or_false] at he ⊢
    tauto
  have hsealed := sealedGen_of_mem_history hmem
  rw [TimesGrow, hsplit] at htimes
  have hafter := (List.pairwise_append.mp htimes).2.1
  have hfrom := (List.pairwise_cons.mp hafter).1 e (by
    simp only [List.mem_append, List.mem_cons, List.not_mem_nil, or_false] at he ⊢
    tauto)
  have hto : ¬snapTime img.metadata (some c.name) < snapTime img.metadata (some e.name) := by
    obtain he | he := List.mem_append.mp he
    · have hbefore := (List.pairwise_append.mp (List.pairwise_cons.mp hafter).2).2.2
      exact lt_asymm (hbefore e he c List.mem_cons_self)
    · rw [List.mem_singleton.mp he]
      exact lt_irrefl _
  exact bit_answer (mem_gensBetween hsealed (hreadable.sealed _ _ hsealed).1 hfrom fun _ => hto)
    hmarked hblk

/-- **What `list_changed_blocks` marks, up to the head.** -/
theorem list_complete_head (hat : '@' ∉ base.toList) (hfound : w.images.lookup base = some img)
    (hrecorded : Recorded img.metadata img.snapshots live)
    (hreadable : Readable w base img.metadata live)
    (hlinked : Delta.Linked changedBlocks
      ((history img.metadata img.snapshots).map (·.item w base) ++
      [(img.disk, marked w base live)]))
    (htimes : TimesGrow img.metadata img.snapshots) {first last : List Entry} {a : Entry}
    (hsplit : history img.metadata img.snapshots = first ++ a :: last) (whole : Bool) :
    ∃ answer after, (listChangedBlocks whole (snapKey base a.name) base 0 (-1)).exec
        (handle .ok) w = some (.ok answer, after) ∧
      ∀ blk ∈ changedBlocks a.disk img.disk, blk < numBlocks img.size →
        bit (Base64.decode answer.bitmap) blk = true := by
  obtain ⟨after, hanswer⟩ := exec_listChangedBlocks hfound hrecorded hreadable whole
    (splitKey_snapKey hat a.name) (Datapath.splitKey_base hat)
  refine ⟨_, after, hanswer, fun blk hchanged hblk => ?_⟩
  have hsegment : Delta.Linked changedBlocks
      (a.item w base :: (last.map (·.item w base) ++ [(img.disk, marked w base live)])) := by
    rw [hsplit] at hlinked
    refine hlinked.infix ⟨first.map (·.item w base), [], ?_⟩
    simp
  obtain ⟨_, hitem, hmarked⟩ := hsegment.covers triangle_changedBlocks hchanged
  obtain hitem | hitem := List.mem_append.mp hitem
  · obtain ⟨e, he, rfl⟩ := List.mem_map.mp hitem
    have hmem : e ∈ history img.metadata img.snapshots := by
      rw [hsplit]
      simp [he]
    have hsealed := sealedGen_of_mem_history hmem
    rw [TimesGrow, hsplit] at htimes
    have hfrom := (List.pairwise_cons.mp (List.pairwise_append.mp htimes).2.1).1 e he
    exact bit_answer (mem_gensBetween hsealed (hreadable.sealed _ _ hsealed).1 hfrom nofun)
      hmarked hblk
  · cases List.mem_singleton.mp hitem
    exact bit_answer (live_mem_gensBetween hrecorded.live hreadable.live.1) hmarked hblk

end Query

end XcpCephRbd.Volume
