import XcpCephRbd.Lib.Run
import XcpCephRbd.Rbdsr.Tracking
import XcpCephRbd.Volume.Changed

/-!
# What the two drivers answer on the rbd-diff route

A disk with its history of writes, discards, snapshots, resizes and reverts. A byte that was
discarded or never written is not allocated and reads as zero; a diff tells the bytes that differ
and are allocated in the later state from those that differ and are not. `list_changed_blocks` of
both drivers drops the latter, and asks for the diff only up to a size of its own: the head's in
SMAPIv3, the one in XAPI's database in SMAPIv1. `rbd_diff_complete_iff` says when every changed
block is nevertheless marked.
-/

namespace XcpCephRbd.RbdDiff

open Bitmap (bit)
open Datapath (splitKey)
open Volume (Call ChangedBlocks Exc Extent Info Result changedBitmap extentBlocks snapKey)
open Volume.Cbtlog (cbtBlock numBlocks)

/-- One state of a disk. A byte that is not allocated reads as zero. -/
structure State where
  size : Nat
  cells : Nat → Option (BitVec 8)

/-- What is read at an offset. -/
def State.read (s : State) (i : Nat) : BitVec 8 := (s.cells i).getD 0

/-- Nothing is allocated beyond the size. -/
def State.Bounded (s : State) : Prop := ∀ i, s.size ≤ i → s.cells i = none

/-- A disk: its head, and its snapshots in the order they were taken. -/
structure Timeline where
  head : State
  snapshots : List (String × State) := []

/-- A new disk. -/
def Timeline.new (size : Nat) : Timeline where
  head := { size := size, cells := fun _ => none }

/-- What happens to a disk. -/
inductive Event where
  | write (offset : Nat) (data : List (BitVec 8))
  | discard (offset length : Nat)
  | snapshot (name : String)
  | resize (size : Nat)
  | revert (name : String)

/-- One event. A write beyond the end, a second snapshot of a name and a revert to a snapshot that
does not exist do not happen. -/
def Timeline.step (t : Timeline) : Event → Option Timeline
  | .write offset data =>
      if offset + data.length ≤ t.head.size then
        some { t with head := { t.head with cells := fun i =>
          if offset ≤ i ∧ i < offset + data.length then data[i - offset]? else t.head.cells i } }
      else none
  | .discard offset length =>
      some { t with head := { t.head with cells := fun i =>
        if offset ≤ i ∧ i < offset + length then none else t.head.cells i } }
  | .snapshot name =>
      if (t.snapshots.lookup name).isSome then none
      else some { t with snapshots := t.snapshots ++ [(name, t.head)] }
  | .resize size =>
      some { t with head := { size := size
                              cells := fun i => if i < size then t.head.cells i else none } }
  | .revert name => (t.snapshots.lookup name).map fun state => { t with head := state }

/-- A snapshot, and a later snapshot or the head. -/
inductive Timeline.Later (t : Timeline) : String → State → Option String → State → Prop where
  | snapshot {fromSnap toSnap : String} {a b : State} {first mid last : List (String × State)}
      (h : t.snapshots = first ++ (fromSnap, a) :: (mid ++ (toSnap, b) :: last)) :
      t.Later fromSnap a (some toSnap) b
  | head {fromSnap : String} {a : State} (h : (fromSnap, a) ∈ t.snapshots) :
      t.Later fromSnap a none t.head

/-- The extent has the byte. -/
def Covers (d : Extent) (i : Nat) : Prop := d.offset ≤ i ∧ i < d.offset + d.length

/-- What is assumed of `image_diff`: within the range the extents are those that differ, and one
that is not allocated in the later state is reported so. -/
structure Exact (a b : State) (offset length : Nat) (diffs : List Extent) : Prop where
  present : ∀ i, offset ≤ i → i < offset + length →
    ((∃ d ∈ diffs, d.present = true ∧ Covers d i) ↔ a.read i ≠ b.read i ∧ (b.cells i).isSome)
  absent : ∀ i, offset ≤ i → i < offset + length → i < b.size →
    ((∃ d ∈ diffs, d.present = false ∧ Covers d i) ↔ a.read i ≠ b.read i ∧ b.cells i = none)

/-- A block of the later state whose content differs. -/
def Changed (a b : State) (blk : Nat) : Prop :=
  ∃ i, i / cbtBlock = blk ∧ i < b.size ∧ a.read i ≠ b.read i

/-- Every changed block has its bit set. -/
def Complete (a b : State) (bitmap : String) : Prop :=
  ∀ blk, Changed a b blk → bit (Base64.decode bitmap) blk = true

/-- Every changed block has, below the length, a changed byte that is allocated. -/
def Held (a b : State) (length : Nat) : Prop :=
  ∀ blk, Changed a b blk →
    ∃ i, i / cbtBlock = blk ∧ i < b.size ∧ i < length ∧ a.read i ≠ b.read i ∧ (b.cells i).isSome

section Bits

variable {d : Extent} {diffs : List Extent} {length blk : Nat}

/-- The blocks of an extent. -/
theorem mem_extentBlocks_iff : blk ∈ extentBlocks 0 length cbtBlock d ↔
    d.present = true ∧ ∃ i, i / cbtBlock = blk ∧ i < length ∧ Covers d i := by
  simp only [extentBlocks, Covers, cbtBlock, Nat.max_zero, Nat.sub_zero, Nat.zero_add]
  cases hpresent : d.present with
  | false => simp
  | true =>
      by_cases hempty : min (d.offset + d.length) length ≤ d.offset
      · simp only [Bool.not_true, Bool.false_or, decide_eq_true_eq, if_pos hempty, List.not_mem_nil,
          true_and, false_iff]
        rintro ⟨i, -, hlt, hle, hend⟩
        omega
      · simp only [Bool.not_true, Bool.false_or, decide_eq_true_eq, if_neg hempty,
          List.mem_range'_1, true_and]
        constructor
        · intro hblk
          -- the first byte of the extent in the block
          refine ⟨max d.offset (blk * 65536), ?_, ?_, ?_, ?_⟩ <;> omega
        · rintro ⟨i, hi, hlt, hle, hend⟩
          omega

/-- The bits after the extents. -/
theorem bit_foldl (bits : Bitmap.Bytes) :
    bit (diffs.foldl (fun bits d => Bitmap.markAll bits (extentBlocks 0 length cbtBlock d)) bits)
    blk =
        true ↔
      bit bits blk = true ∨
        (∃ d ∈ diffs, blk ∈ extentBlocks 0 length cbtBlock d) ∧ blk / 8 < bits.length := by
  induction diffs generalizing bits with
  | nil => simp
  | cons d rest ih =>
      rw [List.foldl_cons, ih, Bitmap.bit_markAll, Bitmap.length_markAll]
      simp only [Bool.or_eq_true, decide_eq_true_eq, List.mem_cons, exists_eq_or_imp]
      tauto

/-- The bits of the bitmap over the whole disk: the blocks of the extents that are present. -/
theorem bit_changedBitmap_iff : bit (Base64.decode (changedBitmap diffs 0 length)) blk = true ↔
    ∃ i, i / cbtBlock = blk ∧ i < length ∧ ∃ d ∈ diffs, d.present = true ∧ Covers d i := by
  rw [changedBitmap, Base64.decode_encode, bit_foldl]
  simp only [mem_extentBlocks_iff, Bitmap.bit_zeros, Bitmap.length_zeros, Bool.false_eq_true,
    false_or]
  constructor
  · rintro ⟨⟨d, hd, hpresent, i, hi, hlt, hcovers⟩, -⟩
    exact ⟨i, hi, hlt, d, hd, hpresent, hcovers⟩
  · rintro ⟨i, hi, hlt, d, hd, hpresent, hcovers⟩
    refine ⟨⟨d, hd, hpresent, i, hi, hlt, hcovers⟩, ?_⟩
    simp only [cbtBlock] at hi ⊢
    omega

end Bits

section History

variable {size : Nat} {events : List Event} {t t' : Timeline}

/-- The head and the snapshots hold nothing beyond their sizes. -/
def Timeline.Bounded (t : Timeline) : Prop :=
  t.head.Bounded ∧ ∀ entry ∈ t.snapshots, entry.2.Bounded

/-- Every event keeps what lies beyond the size empty. -/
theorem Timeline.Bounded.step {event : Event} (h : t.Bounded) (hstep : t.step event = some t') :
    t'.Bounded := by
  cases event with
  | write offset data =>
      simp only [Timeline.step, Option.ite_none_right_eq_some] at hstep
      obtain ⟨hend, heq⟩ := hstep
      cases heq
      refine ⟨fun i hi => ?_, h.2⟩
      have hout : ¬(offset ≤ i ∧ i < offset + data.length) := by
        have : t.head.size ≤ i := hi
        omega
      exact (if_neg hout).trans (h.1 i hi)
  | discard offset length =>
      cases hstep
      refine ⟨fun i hi => ?_, h.2⟩
      show (if _ then none else t.head.cells i) = none
      rw [h.1 i hi, ite_self]
  | snapshot name =>
      simp only [Timeline.step, Option.ite_none_left_eq_some] at hstep
      obtain ⟨-, heq⟩ := hstep
      cases heq
      refine ⟨h.1, fun entry hentry => ?_⟩
      obtain hold | hnew := List.mem_append.mp hentry
      · exact h.2 entry hold
      · rw [List.mem_singleton.mp hnew]
        exact h.1
  | resize size =>
      cases hstep
      refine ⟨fun i hi => ?_, h.2⟩
      exact if_neg (Nat.not_lt.mpr hi)
  | revert name =>
      obtain ⟨state, hlookup, heq⟩ := Option.map_eq_some_iff.mp hstep
      cases heq
      obtain ⟨first, last, hsplit, -⟩ := List.lookup_eq_some_iff.mp hlookup
      have hmem : (name, state) ∈ t.snapshots := by
        rw [hsplit]
        simp
      exact ⟨h.2 (name, state) hmem, h.2⟩

/-- In every history nothing is allocated beyond a size. -/
theorem bounded_of_run (hrun : Run.run Timeline.step (.new size) events = some t) : t.Bounded := by
  have hnew : (Timeline.new size).Bounded := ⟨fun _ _ => rfl, nofun⟩
  have hstep : ∀ (t : Timeline) (event : Event) (t' : Timeline), t.Bounded → True →
      t.step event = some t' → t'.Bounded := fun _ _ _ h _ hstep => h.step hstep
  exact Run.run_invariant hstep hnew (Run.along_of_forall fun _ _ => trivial) hrun

/-- The later of two states holds nothing beyond its size. -/
theorem Timeline.Later.bounded {fromSnap : String} {toSnap : Option String} {a b : State}
    (h : t.Later fromSnap a toSnap b) (hbounded : t.Bounded) : b.Bounded := by
  cases h with
  | snapshot hsplit =>
      rename_i toName first mid last
      have hmem : (toName, b) ∈ t.snapshots := by
        rw [hsplit]
        simp
      exact hbounded.2 (toName, b) hmem
  | head hmem => exact hbounded.1

end History

/-- The key of a snapshot or of the head. -/
def keyOf (base : String) : Option String → String
  | some snap => snapKey base snap
  | none => base

/-- What a backend answers on the rbd-diff route of `Volume.list_changed_blocks`. -/
def diffAnswer (info : Info)
    (diff : Option String → Option String → Nat → Nat → Bool → List Extent) (s : Unit) :
    (c : Call) → Option (Except Exc (Result c) × Unit)
  | .imageInfo _ => some (.ok info, s)
  | .imageDiff _ fromSnap toSnap offset length whole =>
      some (.ok (diff fromSnap toSnap offset length whole), s)
  | _ => none

/-- A query for the changed blocks of the whole disk: `Volume.list_changed_blocks` on what the
backend reports of the image, or `CephRBDVDI.list_changed_blocks` on what XAPI, the SR and the
backend answer. -/
inductive Query where
  | v3 (base : String) (whole : Bool) (info : Info)
      (diff : Option String → Option String → Nat → Nat → Bool → List Extent)
  | v1 (base : String) (self : Rbdsr.Vdi) (env : Rbdsr.Env)

namespace Query

/-- The length that the diff is asked for. -/
def length : Query → Nat
  | .v3 _ _ info _ => info.size
  | .v1 _ self env => env.length self

/-- The extents that the backend answers with. -/
def diffs (fromSnap : String) (toSnap : Option String) : Query → List Extent
  | .v3 _ whole info diff => diff (some fromSnap) toSnap 0 info.size whole
  | .v1 base self env => env.diff base fromSnap (toSnap.getD "") 0 (env.length self) true

/-- The bitmap that the driver returns. -/
def bitmap (fromSnap : String) (toSnap : Option String) : Query → Option String
  | .v3 base whole info diff =>
      match (Volume.listChangedBlocks whole (snapKey base fromSnap) (keyOf base toSnap) 0 (-1)).exec
        (diffAnswer info diff) () with
      | some (.ok answer, _) => some answer.bitmap
      | _ => none
  | .v1 _ self env =>
      match (Rbdsr.listChangedBlocks self).exec env.answer () with
      | some (.ok text, _) => some text
      | _ => none

/-- The query is about these states of the disk. In SMAPIv3 the image is on the rbd-diff route and
reported with the size of its head. In SMAPIv1 the VDIs are two snapshots of the image with CBT
enabled. -/
def Asks (t : Timeline) (fromSnap : String) (toSnap : Option String) : Query → Prop
  | .v3 base _ info _ =>
      '@' ∉ base.toList ∧ info.size = t.head.size ∧ Volume.Cbtlog.isTapdisk info.metadata = false
  | .v1 base self env => ∃ toName, toSnap = some toName ∧
      self.uuid ≠ env.vdiTo ∧ self.uuid ≠ "" ∧ env.vdiTo ≠ "" ∧
      env.cbtEnabled self.uuid = true ∧ env.cbtEnabled env.vdiTo = true ∧
      Rbdsr.refOf (env.vdi self.uuid) self.uuid = (base, fromSnap) ∧
      Rbdsr.refOf (env.vdi env.vdiTo) env.vdiTo = (base, toName)

end Query

section Answer

variable {t : Timeline} {fromSnap : String} {toSnap : Option String} {a b : State} {q : Query}

/-- The rbd-diff route of `Volume.list_changed_blocks` over the whole disk. -/
theorem exec_listChangedBlocks {base : String} {info : Info}
    {diff : Option String → Option String → Nat → Nat → Bool → List Extent} (whole : Bool)
    (hat : '@' ∉ base.toList) (hroute : Volume.Cbtlog.isTapdisk info.metadata = false) :
    (Volume.listChangedBlocks whole (snapKey base fromSnap) (keyOf base toSnap) 0 (-1)).exec
        (diffAnswer info diff) () =
      some (.ok { granularity := cbtBlock
                  bitmap := changedBitmap (diff (some fromSnap) toSnap 0 info.size whole) 0
                    info.size }, ()) := by
  have hto : splitKey (keyOf base toSnap) = (base, toSnap) := by
    cases toSnap with
    | some snap => exact Volume.splitKey_snapKey hat snap
    | none => exact Datapath.splitKey_base hat
  have hclamp : Volume.clampLength info.size 0 (-1) = info.size := by
    simp [Volume.clampLength]
  simp only [Volume.listChangedBlocks, Volume.splitKey_snapKey hat, hto, ne_eq, not_true_eq_false,
    if_false]
  refine (Prog.exec_bind (Prog.exec_perform rfl)).trans ?_
  simp only [hroute, hclamp, Bool.false_eq_true, if_false]
  exact Prog.exec_bind (Prog.exec_tryCatch (Prog.exec_perform rfl))

/-- Both drivers return the bitmap of the diff up to the length that they ask for. -/
theorem Query.bitmap_eq (h : q.Asks t fromSnap toSnap) :
    q.bitmap fromSnap toSnap = some (changedBitmap (q.diffs fromSnap toSnap) 0 q.length) := by
  cases q with
  | v3 base whole info diff =>
      obtain ⟨hat, -, hroute⟩ := h
      simp only [Query.bitmap, exec_listChangedBlocks whole hat hroute, Query.diffs, Query.length]
  | v1 base self env =>
      obtain ⟨toName, rfl, hne, huuid, huuid', hfrom, hto, hrefFrom, hrefTo⟩ := h
      simp only [Query.bitmap,
        Rbdsr.exec_listChangedBlocks hne hfrom hto huuid huuid' hrefFrom hrefTo,
        Query.diffs, Query.length, Option.getD_some, Rbdsr.changedBitmap]

/-- In every history of a disk, for a snapshot and a later snapshot or the head, and for both
drivers: every block that differs is marked exactly if every such block has, below the length that
the driver asks the diff for, a byte that differs and is allocated in the later state. -/
theorem rbd_diff_complete_iff {size : Nat} {events : List Event}
    (hrun : Run.run Timeline.step (.new size) events = some t)
    (hlater : t.Later fromSnap a toSnap b)
    (hasks : q.Asks t fromSnap toSnap) (hdiff : Exact a b 0 q.length (q.diffs fromSnap toSnap)) :
    ∃ bitmap, q.bitmap fromSnap toSnap = some bitmap ∧
    (Complete a b bitmap ↔ Held a b q.length) := by
  have hbounded := hlater.bounded (bounded_of_run hrun)
  refine ⟨_, q.bitmap_eq hasks, forall₂_congr fun blk _ => ?_⟩
  rw [bit_changedBitmap_iff]
  refine exists_congr fun i => and_congr_right fun _ => ?_
  constructor
  · rintro ⟨hlt, hextent⟩
    obtain ⟨hdiffers, hheld⟩ := (hdiff.present i (Nat.zero_le i) (by omega)).mp hextent
    have hsize : i < b.size := by
      by_contra hge
      rw [hbounded i (Nat.le_of_not_lt hge)] at hheld
      cases hheld
    exact ⟨hsize, hlt, hdiffers, hheld⟩
  · rintro ⟨-, hlt, hdiffers, hheld⟩
    exact ⟨hlt, (hdiff.present i (Nat.zero_le i) (by omega)).mpr ⟨hdiffers, hheld⟩⟩

end Answer

section Discard

/-- A state of one block with at most its first byte allocated. -/
def blockWith (first : Option (BitVec 8)) : State where
  size := cbtBlock
  cells i := if i = 0 then first else none

/-- A disk of one block with two snapshots. -/
def twoSnaps (first second : Option (BitVec 8)) : Timeline where
  head := blockWith second
  snapshots := [("from", blockWith first), ("to", blockWith second)]

/-- `Volume.list_changed_blocks` of the disk, with these extents. -/
def queryOf (diffs : List Extent) : Query :=
  .v3 "disk" true
    { name := "disk", size := cbtBlock, featuresName := [], metadata := ∅, snapshots := []
      totalDiskUsage := 0, diskUsage := 0 } fun _ _ _ _ _ => diffs

/-- The query is about the disk. -/
theorem asks_queryOf (first second : Option (BitVec 8)) (diffs : List Extent) :
    (queryOf diffs).Asks (twoSnaps first second) "from" (some "to") :=
  ⟨by decide, rfl, rfl⟩

/-- The states of the disk. -/
theorem later_twoSnaps (first second : Option (BitVec 8)) :
    (twoSnaps first second).Later "from" (blockWith first) (some "to") (blockWith second) :=
  @Timeline.Later.snapshot _ _ _ _ _ [] [] [] rfl

@[simp] theorem cells_blockWith (first : Option (BitVec 8)) (i : Nat) :
    (blockWith first).cells i = if i = 0 then first else none := rfl

@[simp] theorem read_blockWith (first : Option (BitVec 8)) (i : Nat) :
    (blockWith first).read i = if i = 0 then first.getD 0 else 0 := by
  rw [State.read, cells_blockWith]
  split
  · rfl
  · rfl

/-- The diff of two such states is their first byte. -/
theorem exact_blockWith {first second : Option (BitVec 8)} (h : first.getD 0 ≠ second.getD 0)
    (length : Nat) :
    Exact (blockWith first) (blockWith second) 0 length [⟨0, 1, second.isSome⟩] := by
  constructor
  · intro i _ _
    by_cases hi : i = 0
    · simpa [Covers, hi] using fun _ => h
    · simp [Covers, hi]
  · intro i _ _ _
    by_cases hi : i = 0
    · simpa [Covers, hi] using fun _ => h
    · simp [Covers, hi]

/-- A state of one block by its bytes. -/
theorem eq_blockWith {first : Option (BitVec 8)} {cells : Nat → Option (BitVec 8)}
    (h : ∀ i, cells i = if i = 0 then first else none) :
    ({ size := cbtBlock, cells := cells } : State) = blockWith first := by
  rw [blockWith, funext h]

/-- Writing the first byte. -/
theorem step_write (snapshots : List (String × State)) (first : Option (BitVec 8))
    (byte : BitVec 8) :
    Timeline.step ⟨blockWith first, snapshots⟩ (.write 0 [byte]) =
      some ⟨blockWith (some byte), snapshots⟩ := by
  have hfits : 0 + [byte].length ≤ (blockWith first).size := show 1 ≤ cbtBlock by decide
  rw [Timeline.step, if_pos hfits]
  refine congrArg (fun head => some (⟨head, snapshots⟩ : Timeline)) (eq_blockWith fun i => ?_)
  by_cases hi : i = 0
  · simp [hi]
  · simp [hi]

/-- Discarding the first byte. -/
theorem step_discard (snapshots : List (String × State)) (first : Option (BitVec 8)) :
    Timeline.step ⟨blockWith first, snapshots⟩ (.discard 0 1) =
      some ⟨blockWith none, snapshots⟩ := by
  rw [Timeline.step]
  refine congrArg (fun head => some (⟨head, snapshots⟩ : Timeline)) (eq_blockWith fun i => ?_)
  by_cases hi : i = 0
  · simp [hi]
  · simp [hi]

/-- A new disk of one block. -/
theorem new_block : Timeline.new cbtBlock = ⟨blockWith none, []⟩ :=
  congrArg (fun head => (⟨head, []⟩ : Timeline)) (eq_blockWith fun _ => (ite_self none).symm)

/-- A byte is written and a snapshot taken, the byte is discarded and another snapshot taken. -/
theorem run_discarded :
    Run.run Timeline.step (.new cbtBlock) [.write 0 [1], .snapshot "from", .discard 0 1,
      .snapshot "to"] = some (twoSnaps (some 1) none) := by
  rw [new_block]
  refine Run.run_cons_iff.mpr ⟨_, step_write _ _ _, Run.run_cons_iff.mpr ⟨_, rfl, ?_⟩⟩
  exact Run.run_cons_iff.mpr ⟨_, step_discard _ _, rfl⟩

/-- A snapshot is taken, a byte written and another snapshot taken. -/
theorem run_written :
    Run.run Timeline.step (.new cbtBlock) [.snapshot "from", .write 0 [1], .snapshot "to"] =
      some (twoSnaps none (some 1)) := by
  rw [new_block]
  refine Run.run_cons_iff.mpr ⟨_, rfl, Run.run_cons_iff.mpr ⟨_, step_write _ _ _, ?_⟩⟩
  rfl

/-- A diff of the byte that was written. -/
theorem rbd_diff_complete_written :
    ∃ bitmap, (queryOf [⟨0, 1, true⟩]).bitmap "from" (some "to") = some bitmap ∧
      Complete (blockWith none) (blockWith (some 1)) bitmap := by
  have hdiff : Exact (blockWith none) (blockWith (some 1)) 0 (queryOf [⟨0, 1, true⟩]).length
      ((queryOf [⟨0, 1, true⟩]).diffs "from" (some "to")) := exact_blockWith (by decide) _
  obtain ⟨bitmap, hbitmap, hiff⟩ := rbd_diff_complete_iff run_written (later_twoSnaps none (some 1))
    (asks_queryOf none (some 1) _) hdiff
  refine ⟨bitmap, hbitmap, hiff.mpr ?_⟩
  rintro blk ⟨i, hi, hsize, hdiffers⟩
  refine ⟨i, hi, hsize, hsize, hdiffers, ?_⟩
  by_cases hzero : i = 0
  · simp [hzero]
  · simp [hzero] at hdiffers

/-- A block that was discarded between the snapshots is not marked. -/
theorem rbd_diff_misses_discard :
    ¬∀ (size : Nat) (events : List Event) (t : Timeline) (fromSnap : String)
      (toSnap : Option String) (a b : State) (q : Query),
      Run.run Timeline.step (.new size) events = some t →
      t.Later fromSnap a toSnap b → q.Asks t fromSnap toSnap →
      Exact a b 0 q.length (q.diffs fromSnap toSnap) →
      ∃ bitmap, q.bitmap fromSnap toSnap = some bitmap ∧ Complete a b bitmap := by
  intro hall
  have hdiff : Exact (blockWith (some 1)) (blockWith none) 0 (queryOf [⟨0, 1, false⟩]).length
      ((queryOf [⟨0, 1, false⟩]).diffs "from" (some "to")) := exact_blockWith (by decide) _
  obtain ⟨bitmap, hbitmap, hcomplete⟩ := hall _ _ _ _ _ _ _ _ run_discarded
    (later_twoSnaps (some 1) none) (asks_queryOf (some 1) none _) hdiff
  have hchanged : Changed (blockWith (some 1)) (blockWith none) 0 :=
    ⟨0, by decide, by decide, by decide⟩
  have hbit := hcomplete 0 hchanged
  rw [(queryOf _).bitmap_eq (asks_queryOf (some 1) none _)] at hbitmap
  cases hbitmap
  obtain ⟨i, -, -, d, hd, hpresent, -⟩ := bit_changedBitmap_iff.mp hbit
  cases List.mem_singleton.mp hd
  cases hpresent

end Discard

end XcpCephRbd.RbdDiff
