import XcpCephRbd.Lib.Safe
import XcpCephRbd.Volume.Concurrent

/-!
# Answers after rotations that failed

Runs of snapshots in which any call may fail, at the guest's writes between any two calls. `Traced`
is the host with what a reader of the run knows: `line` has the snapshots in the order they were
captured, each with the log that was in effect then and whether a call of its operation failed
afterwards or found the tapdisk of another image. The logs of the interval between two snapshots are
those that were in effect when the later ones were captured, and the log in effect now where the
interval ends at the head. `answers_complete` says that `list_changed_blocks` raises or has every
bit of every log of the interval, and every block written without a log, if the interval is `Sound`
and no log fails to be read.
-/

namespace XcpCephRbd.Volume.Answers

open Bitmap (Bytes bit)
open Cbtlog (cbtBlock numBlocks companionName liveGen sealedGen snapTime)
open Datapath (SrMeta)
open Prog (Safe Setting Stable)

/-- A snapshot that was captured: its name, the log in effect then, and whether afterwards a call of
its operation failed or found the tapdisk of another image, or it was removed again. -/
structure Part where
  snap : String
  log : Option String
  failed : Bool := false
  deriving DecidableEq, Repr

/-- The host and what is known of the run: the captured snapshots, the one whose operation is under
way, and the blocks written through a tapdisk without a log, each with the number of snapshots
captured until then. -/
structure Traced where
  world : World
  line : List Part := []
  making : Option String := none
  unlogged : List (Nat × Nat) := []

/-- The log of writes to `base`: that of its tapdisk or, where none runs, the one that the metadata
records, which the next tapdisk gets. -/
def inEffect (base : String) (w : World) : Option String :=
  match w.taps.lookup base with
  | some tap => tap.log
  | none => (w.images.lookup base).bind fun img => (liveGen img.metadata).map (companionName base)

/-- The failure is passed over: that of an unmap and, if it is an `RbdBackendError`, that of the
read inside `image_meta_set`. -/
def passed : Call → Exc → Bool
  | .unmap _, _ => true
  | .metaRead _, .backend _ => true
  | _, _ => false

/-- The operation of a snapshot has failed. -/
def markFailed (snap : String) (line : List Part) : List Part :=
  line.map fun p => { p with failed := p.failed || p.snap == snap }

/-- The operation under way has failed. -/
def Traced.fail (t : Traced) : Traced :=
  match t.making with
  | some snap => { t with line := markFailed snap t.line }
  | none => t

/-- What a call adds to the history. -/
def lineAfter (base : String) (t : Traced) : (c : Call) → Except Exc (Result c) → List Part
  | .snapCreate image snap, .ok _ =>
      if image = base then t.line ++ [{ snap := snap, log := inEffect base t.world }] else t.line
  | .snapRemove image snap, .ok _ => if image = base then markFailed snap t.line else t.line
  | .tapFind image, .ok (some found) => if found = image then t.line else t.fail.line
  | c, .error error => if passed c error then t.line else t.fail.line
  | _, _ => t.line

/-- The snapshot whose operation is under way. -/
def makingAfter (base : String) (making : Option String) :
    (c : Call) → Except Exc (Result c) → Option String
  | .snapCreate image snap, .ok _ => if image = base then some snap else making
  | _, _ => making

/-- The answer to a call and what is known after it. -/
def traceHandle (base : String) (choice : Choice) (t : Traced) (c : Call) :
    Option (Except Exc (Result c) × Traced) :=
  (handle choice t.world c).map fun (reply, w) =>
    (reply, { t with
      world := w
      line := lineAfter base t c reply
      making := makingAfter base t.making c reply })

/-- A guest write. -/
def Traced.write (base : String) (t : Traced) (off : Nat) (data : Bytes) : Option Traced :=
  (t.world.guestWrite base off data).map fun w => { t with
    world := w
    unlogged := if (inEffect base t.world).isSome then t.unlogged
      else t.unlogged ++ (touched off data.length).map fun blk => (t.line.length, blk) }

/-- The host and the operation under way. -/
structure State where
  site : Traced
  prog : Op Unit := .ret ()

/-- A host whose history begins here. -/
def State.start (w : World) : State := ⟨{ world := w }, .ret ()⟩

/-- Changed-block tracking has just been enabled on the base: the metadata records a live log that
can be read and no sealed one, and the tapdisk, if one runs, writes to that log or, where it could
not be moved to it, to none. -/
structure Tracking (base : String) (w : World) (img : Image) (live : String) : Prop where
  found : w.images.lookup base = some img
  tapdisk : Cbtlog.isTapdisk img.metadata = true
  recorded : liveGen img.metadata = some live
  unsealed : ∀ key ∈ img.metadata.keys, Text.startsWith key Cbtlog.snapPrefix = false
  named : live ≠ ""
  readable : (logBits w base live).isSome
  tap : ∀ tap, w.taps.lookup base = some tap →
    base ∈ w.mapped ∧ (tap.log = none ∨ tap.log = some (companionName base live))

/-- One step: an operation starts, it makes its next call, which may fail, or the guest writes. -/
def State.step (sr : SrMeta) (base : String) (s : State) : Act → Option State
  | .begin op =>
      if s.prog.finished then some ⟨{ s.site with making := none }, op.prog sr base⟩ else none
  | .call choice =>
      (s.prog.next (traceHandle base) choice s.site).map fun (prog, site) => ⟨site, prog⟩
  | .write off data => (s.site.write base off data).map fun site => { s with site := site }

/-- One call of a query, which nothing interrupts. -/
def ask (s : Op ChangedBlocks × World) (choice : Choice) : Option (Op ChangedBlocks × World) :=
  s.1.next handle choice s.2

/-- The call of a query does not fail, or it is an unmap. -/
def Read (s : Op ChangedBlocks × World) (choice : Choice) : Prop :=
  NoFail choice ∨ ∃ image, s.1.firstCall = some (.unmap image)

/-- The blocks that a log marks. -/
def markedIn (w : World) (log : Option String) : Set Nat :=
  { blk | ∃ name img bitmap, log = some name ∧ w.images.lookup name = some img ∧
    img.log.map Log.bitmap = some bitmap ∧ bit bitmap blk = true }

/-- The blocks of a request for `length` bytes at `offset` of a disk of `size` bytes. -/
def requested (size offset : Nat) (length : Int) : Set Nat :=
  { blk | offset / cbtBlock ≤ blk ∧ blk < numBlocks size ∧
    blk < (offset + clampLength size offset length + cbtBlock - 1) / cbtBlock }

/-- A query along whose run `guard` holds raises, or its answer has the bits of `blocks` that are
requested. -/
def Answered (guard : Op ChangedBlocks × World → Choice → Prop) (w : World) (base key key2 : String)
    (blocks : Set Nat) : Prop :=
  ∀ whole offset length choices answer after,
    Run.run ask (listChangedBlocks whole key key2 offset length, w) choices =
      some (.ret answer, after) →
    Run.Along ask guard (listChangedBlocks whole key key2 offset length, w) choices →
    ∀ img, w.images.lookup base = some img → ∀ blk ∈ blocks,
      blk ∈ requested img.size offset length →
      bit (Base64.decode answer.bitmap) (blk - offset / cbtBlock) = true

/-- What was written in an interval that `first` snapshots come before and `count` snapshots begin
or lie in: the blocks that its logs mark, and those written meanwhile without a log. -/
def Traced.changed (t : Traced) (first count : Nat) (logs : List (Option String)) : Set Nat :=
  { blk | (∃ log ∈ logs, blk ∈ markedIn t.world log) ∨
    ∃ n, (n, blk) ∈ t.unlogged ∧ first < n ∧ n ≤ first + count }

/-- The recorded times grow along the snapshots. -/
def timesGrow (base : String) (w : World) (parts : List Part) : Prop :=
  ∀ img, w.images.lookup base = some img → parts.Pairwise fun p q =>
    snapTime img.metadata (some p.snap) < snapTime img.metadata (some q.snap)

instance (base : String) (w : World) (parts : List Part) : Decidable (timesGrow base w parts) :=
  match h : w.images.lookup base with
  | none => .isTrue fun _ hfound => by simp [h] at hfound
  | some img => decidable_of_iff (parts.Pairwise fun p q =>
      snapTime img.metadata (some p.snap) < snapTime img.metadata (some q.snap))
      ⟨fun hgrow _ hfound => Option.some.inj (h.symm.trans hfound) ▸ hgrow,
        fun hgrow => hgrow img h⟩

/-- What the interval over `parts`, which `first` snapshots come before, has to be like: the
recorded times grow along it, no call of its snapshots failed or found another tapdisk, and nothing
was written without a log between the capture of the first one and that of the next. -/
structure Sound (base : String) (t : Traced) (first : Nat) (parts : List Part) : Prop where
  times : timesGrow base t.world parts
  whole : ∀ p ∈ parts, p.failed = false
  logged : ∀ blk, (first + 1, blk) ∉ t.unlogged

/-- The answers over the `good` intervals, to a later snapshot and to the head. -/
structure Promise (guard : Op ChangedBlocks × World → Choice → Prop)
    (good : Traced → Nat → List Part → Prop) (base : String) (t : Traced) : Prop where
  snapshot : ∀ front mid back p q, t.line = front ++ p :: (mid ++ q :: back) →
    good t front.length (p :: (mid ++ [q])) →
    Answered guard t.world base (snapKey base p.snap) (snapKey base q.snap)
      (t.changed front.length (mid.length + 1) ((mid ++ [q]).map Part.log))
  head : ∀ front back p, t.line = front ++ p :: back → good t front.length (p :: back) →
    Answered guard t.world base (snapKey base p.snap) base
      (t.changed front.length (back.length + 1) (back.map Part.log ++ [inEffect base t.world]))

section Query

variable {w : World} {base : String}

/-- A query that nothing interrupts and whose reads do not fail. -/
def reading : Setting Exc Call Result World Choice where
  handle := handle
  allowed choice _ c := NoFail choice ∨ ∃ image, c = .unmap image
  rely _ _ := False
  asserted _ _ := True

/-- A call of a query has its effect. -/
theorem safe_ask {c : Call} {post : Result c → World → Prop} (hc : c.asked = false)
    (hread : ∀ image, c ≠ .unmap image) (hfind : ∀ image, c ≠ .tapFind image)
    (hcall : ∀ result after, effect w c = some (result, after) → post result after) :
    Safe reading post (fun _ _ => False) (perform c) w := by
  have hanswer : ∀ choice (reply : Except Exc (Result c)) after,
      (NoFail choice ∨ ∃ image, c = .unmap image) → handle choice w c = some (reply, after) →
      ∃ result, reply = .ok result ∧ effect w c = some (result, after) := by
    intro choice reply after hallowed hhandle
    have hfail : NoFail choice := by
      rcases hallowed with hfail | ⟨image, himage⟩
      · exact hfail
      · exact absurd himage (hread image)
    have hown : choice.own = true := by
      cases choice with
      | tap number other found =>
          obtain ⟨image, himage⟩ := call_of_handle_tap hhandle
          exact absurd himage (hfind image)
      | _ => rfl
    have hhost : hostHandle choice ⟨w, false⟩ c = some (reply, ⟨after, sealingAfter false c⟩) := by
      rw [hostHandle, hhandle]
      rfl
    obtain ⟨result, w', hreply, heffect, hhost'⟩ := hostHandle_effect ⟨hfail, hown⟩ hc hhost
    cases hhost'
    exact ⟨result, hreply, heffect⟩
  refine Prog.safe_perform (P := fun s => s = w) (fun _ _ _ h => h.elim) rfl
    (fun _ _ => trivial) ?_ ?_
  · intro s choice result after hs hallowed hhandle
    subst hs
    obtain ⟨result', hreply, heffect⟩ := hanswer choice _ after hallowed hhandle
    cases hreply
    exact hcall result after heffect
  · intro s choice error after hs hallowed hhandle
    subst hs
    obtain ⟨result', hreply, -⟩ := hanswer choice _ after hallowed hhandle
    cases hreply

/-- An unmap changes no image, whether it fails or not. -/
theorem safe_ask_unmap (image : String) :
    Safe reading (fun _ after => after.images = w.images) (fun _ _ => False) (Cbtlog.unmap image)
      w := by
  have hsame : ∀ choice (reply : Except Exc Unit) after,
      handle choice w (.unmap image) = some (reply, after) → after.images = w.images := by
    intro choice reply after hhandle
    obtain ⟨result, -, -, heffect⟩ | ⟨-, rfl, -⟩ := handle_cases hhandle
    · cases heffect
      split <;> rfl
    · rfl
  refine Prog.safe_tryCatch (Prog.safe_perform (P := fun s => s = w) (fun _ _ _ h => h.elim) rfl
    (fun _ _ => trivial) ?_ ?_)
  · intro s choice result after hs _ hhandle
    subst hs
    exact hsame choice _ after hhandle
  · intro s choice error after hs _ hhandle
    subst hs
    exact hsame choice _ after hhandle

/-- A log is read. -/
theorem safe_readBitmap {gen : String} {bits : Bytes} (hbits : logBits w base gen = some bits) :
    Safe reading (fun value after => value = bits ∧ after.images = w.images) (fun _ _ => False)
      (Cbtlog.readBitmap base gen) w := by
  obtain ⟨img, himg, hlog⟩ := Option.bind_eq_some_iff.mp hbits
  obtain ⟨log, hsome, rfl⟩ := Option.map_eq_some_iff.mp hlog
  refine Prog.safe_bind
    (safe_ask rfl (fun _ h => by cases h) (fun _ h => by cases h) fun _ w₁ heffect => ?_)
  simp only [effect, Option.ite_none_right_eq_some, Option.some.injEq, Prod.mk.injEq] at heffect
  obtain ⟨-, -, rfl⟩ := heffect
  refine Prog.safe_bind (Prog.safe_tryCatch ((safe_ask (c := .cbtGet _) rfl (fun _ h => by cases h)
    (fun _ h => by cases h) fun value w₂ heffect => ?_).mono (fun _ _ h => h) fun _ _ h => h.elim))
  simp only [effect, himg, hsome, Option.bind_some, Option.map_some] at heffect
  cases heffect
  refine Prog.safe_bind ((safe_ask_unmap _).mono (fun _ after himages => ?_) fun _ _ h => h)
  exact ⟨rfl, himages⟩

/-- The logs are read one after the other. -/
theorem safe_readBitmaps {gens : List String} (hlogs : ∀ gen ∈ gens, (logBits w base gen).isSome) :
    Safe reading (fun value _ => value = gens.filterMap (logBits w base)) (fun _ _ => False)
      (Cbtlog.readBitmaps base gens) w := by
  induction gens generalizing w with
  | nil => exact rfl
  | cons gen gens ih =>
      obtain ⟨bits, hbits⟩ := Option.isSome_iff_exists.mp (hlogs gen List.mem_cons_self)
      refine Prog.safe_bind (Prog.safe_tryCatch (Prog.safe_bind ((safe_readBitmap hbits).mono
        (fun value w₁ hread => ?_) fun _ _ h => h.elim)))
      obtain ⟨rfl, himages⟩ := hread
      have hsame : logBits w₁ base = logBits w base := by
        funext gen
        simp only [logBits, himages]
      have hrest := ih (w := w₁) fun g hg => by
        rw [hsame]
        exact hlogs g (List.mem_cons_of_mem _ hg)
      refine Prog.safe_bind (hrest.mono (fun rest _ hvalue => ?_) fun _ _ h => h)
      show _ = _
      rw [hvalue, hsame]
      simp [hbits]

variable {img : Image} {live : String}

/-- The answer is the union of the logs that the metadata records for the interval. -/
theorem safe_listChangedBlocks (hfound : w.images.lookup base = some img)
    (htapdisk : Cbtlog.isTapdisk img.metadata = true) {key key2 : String}
    {fromSnap toSnap : Option String} (hkey : Datapath.splitKey key = (base, fromSnap))
    (hkey2 : Datapath.splitKey key2 = (base, toSnap))
    (hlogs : ∀ gen ∈ Cbtlog.gensBetween img.metadata fromSnap toSnap, (logBits w base gen).isSome)
    (whole : Bool) (offset : Nat) (length : Int) :
    Safe reading (fun answer _ => answer.bitmap = Base64.encode (Cbtlog.coalesce
        ((Cbtlog.gensBetween img.metadata fromSnap toSnap).filterMap (logBits w base)) offset
        (clampLength img.size offset length) img.size)) (fun _ _ => False)
      (listChangedBlocks whole key key2 offset length) w := by
  simp only [listChangedBlocks, hkey, hkey2, ne_eq, not_true_eq_false, if_false]
  refine Prog.safe_bind
    (safe_ask rfl (fun _ h => by cases h) (fun _ h => by cases h) fun info w₁ heffect => ?_)
  simp only [effect, hfound, Option.map_some] at heffect
  cases heffect
  simp only [Image.info, htapdisk, if_true]
  refine Prog.safe_bind (Prog.safe_bind ((safe_readBitmaps hlogs).mono (fun bitmaps _ hvalue => ?_)
    fun _ _ h => h))
  show Base64.encode _ = _
  rw [hvalue]

/-- An answer has the bits of the logs that were read. -/
theorem answered_of_gens (hfound : w.images.lookup base = some img)
    (htapdisk : Cbtlog.isTapdisk img.metadata = true) {key key2 : String}
    {fromSnap toSnap : Option String} (hkey : Datapath.splitKey key = (base, fromSnap))
    (hkey2 : Datapath.splitKey key2 = (base, toSnap))
    (hlogs : ∀ gen ∈ Cbtlog.gensBetween img.metadata fromSnap toSnap, (logBits w base gen).isSome)
    {blocks : Set Nat} (hblocks : ∀ blk ∈ blocks, ∃ gen ∈ Cbtlog.gensBetween img.metadata fromSnap
      toSnap, blk ∈ marked w base gen) : Answered Read w base key key2 blocks := by
  intro whole offset length choices answer after hrun hread img' hfound' blk hblk hrequested
  cases hfound.symm.trans hfound'
  have hsafe := safe_listChangedBlocks hfound htapdisk hkey hkey2 hlogs whole offset length
  have hanswer : answer.bitmap = _ := hsafe.run_along (hread.mono fun s choice hr c hc => ?_) hrun
  · obtain ⟨gen, hgen, bits, hbits, hbit⟩ := hblocks blk hblk
    obtain ⟨hfirst, hin, hlast⟩ := hrequested
    rw [hanswer, Base64.decode_encode]
    exact bit_coalesce_range (List.mem_filterMap.mpr ⟨gen, hgen, hbits⟩) hbit hfirst hin hlast
  · rcases hr with hfail | ⟨image, himage⟩
    · exact .inl hfail
    · exact .inr ⟨image, Option.some.inj (hc.symm.trans himage)⟩

end Query

end XcpCephRbd.Volume.Answers
