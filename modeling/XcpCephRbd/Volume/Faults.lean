import XcpCephRbd.Volume.Answers

/-!
# Rotations whose calls may fail

The invariant of the runs in which every call may fail. `Filed` is what holds throughout of the
base, its metadata and its companions; `Steady` adds, between operations, that two snapshots in a
row whose operations did not fail have the log of the second one sealed to it, and that the tapdisk
is on the recorded log if the last operation did not fail. `Making` is what holds while a snapshot
is being made. The rules follow the programs through successes and failures alike: a call that fails
marks the snapshot under way, and nothing more is asked of a snapshot that is marked.
-/

namespace XcpCephRbd.Volume.Answers

open Bitmap (Bytes bit)
open Cbtlog (cbtBlock numBlocks companionName liveGen sealedGen snapTime)
open Datapath (SrMeta)
open Prog (Safe Setting Stable)

/-- Unless one of two snapshots in a row failed, the log of the second is sealed to it. -/
def Linked (base : String) (metadata : Dict) (p q : Part) : Prop :=
  p.failed = false → q.failed = false →
    ∃ gen, q.log = some (companionName base gen) ∧ sealedGen metadata q.snap = some gen

/-- What holds throughout. -/
structure Filed (base : String) (t : Traced) (img : Image) (live : String) : Prop where
  found : t.world.images.lookup base = some img
  tapdisk : Cbtlog.isTapdisk img.metadata = true
  recorded : liveGen img.metadata = some live
  readable : Readable t.world base img.metadata live
  taps : ∀ tap, t.world.taps.lookup base = some tap →
    base ∈ t.world.mapped ∧ (tap.log = none ∨ ∃ gen, tap.log = some (companionName base gen))
  bare : ∀ tap, t.world.taps.lookup base = some tap → tap.log = none →
    ∀ p ∈ t.line.dropLast, p.failed = true
  unlogged : ∀ n blk, (n, blk) ∈ t.unlogged →
    n ≤ t.line.length ∧ ∀ p ∈ t.line.take (n - 1), p.failed = true
  kept : ∀ p ∈ t.line, p.failed = false → p.snap ∈ img.snapshots.map fun s => s.name

/-- The tapdisk of `base`, if one runs, is on the log of generation `gen`. -/
def On (base : String) (t : Traced) (gen : String) : Prop :=
  ∀ tap, t.world.taps.lookup base = some tap → tap.log = some (companionName base gen)

/-- The operation of the last snapshot did not fail. -/
def Whole (line : List Part) : Prop := ∀ p ∈ line.getLast?, p.failed = false

/-- The invariant between operations. -/
def Steady (base : String) (t : Traced) : Prop :=
  ∃ img live, Filed base t img live ∧ t.line.IsChain (Linked base img.metadata) ∧
    (t.line ≠ [] → Whole t.line → On base t live)

/-- A snapshot is being made: it was captured with the recorded log in effect, if the snapshot
before it did not fail. -/
structure Making (base snap : String) (t : Traced) (img : Image) (live : String) : Prop where
  filed : Filed base t img live
  making : t.making = some snap
  line : ∃ front p, t.line = front ++ [p] ∧ p.snap = snap ∧
    front.IsChain (Linked base img.metadata) ∧ (∀ q ∈ front, q.failed = false → q.snap ≠ snap) ∧
    (front ≠ [] → Whole front → p.failed = false → p.log = some (companionName base live))

/-- What a call or a write may change that the invariant does not look at. -/
structure Frame (base : String) (t t' : Traced) : Prop where
  found : ∀ img, t.world.images.lookup base = some img → ∃ img',
    t'.world.images.lookup base = some img' ∧ img'.metadata = img.metadata ∧
      img'.snapshots.map (fun s => s.name) = img.snapshots.map fun s => s.name
  logs : ∀ gen, (logBits t.world base gen).isSome → (logBits t'.world base gen).isSome
  taps : ∀ tap', t'.world.taps.lookup base = some tap' → ∃ tap,
    t.world.taps.lookup base = some tap ∧ tap'.log = tap.log
  mapped : base ∈ t.world.mapped → base ∈ t'.world.mapped
  line : t'.line = t.line
  making : t'.making = t.making
  unlogged : ∀ n blk, (n, blk) ∈ t'.unlogged → (n, blk) ∈ t.unlogged ∨
    (n = t.line.length ∧ ∃ tap, t.world.taps.lookup base = some tap ∧ tap.log = none)

section Frames

variable {base snap live : String} {t t' : Traced} {img : Image}

/-- What is filed stays. -/
theorem Filed.frame (hfiled : Filed base t img live) (hframe : Frame base t t') :
    ∃ img', Filed base t' img' live ∧ img'.metadata = img.metadata := by
  obtain ⟨img', hfound, hmeta, hnames⟩ := hframe.found img hfiled.found
  refine ⟨img',
    ⟨hfound, hmeta ▸ hfiled.tapdisk, hmeta ▸ hfiled.recorded, ?_, ?_, ?_, ?_, ?_⟩, hmeta⟩
  · rw [hmeta]
    refine ⟨fun snap gen hgen => ?_, hfiled.readable.live.1, hframe.logs _ hfiled.readable.live.2⟩
    obtain ⟨hne, hsome⟩ := hfiled.readable.sealed snap gen hgen
    exact ⟨hne, hframe.logs gen hsome⟩
  · intro tap' htap'
    obtain ⟨tap, htap, hlog⟩ := hframe.taps tap' htap'
    obtain ⟨hmapped, hgen⟩ := hfiled.taps tap htap
    rw [hlog]
    exact ⟨hframe.mapped hmapped, hgen⟩
  · intro tap' htap' hnone
    obtain ⟨tap, htap, hlog⟩ := hframe.taps tap' htap'
    rw [hframe.line]
    exact hfiled.bare tap htap (hlog.symm.trans hnone)
  · intro n blk hmem
    rw [hframe.line]
    rcases hframe.unlogged n blk hmem with hmem | ⟨rfl, tap, htap, hnone⟩
    · exact hfiled.unlogged n blk hmem
    · rw [← List.dropLast_eq_take]
      exact ⟨le_rfl, hfiled.bare tap htap hnone⟩
  · rw [hframe.line, hnames]
    exact hfiled.kept

theorem On.frame {gen : String} (hon : On base t gen) (hframe : Frame base t t') :
    On base t' gen := by
  intro tap' htap'
  obtain ⟨tap, htap, hlog⟩ := hframe.taps tap' htap'
  exact hlog.trans (hon tap htap)

theorem Steady.frame (hsteady : Steady base t) (hframe : Frame base t t') : Steady base t' := by
  obtain ⟨img, live, hfiled, hchain, hon⟩ := hsteady
  obtain ⟨img', hfiled', hmeta⟩ := hfiled.frame hframe
  refine ⟨img', live, hfiled', ?_, fun hne hwhole => ?_⟩
  · rw [hframe.line, hmeta]
    exact hchain
  · exact (hon (hframe.line ▸ hne) (hframe.line ▸ hwhole)).frame hframe

theorem Making.frame (hmaking : Making base snap t img live) (hframe : Frame base t t') :
    ∃ img', Making base snap t' img' live ∧ img'.metadata = img.metadata := by
  obtain ⟨img', hfiled', hmeta⟩ := hmaking.filed.frame hframe
  refine ⟨img', ⟨hfiled', hframe.making.trans hmaking.making, ?_⟩, hmeta⟩
  rw [hframe.line, hmeta]
  exact hmaking.line

/-- A guest write through a tapdisk without a log. -/
theorem frame_of_bareWrite {off : Nat} {data : Bytes} {tap : Tap} {w : World}
    (hfound : t.world.images.lookup base = some img)
    (htap : t.world.taps.lookup base = some tap) (hbare : tap.log = none)
    (hw : t.world.guestWrite base off data = some w) :
    Frame base t { t with
      world := w
      unlogged := t.unlogged ++
      (touched off data.length).map fun blk => (t.line.length, blk) } := by
  simp only [World.guestWrite, htap, hfound, hbare, Option.bind_some,
    Option.ite_none_left_eq_some, Option.some.injEq] at hw
  obtain ⟨-, rfl⟩ := hw
  refine ⟨fun img' hfound' => ?_, fun gen hsome => ?_, fun tap' htap' => ⟨tap', htap', rfl⟩,
    id, rfl, rfl, fun n blk hmem => ?_⟩
  · cases hfound.symm.trans hfound'
    exact ⟨_, AList.lookup_insert _, rfl, rfl⟩
  · rw [logBits_insert_base]
    exact hsome
  · rcases List.mem_append.mp hmem with hmem | hmem
    · exact .inl hmem
    · obtain ⟨blk', -, heq⟩ := List.mem_map.mp hmem
      cases heq
      exact .inr ⟨rfl, tap, htap, hbare⟩

/-- A guest write through a tapdisk that is on a log. -/
theorem frame_of_loggedWrite {off : Nat} {data : Bytes} {tap : Tap} {gen : String} {w : World}
    (hfound : t.world.images.lookup base = some img)
    (htap : t.world.taps.lookup base = some tap) (hgen : tap.log = some (companionName base gen))
    (hw : t.world.guestWrite base off data = some w) : Frame base t { t with world := w } := by
  have hon : On base t gen := by
    intro tap' htap'
    cases htap.symm.trans htap'
    exact hgen
  obtain ⟨-, hbase, htaps, hmapped, hlog, hlogs⟩ := guestWrite_spec hfound hon hw
  refine ⟨fun img' hfound' => ?_, fun gen' hsome => ?_, fun tap' htap' => ?_, ?_, rfl, rfl,
    fun _ _ => .inl⟩
  · cases hfound.symm.trans hfound'
    exact ⟨_, hbase, rfl, rfl⟩
  · by_cases hne : gen' = gen
    · subst hne
      rw [hlog, Option.isSome_map]
      exact hsome
    · rw [hlogs gen' hne]
      exact hsome
  · rw [htaps] at htap'
    exact ⟨tap', htap', rfl⟩
  · intro hmem
    rw [hmapped]
    exact hmem

/-- A guest write changes nothing of this. -/
theorem frame_of_write {off : Nat} {data : Bytes} (hfiled : Filed base t img live)
    (hwrite : t.write base off data = some t') : Frame base t t' := by
  obtain ⟨w, hw, rfl⟩ := Option.map_eq_some_iff.mp hwrite
  obtain ⟨tap, htap⟩ : ∃ tap, t.world.taps.lookup base = some tap := by
    simp only [World.guestWrite, Option.bind_eq_some_iff] at hw
    obtain ⟨tap, htap, -⟩ := hw
    exact ⟨tap, htap⟩
  have hin : inEffect base t.world = tap.log := by simp [inEffect, htap]
  obtain ⟨-, hbare | ⟨gen, hgen⟩⟩ := hfiled.taps tap htap
  · have hnot : (inEffect base t.world).isSome = false := by rw [hin, hbare, Option.isSome_none]
    rw [hnot]
    exact frame_of_bareWrite hfiled.found htap hbare hw
  · have hyes : (inEffect base t.world).isSome = true := by rw [hin, hgen, Option.isSome_some]
    rw [if_pos hyes]
    exact frame_of_loggedWrite hfiled.found htap hgen hw

end Frames

section Marks

variable {base snap live : String} {t : Traced} {img : Image} {line front : List Part} {p : Part}

/-- Who has not failed after a mark had not failed before. -/
theorem of_mem_markFailed {q : Part} (hq : q ∈ markFailed snap line) (hok : q.failed = false) :
    q ∈ line ∧ q.snap ≠ snap := by
  obtain ⟨p, hp, rfl⟩ := List.mem_map.mp hq
  simp only [Bool.or_eq_false_iff, beq_eq_false_iff_ne] at hok
  have hsame : ({ p with failed := p.failed || p.snap == snap } : Part) = p := by
    have hne : (p.snap == snap) = false := beq_eq_false_iff_ne.mpr hok.2
    rw [hne, Bool.or_false]
  rw [hsame]
  exact ⟨hp, hok.2⟩

/-- A mark asks for less. -/
theorem isChain_markFailed {metadata : Dict} (h : line.IsChain (Linked base metadata)) :
    (markFailed snap line).IsChain (Linked base metadata) := by
  refine List.isChain_map_of_isChain _ (fun p q hlinked hp hq => ?_) h
  simp only [Bool.or_eq_false_iff] at hp hq
  exact hlinked hp.1 hq.1

theorem whole_of_markFailed (h : Whole (markFailed snap line)) : Whole line := by
  intro p hp
  have hlast : (markFailed snap line).getLast? = line.getLast?.map
      fun p => { p with failed := p.failed || p.snap == snap } := List.getLast?_map
  have hmarked := h { p with failed := p.failed || p.snap == snap } (by
    rw [hlast, Option.mem_def.mp hp]
    rfl)
  exact (Bool.or_eq_false_iff.mp hmarked).1

/-- Whoever has failed stays so. -/
theorem failed_markFailed (h : ∀ p ∈ line, p.failed = true) :
    ∀ p ∈ markFailed snap line, p.failed = true := by
  intro p hp
  obtain ⟨q, hq, rfl⟩ := List.mem_map.mp hp
  rw [h q hq]
  rfl

theorem Filed.mark (hfiled : Filed base t img live) (snap : String) :
    Filed base { t with line := markFailed snap t.line } img live :=
  { hfiled with
    bare := fun tap htap hnone => by
      show ∀ p ∈ (t.line.map _).dropLast, _
      rw [← List.map_dropLast]
      exact failed_markFailed (hfiled.bare tap htap hnone)
    unlogged := fun n blk hmem => by
      show n ≤ (t.line.map _).length ∧ ∀ p ∈ (t.line.map _).take (n - 1), _
      rw [List.length_map, ← List.map_take]
      exact ⟨(hfiled.unlogged n blk hmem).1, failed_markFailed (hfiled.unlogged n blk hmem).2⟩
    kept := fun q hq hok => hfiled.kept q (of_mem_markFailed hq hok).1 hok }

theorem markFailed_eq_nil_iff : markFailed snap line = [] ↔ line = [] := List.map_eq_nil_iff

theorem Steady.mark (hsteady : Steady base t) (snap : String) :
    Steady base { t with line := markFailed snap t.line } := by
  obtain ⟨img, live, hfiled, hchain, hon⟩ := hsteady
  exact ⟨img, live, hfiled.mark snap, isChain_markFailed hchain,
    fun hne hwhole => hon (fun hnil => hne (markFailed_eq_nil_iff.mpr hnil))
      (whole_of_markFailed hwhole)⟩

theorem Making.mark (hmaking : Making base snap t img live) :
    Making base snap { t with line := markFailed snap t.line } img live := by
  obtain ⟨front, p, hline, hsnap, hchain, hapart, hlog⟩ := hmaking.line
  refine ⟨hmaking.filed.mark snap, hmaking.making, markFailed snap front,
    { p with failed := p.failed || p.snap == snap }, ?_, hsnap, isChain_markFailed hchain, ?_, ?_⟩
  · show markFailed snap t.line = _
    rw [hline]
    simp [markFailed]
  · intro q hq hok
    exact hapart q (of_mem_markFailed hq hok).1 hok
  · intro hne hwhole hok
    exact hlog (fun hnil => hne (markFailed_eq_nil_iff.mpr hnil)) (whole_of_markFailed hwhole)
      (Bool.or_eq_false_iff.mp hok).1

/-- The last snapshot failed. -/
def Lost (t : Traced) : Prop := ∀ p ∈ t.line.getLast?, p.failed = true

/-- A snapshot that failed leaves the invariant. -/
theorem Making.steady (hmaking : Making base snap t img live) (hlost : Lost t) : Steady base t := by
  obtain ⟨front, p, hline, -, hchain, -, -⟩ := hmaking.line
  have hfailed : p.failed = true := hlost p (by simp [hline])
  refine ⟨img, live, hmaking.filed, ?_, fun _ hwhole => ?_⟩
  · rw [hline]
    refine List.isChain_append.mpr ⟨hchain, List.isChain_singleton _, fun q _ r hr _ hok => ?_⟩
    cases hr
    rw [hfailed] at hok
    cases hok
  · have hok := hwhole p (by simp [hline])
    rw [hfailed] at hok
    cases hok

end Marks

section Rules

variable {base : String} {t t' : Traced} {P exc : Traced → Prop}

/-- A guest writes between the calls. -/
def Wrote (base : String) (t t' : Traced) : Prop := ∃ off data, t.write base off data = some t'

/-- Any call may fail, and the guest may write at any time. -/
def faulty (base : String) : Setting Exc Call Result Traced Choice where
  handle := traceHandle base
  allowed _ _ _ := True
  rely := Wrote base
  asserted _ _ := True

/-- A condition that what is not looked at does not affect, and what it becomes when a call
fails. -/
structure Mode (base : String) (P exc : Traced → Prop) : Prop where
  filed : ∀ t, P t → ∃ img live, Filed base t img live
  frame : ∀ t t', P t → Frame base t t' → P t'
  fail : ∀ t, P t → exc t.fail

/-- Writes of the guest keep it. -/
theorem Mode.stable (hmode : Mode base P exc) : Stable (Wrote base) P := by
  rintro t t' hP ⟨off, data, hwrite⟩
  obtain ⟨img, live, hfiled⟩ := hmode.filed t hP
  exact hmode.frame t t' hP (frame_of_write hfiled hwrite)

/-- A call that fails. -/
theorem traceHandle_error {choice : Choice} {c : Call} {error : Exc}
    (h : traceHandle base choice t c = some (.error error, t')) :
    t' = if passed c error then t else t.fail := by
  obtain ⟨⟨reply, w⟩, hhandle, heq⟩ := Option.map_eq_some_iff.mp h
  cases heq
  have hworld : w = t.world := by
    obtain ⟨_, -, heq, -⟩ | ⟨-, hsame, -⟩ := handle_cases hhandle
    · cases heq
    · exact hsame
  have hmaking : makingAfter base t.making c (.error error) = t.making := by cases c <;> rfl
  have hline : lineAfter base t c (.error error) =
      if passed c error then t.line else t.fail.line := by cases c <;> rfl
  rw [hmaking, hline, hworld]
  obtain ⟨world, line, making, unlogged⟩ := t
  cases making <;> cases passed c error <;> rfl

/-- A call that succeeds has its effect. -/
theorem traceHandle_ok {choice : Choice} {c : Call} {result : Result c} (hasked : c.asked = false)
    (h : traceHandle base choice t c = some (.ok result, t'))
    (hfind : ∀ image, c ≠ .tapFind image) :
    ∃ w, effect t.world c = some (result, w) ∧ t' = { t with
      world := w
      line := lineAfter base t c (.ok result)
      making := makingAfter base t.making c (.ok result) } := by
  obtain ⟨⟨reply, w⟩, hhandle, heq⟩ := Option.map_eq_some_iff.mp h
  cases heq
  obtain ⟨_, -, heq, heffect⟩ | ⟨-, -, ⟨_, -, heq⟩ | rfl | rfl | ⟨_, _, _, _, _, _, rfl⟩ |
    ⟨image, _, _, _, rfl, -⟩⟩ := handle_cases hhandle
  · cases heq
    exact ⟨w, heffect, rfl⟩
  · cases heq
  · cases hasked
  · cases hasked
  · cases hasked
  · exact absurd rfl (hfind image)

/-- The search for the tapdisk of the base finds it or, where none runs, nothing; or else the
operation has failed. -/
theorem traceHandle_tapFind {choice : Choice} {found : Option String}
    (h : traceHandle base choice t (.tapFind base) = some (.ok found, t')) :
    (t' = t ∧ ((found = some base ∧ (t.world.taps.lookup base).isSome = true) ∨
      (found = none ∧ t.world.taps.lookup base = none))) ∨
    (t' = t.fail ∧ ∃ other, other ≠ base ∧ found = some other) := by
  obtain ⟨⟨reply, w⟩, hhandle, heq⟩ := Option.map_eq_some_iff.mp h
  cases heq
  cases choice with
  | ok =>
      cases hhandle
      refine .inl ?_
      by_cases hmem : base ∈ t.world.taps
      · rw [if_pos hmem]
        exact ⟨by simp [lineAfter, makingAfter], .inl ⟨rfl, AList.lookup_isSome.mpr hmem⟩⟩
      · rw [if_neg hmem]
        exact ⟨rfl, .inr ⟨rfl, AList.lookup_eq_none.mpr hmem⟩⟩
  | tap number other found' =>
      obtain ⟨hne, -, hreply, rfl⟩ := handle_tap hhandle
      cases hreply
      refine .inr ⟨?_, found', hne, rfl⟩
      simp only [lineAfter, makingAfter, if_neg hne, Traced.fail]
      split <;> rfl
  | _ => cases hhandle

/-- The call adds no snapshot, removes none and is no search for a tapdisk. -/
def quietCall : Call → Bool
  | .snapCreate _ _ | .snapRemove _ _ | .tapFind _ => false
  | c => !c.asked

/-- Such a call adds nothing to the history where it succeeds. -/
theorem quiet_ok {choice : Choice} {c : Call} {result : Result c} (hquiet : quietCall c = true)
    (h : traceHandle base choice t c = some (.ok result, t')) :
    ∃ w, effect t.world c = some (result, w) ∧ t' = { t with world := w } := by
  have hasked : c.asked = false := by cases c <;> first | rfl | cases hquiet
  obtain ⟨w, heffect, rfl⟩ := traceHandle_ok hasked h (by rintro image rfl; cases hquiet)
  refine ⟨w, heffect, ?_⟩
  cases c <;> first | rfl | cases hquiet

/-- A call whose failure is not passed over. -/
theorem Mode.safe_call (hmode : Mode base P exc) {c : Call} {post : Result c → Traced → Prop}
    (hquiet : quietCall c = true) (hpassed : ∀ error, passed c error = false) (hP : P t)
    (hok : ∀ t result w, P t → effect t.world c = some (result, w) →
      post result { t with world := w }) :
    Safe (faulty base) post (fun _ => exc) (perform c) t := by
  refine Prog.safe_perform hmode.stable hP (fun _ _ => trivial) ?_ ?_
  · intro t choice result t' hP _ hhandle
    obtain ⟨w, heffect, rfl⟩ := quiet_ok hquiet hhandle
    exact hok t result w hP heffect
  · intro t choice error t' hP _ hhandle
    rw [traceHandle_error hhandle, hpassed error]
    exact hmode.fail t hP

/-- A call for a new identifier is answered with one, and does not fail. -/
theorem traceHandle_fresh {choice : Choice} {c : Call} {reply : Except Exc (Result c)}
    (hc : c = .uuid4 ∨ c = .gen) (h : traceHandle base choice t c = some (reply, t')) :
    t' = t ∧ ∃ result, reply = .ok result := by
  obtain ⟨⟨reply', w⟩, hhandle, heq⟩ := Option.map_eq_some_iff.mp h
  cases heq
  rcases hc with rfl | rfl <;> cases choice <;> simp [handle, effect] at hhandle
  · obtain ⟨-, rfl, rfl⟩ := hhandle
    exact ⟨rfl, _, rfl⟩
  · obtain ⟨-, rfl, rfl⟩ := hhandle
    exact ⟨rfl, _, rfl⟩

/-- A new name. -/
theorem Mode.safe_uuid4 (hmode : Mode base P exc) (hP : P t) :
    Safe (faulty base) (fun _ => P) (fun _ => exc) (perform .uuid4) t := by
  refine Prog.safe_perform hmode.stable hP (fun _ _ => trivial) ?_ ?_
  · intro t choice snap t' hP _ hhandle
    obtain ⟨rfl, -⟩ := traceHandle_fresh (.inl rfl) hhandle
    exact hP
  · intro t choice error t' hP _ hhandle
    obtain ⟨-, result, heq⟩ := traceHandle_fresh (.inl rfl) hhandle
    cases heq

/-- A new generation. -/
theorem Mode.safe_gen (hmode : Mode base P exc) (hP : P t) :
    Safe (faulty base) (fun gen t => gen ≠ "" ∧ P t) (fun _ => exc) (perform .gen) t := by
  refine Prog.safe_perform hmode.stable hP (fun _ _ => trivial) ?_ ?_
  · intro t choice gen t' hP _ hhandle
    obtain ⟨rfl, -⟩ := traceHandle_fresh (.inr rfl) hhandle
    obtain ⟨⟨reply, w⟩, hgen, heq⟩ := Option.map_eq_some_iff.mp hhandle
    refine ⟨?_, hP⟩
    rintro rfl
    have hreply : reply = .ok "" := congrArg Prod.fst heq
    subst hreply
    cases choice with
    | fresh text =>
        simp only [handle, Option.ite_none_right_eq_some, Option.some.injEq, Prod.mk.injEq] at hgen
        obtain ⟨hgen, htext, -⟩ := hgen
        cases htext
        simp [isGen] at hgen
    | ok => simp [handle, effect] at hgen
    | fail error => simp [handle] at hgen
    | diff extents => simp [handle] at hgen
    | tap number other found => simp [handle] at hgen
  · intro t choice error t' hP _ hhandle
    obtain ⟨-, result, heq⟩ := traceHandle_fresh (.inr rfl) hhandle
    cases heq

/-- A change of the maps that keeps that of the base. -/
theorem frame_of_maps {w : World} (himages : w.images = t.world.images)
    (htaps : w.taps = t.world.taps) (hmapped : base ∈ t.world.mapped → base ∈ w.mapped) :
    Frame base t { t with world := w } where
  found img hfound := ⟨img, himages ▸ hfound, rfl, rfl⟩
  logs gen hsome := by
    simp only [logBits, himages]
    exact hsome
  taps tap htap := ⟨tap, htaps ▸ htap, rfl⟩
  mapped := hmapped
  line := rfl
  making := rfl
  unlogged _ _ := .inl

/-- An unmap of another image, whose failure is passed over. -/
theorem Mode.safe_unmap (hmode : Mode base P exc) {image : String} (hne : image ≠ base) (hP : P t) :
    Safe (faulty base) (fun _ => P) (fun _ => exc) (Cbtlog.unmap image) t := by
  refine Prog.safe_tryCatch (Prog.safe_perform hmode.stable hP (fun _ _ => trivial) ?_ ?_)
  · intro t choice result t' hP _ hhandle
    obtain ⟨w, heffect, rfl⟩ := quiet_ok rfl hhandle
    cases heffect
    refine hmode.frame t _ hP (frame_of_maps ?_ ?_ fun hmem => ?_)
    · split <;> rfl
    · split <;> rfl
    · split
      · exact hmem
      · exact (List.mem_erase_of_ne hne.symm).mpr hmem
  · intro t choice error t' hP _ hhandle
    rw [traceHandle_error hhandle]
    exact hP

/-- Mapping an image. -/
theorem Mode.safe_map (hmode : Mode base P exc) (image : String) (hP : P t) :
    Safe (faulty base) (fun _ => P) (fun _ => exc) (perform (.map image)) t := by
  refine hmode.safe_call rfl (fun _ => rfl) hP fun t result w hP heffect => ?_
  simp only [effect, Option.ite_none_right_eq_some, Option.some.injEq, Prod.mk.injEq] at heffect
  obtain ⟨-, -, rfl⟩ := heffect
  exact hmode.frame t _ hP (frame_of_maps rfl rfl fun hmem => List.mem_insert_of_mem hmem)

/-- The metadata after a PUT of a dictionary that drops no key, whether its `image_meta_set` could
read the current one or not. -/
theorem lookup_written {metadata current : Dict} {desired : Desired}
    (hcurrent : current = metadata ∨ current = ∅) (hkeep : ∀ key ∈ metadata, key ∈ desired)
    (key : String) :
    (Image.setMetadata metadata (dropAbsent current desired)).lookup key =
      (desired.lookup key).join := by
  rcases hcurrent with rfl | rfl
  · exact lookup_replaced current desired key
  · rw [lookup_setMetadata, lookup_dropAbsent]
    have hempty : ¬(key ∈ (∅ : Dict) ∧ key ∉ desired) := fun h => AList.notMem_empty key h.1
    rw [if_neg hempty]
    by_cases hmem : key ∈ desired
    · obtain ⟨value, hvalue⟩ := Option.isSome_iff_exists.mp (AList.lookup_isSome.mpr hmem)
      rw [hvalue]
      rfl
    · have hnone : key ∉ metadata := fun h => hmem (hkeep key h)
      rw [AList.lookup_eq_none.mpr hmem, AList.lookup_eq_none.mpr hnone]
      rfl

/-- A read-modify-write that drops no key, where the condition determines the metadata. -/
theorem Mode.safe_rmw (hmode : Mode base P exc) (metadata : Dict) {mutate : Desired → Desired}
    {post : Unit → Traced → Prop} (hP : P t)
    (hmeta : ∀ t img, P t → t.world.images.lookup base = some img → img.metadata = metadata)
    (hkeep : ∀ key ∈ metadata, key ∈ mutate metadata.toDesired)
    (hpost : ∀ t img img', P t → t.world.images.lookup base = some img →
      (∀ key, img'.metadata.lookup key = ((mutate metadata.toDesired).lookup key).join) →
      img'.snapshots = img.snapshots →
      post () { t with world := { t.world with images := t.world.images.insert base img' } }) :
    Safe (faulty base) post (fun _ => exc) (rmw base mutate) t := by
  have hread : ∀ t info w, P t → effect t.world (.imageInfo base) = some (info, w) →
      info.metadata = metadata ∧ w = t.world := by
    intro t info w hP heffect
    obtain ⟨img, hfound, heq⟩ := Option.map_eq_some_iff.mp heffect
    cases heq
    exact ⟨hmeta t img hP hfound, rfl⟩
  refine Prog.safe_bind (hmode.safe_call rfl (fun _ => rfl) hP fun t info w hP heffect => ?_)
  obtain ⟨hinfo, rfl⟩ := hread t info w hP heffect
  rw [hinfo]
  have hcurrent : Safe (faulty base) (fun current t => (current = metadata ∨ current = ∅) ∧ P t)
      (fun _ => exc) (exceptBackend (Info.metadata <$> perform (.metaRead base)) fun _ => pure ∅)
      t := by
    refine Prog.safe_tryCatch (Prog.safe_bind (Prog.safe_perform hmode.stable hP
      (fun _ _ => trivial) ?_ ?_))
    · intro t choice result t' hP _ hhandle
      obtain ⟨w, heffect, rfl⟩ := quiet_ok rfl hhandle
      obtain ⟨hresult, rfl⟩ := hread t result w hP heffect
      exact ⟨.inl hresult, hP⟩
    · intro t choice error t' hP _ hhandle
      rw [traceHandle_error hhandle]
      cases error with
      | backend error => exact ⟨.inr rfl, hP⟩
      | unimplemented | calledProcess | other => exact hmode.fail t hP
  refine Prog.safe_bind (hcurrent.mono (fun current t hread => ?_) fun _ _ h => h)
  obtain ⟨hcurrent, hP⟩ := hread
  refine hmode.safe_call rfl (fun _ => rfl) hP fun t result w hP heffect => ?_
  obtain ⟨_, hupdate, heq⟩ := Option.map_eq_some_iff.mp heffect
  cases heq
  obtain ⟨img, img', hfound, hput, rfl⟩ := World.update_eq_some_iff.mp hupdate
  refine hpost t img img' hP hfound (fun key => ?_) ?_
  · rw [← Option.some.inj hput, ← lookup_written hcurrent hkeep key, ← hmeta t img hP hfound]
    rfl
  · rw [← Option.some.inj hput]
    rfl

end Rules

section Stages

variable {base snap live gen : String} {t t' : Traced} {img : Image} {metadata : Dict}
  {Q : Dict → Traced → Prop}

/-- The invariant between operations, while the metadata is the given one. -/
def SteadyAs (base : String) (metadata : Dict) (t : Traced) : Prop :=
  ∃ img live, Filed base t img live ∧ t.line.IsChain (Linked base img.metadata) ∧
    (t.line ≠ [] → Whole t.line → On base t live) ∧ img.metadata = metadata

theorem SteadyAs.steady (h : SteadyAs base metadata t) : Steady base t := by
  obtain ⟨img, live, hfiled, hchain, hon, -⟩ := h
  exact ⟨img, live, hfiled, hchain, hon⟩

theorem Steady.fail (hsteady : Steady base t) : Steady base t.fail := by
  unfold Traced.fail
  split
  · exact hsteady.mark _
  · exact hsteady

theorem mode_steady : Mode base (Steady base) (Steady base) where
  filed := fun _ ⟨img, live, hfiled, _⟩ => ⟨img, live, hfiled⟩
  frame _ _ hsteady hframe := hsteady.frame hframe
  fail _ hsteady := hsteady.fail

/-- No snapshot is being made. -/
def Idle (base : String) (t : Traced) : Prop := Steady base t ∧ t.making = none

theorem mode_idle : Mode base (Idle base) (Steady base) where
  filed := fun _ ⟨⟨img, live, hfiled, _⟩, _⟩ => ⟨img, live, hfiled⟩
  frame _ _ hidle hframe := ⟨hidle.1.frame hframe, hframe.making.trans hidle.2⟩
  fail _ hidle := hidle.1.fail

theorem mode_steadyAs : Mode base (SteadyAs base metadata) (Steady base) where
  filed := fun t ⟨img, live, hfiled, _⟩ => ⟨img, live, hfiled⟩
  frame := by
    rintro t t' ⟨img, live, hfiled, hchain, hon, hmeta⟩ hframe
    obtain ⟨img', hfiled', hmeta'⟩ := hfiled.frame hframe
    refine ⟨img', live, hfiled', ?_, fun hne hwhole => ?_, hmeta'.trans hmeta⟩
    · rw [hframe.line, hmeta']
      exact hchain
    · exact (hon (hframe.line ▸ hne) (hframe.line ▸ hwhole)).frame hframe
  fail _ h := h.steady.fail

/-- A stage in the making of a snapshot: `Q` is what has been reached, of the metadata and the
host. -/
def Stage (base snap : String) (Q : Dict → Traced → Prop) (t : Traced) : Prop :=
  ∃ img live, Making base snap t img live ∧ Q img.metadata t

/-- What has been reached is not affected by what the invariant does not look at, nor by a mark. -/
structure Reached (base : String) (Q : Dict → Traced → Prop) : Prop where
  frame : ∀ metadata t t', Q metadata t → Frame base t t' → Q metadata t'
  mark : ∀ metadata t snap, Q metadata t → Q metadata { t with line := markFailed snap t.line }

/-- A failed call marks the snapshot that is being made. -/
theorem Making.fail_eq (hmaking : Making base snap t img live) :
    t.fail = { t with line := markFailed snap t.line } := by
  rw [Traced.fail, hmaking.making]

theorem Making.lost_mark (hmaking : Making base snap t img live) :
    Lost { t with line := markFailed snap t.line } := by
  obtain ⟨front, p, hline, hsnap, -⟩ := hmaking.line
  intro q hq
  simp only [markFailed, hline, List.map_append, List.map_cons, List.map_nil,
    List.getLast?_concat, Option.mem_def, Option.some.injEq] at hq
  rw [← hq]
  simp [hsnap]

theorem Reached.mode (hQ : Reached base Q) (snap : String) :
    Mode base (Stage base snap Q) fun t => Stage base snap Q t ∧ Lost t where
  filed := fun t ⟨img, live, hmaking, _⟩ => ⟨img, live, hmaking.filed⟩
  frame := by
    rintro t t' ⟨img, live, hmaking, hreached⟩ hframe
    obtain ⟨img', hmaking', hmeta⟩ := hmaking.frame hframe
    exact ⟨img', live, hmaking', hmeta ▸ hQ.frame _ t t' hreached hframe⟩
  fail := by
    rintro t ⟨img, live, hmaking, hreached⟩
    rw [hmaking.fail_eq]
    exact ⟨⟨img, live, hmaking.mark, hQ.mark _ t snap hreached⟩, hmaking.lost_mark⟩

/-- A stage that is lost leaves the invariant. -/
theorem Stage.steady (h : Stage base snap Q t) (hlost : Lost t) : Steady base t := by
  obtain ⟨img, live, hmaking, -⟩ := h
  exact hmaking.steady hlost

/-- The metadata is the given one. -/
theorem reached_meta : Reached base fun metadata' _ => metadata' = metadata :=
  ⟨fun _ _ _ h _ => h, fun _ _ _ h => h⟩

/-- The new companion has a log. -/
theorem reached_log : Reached base fun metadata' t =>
    metadata' = metadata ∧ (logBits t.world base gen).isSome = true :=
  ⟨fun _ _ _ h hframe => ⟨h.1, hframe.logs gen h.2⟩, fun _ _ _ h => h⟩

/-- The tapdisk is on the new log, if no call has failed. -/
def Swapped (base : String) (metadata : Dict) (gen : String) (metadata' : Dict) (t : Traced) :
    Prop :=
  metadata' = metadata ∧ (logBits t.world base gen).isSome = true ∧ (Whole t.line → On base t gen)

theorem reached_swapped : Reached base (Swapped base metadata gen) := by
  refine ⟨fun _ t t' h hframe => ⟨h.1, hframe.logs gen h.2.1, fun hwhole => ?_⟩,
    fun _ t snap h => ⟨h.1, h.2.1, fun hwhole => h.2.2 (whole_of_markFailed hwhole)⟩⟩
  exact (h.2.2 (hframe.line ▸ hwhole)).frame hframe

/-- While the tapdisk has no log, every snapshot has failed. -/
theorem Filed.all_failed (hfiled : Filed base t img live)
    (hon : t.line ≠ [] → Whole t.line → On base t live) (tap : Tap)
    (htap : t.world.taps.lookup base = some tap) (hnone : tap.log = none) :
    ∀ p ∈ t.line, p.failed = true := by
  have hbare := hfiled.bare tap htap hnone
  rcases t.line.eq_nil_or_concat' with hnil | ⟨front, last, hline⟩
  · simp [hnil]
  · rw [hline, List.dropLast_concat] at hbare
    rw [hline]
    intro p hp
    rcases List.mem_append.mp hp with hp | hp
    · exact hbare p hp
    · rw [List.mem_singleton.mp hp]
      by_contra hok
      have hwhole : Whole t.line := fun q hq => by
        rw [hline, List.getLast?_concat] at hq
        cases hq
        exact Bool.eq_false_iff.mpr hok
      have hlog := hon (by simp [hline]) hwhole tap htap
      rw [hnone] at hlog
      cases hlog

/-- A snapshot is captured with the log in effect. -/
theorem making_of_snapCreate {result : Unit} {w : World} (hsteady : Steady base t)
    (heffect : effect t.world (.snapCreate base snap) = some (result, w)) :
    Stage base snap (fun _ _ => True) { t with
      world := w
      line := t.line ++ [{ snap := snap, log := inEffect base t.world }]
      making := some snap } := by
  obtain ⟨img, live, hfiled, hchain, hon⟩ := hsteady
  obtain ⟨_, hupdate, heq⟩ := Option.map_eq_some_iff.mp heffect
  cases heq
  obtain ⟨img', img₂, hfound, hcreate, rfl⟩ := World.update_eq_some_iff.mp hupdate
  cases hfiled.found.symm.trans hfound
  obtain ⟨hnew, rfl⟩ := Image.snapCreate_eq_some_iff.mp hcreate
  refine ⟨_, live, ⟨⟨AList.lookup_insert _, hfiled.tapdisk, hfiled.recorded,
    hfiled.readable.frame (logsKept_insert_base _ _ _), hfiled.taps, ?_, ?_, ?_⟩, rfl,
    t.line, _, rfl, rfl, hchain, ?_, ?_⟩, trivial⟩
  · intro tap htap hnone
    rw [List.dropLast_concat]
    exact hfiled.all_failed hon tap htap hnone
  · intro n blk hmem
    obtain ⟨hn, hfailed⟩ := hfiled.unlogged n blk hmem
    rw [List.length_append, List.take_append_of_le_length (by omega)]
    exact ⟨by omega, hfailed⟩
  · intro p hp hok
    rw [List.map_append]
    rcases List.mem_append.mp hp with hp | hp
    · exact List.mem_append_left _ (hfiled.kept p hp hok)
    · cases List.mem_singleton.mp hp
      exact List.mem_append_right _ (List.mem_singleton_self _)
  · -- A name that is captured again is that of a snapshot that failed.
    rintro q hq hok rfl
    exact not_mem_names hnew (hfiled.kept q hq hok)
  · intro hne hwhole _
    show inEffect base t.world = some (companionName base live)
    unfold inEffect
    split
    · rename_i tap htap
      exact hon hne hwhole tap htap
    · rw [hfiled.found, Option.bind_some, hfiled.recorded]
      rfl

/-- A change of the protection of a snapshot. -/
theorem frame_of_protect {result : Unit} {w : World} {on : Bool}
    (heffect : effect t.world (.snapSetProtected base snap on) = some (result, w)) :
    Frame base t { t with world := w } := by
  obtain ⟨_, hupdate, heq⟩ := Option.map_eq_some_iff.mp heffect
  cases heq
  obtain ⟨img, img', hfound, hprotect, rfl⟩ := World.update_eq_some_iff.mp hupdate
  obtain ⟨_, -, -, rfl⟩ := Image.snapSetProtected_eq_some_iff.mp hprotect
  refine ⟨fun img₀ hfound₀ => ?_, fun gen hsome => ?_, fun tap htap => ⟨tap, htap, rfl⟩, id,
    rfl, rfl, fun _ _ => .inl⟩
  · cases hfound.symm.trans hfound₀
    refine ⟨_, AList.lookup_insert _, rfl, ?_⟩
    have hfst := congrArg (List.map Prod.fst) (mark_mapSnap img snap on)
    simpa [Function.comp_def, Snap.mark] using hfst
  · rw [logBits_insert_base]
    exact hsome

/-- The removal of a snapshot marks it. -/
theorem steady_of_snapRemove {result : Unit} {w : World} (hsteady : Steady base t)
    (heffect : effect t.world (.snapRemove base snap) = some (result, w)) :
    Steady base { t with world := w, line := markFailed snap t.line } := by
  obtain ⟨img, live, hfiled, hchain, hon⟩ := hsteady
  obtain ⟨_, hupdate, heq⟩ := Option.map_eq_some_iff.mp heffect
  cases heq
  obtain ⟨img', img₂, hfound, hremove, rfl⟩ := World.update_eq_some_iff.mp hupdate
  cases hfiled.found.symm.trans hfound
  obtain ⟨s, -, -, rfl⟩ := Image.snapRemove_eq_some_iff.mp hremove
  have hmarked := hfiled.mark snap
  refine ⟨_, live, ⟨AList.lookup_insert _, hfiled.tapdisk, hfiled.recorded,
    hfiled.readable.frame (logsKept_insert_base _ _ _), hmarked.taps, hmarked.bare,
    hmarked.unlogged, ?_⟩, isChain_markFailed hchain,
    fun hne hwhole => hon (fun hnil => hne (markFailed_eq_nil_iff.mpr hnil))
      (whole_of_markFailed hwhole)⟩
  intro q hq hok
  obtain ⟨hmem, hne⟩ := of_mem_markFailed hq hok
  obtain ⟨s, hs, hname⟩ := List.mem_map.mp (hfiled.kept q hmem hok)
  refine List.mem_map.mpr ⟨s, List.mem_filter.mpr ⟨hs, ?_⟩, hname⟩
  rw [hname]
  exact bne_iff_ne.mpr hne

end Stages

end XcpCephRbd.Volume.Answers
