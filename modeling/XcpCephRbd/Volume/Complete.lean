import XcpCephRbd.Volume.Faults

/-!
# Complete or refused

The operations of `Faults` followed through, and the runs of them. `answers_complete` is the
statement about every run from a base on which tracking has just been enabled, whatever fails in it.
Four runs show what the conditions are for: a query that passes over a log it cannot read, a
rotation that has moved the tapdisk to a log that it then fails to record, a write before the first
rotation where the tapdisk has no log, and two snapshots of one time.
-/

namespace XcpCephRbd.Volume.Answers

open Bitmap (Bytes bit)
open Cbtlog (cbtBlock numBlocks companionName liveGen sealedGen snapTime)
open Datapath (SrMeta)
open Prog (Safe Setting Stable)

section Operations

variable {base snap live gen : String} {t t' : Traced} {img : Image} {metadata : Dict}

/-- The operation leads back to the invariant, whether it returns or raises. -/
abbrev Leads {α : Type} (base : String) (p : Op α) (t : Traced) : Prop :=
  Safe (faulty base) (fun _ => Steady base) (fun _ => Steady base) p t

/-- The undoing of a snapshot that could not be made. -/
theorem leads_undo (hsteady : Steady base t) (snap : String) :
    Leads base (do perform (.snapSetProtected base snap false); perform (.snapRemove base snap))
    t := by
  refine Prog.safe_bind (mode_steady.safe_call rfl (fun _ => rfl) hsteady
    fun t result w hsteady heffect => ?_)
  have hsteady := hsteady.frame (frame_of_protect heffect)
  refine Prog.safe_perform mode_steady.stable hsteady (fun _ _ => trivial) ?_ ?_
  · intro t choice result t' hsteady _ hhandle
    obtain ⟨w, heffect, rfl⟩ := traceHandle_ok rfl hhandle nofun
    simpa [lineAfter, makingAfter] using steady_of_snapRemove hsteady heffect
  · intro t choice error t' hsteady _ hhandle
    rw [traceHandle_error hhandle]
    exact hsteady.fail

/-- The creation of the snapshot. -/
theorem safe_takeSnap (hidle : Idle base t) (snap : String) :
    Safe (faulty base) (fun _ => Stage base snap fun _ _ => True) (fun _ => Steady base)
      (takeSnap base snap) t := by
  have hreached : Reached base fun _ _ => True := ⟨fun _ _ _ _ _ => trivial, fun _ _ _ _ => trivial⟩
  have hcreate : Safe (faulty base) (fun _ => Stage base snap fun _ _ => True)
      (fun _ => Steady base) (perform (.snapCreate base snap)) t := by
    refine Prog.safe_perform mode_idle.stable hidle (fun _ _ => trivial) ?_ ?_
    · intro t choice result t' hP _ hhandle
      obtain ⟨w, heffect, rfl⟩ := traceHandle_ok rfl hhandle nofun
      simpa [lineAfter, makingAfter] using making_of_snapCreate hP.1 heffect
    · intro t choice error t' hP _ hhandle
      rw [traceHandle_error hhandle]
      exact hP.1.fail
  have hbody : Safe (faulty base) (fun _ => Stage base snap fun _ _ => True) (fun _ => Steady base)
      (do perform (.snapCreate base snap); perform (.snapSetProtected base snap true)) t := by
    refine Prog.safe_bind (hcreate.mono (fun _ t hstage => ?_) fun _ _ h => h)
    refine ((hreached.mode snap).safe_call rfl (fun _ => rfl) hstage
      fun t result w hstage heffect => ?_).mono (fun _ _ h => h) fun _ _ h => h.1.steady h.2
    exact (hreached.mode snap).frame _ _ hstage (frame_of_protect heffect)
  refine Prog.safe_tryCatch (hbody.mono (fun _ _ h => h) fun error t hsteady => ?_)
  cases error with
  | backend error =>
      refine Prog.safe_bind (Prog.safe_tryCatch ((leads_undo hsteady snap).mono (fun _ _ h => h)
        fun error t hsteady => ?_))
      cases error with
      | backend error => exact hsteady
      | unimplemented | calledProcess | other => exact hsteady
  | unimplemented | calledProcess | other => exact hsteady

/-- What `snapshot` reads of the base. -/
theorem safe_readBase (hstage : Stage base snap (fun _ _ => True) t) :
    Safe (faulty base) (fun read t => Stage base snap (fun metadata _ => metadata = read.2) t ∨
        read.2 = ∅ ∧ Steady base t) (fun _ => Steady base) (readBase base) t := by
  have hreached : Reached base fun _ _ => True := ⟨fun _ _ _ _ _ => trivial, fun _ _ _ _ => trivial⟩
  refine Prog.safe_tryCatch
    (Prog.safe_bind (((hreached.mode snap).safe_call rfl (fun _ => rfl) hstage
    fun t info w hstage heffect => ?_).mono (fun _ _ h => h) fun error t hlost => ?_))
  · obtain ⟨img, live, hmaking, -⟩ := hstage
    simp only [effect, hmaking.filed.found, Option.map_some] at heffect
    cases heffect
    exact .inl ⟨img, live, hmaking, rfl⟩
  · have hsteady := hlost.1.steady hlost.2
    cases error with
    | backend error => exact .inr ⟨rfl, hsteady⟩
    | unimplemented | calledProcess | other => exact hsteady

/-- A rewrite of other metadata keeps what is filed. -/
theorem Filed.rewrite {img' : Image} (hfiled : Filed base t img live)
    (hsame : SameCbt img.metadata img'.metadata) (hsnaps : img'.snapshots = img.snapshots) :
    Filed base
      { t with world := { t.world with images := t.world.images.insert base img' } } img' live := by
  refine ⟨AList.lookup_insert _, hsame.isTapdisk.trans hfiled.tapdisk,
    hsame.liveGen.trans hfiled.recorded, ⟨fun snap gen hgen => ?_, ?_⟩, hfiled.taps, hfiled.bare,
    hfiled.unlogged, ?_⟩
  · rw [logBits_insert_base]
    exact hfiled.readable.sealed snap gen (hsame.sealedGen snap ▸ hgen)
  · rw [logBits_insert_base]
    exact hfiled.readable.live
  · rw [hsnaps]
    exact hfiled.kept

/-- The links do not depend on other metadata. -/
theorem isChain_rewrite {line : List Part} {metadata' : Dict} (hsame : SameCbt metadata metadata')
    (hchain : line.IsChain (Linked base metadata)) : line.IsChain (Linked base metadata') := by
  refine hchain.imp fun p q hlinked hp hq => ?_
  rw [hsame.sealedGen]
  exact hlinked hp hq

/-- A rewrite of other metadata keeps the stage. -/
theorem Making.rewrite {img' : Image} (hmaking : Making base snap t img live)
    (hsame : SameCbt img.metadata img'.metadata) (hsnaps : img'.snapshots = img.snapshots) :
    Making base snap
      { t with world := { t.world with images := t.world.images.insert base img' } } img' live := by
  obtain ⟨front, p, hline, hsnap, hchain, hapart, hlog⟩ := hmaking.line
  exact ⟨hmaking.filed.rewrite hsame hsnaps, hmaking.making, front, p, hline, hsnap,
    isChain_rewrite hsame hchain, hapart, hlog⟩

/-- A desired dictionary with a key more keeps the others. -/
theorem mem_insert_of_mem {m : Desired} {key key' : String} {value : Option String} (h : key ∈ m) :
    key ∈ m.insert key' value := (AList.mem_insert m).mpr (.inr h)

theorem mem_seedValue {m : Desired} {key key' : String} {value : Option String} (h : key ∈ m) :
    key ∈ seedValue m key' value := by
  unfold seedValue
  split
  · exact mem_insert_of_mem h
  · exact h

theorem mem_toDesired {metadata : Dict} {key : String} (h : key ∈ metadata) :
    key ∈ metadata.toDesired := by
  refine AList.lookup_isSome.mp ?_
  rw [Dict.lookup_toDesired, Option.isSome_map]
  exact AList.lookup_isSome.mpr h

/-- Dictionaries that agree on what is written agree on the keys of changed-block tracking. -/
theorem sameCbt_of_lookup {metadata metadata' : Dict} (mutate : Desired → Desired)
    (hmutate : ∀ (m : Desired) key, Text.startsWith key "cbt." = true →
      (mutate m).lookup key = m.lookup key)
    (hlookup : ∀ key, metadata'.lookup key = ((mutate metadata.toDesired).lookup key).join) :
    SameCbt metadata metadata' := by
  intro key hkey
  rw [hlookup key, hmutate _ _ hkey, Dict.lookup_toDesired]
  cases metadata.lookup key <;> rfl

/-- The metadata seed, which may fail. -/
theorem safe_seedNames (hstage : Stage base snap (fun metadata' _ => metadata' = metadata) t) :
    Safe (faulty base) (fun _ t => ∃ metadata₁, SameCbt metadata metadata₁ ∧
        Stage base snap (fun metadata' _ => metadata' = metadata₁) t) (fun _ => Steady base)
      (seedNames base snap metadata) t := by
  have hmode : Mode base (Stage base snap fun metadata' _ => metadata' = metadata) _ :=
    reached_meta.mode snap
  dsimp only [seedNames]
  split
  · refine Prog.safe_tryCatch ((hmode.safe_rmw metadata hstage ?_ ?_ ?_).mono (fun _ _ h => h)
      fun error t hlost => ?_)
    · rintro t img ⟨img', live, hmaking, hmeta⟩ hfound
      cases hmaking.filed.found.symm.trans hfound
      exact hmeta
    · intro key hkey
      exact mem_seedValue (mem_seedValue (mem_toDesired hkey))
    · rintro t img img' ⟨img₀, live, hmaking, rfl⟩ hfound hlookup hsnaps
      cases hmaking.filed.found.symm.trans hfound
      have hsame : SameCbt img.metadata img'.metadata := sameCbt_of_lookup
        (fun m => seedValue (seedValue m _ _) _ _)
          (fun m key hkey => lookup_seeded m _ _ hkey) hlookup
      exact ⟨_, hsame, img', live, hmaking.rewrite hsame hsnaps, rfl⟩
    · cases error with
      | backend error => exact ⟨metadata, fun _ _ => rfl, hlost.1⟩
      | unimplemented | calledProcess | other => exact hlost.1.steady hlost.2
  · exact ⟨metadata, fun _ _ => rfl, hstage⟩

/-- An image that is new. -/
theorem frame_of_create {image : String} {result : Unit} {size : Nat} {features : List String}
    {w : World} (heffect : effect t.world (.create image size features) = some (result, w)) :
    Frame base t { t with world := w } := by
  simp only [effect, Option.ite_none_left_eq_some, Option.some.injEq, Prod.mk.injEq] at heffect
  obtain ⟨hnew, -, rfl⟩ := heffect
  have hne : ∀ name img, t.world.images.lookup name = some img → name ≠ image := by
    rintro name img hfound rfl
    exact hnew (AList.lookup_isSome.mp (by rw [hfound]; rfl))
  refine ⟨fun img hfound => ⟨img, ?_, rfl, rfl⟩, fun gen hsome => ?_,
    fun tap htap => ⟨tap, htap, rfl⟩, id, rfl, rfl, fun _ _ => .inl⟩
  · exact (AList.lookup_insert_ne (hne base img hfound)).trans hfound
  · obtain ⟨bits, hbits⟩ := Option.isSome_iff_exists.mp hsome
    obtain ⟨img, hfound, -⟩ := Option.bind_eq_some_iff.mp hbits
    simp only [logBits, AList.lookup_insert_ne (hne _ img hfound)]
    exact hsome

/-- A companion that gets a log, or keeps it. -/
theorem frame_of_relog {companion : Image} (hlog : companion.log.isSome = true) :
    Frame base t { t with world := { t.world with
      images := t.world.images.insert (companionName base gen) companion } } := by
  refine ⟨fun img hfound => ⟨img, ?_, rfl, rfl⟩, fun gen' hsome => ?_,
    fun tap htap => ⟨tap, htap, rfl⟩, id, rfl, rfl, fun _ _ => .inl⟩
  · exact (AList.lookup_insert_ne (Cbtlog.companionName_ne base gen).symm).trans hfound
  · by_cases hgen : gen' = gen
    · subst hgen
      rw [logBits_insert_self, Option.isSome_map]
      exact hlog
    · rw [logBits_insert_ne _ _ hgen]
      exact hsome

/-- `cbt-util create` gives a companion a log. -/
theorem frame_of_cbtCreate {result : Unit} {blocks : Nat} {w : World}
    (heffect : effect t.world (.cbtCreate (companionName base gen) blocks) = some (result, w)) :
    Frame base t { t with world := w } ∧ (logBits w base gen).isSome = true := by
  obtain ⟨_, hupdate, heq⟩ := Option.map_eq_some_iff.mp heffect
  cases heq
  obtain ⟨companion, companion', -, hcreate, rfl⟩ := World.update_eq_some_iff.mp hupdate
  cases hcreate
  refine ⟨frame_of_relog rfl, ?_⟩
  rw [logBits_insert_self]
  rfl

/-- `cbt-util set` leaves it its log. -/
theorem frame_of_cbtSet {result : Unit} {size : Nat} {w : World}
    (heffect : effect t.world (.cbtSet (companionName base gen) size) = some (result, w)) :
    Frame base t { t with world := w } := by
  obtain ⟨_, hupdate, heq⟩ := Option.map_eq_some_iff.mp heffect
  cases heq
  obtain ⟨companion, companion', -, hset, rfl⟩ := World.update_eq_some_iff.mp hupdate
  obtain ⟨log, -, rfl⟩ := Image.cbtSet_eq_some_iff.mp hset
  exact frame_of_relog rfl

/-- `create_companion`: where it returns, the companion has a log. -/
theorem safe_createCompanion (hstage : Stage base snap (fun metadata' _ => metadata' = metadata) t)
    (size : Nat) :
    Safe (faulty base) (fun gen t => gen ≠ "" ∧ Stage base snap (fun metadata' t =>
        metadata' = metadata ∧ (logBits t.world base gen).isSome = true) t) (fun _ => Steady base)
      (Cbtlog.createCompanion base size) t := by
  have hmode : Mode base (Stage base snap fun metadata' _ => metadata' = metadata) (Steady base) :=
    { reached_meta.mode snap with
      fail := fun t hstage =>
        have hlost := (reached_meta.mode snap).fail t hstage
        hlost.1.steady hlost.2 }
  refine Prog.safe_bind ((hmode.safe_gen hstage).mono (fun gen t hgen => ?_) fun _ _ h => h)
  obtain ⟨hgen, hstage⟩ := hgen
  have hmode' : Mode base (Stage base snap fun metadata' t =>
      metadata' = metadata ∧ (logBits t.world base gen).isSome = true) (Steady base) :=
    { reached_log.mode snap with
      fail := fun t hstage =>
        have hlost := (reached_log.mode snap).fail t hstage
        hlost.1.steady hlost.2 }
  have hne := Cbtlog.companionName_ne base gen
  refine Prog.safe_bind (hmode.safe_call rfl (fun _ => rfl) hstage fun t _ w hstage heffect => ?_)
  have hstage := hmode.frame _ _ hstage (frame_of_create heffect)
  refine Prog.safe_bind ((hmode.safe_map _ hstage).mono (fun _ t hstage => ?_) fun _ _ h => h)
  -- The two calls of `cbt-util`, after which the companion is unmapped in any case.
  have hlog : Safe (faulty base) (fun _ => Stage base snap fun metadata' t =>
        metadata' = metadata ∧ (logBits t.world base gen).isSome = true) (fun _ => Steady base)
      (do perform (.cbtCreate (companionName base gen) (numBlocks size))
          perform (.cbtSet (companionName base gen) size)) t := by
    refine Prog.safe_bind (hmode.safe_call rfl (fun _ => rfl) hstage fun t _ w hstage heffect => ?_)
    obtain ⟨hframe, hsome⟩ := frame_of_cbtCreate heffect
    obtain ⟨img, live, hmaking, hmeta⟩ := hmode.frame _ _ hstage hframe
    have hstage : Stage base snap (fun metadata' t =>
        metadata' = metadata ∧ (logBits t.world base gen).isSome = true) { t with world := w } :=
      ⟨img, live, hmaking, hmeta, hsome⟩
    refine hmode'.safe_call rfl (fun _ => rfl) hstage fun t _ w hstage heffect => ?_
    exact hmode'.frame _ _ hstage (frame_of_cbtSet heffect)
  refine Prog.safe_bind (Prog.safe_bind (Prog.safe_tryCatch (hlog.mono (fun _ t hstage => ?_)
    fun error t hsteady => ?_)))
  · exact Prog.safe_bind ((hmode'.safe_unmap hne hstage).mono (fun _ t hstage => ⟨hgen, hstage⟩)
      fun _ _ h => h)
  · exact Prog.safe_bind ((mode_steady.safe_unmap hne hsteady).mono (fun _ _ h => h) fun _ _ h => h)

/-- A stage from which a failed call leads back to the invariant. -/
theorem Reached.steady {Q : Dict → Traced → Prop} (hQ : Reached base Q) (snap : String) :
    Mode base (Stage base snap Q) (Steady base) :=
  { hQ.mode snap with
    fail := fun t hstage => ((hQ.mode snap).fail t hstage).1.steady
      ((hQ.mode snap).fail t hstage).2 }

/-- Where the last snapshot is lost, nothing is asked of the tapdisk. -/
theorem Stage.not_whole {Q : Dict → Traced → Prop} (hstage : Stage base snap Q t) (hlost : Lost t) :
    ¬Whole t.line := by
  obtain ⟨img, live, hmaking, -⟩ := hstage
  obtain ⟨front, p, hline, -⟩ := hmaking.line
  intro hwhole
  have hok := hwhole p (by simp [hline])
  rw [hlost p (by simp [hline])] at hok
  cases hok

/-- The search for the tapdisk: where it finds another one, or cannot be made, the snapshot has
failed. -/
theorem safe_tapRunning (hstage : Stage base snap (fun metadata' t =>
      metadata' = metadata ∧ (logBits t.world base gen).isSome = true) t) :
    Safe (faulty base) (fun running t => Stage base snap (fun metadata' t =>
        metadata' = metadata ∧ (logBits t.world base gen).isSome = true) t ∧
          (Whole t.line → running = some base ∨
            (running = none ∧ t.world.taps.lookup base = none)))
      (fun _ => Steady base) (Cbtlog.tapRunning base) t := by
  have hmode := (@reached_log base gen metadata).mode snap
  refine Prog.safe_bind ((reached_log.steady snap).safe_call rfl (fun _ => rfl) hstage
    fun t result w hstage heffect => ?_)
  cases heffect
  split
  · refine Prog.safe_tryCatch (Prog.safe_perform hmode.stable hstage (fun _ _ => trivial) ?_ ?_)
    · intro t choice found t' hstage _ hhandle
      obtain ⟨rfl, hfound⟩ | ⟨rfl, -⟩ := traceHandle_tapFind hhandle
      · exact ⟨hstage, fun _ => hfound.imp And.left id⟩
      · obtain ⟨hstage, hlost⟩ := hmode.fail t hstage
        exact ⟨hstage, fun hwhole => absurd hwhole (hstage.not_whole hlost)⟩
    · intro t choice error t' hstage _ hhandle
      rw [traceHandle_error hhandle]
      obtain ⟨hstage, hlost⟩ := hmode.fail t hstage
      cases error with
      | calledProcess => exact ⟨hstage, fun hwhole => absurd hwhole (hstage.not_whole hlost)⟩
      | backend | unimplemented | other => exact hstage.steady hlost
  · rename_i hmapped
    refine ⟨hstage, fun _ => .inr ⟨rfl, ?_⟩⟩
    obtain ⟨img, live, hmaking, -⟩ := hstage
    by_contra hsome
    obtain ⟨tap, htap⟩ := Option.ne_none_iff_exists'.mp hsome
    exact hmapped (List.contains_iff_mem.mpr (hmaking.filed.taps tap htap).1)

/-- A tapdisk that is paused keeps its log. -/
theorem frame_of_pause {image : String} {result : Unit} {w : World}
    (heffect : effect t.world (.tapPause image) = some (result, w)) :
    Frame base t { t with world := w } := by
  obtain ⟨_, hupdate, heq⟩ := Option.map_eq_some_iff.mp heffect
  cases heq
  obtain ⟨tap, htap, rfl⟩ := World.updateTap_eq_some_iff.mp hupdate
  refine ⟨fun img hfound => ⟨img, hfound, rfl, rfl⟩, fun _ hsome => hsome, fun tap' htap' => ?_, id,
    rfl, rfl, fun _ _ => .inl⟩
  by_cases himage : base = image
  · subst himage
    cases (AList.lookup_insert _).symm.trans htap'
    exact ⟨tap, htap, rfl⟩
  · exact ⟨tap', (AList.lookup_insert_ne himage).symm.trans htap', rfl⟩

/-- A tapdisk that is unpaused on the new log writes to it; where it is not that of the base, the
snapshot has failed. -/
theorem swapped_of_unpause {target : String} {result : Unit} {w : World}
    (hstage : Stage base snap (fun metadata' t =>
      metadata' = metadata ∧ (logBits t.world base gen).isSome = true) t)
    (hown : Whole t.line → target = base)
    (heffect : effect t.world (.tapUnpause target (companionName base gen)) = some (result, w)) :
    Stage base snap (Swapped base metadata gen) { t with world := w } := by
  obtain ⟨img, live, ⟨hfiled, hmaking, hline⟩, hmeta, hsome⟩ := hstage
  obtain ⟨_, hupdate, heq⟩ := Option.map_eq_some_iff.mp heffect
  cases heq
  obtain ⟨tap, htap, rfl⟩ := World.updateTap_eq_some_iff.mp hupdate
  have hreadable : Readable { t.world with
      taps := t.world.taps.insert target ⟨some (companionName base gen), false⟩ } base img.metadata
        live := hfiled.readable.frame (logsKept_of_images rfl)
  by_cases htarget : target = base
  · subst htarget
    have hnew : ∀ tap', (t.world.taps.insert target
        { log := some (companionName target gen), paused := false }).lookup target = some tap' →
          tap'.log = some (companionName target gen) := by
      intro tap' htap'
      cases (AList.lookup_insert _).symm.trans htap'
      rfl
    refine ⟨img, live, ⟨{ hfiled with
      readable := hreadable
      taps := fun tap' htap' => ⟨(hfiled.taps tap htap).1, .inr ⟨gen, hnew tap' htap'⟩⟩
      bare := fun tap' htap' hnone => ?_ }, hmaking, hline⟩, hmeta, hsome,
      fun _ tap' htap' => hnew tap' htap'⟩
    rw [hnew tap' htap'] at hnone
    cases hnone
  · have hsame : ∀ tap', (t.world.taps.insert target
        { log := some (companionName base gen), paused := false }).lookup base = some tap' →
          t.world.taps.lookup base = some tap' := fun tap' htap' =>
      (AList.lookup_insert_ne (Ne.symm htarget)).symm.trans htap'
    exact ⟨img, live, ⟨{ hfiled with
      readable := hreadable
      taps := fun tap' htap' => hfiled.taps tap' (hsame tap' htap')
      bare := fun tap' htap' => hfiled.bare tap' (hsame tap' htap') }, hmaking, hline⟩, hmeta,
      hsome, fun hwhole => absurd (hown hwhole) htarget⟩

/-- Pausing and unpausing the tapdisk that was found. -/
theorem safe_relog {target : String} (hstage : Stage base snap (fun metadata' t =>
      metadata' = metadata ∧ (logBits t.world base gen).isSome = true) t)
    (hown : Whole t.line → target = base) :
    Safe (faulty base) (fun _ => Stage base snap (Swapped base metadata gen)) (fun _ => Steady base)
      (Cbtlog.relog target base gen) t := by
  have hreached : Reached base fun metadata' t =>
      (metadata' = metadata ∧ (logBits t.world base gen).isSome = true) ∧
        (Whole t.line → target = base) :=
    ⟨fun m t t' h hframe => ⟨reached_log.frame m t t' h.1 hframe,
        fun hwhole => h.2 (hframe.line ▸ hwhole)⟩,
      fun m t snap h =>
        ⟨reached_log.mark m t snap h.1, fun hwhole => h.2 (whole_of_markFailed hwhole)⟩⟩
  have hmode := hreached.steady snap
  obtain ⟨img, live, hmaking, hlog⟩ := hstage
  have hstage : Stage base snap (fun metadata' t =>
      (metadata' = metadata ∧ (logBits t.world base gen).isSome = true) ∧
        (Whole t.line → target = base)) t := ⟨img, live, hmaking, hlog, hown⟩
  refine Prog.safe_bind ((hmode.safe_map _ hstage).mono (fun _ t hstage => ?_) fun _ _ h => h)
  refine Prog.safe_bind (hmode.safe_call rfl (fun _ => rfl) hstage fun t _ w hstage heffect => ?_)
  have hstage := hmode.frame _ _ hstage (frame_of_pause heffect)
  refine hmode.safe_call rfl (fun _ => rfl) hstage fun t _ w hstage heffect => ?_
  obtain ⟨img, live, hmaking, hlog, hown⟩ := hstage
  exact swapped_of_unpause ⟨img, live, hmaking, hlog⟩ hown heffect

/-- The swap to the new log: where it returns, the tapdisk is on that log or a call has failed. -/
theorem safe_swapLog (hstage : Stage base snap (fun metadata' t =>
      metadata' = metadata ∧ (logBits t.world base gen).isSome = true) t) (oldGen : Option String) :
    Safe (faulty base) (fun _ => Stage base snap (Swapped base metadata gen)) (fun _ => Steady base)
      (Cbtlog.swapLog base oldGen gen) t := by
  refine Prog.safe_bind ((safe_tapRunning hstage).mono (fun running t hfound => ?_) fun _ _ h => h)
  obtain ⟨hstage, hfound⟩ := hfound
  cases running with
  | none =>
      obtain ⟨img, live, hmaking, hmeta, hsome⟩ := hstage
      refine ⟨img, live, hmaking, hmeta, hsome, fun hwhole tap htap => ?_⟩
      obtain heq | ⟨-, hnone⟩ := hfound hwhole
      · cases heq
      · rw [hnone] at htap
        cases htap
  | some target =>
      have hown : Whole t.line → target = base := fun hwhole => by
        obtain heq | ⟨heq, -⟩ := hfound hwhole
        · exact Option.some.inj heq
        · cases heq
      refine Prog.safe_bind ((safe_relog hstage hown).mono (fun _ t hstage => ?_) fun _ _ h => h)
      cases oldGen with
      | none => exact hstage
      | some old =>
          dsimp only
          split
          · exact hstage
          · exact (reached_swapped.steady snap).safe_unmap (Cbtlog.companionName_ne base old) hstage

/-- The update of the metadata seals the log of the capture to the snapshot and records the new
one. -/
theorem Making.record {img' : Image} (hmaking : Making base snap t img live) (hgen : gen ≠ "")
    (hsome : (logBits t.world base gen).isSome = true) (hon : Whole t.line → On base t gen)
    (hlookup : ∀ key, img'.metadata.lookup key =
      (sealedMeta img.metadata snap live gen).lookup key)
    (hsnaps : img'.snapshots = img.snapshots) :
    Steady base { t with world := { t.world with images := t.world.images.insert base img' } } := by
  have hfiled := hmaking.filed
  obtain ⟨front, p, hline, rfl, hchain, hapart, hlog⟩ := hmaking.line
  have hsame : SameCbt (sealedMeta img.metadata p.snap live gen) img'.metadata :=
    fun key _ => hlookup key
  have hsealed : ∀ snap, sealedGen img'.metadata snap =
      if snap = p.snap then some live else sealedGen img.metadata snap :=
    fun snap => (hsame.sealedGen snap).trans (sealedGen_sealedMeta snap)
  refine ⟨img', gen, ⟨AList.lookup_insert _, ?_, hsame.liveGen.trans liveGen_sealedMeta,
    ⟨fun snap gen' hgen' => ?_, hgen, ?_⟩, hfiled.taps, hfiled.bare, hfiled.unlogged, ?_⟩, ?_,
    fun _ => hon⟩
  · rw [hsame.isTapdisk, isTapdisk_sealedMeta]
    exact hfiled.tapdisk
  · rw [logBits_insert_base]
    rw [hsealed] at hgen'
    split at hgen'
    · cases hgen'
      exact hfiled.readable.live
    · exact hfiled.readable.sealed snap gen' hgen'
  · rw [logBits_insert_base]
    exact hsome
  · rw [hsnaps]
    exact hfiled.kept
  · -- The snapshots before this one keep their logs, since none of them that counts has its name.
    rw [hline]
    refine List.isChain_append.mpr ⟨?_, List.isChain_singleton _, ?_⟩
    · refine hchain.imp_of_mem_imp fun q r _ hr hlinked hqok hrok => ?_
      rw [hsealed, if_neg (hapart r hr hrok)]
      exact hlinked hqok hrok
    · intro q hq r hr hqok hrok
      cases hr
      have hne : front ≠ [] := fun hnil => by simp [hnil] at hq
      refine ⟨live, hlog hne (fun q' hq' => ?_) hrok, ?_⟩
      · cases Option.mem_unique hq hq'
        exact hqok
      · rw [hsealed, if_pos rfl]

/-- The rotation and the update of the metadata after it. -/
theorem leads_rotateLog {metadata₁ : Dict} (hsame : SameCbt metadata metadata₁)
    (hstage : Stage base snap (fun metadata' _ => metadata' = metadata₁) t) (size : Nat) :
    Leads base (rotateLog base snap metadata size) t := by
  obtain ⟨img, live, hmaking, hmeta⟩ := hstage
  have htapdisk : Cbtlog.isTapdisk metadata = true := by
    rw [← hsame.isTapdisk, ← hmeta]
    exact hmaking.filed.tapdisk
  have hlive : liveGen metadata = some live := by
    rw [← hsame.liveGen, ← hmeta]
    exact hmaking.filed.recorded
  have hstage : Stage base snap (fun metadata' _ => metadata' = metadata₁) t :=
    ⟨img, live, hmaking, hmeta⟩
  rw [rotateLog, if_pos htapdisk]
  have hrotate : Safe (faulty base) (fun updates t => ∃ gen, gen ≠ "" ∧
        updates = [(Cbtlog.snapKey snap, some live), (Cbtlog.kLive, some gen)] ∧
          Stage base snap (Swapped base metadata₁ gen) t) (fun _ => Steady base)
      (Cbtlog.rotate base snap metadata size) t := by
    refine Prog.safe_bind ((safe_createCompanion hstage size).mono (fun gen t hgen => ?_)
      fun _ _ h => h)
    obtain ⟨hgen, hstage⟩ := hgen
    refine Prog.safe_bind ((safe_swapLog hstage _).mono (fun _ t hstage => ?_) fun _ _ h => h)
    exact ⟨gen, hgen, by rw [hlive], hstage⟩
  refine Prog.safe_tryCatch (Prog.safe_bind ((hrotate.mono (fun updates t hrotated => ?_)
    fun _ _ h => h)))
  obtain ⟨gen, hgen, rfl, hstage⟩ := hrotated
  refine ((reached_swapped.steady snap).safe_rmw metadata₁ hstage ?_ ?_ ?_).mono (fun _ _ h => h)
    fun _ _ h => h
  · rintro t img ⟨img', live', hmaking, hswapped⟩ hfound
    cases hmaking.filed.found.symm.trans hfound
    exact hswapped.1
  · intro key hkey
    exact mem_insert_of_mem (mem_insert_of_mem (mem_toDesired hkey))
  · rintro t img₁ img' ⟨img₀, live', hmade, hmeta', hsome, hon⟩ hfound hlookup hsnaps
    cases hmade.filed.found.symm.trans hfound
    have heq : live' = live := by
      have hrecorded := hmade.filed.recorded
      rw [hmeta', hsame.liveGen, hlive] at hrecorded
      exact (Option.some.inj hrecorded).symm
    subst heq
    rw [← hmeta'] at hlookup
    refine hmade.record hgen hsome hon (fun key => ?_) hsnaps
    rw [hlookup key, sealedMeta, lookup_replaced]

/-- `Volume.snapshot`. -/
theorem leads_snapshot (sr : SrMeta) (hat : '@' ∉ base.toList) (hidle : Idle base t) :
    Leads base (VolOp.snapshot.prog sr base) t := by
  refine Prog.safe_bind ?_
  simp only [snapshot, Datapath.splitKey_base hat, Text.truthy, Bool.false_eq_true, if_false]
  refine Prog.safe_bind ((mode_idle.safe_uuid4 hidle).mono (fun snap t hidle => ?_) fun _ _ h => h)
  refine Prog.safe_bind ((safe_takeSnap hidle snap).mono (fun _ t hstage => ?_) fun _ _ h => h)
  refine Prog.safe_bind ((safe_readBase hstage).mono (fun read t hread => ?_) fun _ _ h => h)
  obtain ⟨size, metadata⟩ := read
  rcases hread with hstage | ⟨hempty, hsteady⟩
  · refine Prog.safe_bind ((safe_seedNames hstage).mono (fun _ t hseed => ?_) fun _ _ h => h)
    obtain ⟨metadata₁, hsame, hstage⟩ := hseed
    exact Prog.safe_bind ((leads_rotateLog hsame hstage size).mono (fun _ _ h => h) fun _ _ h => h)
  · -- The base could not be read: nothing is seeded, and no log is rotated.
    cases hempty
    exact hsteady

/-- A custom key of a snapshot. -/
theorem leads_set (sr : SrMeta) (hat : '@' ∉ base.toList) (hsteady : Steady base t)
    (snap k v : String) : Leads base ((VolOp.set snap k v).prog sr base) t := by
  obtain ⟨img, live, hfiled, hchain, hon⟩ := hsteady
  simp only [VolOp.prog, set, splitKey_snapKey hat]
  refine mode_steadyAs.safe_rmw img.metadata ⟨img, live, hfiled, hchain, hon, rfl⟩ ?_ ?_ ?_
  · rintro t img' ⟨img₀, live, hfiled, _, _, hmeta⟩ hfound
    cases hfiled.found.symm.trans hfound
    exact hmeta
  · intro key hkey
    exact mem_insert_of_mem (mem_toDesired hkey)
  · rintro t img₁ img' ⟨img₀, live, hfiled, hchain, hon, hmeta⟩ hfound hlookup hsnaps
    cases hfiled.found.symm.trans hfound
    rw [← hmeta] at hlookup
    have hsame : SameCbt img₁.metadata img'.metadata := by
      refine sameCbt_of_lookup (fun m => m.insert ((metaNames (some snap)).2.2 ++ k) (some v))
        (fun m key hkey => AList.lookup_insert_ne ?_) hlookup
      simp only [metaNames, String.append_assoc]
      exact ne_of_startsWith hkey
    exact ⟨img', live, hfiled.rewrite hsame hsnaps, isChain_rewrite hsame hchain, hon⟩

end Operations

section Promises

variable {base live : String} {t : Traced} {img : Image} {metadata : Dict}

/-- Along snapshots that did not fail, each one after the first has its log sealed to it. -/
theorem sealed_of_chain {p : Part} {rest : List Part}
    (hchain : (p :: rest).IsChain (Linked base metadata))
    (hok : ∀ x ∈ p :: rest, x.failed = false) :
    ∀ x ∈ rest, ∃ gen, x.log = some (companionName base gen) ∧
    sealedGen metadata x.snap = some gen := by
  induction rest generalizing p with
  | nil => exact fun x hx => nomatch hx
  | cons q rest ih =>
      obtain ⟨hlinked, hrest⟩ := List.isChain_cons_cons.mp hchain
      intro x hx
      rcases List.mem_cons.mp hx with rfl | hx
      · exact hlinked (hok p List.mem_cons_self) (hok x (List.mem_cons_of_mem _ List.mem_cons_self))
      · exact ih hrest (fun y hy => hok y (List.mem_cons_of_mem _ hy)) x hx

/-- The log of a generation marks what the image of its name does. -/
theorem marked_of_markedIn {w : World} {gen : String} {blk : Nat}
    (h : blk ∈ markedIn w (some (companionName base gen))) : blk ∈ marked w base gen := by
  obtain ⟨name, img, bitmap, hname, hfound, hlog, hbit⟩ := h
  cases hname
  refine ⟨bitmap, ?_, hbit⟩
  rw [logBits, hfound]
  exact hlog

/-- Every log that the metadata records can be read. -/
theorem Filed.logs (hfiled : Filed base t img live) {fromSnap toSnap : Option String} {gen : String}
    (hgen : gen ∈ Cbtlog.gensBetween img.metadata fromSnap toSnap) :
    (logBits t.world base gen).isSome = true := by
  rcases of_mem_gensBetween hgen with ⟨snap, hsnap⟩ | hlive
  · exact (hfiled.readable.sealed snap gen hsnap).2
  · cases hfiled.recorded.symm.trans hlive
    exact hfiled.readable.live.2

/-- In a sound interval nothing was written without a log. -/
theorem Filed.none_unlogged (hfiled : Filed base t img live) {front rest : List Part} {p : Part}
    {parts : List Part} (hline : t.line = front ++ p :: rest)
    (hsound : Sound base t front.length (p :: parts)) (n blk : Nat) (hmem : (n, blk) ∈ t.unlogged) :
    n ≤ front.length := by
  by_contra hlate
  have hok := hsound.whole p List.mem_cons_self
  by_cases hfirst : n = front.length + 1
  · exact hsound.logged blk (hfirst ▸ hmem)
  · -- Written after the next capture: the tapdisk had no log though `p` did not fail.
    have hfailed := (hfiled.unlogged n blk hmem).2 p (by
      rw [hline, List.take_append, List.mem_append]
      refine .inr ?_
      obtain ⟨k, hk⟩ : ∃ k, n - 1 - front.length = k + 1 := ⟨n - 2 - front.length, by omega⟩
      rw [hk, List.take_succ_cons]
      exact List.mem_cons_self)
    rw [hok] at hfailed
    cases hfailed

/-- **The invariant makes the answers complete.** -/
theorem promise_of_steady (hat : '@' ∉ base.toList) (hsteady : Steady base t) :
    Promise Read (Sound base) base t := by
  obtain ⟨img, live, hfiled, hchain, hon⟩ := hsteady
  -- A sealed log of the interval is among those that the query reads.
  have hread : ∀ (p x : Part) (parts : List Part) (toSnap : Option String),
      timesGrow base t.world (p :: parts) → x ∈ parts →
      (Text.truthy toSnap = true →
        ¬snapTime img.metadata toSnap < snapTime img.metadata (some x.snap)) →
      ∀ gen, sealedGen img.metadata x.snap = some gen →
        gen ∈ Cbtlog.gensBetween img.metadata (some p.snap) toSnap := by
    intro p x parts toSnap htimes hx hto gen hgen
    have hfrom := (List.pairwise_cons.mp (htimes img hfiled.found)).1 x hx
    exact mem_gensBetween hgen (hfiled.readable.sealed _ _ hgen).1 hfrom hto
  refine ⟨?_, ?_⟩
  · intro front mid back p q hline hsound
    obtain ⟨htimes, hok, -⟩ := id hsound
    have hinterval : (p :: (mid ++ [q])).IsChain (Linked base img.metadata) := by
      refine hchain.infix ⟨front, back, ?_⟩
      simp [hline]
    refine answered_of_gens hfiled.found hfiled.tapdisk (splitKey_snapKey hat p.snap)
      (splitKey_snapKey hat q.snap) (fun gen hgen => hfiled.logs hgen) ?_
    intro blk hblk
    rcases hblk with ⟨log, hlog, hmarked⟩ | ⟨n, hmem, hlate, -⟩
    · obtain ⟨x, hx, rfl⟩ := List.mem_map.mp hlog
      obtain ⟨gen, hgen, hsealed⟩ := sealed_of_chain hinterval hok x hx
      rw [hgen] at hmarked
      refine ⟨gen, hread p x _ _ htimes hx (fun _ => ?_) gen hsealed, marked_of_markedIn hmarked⟩
      -- No snapshot of the interval is later than its end.
      have hgrow :=
        (List.pairwise_append.mp (List.pairwise_cons.mp (htimes img hfiled.found)).2).2.2
      rcases List.mem_append.mp hx with hx | hx
      · exact lt_asymm (hgrow x hx q List.mem_cons_self)
      · rw [List.mem_singleton.mp hx]
        exact lt_irrefl _
    · exact absurd (hfiled.none_unlogged hline hsound n blk hmem) (Nat.not_le.mpr hlate)
  · intro front back p hline hsound
    obtain ⟨htimes, hok, -⟩ := id hsound
    have hinterval : (p :: back).IsChain (Linked base img.metadata) := by
      refine hchain.suffix ⟨front, ?_⟩
      rw [hline]
    have hwhole : Whole t.line := by
      intro x hx
      refine hok x ?_
      rw [hline, List.getLast?_append_of_ne_nil _ (List.cons_ne_nil _ _)] at hx
      exact List.mem_of_getLast? hx
    have hlive : inEffect base t.world = some (companionName base live) := by
      unfold inEffect
      split
      · rename_i tap htap
        exact hon (by simp [hline]) hwhole tap htap
      · rw [hfiled.found, Option.bind_some, hfiled.recorded]
        rfl
    refine answered_of_gens hfiled.found hfiled.tapdisk (splitKey_snapKey hat p.snap)
      (Datapath.splitKey_base hat) (fun gen hgen => hfiled.logs hgen) ?_
    intro blk hblk
    rcases hblk with ⟨log, hlog, hmarked⟩ | ⟨n, hmem, hlate, -⟩
    · rcases List.mem_append.mp hlog with hlog | hlog
      · obtain ⟨x, hx, rfl⟩ := List.mem_map.mp hlog
        obtain ⟨gen, hgen, hsealed⟩ := sealed_of_chain hinterval hok x hx
        rw [hgen] at hmarked
        exact ⟨gen, hread p x _ none htimes hx nofun gen hsealed, marked_of_markedIn hmarked⟩
      · rw [List.mem_singleton.mp hlog, hlive] at hmarked
        exact ⟨live, live_mem_gensBetween hfiled.recorded hfiled.readable.live.1,
          marked_of_markedIn hmarked⟩
    · exact absurd (hfiled.none_unlogged hline hsound n blk hmem) (Nat.not_le.mpr hlate)

end Promises

section Runs

variable {sr : SrMeta} {base live : String} {w : World} {img : Image} {s s' final : State}
  {acts : List Act}

/-- The operation under way leads back to the invariant. -/
def State.Leads (base : String) (s : State) : Prop := Answers.Leads base s.prog s.site

/-- When no operation is under way, the invariant holds. -/
theorem State.Leads.ended (h : s.Leads base) (hidle : s.prog.finished = true) :
    Steady base s.site := by
  obtain ⟨site, prog⟩ := s
  cases prog with
  | ret value => exact h
  | raise error => exact h
  | call c resume => cases hidle

/-- Every step leads on. -/
theorem leads_step (hat : '@' ∉ base.toList) {act : Act} (h : s.Leads base)
    (hact : act.snapshots = true) (hstep : State.step sr base s act = some s') : s'.Leads base := by
  cases act with
  | begin op =>
      simp only [State.step, Option.ite_none_right_eq_some, Option.some.injEq] at hstep
      obtain ⟨hidle, rfl⟩ := hstep
      have hsteady : Steady base { s.site with making := none } := by
        obtain ⟨img, live, hfiled, hchain, hon⟩ := h.ended hidle
        exact ⟨img, live, { hfiled with }, hchain, hon⟩
      cases op with
      | snapshot => exact leads_snapshot sr hat ⟨hsteady, rfl⟩
      | set snap k v => exact leads_set sr hat hsteady snap k v
      | destroy snap => cases hact
      | revert snap => cases hact
      | resize newSize => cases hact
  | call choice =>
      obtain ⟨⟨prog, site⟩, hnext, rfl⟩ := Option.map_eq_some_iff.mp hstep
      exact Safe.next h (fun _ _ => trivial) hnext
  | write off data =>
      obtain ⟨site, hwrite, rfl⟩ := Option.map_eq_some_iff.mp hstep
      exact Safe.move h ⟨off, data, hwrite⟩ (fun _ => mode_steady.stable)
        fun _ => mode_steady.stable

/-- The invariant holds when tracking has just been enabled. -/
theorem steady_of_tracking (h : Tracking base w img live) : Steady base { world := w } := by
  refine ⟨img, live,
    ⟨h.found, h.tapdisk, h.recorded, ⟨fun snap gen hgen => ?_, h.named, h.readable⟩,
    fun tap htap => ⟨(h.tap tap htap).1, (h.tap tap htap).2.imp id fun hlog => ⟨live, hlog⟩⟩,
    fun _ _ _ _ hp => (nomatch hp), fun _ _ hmem => (nomatch hmem), fun p hp => nomatch hp⟩,
    List.isChain_nil, fun hne => absurd rfl hne⟩
  rw [sealedGen_eq_none h.unsealed] at hgen
  cases hgen

/-- **Answers are complete or refused.** In every run from a base on which tracking has just been
enabled, of snapshots and custom keys in which any call may fail, with guest writes between any two
calls: whenever no operation is under way, `list_changed_blocks` of two snapshots, or of a snapshot
and the head, raises or has every bit of every log of the interval and every block that was written
in it without a log, if the interval is sound and no read of the query fails. -/
theorem answers_complete (hat : '@' ∉ base.toList) (htracking : Tracking base w img live)
    (hacts : ∀ act ∈ acts, act.snapshots = true)
    (hrun : Run.run (State.step sr base) (State.start w) acts = some final)
    (hidle : final.prog.finished = true) :
    Promise Read (Sound base) base final.site := by
  have hallowed : Run.Along (State.step sr base) (fun _ act => act.snapshots = true)
      (State.start w) acts := Run.along_of_forall hacts
  have hinit : (State.start w).Leads base := steady_of_tracking htracking
  have hleads : final.Leads base := Run.run_invariant
    (fun _ _ _ h hact hstep => leads_step hat h hact hstep) hinit hallowed hrun
  exact promise_of_steady hat (hleads.ended hidle)

end Runs

/-- The time of a snapshot is set. -/
def timed (snap time : String) : List Act := .begin (.set snap "snapshot_time" time) :: calls 3

/-- A snapshot up to the last call of its rotation's update. -/
def unrecorded (snap gen : String) : List Act :=
  [.begin .snapshot, .call (.fresh snap)] ++ calls 3 ++ [.call (.fresh gen)] ++ calls 13

/-- A snapshot in which the PUT of the update fails, and its time. -/
def failedSnapshot (snap gen time : String) : List Act :=
  unrecorded snap gen ++ .call (.fail (.other "no answer")) :: timed snap time

/-- The generation after the second. -/
def thirdGen : String := "222222222222"

/-- The name of a third snapshot. -/
def thirdSnap : String := "22222222-2222-2222-2222-222222222222"

/-- The disk of eight blocks, whose tapdisk could not be moved to the log. -/
def bareDisk : World := { trackedDisk with taps := AList.singleton "vdi" {} }

/-- Tracking has just been enabled on it. -/
theorem tracking_bareDisk : Tracking "vdi" bareDisk eightBlocks firstGen where
  found := rfl
  tapdisk := by decide
  recorded := by decide
  unsealed := by decide
  named := by decide
  readable := by decide
  tap := by
    intro tap htap
    cases htap
    exact ⟨by decide, .inl rfl⟩

/-- A write to the second block between two snapshots of the given times. -/
def twoSnapshots (time time' : String) : List Act :=
  snapshotWith firstSnap secondGen time [] [] ++
    .write 65536 [1] :: snapshotWith secondSnap thirdGen time' [] []

/-- A write without a log, a snapshot whose rotation fails, and two that do not. -/
def afterFailure : List Act :=
  .write 0 [1] :: failedSnapshot thirdSnap "333333333333" "0" ++ twoSnapshots "1" "2"

/-- The interval of the two later snapshots is sound, and the answers over it are complete. -/
theorem answers_complete_after : ∃ final,
    Run.run (State.step tapdiskSr "vdi") (State.start bareDisk) afterFailure = some final ∧
      final.site.unlogged = [(0, 0)] ∧ final.site.line.map Part.failed = [true, false, false] ∧
      Sound "vdi" final.site 1 (final.site.line.drop 1) ∧
      Promise Read (Sound "vdi") "vdi" final.site := by
  have hrun : (Run.run (State.step tapdiskSr "vdi") (State.start bareDisk)
      afterFailure).any (fun s => s.prog.finished && decide (s.site.unlogged = [(0, 0)]) &&
        decide (s.site.line.map Part.failed = [true, false, false]) &&
        decide (timesGrow "vdi" s.site.world (s.site.line.drop 1))) = true := by
    decide +kernel
  obtain ⟨final, hrun, htest⟩ := (Option.any_eq_true _ _).mp hrun
  simp only [Bool.and_eq_true, decide_eq_true_eq] at htest
  obtain ⟨⟨⟨hidle, hunlogged⟩, hline⟩, htimes⟩ := htest
  refine ⟨final, hrun, hunlogged, hline, ⟨htimes, fun p hp => ?_, fun blk hmem => ?_⟩,
    answers_complete (by decide) tracking_bareDisk (by decide) hrun hidle⟩
  · have hmem : p.failed ∈ (final.site.line.map Part.failed).drop 1 := by
      rw [← List.map_drop]
      exact List.mem_map_of_mem hp
    simpa [hline] using hmem
  · simp [hunlogged] at hmem

/-- A query between the two snapshots that there are answers without the bit of a block that the log
of the second one marks, or that was written between them without a log. -/
def lacks (base : String) (blk : Nat) (choices : List Choice) (t : Traced) : Bool :=
  match t.line, t.world.images.lookup base with
  | [p, q], some img =>
      decide (blk < numBlocks img.size) &&
        (((q.log.bind t.world.images.lookup).bind Image.log).any (fun log => bit log.bitmap blk) ||
          decide ((1, blk) ∈ t.unlogged)) &&
        match Run.run ask
          (listChangedBlocks false (snapKey base p.snap) (snapKey base q.snap) 0 (-1),
            t.world) choices with
        | some (.ret answer, _) => !bit (Base64.decode answer.bitmap) blk
        | _ => false
  | _, _ => false

/-- Then the answers are not complete. -/
theorem not_promise_of_lacks {guard : Op ChangedBlocks × World → Choice → Prop}
    {good : Traced → Nat → List Part → Prop} {base : String} {blk : Nat} {choices : List Choice}
    {t : Traced} (h : lacks base blk choices t = true) (hgood : good t 0 t.line)
    (hguard : ∀ query, Run.Along ask guard (query, t.world) choices) :
    ¬Promise guard good base t := by
  intro hpromise
  unfold lacks at h
  split at h
  · rename_i p q img hline hfound
    simp only [Bool.and_eq_true, decide_eq_true_eq] at h
    obtain ⟨⟨hblk, hwritten⟩, hanswer⟩ := h
    have hsnapshot := hpromise.snapshot [] [] [] p q hline (by simpa [hline] using hgood)
    split at hanswer
    · rename_i answer after hrun
      have hin : blk ∈ t.changed 0 1 (([] ++ [q]).map Part.log) := by
        obtain hmarked | hunlogged := Bool.or_eq_true_iff.mp hwritten
        · obtain ⟨log, hlog, hbit⟩ := (Option.any_eq_true _ _).mp hmarked
          obtain ⟨img', himg', hlog⟩ := Option.bind_eq_some_iff.mp hlog
          obtain ⟨name, hname, himg'⟩ := Option.bind_eq_some_iff.mp himg'
          refine .inl ⟨q.log, by simp, name, img', log.bitmap, hname, himg', ?_, hbit⟩
          rw [hlog]
          rfl
        · exact .inr ⟨1, of_decide_eq_true hunlogged, by omega, by omega⟩
      have hrequested : blk ∈ requested img.size 0 (-1) := by
        refine ⟨by simp, hblk, ?_⟩
        simpa [clampLength, numBlocks] using hblk
      have hbit := hsnapshot false 0 (-1) choices answer after hrun (hguard _) img hfound blk hin
        hrequested
      simp only [Nat.zero_div, Nat.sub_zero] at hbit
      simp [hbit] at hanswer
    · cases hanswer
  · cases h

/-- A query whose only read fails. -/
def unread : List Choice := [.ok, .fail (.other "cannot map")]

/-- The second of two snapshots is not recorded. -/
def unrecordedSnapshot : List Act :=
  snapshotWith firstSnap secondGen "1" [] [] ++
    .write 65536 [1] :: failedSnapshot secondSnap thirdGen "2"

/-- Before the first of two snapshots moves the tapdisk to a log, the guest writes to the second
block. -/
def bareSnapshots : List Act :=
  snapshotWith firstSnap secondGen "1" [.write 65536 [1]] [] ++
    snapshotWith secondSnap thirdGen "2" [] []

/-- What a run on which the answers lack a block has to show. -/
theorem lacks_of_run (choices : List Choice) (test : Traced → Bool) {w : World} {acts : List Act}
    {guard : Op ChangedBlocks × World → Choice → Prop} {good : Traced → Nat → List Part → Prop}
    (h : (Run.run (State.step tapdiskSr "vdi") (State.start w) acts).any (fun s =>
      s.prog.finished && test s.site && lacks "vdi" 1 choices s.site) = true)
    (hgood : ∀ t, test t = true → good t 0 t.line)
    (hguard : ∀ query, Run.Along ask guard query choices) :
    ∃ final, Run.run (State.step tapdiskSr "vdi") (State.start w) acts = some final ∧
      final.prog.finished = true ∧ ¬Promise guard good "vdi" final.site := by
  obtain ⟨final, hrun, htest⟩ := (Option.any_eq_true _ _).mp h
  simp only [Bool.and_eq_true] at htest
  obtain ⟨⟨hidle, htest⟩, hlacks⟩ := htest
  exact ⟨final, hrun, hidle, not_promise_of_lacks hlacks (hgood _ htest) fun _ => hguard _⟩

/-- A query passes over a log that it cannot read, though the interval is sound; and where no read
fails, a query passes over what was written in an interval one of whose snapshots failed, at whose
start the tapdisk had no log, or whose recorded times are equal. -/
theorem answers_lack :
    (∃ final, Run.run (State.step tapdiskSr "vdi") (State.start trackedDisk)
        (twoSnapshots "1" "2") = some final ∧ final.prog.finished = true ∧
      ¬Promise (fun _ _ => True) (Sound "vdi") "vdi" final.site) ∧
    (∃ final, Run.run (State.step tapdiskSr "vdi") (State.start trackedDisk) unrecordedSnapshot =
        some final ∧ final.prog.finished = true ∧
      ¬Promise Read (fun t first parts => timesGrow "vdi" t.world parts ∧
        ∀ blk, (first + 1, blk) ∉ t.unlogged) "vdi" final.site) ∧
    (∃ final, Run.run (State.step tapdiskSr "vdi") (State.start bareDisk) bareSnapshots =
        some final ∧ final.prog.finished = true ∧
      ¬Promise Read (fun t _ parts => timesGrow "vdi" t.world parts ∧
        ∀ p ∈ parts, p.failed = false) "vdi" final.site) ∧
    ∃ final, Run.run (State.step tapdiskSr "vdi") (State.start trackedDisk)
        (twoSnapshots "1" "1") = some final ∧ final.prog.finished = true ∧
      ¬Promise Read (fun t first parts => (∀ p ∈ parts, p.failed = false) ∧
        ∀ blk, (first + 1, blk) ∉ t.unlogged) "vdi" final.site := by
  have hguard : ∀ n query, Run.Along ask Read query (List.replicate n .ok) := by
    intro n query
    have hall : Run.Along ask (fun _ choice => NoFail choice) query (List.replicate n .ok) :=
      Run.along_of_forall fun choice hchoice => by
        cases List.eq_of_mem_replicate hchoice
        trivial
    exact hall.mono fun _ _ => .inl
  have hnil : ∀ t : Traced, t.unlogged = [] → ∀ blk, (0 + 1, blk) ∉ t.unlogged :=
    fun t h blk hmem => by simp [h] at hmem
  -- each run breaks one of the conditions and meets the others
  refine ⟨lacks_of_run unread (fun t =>
      decide (timesGrow "vdi" t.world t.line) && decide (∀ p ∈ t.line, p.failed = false) &&
        decide (t.unlogged = [])) (by decide +kernel) (fun t h => ?_)
      (fun _ => Run.along_true _ _),
    lacks_of_run (List.replicate 1 .ok) (fun t =>
      decide (timesGrow "vdi" t.world t.line) && decide (t.unlogged = [])) (by decide +kernel)
      (fun t h => ?_) (hguard _),
    lacks_of_run (List.replicate 4 .ok) (fun t =>
      decide (timesGrow "vdi" t.world t.line) && decide (∀ p ∈ t.line, p.failed = false))
      (by decide +kernel) (fun t h => ?_) (hguard _),
    lacks_of_run (List.replicate 1 .ok) (fun t =>
      decide (∀ p ∈ t.line, p.failed = false) && decide (t.unlogged = [])) (by decide +kernel)
      (fun t h => ?_) (hguard _)⟩
  all_goals simp only [Bool.and_eq_true, decide_eq_true_eq] at h
  · exact ⟨h.1.1, h.1.2, hnil t h.2⟩
  · exact ⟨h.1, hnil t h.2⟩
  · exact h
  · exact ⟨h.1, hnil t h.2⟩

end XcpCephRbd.Volume.Answers
