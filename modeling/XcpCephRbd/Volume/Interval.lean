import XcpCephRbd.Lib.Run
import XcpCephRbd.Volume.Rotation

/-!
# The interval that `gens_between` selects

Snapshots of a base sealed one after the other by `cbtlog.rotate`, with any other writes to the
image-meta in between, among them those that record a snapshot's time. `gens_between` tells the
order of the snapshots from these times: it takes a log whose time lies above that of the first
snapshot, and one that was not recorded counts as the least. The whole interval is selected exactly
where the times are strictly increasing in the order of the snapshots.
-/

namespace XcpCephRbd.Volume.Interval

open Cbtlog (gensBetween kLive liveGen sealedGen snapPrefix snapTime)
open Text (startsWith)

/-- The image-meta of a base, and the snapshots sealed so far, each with the generation of its
log. -/
structure Line where
  metadata : Dict
  snaps : List (String × String) := []

/-- What happens to the image-meta. -/
inductive Event where
  /-- `rotate` at the snapshot `snap`, on to the new generation `newGen` -/
  | rotate (snap newGen : String)
  /-- any write that leaves the keys of the logs alone; `none` removes the key -/
  | edit (key : String) (value : Option String)
  deriving DecidableEq, Repr

/-- One event. A snapshot has a new name, and the companion image of its generation did not
exist. -/
def Line.step (line : Line) : Event → Option Line
  | .rotate snap newGen =>
      if snap = "" ∨ snap ∈ line.snaps.map Prod.fst ∨ newGen = "" ∨
          liveGen line.metadata = some newGen ∨ newGen ∈ line.snaps.map Prod.snd then none
      else
        (liveGen line.metadata).map fun gen =>
          { metadata := sealedMeta line.metadata snap gen newGen
            snaps := line.snaps ++ [(snap, gen)] }
  | .edit key value =>
      if key = kLive ∨ startsWith key snapPrefix then none
      else
        some { line with
          metadata := match value with
            | some value => line.metadata.insert key value
            | none => line.metadata.erase key }

/-- Tracking was just enabled: there is a live log and none is sealed. -/
structure Enabled (metadata : Dict) : Prop where
  live : ∃ gen, liveGen metadata = some gen ∧ gen ≠ ""
  none_sealed : ∀ snap, sealedGen metadata snap = none

/-- What the image-meta says of the snapshots. -/
structure Recorded (line : Line) (live : String) : Prop where
  recorded : liveGen line.metadata = some live
  live_ne : live ≠ ""
  sealed : ∀ snap gen, sealedGen line.metadata snap = some gen ↔ (snap, gen) ∈ line.snaps
  ne : ∀ entry ∈ line.snaps, entry.1 ≠ "" ∧ entry.2 ≠ "" ∧ entry.2 ≠ live
  snaps : (line.snaps.map Prod.fst).Nodup
  gens : (line.snaps.map Prod.snd).Nodup

/-- The time of a snapshot, empty where none is recorded. -/
def time (metadata : Dict) (entry : String × String) : String := snapTime metadata (some entry.1)

/-- For every two snapshots the logs between them are selected, and for every snapshot those after
it and the live one. -/
def Whole (line : Line) : Prop :=
  ∀ (i : Nat) (a : String × String), line.snaps[i]? = some a →
    (∀ (j : Nat) (b : String × String), i < j → line.snaps[j]? = some b →
      ∀ (k : Nat) (c : String × String), i < k → k ≤ j → line.snaps[k]? = some c →
        c.2 ∈ gensBetween line.metadata (some a.1) (some b.1)) ∧
    (∀ (k : Nat) (c : String × String), i < k → line.snaps[k]? = some c →
      c.2 ∈ gensBetween line.metadata (some a.1) none) ∧
    ∀ gen, liveGen line.metadata = some gen → gen ∈ gensBetween line.metadata (some a.1) none

/-- The times are strictly increasing in the order of the snapshots. -/
def Increasing (line : Line) : Prop :=
  line.snaps.Pairwise fun a b => time line.metadata a < time line.metadata b

instance (line : Line) : Decidable (Increasing line) :=
  inferInstanceAs (Decidable (line.snaps.Pairwise _))

section

variable {line line' : Line} {live : String}

theorem recorded_of_enabled {metadata : Dict} (h : Enabled metadata) :
    ∃ live, Recorded { metadata := metadata } live := by
  obtain ⟨gen, hlive, hne⟩ := h.live
  refine ⟨gen, hlive, hne, fun snap gen => ?_, nofun, List.nodup_nil, List.nodup_nil⟩
  simp [h.none_sealed snap]

/-- A write to a key that is not one of the logs' changes nothing of what is recorded. -/
theorem Recorded.edit {metadata : Dict} (h : Recorded line live)
    (hlookup : ∀ key, key = kLive ∨ startsWith key snapPrefix = true →
      metadata.lookup key = line.metadata.lookup key) :
    Recorded { line with metadata := metadata } live := by
  refine ⟨?_, h.live_ne, fun snap gen => ?_, h.ne, h.snaps, h.gens⟩
  · exact (hlookup kLive (.inl rfl)).trans h.recorded
  · have hsame : sealedGen metadata snap = sealedGen line.metadata snap :=
      hlookup _ (.inr (Text.startsWith_append _ _))
    show sealedGen metadata snap = some gen ↔ _
    rw [hsame]
    exact h.sealed snap gen

/-- Every event keeps what is recorded in step with the snapshots. -/
theorem Recorded.step {event : Event} (h : Recorded line live)
    (hstep : line.step event = some line') : ∃ live', Recorded line' live' := by
  cases event with
  | rotate snap newGen =>
      simp only [Line.step, Option.ite_none_left_eq_some, not_or, h.recorded, Option.map_some,
        Option.some.injEq] at hstep
      obtain ⟨⟨hsnap, hfresh, hgen, hlive, hunused⟩, rfl⟩ := hstep
      have hunsealed : ∀ gen, (snap, gen) ∉ line.snaps := fun gen hmem =>
        hfresh (List.mem_map_of_mem hmem)
      -- the live log is sealed to the snapshot and the new one takes its place
      refine ⟨newGen, ⟨liveGen_sealedMeta, hgen, fun snap' gen' => ?_, fun entry hentry => ?_, ?_,
        ?_⟩⟩
      · simp only [sealedGen_sealedMeta, List.mem_append, List.mem_singleton, Prod.mk.injEq]
        by_cases heq : snap' = snap
        · subst heq
          simp [hunsealed, eq_comm]
        · simp [heq, h.sealed]
      · obtain hold | hnew := List.mem_append.mp hentry
        · refine ⟨(h.ne entry hold).1, (h.ne entry hold).2.1, ?_⟩
          rintro rfl
          exact hunused (List.mem_map_of_mem hold)
        · rw [List.mem_singleton.mp hnew]
          exact ⟨hsnap, h.live_ne, hlive⟩
      · rw [List.map_append, List.nodup_append]
        refine ⟨h.snaps, List.nodup_singleton _, fun a ha b hb => ?_⟩
        rw [List.mem_singleton.mp hb]
        rintro rfl
        exact hfresh ha
      · rw [List.map_append, List.nodup_append]
        refine ⟨h.gens, List.nodup_singleton _, fun a ha b hb => ?_⟩
        rw [List.mem_singleton.mp hb]
        rintro rfl
        obtain ⟨entry, hentry, hlast⟩ := List.mem_map.mp ha
        exact (h.ne entry hentry).2.2 hlast
  | edit key value =>
      simp only [Line.step, Option.ite_none_left_eq_some, not_or, Option.some.injEq] at hstep
      obtain ⟨⟨hlive, hsnap⟩, rfl⟩ := hstep
      refine ⟨live, h.edit fun key' hkey' => ?_⟩
      have hne : key' ≠ key := by
        rintro rfl
        exact hkey'.elim hlive hsnap
      cases value with
      | some value => exact AList.lookup_insert_ne hne
      | none => exact AList.lookup_erase_ne hne

/-- What is recorded after any sequence of events. -/
theorem recorded_of_run {metadata : Dict} {events : List Event} (henabled : Enabled metadata)
    (hrun : Run.run Line.step { metadata := metadata } events = some line) :
    ∃ live, Recorded line live := by
  have hstep : ∀ (line : Line) (event : Event) (line' : Line), (∃ live, Recorded line live) →
      True → line.step event = some line' → ∃ live, Recorded line' live := by
    rintro line event line' ⟨live, h⟩ - hstep
    exact h.step hstep
  exact Run.run_invariant hstep (recorded_of_enabled henabled) (Run.along_true _ _) hrun

/-- A sealed log has the time of its snapshot. -/
theorem time_of_mem {metadata : Dict} {s : Cbtlog.Sealed} (h : s ∈ Cbtlog.sealedLogs metadata) :
    s.time = snapTime metadata (some s.snap) := by
  obtain ⟨entry, -, hs⟩ := List.mem_filterMap.mp h
  split at hs
  · cases hs
    rfl
  · cases hs

/-- A log that is selected between two snapshots lies after the first one in time. -/
theorem Recorded.lt_of_mem (h : Recorded line live) {a b c : String × String}
    (hc : c ∈ line.snaps)
    (hmem : c.2 ∈ gensBetween line.metadata (some a.1) (some b.1)) :
    time line.metadata a < time line.metadata c := by
  simp only [gensBetween] at hmem
  obtain ⟨s, hs, hgen⟩ := List.mem_map.mp hmem
  obtain ⟨hsealed, hrange⟩ := List.mem_filter.mp hs
  have hsealed := (List.mem_insertionSort _).mp hsealed
  have hsnap : (s.snap, s.gen) ∈ line.snaps := (h.sealed _ _).mp (sealedGen_of_mem hsealed)
  -- the log belongs to one snapshot only
  have heq : (s.snap, s.gen) = c := List.inj_on_of_nodup_map h.gens hsnap hc hgen
  have htime : s.time = time line.metadata c := by
    rw [← heq]
    exact time_of_mem hsealed
  simp only [Bool.and_eq_true, decide_eq_true_eq] at hrange
  rw [← htime]
  exact hrange.1.1

/-- The interval after a snapshot is selected as a whole where the times are increasing. -/
theorem Recorded.mem_of_increasing (h : Recorded line live) (hincreasing : Increasing line)
    {toSnap : Option String} {i k : Nat} {a c : String × String} (hik : i < k)
    (ha : line.snaps[i]? = some a) (hc : line.snaps[k]? = some c)
    (hto : Text.truthy toSnap = true →
      ¬snapTime line.metadata toSnap < snapTime line.metadata (some c.1)) :
    c.2 ∈ gensBetween line.metadata (some a.1) toSnap := by
  obtain ⟨hi, rfl⟩ := List.getElem?_eq_some_iff.mp ha
  obtain ⟨hk, rfl⟩ := List.getElem?_eq_some_iff.mp hc
  have hmem : line.snaps[k] ∈ line.snaps := List.getElem_mem hk
  refine mem_gensBetween ((h.sealed _ _).mpr hmem) (h.ne _ hmem).2.1 ?_ hto
  exact List.pairwise_iff_getElem.mp hincreasing i k hi hk hik

/-- **The interval of `gens_between`.** For the snapshots of a base sealed one after the other, with
whatever times recorded for them so far, the logs between any two, and those after any one up to the
live log, are all selected if and only if the times are strictly increasing in the order of the
snapshots, a time that is not recorded being the least. -/
theorem gens_between_whole_iff {metadata : Dict} {events : List Event} (henabled : Enabled metadata)
    (hrun : Run.run Line.step { metadata := metadata } events = some line) :
    Whole line ↔ Increasing line := by
  obtain ⟨live, h⟩ := recorded_of_run henabled hrun
  constructor
  · intro hwhole
    refine List.pairwise_iff_getElem.mpr fun i j hi hj hij => ?_
    have hlog := (hwhole i _ (List.getElem?_eq_getElem hi)).1 j _ hij (List.getElem?_eq_getElem hj)
      j _ hij (Nat.le_refl j) (List.getElem?_eq_getElem hj)
    exact h.lt_of_mem (List.getElem_mem hj) hlog
  · intro hincreasing i a ha
    refine ⟨fun j b hij hb k c hik hkj hc => ?_, fun k c hik hc => ?_, fun gen hgen => ?_⟩
    · refine h.mem_of_increasing hincreasing hik ha hc fun _ => ?_
      obtain rfl | hkj := Nat.eq_or_lt_of_le hkj
      · cases hb.symm.trans hc
        exact lt_irrefl _
      · obtain ⟨hk, rfl⟩ := List.getElem?_eq_some_iff.mp hc
        obtain ⟨hj, rfl⟩ := List.getElem?_eq_some_iff.mp hb
        exact lt_asymm (List.pairwise_iff_getElem.mp hincreasing k j hk hj hkj)
    · exact h.mem_of_increasing hincreasing hik ha hc fun htruthy => by cases htruthy
    · cases h.recorded.symm.trans hgen
      exact live_mem_gensBetween h.recorded h.live_ne

end

/-- The image-meta of a base just after `enable_cbt`. -/
def enabledMeta : Dict :=
  (((∅ : Dict).insert Cbtlog.kEnabled "1").insert Cbtlog.kMode Cbtlog.modeTapdisk).insert kLive
    "0a0000000000"

theorem enabled_enabledMeta : Enabled enabledMeta := by
  refine ⟨⟨"0a0000000000", rfl, by decide⟩, fun snap => ?_⟩
  have hne : ∀ key, startsWith key snapPrefix = false → Cbtlog.snapKey snap ≠ key :=
    fun key hkey => snapKey_ne hkey snap
  rw [sealedGen, enabledMeta, AList.lookup_insert_ne (hne _ (by decide)),
    AList.lookup_insert_ne (hne _ (by decide)), AList.lookup_insert_ne (hne _ (by decide))]
  rfl

/-- Two snapshots, `s1` and `s2`, sealed one after the other, with these times recorded. -/
def twoSnaps (first second : String) : List Event :=
  [.rotate "s1" "0b0000000000", .edit "snap.s1.k.snapshot_time" first,
    .rotate "s2" "0c0000000000", .edit "snap.s2.k.snapshot_time" second]

/-- Two snapshots a second apart: the interval is selected as a whole. -/
theorem gens_between_whole_apart :
    ∃ line, Run.run Line.step { metadata := enabledMeta }
      (twoSnaps "20240501T10:00:00Z" "20240501T10:00:01Z") = some line ∧ Whole line := by
  have hany : (Run.run Line.step { metadata := enabledMeta }
      (twoSnaps "20240501T10:00:00Z" "20240501T10:00:01Z")).any
        (fun line => decide (Increasing line)) = true := by
    decide +kernel
  obtain ⟨line, hrun, hincreasing⟩ := (Option.any_eq_true _ _).mp hany
  exact ⟨line, hrun,
    (gens_between_whole_iff enabled_enabledMeta hrun).mpr (of_decide_eq_true hincreasing)⟩

/-- Two snapshots of the same second, both recorded: the log sealed at the second one is missing
between them. -/
theorem gens_between_same_second :
    ∃ line, Run.run Line.step { metadata := enabledMeta }
        (twoSnaps "20240501T10:00:00Z" "20240501T10:00:00Z") = some line ∧
      line.snaps = [("s1", "0a0000000000"), ("s2", "0b0000000000")] ∧
      time line.metadata ("s1", "0a0000000000") = "20240501T10:00:00Z" ∧
      time line.metadata ("s2", "0b0000000000") = "20240501T10:00:00Z" ∧
      gensBetween line.metadata (some "s1") (some "s2") = [] ∧ ¬Whole line := by
  have hany : (Run.run Line.step { metadata := enabledMeta }
      (twoSnaps "20240501T10:00:00Z" "20240501T10:00:00Z")).any
        (fun line => decide (line.snaps = [("s1", "0a0000000000"), ("s2", "0b0000000000")] ∧
          time line.metadata ("s1", "0a0000000000") = "20240501T10:00:00Z" ∧
          time line.metadata ("s2", "0b0000000000") = "20240501T10:00:00Z" ∧
          gensBetween line.metadata (some "s1") (some "s2") = [])) = true := by
    decide +kernel
  obtain ⟨line, hrun, htest⟩ := (Option.any_eq_true _ _).mp hany
  obtain ⟨hsnaps, hfirst, hsecond, hgens⟩ := of_decide_eq_true htest
  refine ⟨line, hrun, hsnaps, hfirst, hsecond, hgens, fun hwhole => ?_⟩
  have hlog := (hwhole 0 ("s1", "0a0000000000") (by rw [hsnaps]; rfl)).1 1
    ("s2", "0b0000000000") (by decide) (by rw [hsnaps]; rfl) 1 ("s2", "0b0000000000") (by decide)
    (Nat.le_refl 1) (by rw [hsnaps]; rfl)
  rw [hgens] at hlog
  exact List.not_mem_nil hlog

end XcpCephRbd.Volume.Interval
