import XcpCephRbd.Volume.Rotation

/-!
# Snapshots of a running disk

Runs that start when changed-block tracking has just been enabled, in which snapshots are made and
get their times, while the guest writes between any two calls. `snapshot_complete`: when no write
changes the disk between a `snap_create` and the unpause of the tapdisk that follows it, and no
tapdisk of another image is taken for that of the base, `list_changed_blocks` is complete whenever
no operation is under way. `snapshot_misses_write` is a run with such a write, which neither the new
snapshot nor the log after it has.
-/

namespace XcpCephRbd.Volume

open Bitmap (Bytes bit)
open Cbtlog (companionName liveGen sealedGen)
open Datapath (SrMeta)

/-- Changed-block tracking has just been enabled on the base: the metadata records a live log that
can be read and no sealed one, and the tapdisk, if one runs, writes to the live log. `old` are the
snapshots there are. -/
structure Enabled (base : String) (old : List String) (w : World) (img : Image) (live : String) :
    Prop where
  found : w.images.lookup base = some img
  tapdisk : Cbtlog.isTapdisk img.metadata = true
  recorded : liveGen img.metadata = some live
  unsealed : ∀ key ∈ img.metadata.keys, Text.startsWith key Cbtlog.snapPrefix = false
  named : live ≠ ""
  readable : (logBits w base live).isSome
  tap : TapOn base w live
  snapshots : img.snapshots.map (fun s => s.name) = old
  names : old.Nodup
  zero : img.disk.Zero
  zeros : ∀ s ∈ img.snapshots, s.disk.Zero

/-- A host on which no snapshot is being made and no operation is under way. -/
def Sys.start (w : World) : Sys := ⟨⟨w, false⟩, .ret ()⟩

section Enabled

variable {base live : String} {old : List String} {w : World} {img : Image}

/-- No log is sealed where no key says so. -/
theorem sealedGen_eq_none {metadata : Dict}
    (h : ∀ key ∈ metadata.keys, Text.startsWith key Cbtlog.snapPrefix = false) (snap : String) :
    sealedGen metadata snap = none := by
  refine AList.lookup_eq_none.mpr fun hmem => ?_
  have hfalse := h _ (AList.mem_keys.mp hmem)
  rw [Cbtlog.snapKey, Text.startsWith_append] at hfalse
  cases hfalse

/-- The invariant holds when tracking has just been enabled. -/
theorem Enabled.tracked (h : Enabled base old w img live) : Tracked base old w := by
  have hnone := sealedGen_eq_none h.unsealed
  have hhistory : history img.metadata img.snapshots = [] := by
    refine List.filterMap_eq_nil_iff.mpr fun s _ => ?_
    rw [hnone, Option.map_none]
  refine ⟨img, live, ?_, ?_, h.tap⟩
  · exact
      { found := h.found
        recorded :=
          { tapdisk := h.tapdisk
            live := h.recorded
            owned := fun snap hsome => by simp [hnone] at hsome }
        readable :=
          { sealed := fun snap gen hgen => by simp [hnone] at hgen
            live := ⟨h.named, h.readable⟩ }
        distinct := fun snap snap' gen hgen => by simp [hnone] at hgen
        unsealed := fun snap => by simp [hnone]
        since := fun s hs _ hold => by
          rw [← h.snapshots] at hold
          exact absurd (List.mem_map_of_mem hs) hold
        names := h.snapshots ▸ h.names
        zero := h.zero
        zeros := h.zeros
        blocks := fun e he => by simp [hhistory] at he }
  · rw [hhistory]
    exact ⟨List.isChain_singleton _, fun hne => absurd rfl hne⟩

end Enabled

/-- The step begins no operation but a snapshot or the setting of one of its custom keys. -/
def Act.snapshots : Act → Bool
  | .begin .snapshot | .begin (.set _ _ _) | .call _ | .write _ _ => true
  | .begin _ => false

/-- A write between a `snap_create` and the unpause that follows it changes nothing, and no listing
shows the tapdisk of another image in the place of that of the base. -/
def quiet (base : String) (s : Sys) : Act → Bool
  | .write off data => !s.host.sealing || harmless s.host.world base off data
  | .call choice => choice.own
  | .begin _ => true

section Runs

variable {sr : SrMeta} {base live : String} {old : List String} {w : World} {img : Image}
  {s s' final : Sys} {acts : List Act}

/-- The operation under way leads back to the invariant, whatever moves `rely` allows meanwhile. -/
def Sys.Leads (rely : Host → Host → Prop) (base : String) (old : List String) (s : Sys) : Prop :=
  Ends rely (fun _ h => Tracked base old h.world) s.prog s.host

/-- When no operation is under way, the invariant holds. -/
theorem Sys.Leads.tracked {rely : Host → Host → Prop} (h : s.Leads rely base old)
    (hidle : s.prog.finished = true) : Tracked base old s.host.world := by
  obtain ⟨host, prog⟩ := s
  cases prog with
  | ret value => exact h
  | raise error => exact h.elim
  | call c resume => cases hidle

/-- A call of the operation leads on. -/
theorem Sys.Leads.call {rely : Host → Host → Prop} {choice : Choice} (h : s.Leads rely base old)
    (hown : choice.own = true) (hstep : Sys.step sr base s (.call choice) = some s') :
    s'.Leads rely base old := by
  simp only [Sys.step, Option.ite_none_right_eq_some, Option.map_eq_some_iff] at hstep
  obtain ⟨hfail, ⟨prog, host⟩, hnext, rfl⟩ := hstep
  exact Prog.Wp.next h ⟨hfail, hown⟩ hnext

/-- An operation begins where none is under way. -/
theorem step_begin {op : VolOp} (hstep : Sys.step sr base s (.begin op) = some s') :
    s.prog.finished = true ∧ s' = { s with prog := op.prog sr base } := by
  simp only [Sys.step, Option.ite_none_right_eq_some, Option.some.injEq] at hstep
  exact ⟨hstep.1, hstep.2.symm⟩

/-- Every step of a run of snapshots leads on. -/
theorem leads_step (hat : '@' ∉ base.toList) {act : Act} (h : s.Leads (GuestMove base) base old)
    (hact : act.snapshots = true ∧ quiet base s act = true)
    (hstep : Sys.step sr base s act = some s') : s'.Leads (GuestMove base) base old := by
  cases act with
  | begin op =>
      obtain ⟨hidle, rfl⟩ := step_begin hstep
      have htracked := h.tracked hidle
      cases op with
      | snapshot => exact ends_snapshot sr hat htracked
      | set snap k v => exact ends_set sr hat htracked snap k v
      | destroy snap => cases hact.1
      | revert snap => cases hact.1
      | resize newSize => cases hact.1
  | call choice => exact h.call hact.2 hstep
  | write off data =>
      obtain ⟨after, hwrite, rfl⟩ := Option.map_eq_some_iff.mp hstep
      refine Prog.Wp.move h ⟨rfl, off, data, hwrite, fun hsealing => ?_⟩ fun _ => stable_tracked
      simpa [quiet, hsealing] using hact.2

/-- **Changed-block tracking under concurrent guest writes.** In every run without failures from a
base on which tracking has just been enabled, of snapshots, custom keys and guest writes between any
two of their calls, in which no write between a `snap_create` and the next unpause of the tapdisk
changes the disk and no tapdisk of another image is taken for that of the base: whenever no
operation is under way, `list_changed_blocks` marks every block that differs between two snapshots,
and between a snapshot and the head. -/
theorem snapshot_complete (hat : '@' ∉ base.toList) (henabled : Enabled base old w img live)
    (hrun : Run.run (Sys.step sr base) (Sys.start w) acts = some final)
    (hacts : ∀ act ∈ acts, act.snapshots = true)
    (hquiet : Run.Along (Sys.step sr base) (fun s act => quiet base s act = true)
      (Sys.start w) acts)
    (hidle : final.prog.finished = true) : Complete base old final.host.world := by
  have hallowed : Run.Along (Sys.step sr base) (fun _ act => act.snapshots = true) (Sys.start w)
      acts := Run.along_of_forall hacts
  have hinit : (Sys.start w).Leads (GuestMove base) base old := henabled.tracked
  have hleads : final.Leads (GuestMove base) base old := Run.run_invariant
    (fun _ _ _ h hact hstep => leads_step hat h hact hstep) hinit (hallowed.and hquiet) hrun
  exact complete_of_tracked hat (hleads.tracked hidle)

end Runs

instance (metadata : Dict) (snaps : List Snap) : Decidable (TimesGrow metadata snaps) :=
  inferInstanceAs (Decidable (List.Pairwise _ _))

/-- `list_changed_blocks` of a snapshot and the head answers and leaves out the block of a byte in
which they differ. -/
def loses (base : String) (old : List String) (i : Nat) (w : World) : Bool :=
  (w.images.lookup base).any fun img =>
    decide (TimesGrow img.metadata img.snapshots) && img.snapshots.any fun s =>
      isUuid s.name.toList && !old.contains s.name && s.content i != img.content i &&
        match (listChangedBlocks false (snapKey base s.name) base 0 (-1)).exec (handle .ok) w with
        | some (.ok answer, _) => !bit (Base64.decode answer.bitmap) (i / Cbtlog.cbtBlock)
        | _ => false

/-- Then the answers are not complete. -/
theorem not_complete_of_loses {base : String} {old : List String} {i : Nat} {w : World}
    (h : loses base old i w = true) : ¬Complete base old w := by
  rintro ⟨img, hfound, hcomplete⟩
  simp only [loses, hfound, Option.any_some, Bool.and_eq_true, decide_eq_true_eq,
    List.any_eq_true] at h
  obtain ⟨htimes, s, hs, ⟨⟨huuid, hold⟩, hdiffers⟩, hanswer⟩ := h
  have hsince : Since old s := ⟨huuid, by simpa using hold⟩
  obtain ⟨answer, after, hexec, hmarks⟩ := (hcomplete htimes).2 s hs hsince false
  have hchanged : i / Cbtlog.cbtBlock ∈ changedBlocks s.disk img.disk :=
    .inl ⟨i, rfl, bne_iff_ne.mp hdiffers⟩
  simp [hexec, hmarks _ hchanged] at hanswer

/-- The first generation of the log. -/
def firstGen : String := "000000000000"

/-- The generation after it. -/
def secondGen : String := "111111111111"

/-- The name of the first snapshot. -/
def firstSnap : String := "00000000-0000-0000-0000-000000000000"

/-- The name of the second snapshot. -/
def secondSnap : String := "11111111-1111-1111-1111-111111111111"

/-- An SR of the tapdisk route. -/
def tapdiskSr : SrMeta := { srUuid := "sr", pool := "rbd", datapath := some "tapdisk" }

/-- A disk of eight blocks with its metadata. -/
def eightBlocks : Image where
  size := 524288
  metadata := ((AList.singleton Cbtlog.kLive firstGen).insert Cbtlog.kMode
    Cbtlog.modeTapdisk).insert Cbtlog.kEnabled "1"

/-- It is tracked and a tapdisk runs on it. -/
def trackedDisk : World where
  images := (AList.singleton "vdi" eightBlocks).insert (companionName "vdi" firstGen)
    { size := 4096, log := some { size := 524288, consistent := true, bitmap := [0] } }
  mapped := ["vdi"]
  taps := AList.singleton "vdi" { log := some (companionName "vdi" firstGen) }

/-- Tracking has just been enabled on it. -/
theorem enabled_trackedDisk : Enabled "vdi" [] trackedDisk eightBlocks firstGen where
  found := rfl
  tapdisk := by decide
  recorded := by decide
  unsealed := by decide
  named := by decide
  readable := by decide
  tap := by
    intro tap htap
    cases htap
    exact ⟨rfl, by decide⟩
  snapshots := rfl
  names := List.nodup_nil
  zero _ _ := rfl
  zeros _ hs := by cases hs

/-- The calls that succeed. -/
def calls (n : Nat) : List Act := List.replicate n (.call .ok)

/-- A snapshot with its time: writes come after `snap_create`, and after the unpause. -/
def snapshotWith (snap gen time : String) (captured rotated : List Act) : List Act :=
  [.begin .snapshot, .call (.fresh snap)] ++ calls 1 ++ captured ++ calls 2 ++
    [.call (.fresh gen)] ++ calls 10 ++ rotated ++ calls 4 ++
      .begin (.set snap "snapshot_time" time) :: calls 3

/-- A write of one byte before the snapshot, the same again after `snap_create`, and one in the
second block after the unpause. -/
def quietActs : List Act :=
  .write 0 [1] :: snapshotWith firstSnap secondGen "1" [.write 0 [1]] [.write 65536 [1]]

/-- The write that changes nothing is logged too early, and nothing is missed. -/
theorem snapshot_complete_quiet :
    ∃ final, Run.run (Sys.step tapdiskSr "vdi") (Sys.start trackedDisk) quietActs = some final ∧
      Complete "vdi" [] final.host.world := by
  have hchecked : (Run.checked (Sys.step tapdiskSr "vdi") (fun s act => quiet "vdi" s act = true)
      (Sys.start trackedDisk) quietActs).any (fun s => s.prog.finished) = true := by
    decide +kernel
  obtain ⟨final, hrun, hquiet, hidle⟩ := Run.exists_of_checked hchecked
  exact ⟨final, hrun,
    snapshot_complete (by decide) enabled_trackedDisk hrun (by decide) hquiet hidle⟩

/-- A snapshot, and a write of one byte between `snap_create` and the unpause. -/
def lostActs : List Act := snapshotWith firstSnap secondGen "1" [.write 0 [1]] []

/-- The byte goes to the log that is sealed to the snapshot, which does not have it: the block is in
neither the snapshot nor the log after it. -/
theorem snapshot_misses_write :
    Enabled "vdi" [] trackedDisk eightBlocks firstGen ∧ (∀ act ∈ lostActs, act.snapshots = true) ∧
      ∃ final, Run.run (Sys.step tapdiskSr "vdi") (Sys.start trackedDisk) lostActs = some final ∧
        final.prog.finished = true ∧ ¬Complete "vdi" [] final.host.world := by
  have hrun : (Run.run (Sys.step tapdiskSr "vdi") (Sys.start trackedDisk) lostActs).any
      (fun s => s.prog.finished && loses "vdi" [] 0 s.host.world) = true := by
    decide +kernel
  simp only [Option.any_eq_true, Bool.and_eq_true] at hrun
  obtain ⟨final, hrun, hidle, hloses⟩ := hrun
  exact ⟨enabled_trackedDisk, by decide, final, hrun, hidle, not_complete_of_loses hloses⟩

end XcpCephRbd.Volume
