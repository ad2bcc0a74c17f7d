import XcpCephRbd.Datapath.Serve

/-!
# A device shared without counting

Attaches and detaches of one URI in the blkback or the tapdisk mode, one after the other, by any
domains and with no call failing. In these modes nobody counts the consumers: a detach stops the
`qemu-nbd` of the image, or destroys the first tapdisk that it finds, and then removes the map,
which krbd refuses while the device is open. `stays_served` says that what an attach has handed out
stays until the domain's own detach in every run in which each detach finds its own tapdisk, or,
with blkback, takes no `qemu-nbd` from another domain and meets an open device exactly if others
remain.
-/

namespace XcpCephRbd.Serve.Shared

/-- The modes without a count. -/
inductive Mode where
  | blkback
  | tapdisk
  deriving DecidableEq, Repr

/-- What an attach has handed out: the mapped device, the tapdisk over it, and the process behind
the NBD socket, a `qemu-nbd` or a tapdisk. -/
structure Handed where
  dev : Nat
  tap : Option Nat := none
  sock : Option Nat := none
  deriving DecidableEq, Repr

/-- What the host has of the volume: its device, the tapdisks on it, the `qemu-nbd` of the image and
the domains that have the device open. `attached` is what domains have been handed and not detached,
`settled` that the last call was a detach, and `next` the number of the next process. -/
structure Node where
  dev : Option Nat := none
  taps : List Nat := []
  qemuNbd : Option Nat := none
  held : List String := []
  attached : AList (fun _ : String => Handed) := ∅
  settled : Bool := true
  next : Nat := 0

/-- A call, or a guest that opens or closes the raw device that it was handed. The kernel picks the
number of a new device. `found` is the first tapdisk that `tap-ctl list` shows with the path of the
device in its arguments, also as the beginning of a longer path. -/
inductive Event where
  | attach (domain : String) (rbd : Nat) (found : Nat)
  | detach (domain : String) (found : Nat)
  | openDev (domain : String)
  | closeDev (domain : String)
  deriving DecidableEq, Repr

namespace Node

/-- The device is open: a tapdisk, the `qemu-nbd` or a guest has it. -/
def opened (s : Node) : Bool := !s.taps.isEmpty || s.qemuNbd.isSome || !s.held.isEmpty

/-- `unmap_image`; the kernel refuses to remove a device that is open, which the caller logs. -/
def unmapImage (s : Node) : Node := if s.opened then s else { s with dev := none }

/-- `dp_blkback.attach` over the mapped device: for an SXM domain a `qemu-nbd` is started, or the
one that runs is reused. -/
def attachBlkback (s : Node) (dev : Nat) (domain : String) : Node :=
  if isSxmDomain domain then
    let pid := s.qemuNbd.getD s.next
    { s with
      qemuNbd := some pid
      attached := s.attached.insert domain { dev := dev, sock := some pid }
      next := s.next + 1 }
  else { s with attached := s.attached.insert domain { dev := dev } }

/-- `dp_tapdisk.attach` over the mapped device: a new tapdisk, and the NBD socket of the first one
that is found. -/
def attachTapdisk (s : Node) (dev : Nat) (domain : String) (found : Nat) : Node :=
  { s with
    taps := s.next :: s.taps
    attached := s.attached.insert domain { dev := dev, tap := some s.next, sock := some found }
    next := s.next + 1 }

/-- `Datapath.attach(uri, domain)`; `map_image` reuses the device. -/
def attach (mode : Mode) (s : Node) (domain : String) (rbd found : Nat) : Node :=
  let dev := s.dev.getD rbd
  let mapped := { s with dev := some dev, settled := false }
  match mode with
  | .blkback => mapped.attachBlkback dev domain
  | .tapdisk => mapped.attachTapdisk dev domain found

/-- `dp_tapdisk.detach` destroys the tapdisk that it finds, if the image is mapped. -/
def destroyTap (s : Node) (found : Nat) : Node :=
  if s.dev.isSome then { s with taps := s.taps.erase found } else s

/-- `Datapath.detach(uri, domain)`. -/
def detach (mode : Mode) (s : Node) (domain : String) (found : Nat) : Node :=
  let left := { s with attached := s.attached.erase domain, settled := true }
  match mode with
  | .blkback => { left with qemuNbd := none }.unmapImage
  | .tapdisk => (left.destroyTap found).unmapImage

end Node

/-- One call, or one move of a guest. -/
def step (mode : Mode) (s : Node) : Event → Option Node
  | .attach domain rbd found => some (s.attach mode domain rbd found)
  | .detach domain found => some (s.detach mode domain found)
  | .openDev domain =>
      if mode = .blkback ∧ domain ∈ s.attached then
        some { s with held := s.held.insert domain, settled := false }
      else none
  | .closeDev domain => some { s with held := s.held.filter (· != domain), settled := false }

/-- What has been handed out is there, and after the last detach nothing is. -/
structure Served (s : Node) : Prop where
  mapped : ∀ domain handed, s.attached.lookup domain = some handed → s.dev = some handed.dev
  tap : ∀ domain handed tap, s.attached.lookup domain = some handed → handed.tap = some tap →
    tap ∈ s.taps
  sock : ∀ domain handed pid, s.attached.lookup domain = some handed → handed.sock = some pid →
    pid ∈ s.taps ∨ s.qemuNbd = some pid
  released : s.settled = true → s.attached.keys = [] → s.dev = none ∧ s.taps = [] ∧ s.qemuNbd = none

/-- With tapdisk a domain attaches once, is shown its own tapdisk, and detaches that one; with
blkback a detach leaves no domain without its `qemu-nbd`, and the device is open exactly if other
domains remain. -/
def Careful (mode : Mode) (s : Node) : Event → Prop
  | .attach domain _ found => mode = .tapdisk → domain ∉ s.attached ∧ found = s.next
  | .detach domain found => match mode with
      | .blkback => (∀ entry ∈ s.attached.entries, entry.1 ≠ domain → entry.2.sock = none) ∧
          (s.held = [] ↔ (s.attached.erase domain).keys = [])
      | .tapdisk => match s.attached.lookup domain with
          | some handed => handed.tap = some found
          | none => found ∉ s.taps
  | _ => True

variable {s s' : Node}

/-- What holds with blkback: there is no tapdisk, and what a domain was handed is what the host has
of the volume. -/
structure Raw (s : Node) : Prop where
  taps : s.taps = []
  handed : ∀ domain handed, s.attached.lookup domain = some handed →
    s.dev = some handed.dev ∧ handed.tap = none ∧ ∀ pid, handed.sock = some pid →
      s.qemuNbd = some pid
  released : s.settled = true → s.attached.keys = [] → s.dev = none ∧ s.qemuNbd = none

/-- What holds with tapdisk: nothing else has the device, and its tapdisks are those of the attached
domains, each with one of its own. -/
structure Tapped (s : Node) : Prop where
  qemuNbd : s.qemuNbd = none
  held : s.held = []
  nodup : s.taps.Nodup
  below : ∀ tap ∈ s.taps, tap < s.next
  owned : ∀ tap ∈ s.taps, ∃ domain handed, s.attached.lookup domain = some handed ∧
    handed.tap = some tap
  handed : ∀ domain handed, s.attached.lookup domain = some handed →
    s.dev = some handed.dev ∧ ∃ tap ∈ s.taps, handed.tap = some tap ∧ handed.sock = some tap
  distinct : ∀ domain domain' handed handed', s.attached.lookup domain = some handed →
    s.attached.lookup domain' = some handed' → handed.tap = handed'.tap → domain = domain'
  released : s.settled = true → s.attached.keys = [] → s.dev = none

/-- The invariant of a mode. -/
def Kept : Mode → Node → Prop
  | .blkback => Raw
  | .tapdisk => Tapped

/-- The invariant is at least what is promised. -/
theorem Kept.served {mode : Mode} (hkept : Kept mode s) : Served s := by
  cases mode with
  | blkback =>
      have hraw : Raw s := hkept
      refine ⟨fun domain handed hh => (hraw.handed domain handed hh).1, ?_, ?_, ?_⟩
      · intro domain handed tap hh htap
        rw [(hraw.handed domain handed hh).2.1] at htap
        cases htap
      · intro domain handed pid hh hpid
        exact .inr ((hraw.handed domain handed hh).2.2 pid hpid)
      · intro hsettled hnone
        obtain ⟨hdev, hnbd⟩ := hraw.released hsettled hnone
        exact ⟨hdev, hraw.taps, hnbd⟩
  | tapdisk =>
      have htapped : Tapped s := hkept
      refine ⟨fun domain handed hh => (htapped.handed domain handed hh).1, ?_, ?_, ?_⟩
      · intro domain handed tap hh htap
        obtain ⟨_, own, hown, hhas, _⟩ := htapped.handed domain handed hh
        rw [hhas] at htap
        cases htap
        exact hown
      · intro domain handed pid hh hpid
        obtain ⟨_, own, hown, _, hsock⟩ := htapped.handed domain handed hh
        rw [hsock] at hpid
        cases hpid
        exact .inl hown
      · intro hsettled hnone
        refine ⟨htapped.released hsettled hnone, ?_, htapped.qemuNbd⟩
        -- A tapdisk would belong to an attached domain, and there is none.
        rw [List.eq_nil_iff_forall_not_mem]
        intro tap htap
        obtain ⟨domain, handed, hh, _⟩ := htapped.owned tap htap
        have hmem : domain ∈ s.attached := AList.lookup_isSome.mp (by rw [hh]; rfl)
        rw [AList.mem_keys, hnone] at hmem
        cases hmem

section lookups

variable {α : Type*} {m : AList (fun _ : String => α)} {domain other : String} {handed value : α}

/-- What is found after an insertion is what was inserted or what was there before. -/
theorem lookup_insert_cases (h : (m.insert domain value).lookup other = some handed) :
    other = domain ∧ handed = value ∨ other ≠ domain ∧ m.lookup other = some handed := by
  by_cases heq : other = domain
  · subst heq
    rw [AList.lookup_insert] at h
    exact .inl ⟨rfl, (Option.some.inj h).symm⟩
  · rw [AList.lookup_insert_ne heq] at h
    exact .inr ⟨heq, h⟩

/-- What is found after an erasure was there before, at another key. -/
theorem lookup_erase_cases (h : (m.erase domain).lookup other = some handed) :
    other ≠ domain ∧ m.lookup other = some handed := by
  by_cases heq : other = domain
  · subst heq
    rw [AList.lookup_erase] at h
    cases h
  · rw [AList.lookup_erase_ne heq] at h
    exact ⟨heq, h⟩

/-- Something is found where a key is left. -/
theorem keys_ne_nil (h : m.lookup domain = some handed) : m.keys ≠ [] := by
  intro hnil
  have hmem : domain ∈ m.keys := AList.lookup_isSome.mp (by rw [h]; rfl)
  rw [hnil] at hmem
  cases hmem

end lookups

/-- An unmapping leaves everything but the device. -/
theorem unmapImage_eq (s : Node) :
    s.unmapImage = { s with dev := if s.opened then s.dev else none } := by
  unfold Node.unmapImage
  split <;> rfl

/-- With blkback an attach hands out what is there. -/
theorem Raw.attach (hraw : Raw s) (domain : String) (rbd found : Nat) :
    Raw (s.attach .blkback domain rbd found) := by
  have hdev : ∀ other handed, s.attached.lookup other = some handed →
      s.dev.getD rbd = handed.dev := by
    intro other handed hh
    rw [(hraw.handed other handed hh).1]
    rfl
  show Raw (Node.attachBlkback _ _ domain)
  unfold Node.attachBlkback
  split
  · refine ⟨hraw.taps, ?_, fun h => nomatch h⟩
    intro other handed hh
    rcases lookup_insert_cases hh with ⟨rfl, rfl⟩ | ⟨_, hold⟩
    · exact ⟨rfl, rfl, fun pid hpid => hpid⟩
    · obtain ⟨_, htap, hsock⟩ := hraw.handed other handed hold
      refine ⟨congrArg some (hdev other handed hold), htap, ?_⟩
      -- The `qemu-nbd` of an earlier SXM domain is the one that is reused.
      intro pid hpid
      show some (s.qemuNbd.getD s.next) = some pid
      rw [hsock pid hpid]
      rfl
  · refine ⟨hraw.taps, ?_, fun h => nomatch h⟩
    intro other handed hh
    rcases lookup_insert_cases hh with ⟨rfl, rfl⟩ | ⟨_, hold⟩
    · exact ⟨rfl, rfl, fun pid hpid => nomatch hpid⟩
    · obtain ⟨_, htap, hsock⟩ := hraw.handed other handed hold
      exact ⟨congrArg some (hdev other handed hold), htap, hsock⟩

/-- With blkback a careful detach leaves the others what they have. -/
theorem Raw.detach {domain : String} {found : Nat} (hraw : Raw s)
    (hcareful : Careful .blkback s (.detach domain found)) :
    Raw (s.detach .blkback domain found) := by
  obtain ⟨hsock, hheld⟩ := hcareful
  have hopened : Node.opened { s with
      attached := s.attached.erase domain, settled := true, qemuNbd := none } =
        !s.held.isEmpty := by
    simp [Node.opened, hraw.taps]
  show Raw (Node.unmapImage _)
  rw [unmapImage_eq, hopened]
  refine ⟨hraw.taps, ?_, ?_⟩
  · intro other handed hh
    obtain ⟨hne, hold⟩ := lookup_erase_cases hh
    obtain ⟨hdev, htap, _⟩ := hraw.handed other handed hold
    refine ⟨?_, htap, ?_⟩
    · have hopen : s.held ≠ [] := fun hnil => keys_ne_nil hh (hheld.mp hnil)
      simpa [hopen] using hdev
    · intro pid hpid
      rw [hsock ⟨other, handed⟩ (AList.mem_lookup_iff.mp hold) hne] at hpid
      cases hpid
  · intro _ hnone
    simp [hheld.mpr hnone]

/-- With tapdisk a careful attach adds a tapdisk of the domain's own. -/
theorem Tapped.attach {domain : String} {rbd found : Nat} (htapped : Tapped s)
    (hcareful : Careful .tapdisk s (.attach domain rbd found)) :
    Tapped (s.attach .tapdisk domain rbd found) := by
  obtain ⟨hnew, rfl⟩ := hcareful rfl
  have hfresh : s.next ∉ s.taps := fun hmem => absurd (htapped.below _ hmem) (by omega)
  show Tapped (Node.attachTapdisk _ _ domain s.next)
  refine ⟨htapped.qemuNbd, htapped.held, List.nodup_cons.mpr ⟨hfresh, htapped.nodup⟩, ?_,
    ?_, ?_, ?_, fun h => nomatch h⟩
  · intro tap htap
    show tap < s.next + 1
    rcases List.mem_cons.mp htap with heq | hold
    · have heq : tap = s.next := heq
      omega
    · have hbelow := htapped.below tap hold
      omega
  · intro tap htap
    rcases List.mem_cons.mp htap with rfl | hold
    · exact ⟨domain, _, AList.lookup_insert _, rfl⟩
    · obtain ⟨other, handed, hh, hhas⟩ := htapped.owned tap hold
      have hne : other ≠ domain := by
        rintro rfl
        exact hnew (AList.lookup_isSome.mp (by rw [hh]; rfl))
      exact ⟨other, handed, (AList.lookup_insert_ne hne).trans hh, hhas⟩
  · intro other handed hh
    rcases lookup_insert_cases hh with ⟨rfl, rfl⟩ | ⟨_, hold⟩
    · exact ⟨rfl, s.next, List.mem_cons_self, rfl, rfl⟩
    · obtain ⟨hdev, tap, htap, hhas, hsock⟩ := htapped.handed other handed hold
      refine ⟨?_, tap, List.mem_cons_of_mem _ htap, hhas, hsock⟩
      show some (s.dev.getD rbd) = some handed.dev
      rw [hdev]
      rfl
  · intro first second handed handed' hfirst hsecond heq
    -- The tapdisk of an earlier attach is below the number of the new one.
    have hbelow : ∀ other handed, s.attached.lookup other = some handed →
        handed.tap ≠ some s.next := by
      intro other handed hh hnext
      obtain ⟨_, tap, htap, hhas, _⟩ := htapped.handed other handed hh
      rw [hhas] at hnext
      cases hnext
      exact hfresh htap
    rcases lookup_insert_cases hfirst with ⟨rfl, rfl⟩ | ⟨_, hold⟩ <;>
      rcases lookup_insert_cases hsecond with ⟨rfl, rfl⟩ | ⟨_, hold'⟩
    · rfl
    · exact absurd heq.symm (hbelow second handed' hold')
    · exact absurd heq (hbelow first handed hold)
    · exact htapped.distinct first second handed handed' hold hold' heq

/-- A careful detach destroys no tapdisk of another domain. -/
theorem Tapped.others_kept {domain : String} {found : Nat} (htapped : Tapped s)
    (hcareful : Careful .tapdisk s (.detach domain found)) {other : String} {handed : Handed}
    (hne : other ≠ domain) (hh : s.attached.lookup other = some handed) :
    handed.tap ≠ some found := by
  intro hfound
  simp only [Careful] at hcareful
  cases hown : s.attached.lookup domain with
  | some own =>
      rw [hown] at hcareful
      exact hne (htapped.distinct other domain handed own hh hown (hfound.trans hcareful.symm))
  | none =>
      rw [hown] at hcareful
      obtain ⟨_, tap, htap, hhas, _⟩ := htapped.handed other handed hh
      rw [hhas] at hfound
      cases hfound
      exact hcareful htap

/-- A careful detach leaves no tapdisk of the domain. -/
theorem Tapped.own_destroyed {domain : String} {found : Nat} (htapped : Tapped s)
    (hcareful : Careful .tapdisk s (.detach domain found)) {tap : Nat}
    (htap : tap ∈ s.taps.erase found) :
    ∃ other handed, other ≠ domain ∧ s.attached.lookup other = some handed ∧
      handed.tap = some tap := by
  have hne : tap ≠ found := by
    rintro rfl
    exact htapped.nodup.not_mem_erase htap
  obtain ⟨other, handed, hh, hhas⟩ := htapped.owned tap (List.mem_of_mem_erase htap)
  refine ⟨other, handed, ?_, hh, hhas⟩
  rintro rfl
  simp only [Careful, hh] at hcareful
  rw [hhas] at hcareful
  exact hne (Option.some.inj hcareful)

/-- An unmapped image has no tapdisk to destroy. -/
theorem Tapped.destroyTap_eq (htapped : Tapped s) (domain : String) (found : Nat) :
    Node.destroyTap { s with attached := s.attached.erase domain, settled := true } found =
      { s with
        attached := s.attached.erase domain, settled := true, taps := s.taps.erase found } := by
  unfold Node.destroyTap
  split
  · rfl
  · rename_i hunmapped
    have hnone : s.taps = [] := by
      rw [List.eq_nil_iff_forall_not_mem]
      intro tap htap
      obtain ⟨other, handed, hh, _⟩ := htapped.owned tap htap
      rw [(htapped.handed other handed hh).1] at hunmapped
      exact hunmapped rfl
    simp [hnone]

/-- With tapdisk a careful detach takes the domain's own tapdisk. -/
theorem Tapped.detach {domain : String} {found : Nat} (htapped : Tapped s)
    (hcareful : Careful .tapdisk s (.detach domain found)) :
    Tapped (s.detach .tapdisk domain found) := by
  show Tapped (Node.unmapImage (Node.destroyTap _ found))
  rw [htapped.destroyTap_eq, unmapImage_eq]
  -- The tapdisk of an attached domain stays, and keeps the device open.
  have hstays : ∀ other handed, (s.attached.erase domain).lookup other = some handed →
      ∃ tap ∈ s.taps.erase found, handed.tap = some tap ∧ handed.sock = some tap := by
    intro other handed hh
    obtain ⟨hne, hold⟩ := lookup_erase_cases hh
    obtain ⟨_, tap, htap, hhas, hsock⟩ := htapped.handed other handed hold
    have hother : tap ≠ found := by
      rintro rfl
      exact htapped.others_kept hcareful hne hold hhas
    exact ⟨tap, (List.mem_erase_of_ne hother).mpr htap, hhas, hsock⟩
  refine ⟨htapped.qemuNbd, htapped.held, htapped.nodup.erase found, ?_, ?_, ?_, ?_, ?_⟩
  · intro tap htap
    exact htapped.below tap (List.mem_of_mem_erase htap)
  · intro tap htap
    obtain ⟨other, handed, hne, hh, hhas⟩ := htapped.own_destroyed hcareful htap
    exact ⟨other, handed, (AList.lookup_erase_ne hne).trans hh, hhas⟩
  · intro other handed hh
    obtain ⟨hne, hold⟩ := lookup_erase_cases hh
    obtain ⟨tap, htap, hhas⟩ := hstays other handed hh
    refine ⟨?_, tap, htap, hhas⟩
    have hopen : s.taps.erase found ≠ [] := List.ne_nil_of_mem htap
    simpa [Node.opened, hopen] using (htapped.handed other handed hold).1
  · intro first second handed handed' hfirst hsecond heq
    obtain ⟨_, hold⟩ := lookup_erase_cases hfirst
    obtain ⟨_, hold'⟩ := lookup_erase_cases hsecond
    exact htapped.distinct first second handed handed' hold hold' heq
  · intro _ hnone
    have hclosed : s.taps.erase found = [] := by
      rw [List.eq_nil_iff_forall_not_mem]
      intro tap htap
      obtain ⟨other, handed, hne, hh, _⟩ := htapped.own_destroyed hcareful htap
      exact keys_ne_nil ((AList.lookup_erase_ne hne).trans hh) hnone
    simp [Node.opened, hclosed, htapped.qemuNbd, htapped.held]

/-- What one call or one move of a guest keeps. -/
theorem step_kept {mode : Mode} {event : Event} (hkept : Kept mode s)
    (hcareful : Careful mode s event) (hstep : step mode s event = some s') : Kept mode s' := by
  cases event with
  | attach domain rbd found =>
      cases hstep
      cases mode with
      | blkback => exact Raw.attach hkept domain rbd found
      | tapdisk => exact Tapped.attach hkept hcareful
  | detach domain found =>
      cases hstep
      cases mode with
      | blkback => exact Raw.detach hkept hcareful
      | tapdisk => exact Tapped.detach hkept hcareful
  | openDev domain =>
      simp only [step] at hstep
      split at hstep
      · rename_i hopens
        obtain ⟨rfl, _⟩ := hopens
        cases hstep
        have hraw : Raw s := hkept
        exact ⟨hraw.taps, hraw.handed, fun h => nomatch h⟩
      · cases hstep
  | closeDev domain =>
      cases hstep
      cases mode with
      | blkback =>
          have hraw : Raw s := hkept
          exact ⟨hraw.taps, hraw.handed, fun h => nomatch h⟩
      | tapdisk =>
          have htapped : Tapped s := hkept
          refine { htapped with held := ?_, released := fun h => nomatch h }
          simp [htapped.held]

/-- Nothing is there before the first attach. -/
theorem kept_init (mode : Mode) : Kept mode {} := by
  cases mode with
  | blkback => exact ⟨rfl, (fun _ _ h => nomatch h), fun _ _ => ⟨rfl, rfl⟩⟩
  | tapdisk =>
      exact ⟨rfl, rfl, List.nodup_nil, (fun _ h => nomatch h), (fun _ h => nomatch h),
        (fun _ _ h => nomatch h), (fun _ _ _ _ h => nomatch h), fun _ _ => rfl⟩

/-- In every careful run each domain has what it was handed until it detaches, whatever the others
do, and after the last detach there is nothing. -/
theorem stays_served {mode : Mode} {events : List Event} {final : Node}
    (hcareful : Run.Along (step mode) (Careful mode) {} events)
    (hrun : Run.run (step mode) {} events = some final) : Served final :=
  Kept.served (Run.run_invariant (fun _ _ _ hkept hguard hstep => step_kept hkept hguard hstep)
    (kept_init mode) hcareful hrun)

instance (mode : Mode) (s : Node) (event : Event) : Decidable (Careful mode s event) :=
  match event with
  | .attach _ _ _ => inferInstanceAs (Decidable (_ → _))
  | .detach domain found => match mode with
      | .blkback => inferInstanceAs (Decidable (_ ∧ (s.held = [] ↔ _)))
      | .tapdisk => match h : s.attached.lookup domain with
          | some handed => decidable_of_iff (handed.tap = some found) (by simp [Careful, h])
          | none => decidable_of_iff (found ∉ s.taps) (by simp [Careful, h])
  | .openDev _ | .closeDev _ => inferInstanceAs (Decidable True)

/-- A guest has the raw device, a mirror attaches and detaches beside it, and the guest detaches. -/
def guestEvents : List Event :=
  [.attach "1" 0 0, .openDev "1", .attach "MIR" 7 0, .detach "MIR" 0, .closeDev "1", .detach "1" 0]

/-- Two domains with a tapdisk each, the first of which leaves first. -/
def tapEvents : List Event := [.attach "1" 0 0, .attach "2" 7 1, .detach "1" 0]

/-- The guest keeps its device to its own detach, and the second domain its tapdisk. -/
theorem stays_served_both :
    (∃ s, Run.run (step .blkback) {} guestEvents = some s ∧ s.dev = none ∧ Served s) ∧
    (∃ s, Run.run (step .tapdisk) {} tapEvents = some s ∧ s.taps = [1] ∧ Served s) := by
  have hguest : (Run.checked (step .blkback) (Careful .blkback) {} guestEvents).any
      (fun s => s.dev == none) = true := by
    decide +kernel
  have htap : (Run.checked (step .tapdisk) (Careful .tapdisk) {} tapEvents).any
      (fun s => s.taps == [1]) = true := by
    decide +kernel
  obtain ⟨s, hrun, hcareful, htest⟩ := Run.exists_of_checked hguest
  obtain ⟨s', hrun', hcareful', htest'⟩ := Run.exists_of_checked htap
  exact ⟨⟨s, hrun, beq_iff_eq.mp htest, stays_served hcareful hrun⟩,
    ⟨s', hrun', beq_iff_eq.mp htest', stays_served hcareful' hrun'⟩⟩

/-- The detach of a guest stops the `qemu-nbd` that a mirror was handed, and, with the device not
open at that moment, unmaps it; with two tapdisks a detach may destroy the other domain's. -/
theorem detach_takes_others :
    (∃ s, Run.run (step .blkback) {} [.attach "MIR" 0 0, .attach "1" 7 0, .detach "1" 0] = some s ∧
      "MIR" ∈ s.attached ∧ s.qemuNbd = none ∧ s.dev = none ∧ ¬Served s) ∧
    (∃ s, Run.run (step .tapdisk) {} [.attach "1" 0 0, .attach "2" 7 1, .detach "1" 1] = some s ∧
      "2" ∈ s.attached ∧ s.taps = [0] ∧ ¬Served s) := by
  refine ⟨⟨_, rfl, by decide +kernel, rfl, rfl, ?_⟩, ⟨_, rfl, by decide +kernel, rfl, ?_⟩⟩
  · intro hserved
    have hdev := hserved.mapped "MIR" ⟨0, none, some 0⟩ (by decide +kernel)
    cases hdev
  · intro hserved
    have htap := hserved.tap "2" ⟨0, some 1, some 1⟩ 1 (by decide +kernel) rfl
    exact absurd htap (by decide +kernel)

end XcpCephRbd.Serve.Shared
