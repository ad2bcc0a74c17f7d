import XcpCephRbd.Datapath.Serve

/-!
# The references of the qemu mode

Attaches and detaches of one URI in the qemu mode, one after the other, by any domains. An attach
takes its reference before the steps that may still fail, and a reference is a file named after the
domain, with `/` replaced. `references_exact` says that in every run in which no attach fails after
it has taken a new reference, and no domain shares its token with another one that is attached, the
daemon and its NBD device exist exactly while some domain is attached.
-/

namespace XcpCephRbd.Serve.Refs

open Datapath (Target)
open Qemu (refToken)

/-- The step of `dp_qemu.attach` that raises: `ref_add` makes the directory, opens the file of the
reference and counts; `qsd.start` looks for its program, starts it and waits for its socket;
`nbd_attach` connects a device and remembers it. -/
inductive Stage where
  | makedirs
  | openRef
  | countRefs
  | requireBin
  | spawn
  | waitSocket
  | connectNbd
  | rememberNbd
  deriving DecidableEq, Repr

/-- The reference has not been taken yet. -/
def Stage.beforeRef : Stage → Bool
  | .makedirs | .openRef => true
  | _ => false

/-- An NBD device of the image is connected and remembered. -/
def wiredNbd (h : Host) (image : String) : Bool :=
  (h.nbdFile.lookup image).any fun nbd => h.wired nbd image

/-- What an attach that raises leaves behind; `none` where the step is not taken. -/
def failAttach (h : Host) (t : Target) (domain : String) (choice : Choice) (stage : Stage) :
    Option Host :=
  (h.mapImage (volOf t) choice.rbd).bind fun (dev, mapped) =>
    let counted := mapped.refAdd t.image domain
    let started := counted.startQsd t.image dev t.snap.isSome
    match stage with
    | .makedirs | .openRef => some mapped
    | .countRefs | .requireBin => some counted
    | .spawn => if (h.daemons.lookup t.image).isSome then none else some counted
    | .waitSocket => if (h.daemons.lookup t.image).isSome then none else some started
    | .connectNbd => if wiredNbd h t.image then none else some started
    | .rememberNbd =>
        if wiredNbd h t.image then none
        else (started.connect t.image choice.nbd).map fun (_, wired) =>
          { wired with nbdFile := started.nbdFile }

/-- A host on which domains attach and detach one URI; `attached` are the domains that have an
attach that succeeded and no detach since, and `settled` says that the last call was a detach. -/
structure Use where
  host : Host
  attached : List String := []
  settled : Bool := true

/-- A call: an attach that succeeds or raises, or a detach. -/
inductive Event where
  | attach (domain : String) (choice : Choice)
  | fail (domain : String) (choice : Choice) (stage : Stage)
  | detach (domain : String)
  deriving DecidableEq, Repr

/-- One call. -/
def step (t : Target) (u : Use) : Event → Option Use
  | .attach domain choice => (attach u.host t domain choice).map fun (host, _) =>
      { host := host, attached := u.attached.insert domain, settled := false }
  | .fail domain choice stage => (failAttach u.host t domain choice stage).map fun host =>
      { u with host := host, settled := false }
  | .detach domain => (detach u.host t domain).map fun host =>
      { host := host, attached := u.attached.filter (· != domain), settled := true }

/-- References and resources are exact: the daemon and an NBD device of the image exist exactly
while some domain is attached, the references are those of the attached domains, and after the last
detach the volume is not mapped. -/
structure Exact (t : Target) (u : Use) : Prop where
  daemon : (u.host.daemons.lookup t.image).isSome ↔ u.attached ≠ []
  device : (∃ nbd pid, u.host.nbds.lookup nbd = some (t.image, pid)) ↔ u.attached ≠ []
  references : ∀ token, token ∈ u.host.refsOf t.image ↔ ∃ d ∈ u.attached, refToken d = token
  released : u.settled = true → u.attached = [] → u.host.maps.lookup (volOf t) = none

/-- No attached domain has the token of the call's own domain, and an attach that raises does so
before it takes its reference, or its domain is attached already. -/
def Fair (u : Use) : Event → Prop
  | .attach domain _ | .detach domain => ∀ d ∈ u.attached, refToken d = refToken domain → d = domain
  | .fail domain _ stage => domain ∈ u.attached ∨ stage.beforeRef = true

/-- The image is not in use. -/
structure Unused (t : Target) (h : Host) : Prop where
  daemon : h.daemons.lookup t.image = none
  qemuNbd : h.qemuNbds.lookup t.image = none
  file : h.nbdFile.lookup t.image = none
  devices : ∀ nbd pid, h.nbds.lookup nbd ≠ some (t.image, pid)
  refs : h.refsOf t.image = []
  map : h.maps.lookup (volOf t) = none

/-- The invariant: one daemon and one NBD device, connected to it and remembered, while some domain
is attached, and none otherwise. -/
structure Counted (t : Target) (u : Use) : Prop where
  inv : Inv u.host
  qemuNbd : u.host.qemuNbds.lookup t.image = none
  idle : u.attached = [] → u.host.daemons.lookup t.image = none ∧
    u.host.nbdFile.lookup t.image = none ∧ ∀ nbd pid, u.host.nbds.lookup nbd ≠ some (t.image, pid)
  busy : u.attached ≠ [] → ∃ s nbd, u.host.daemons.lookup t.image = some s ∧
    u.host.nbdFile.lookup t.image = some nbd ∧ u.host.nbds.lookup nbd = some (t.image, s.pid) ∧
      ∀ other pid, u.host.nbds.lookup other = some (t.image, pid) → other = nbd
  references : ∀ token, token ∈ u.host.refsOf t.image ↔ ∃ d ∈ u.attached, refToken d = token
  released : u.settled = true → u.attached = [] → u.host.maps.lookup (volOf t) = none

section Steps

variable {t : Target} {h h' : Host} {u u' : Use} {domain : String} {choice : Choice} {r : Attached}

/-- What the invariant is for. -/
theorem Counted.exact (hc : Counted t u) : Exact t u := by
  refine ⟨?_, ?_, hc.references, hc.released⟩
  · by_cases hnone : u.attached = []
    · simp [hnone, (hc.idle hnone).1]
    · obtain ⟨s, nbd, hs, -⟩ := hc.busy hnone
      simp [hnone, hs]
  · by_cases hnone : u.attached = []
    · simp [hnone, (hc.idle hnone).2.2]
    · obtain ⟨s, nbd, -, -, hnbd, -⟩ := hc.busy hnone
      simp only [ne_eq, hnone, not_false_eq_true, iff_true]
      exact ⟨nbd, s.pid, hnbd⟩

/-- An image that is not in use. -/
theorem Unused.counted (hunused : Unused t h) (hi : Inv h) : Counted t { host := h } where
  inv := hi
  qemuNbd := hunused.qemuNbd
  idle _ := ⟨hunused.daemon, hunused.file, hunused.devices⟩
  busy hne := absurd rfl hne
  references token := by simp [hunused.refs]
  released _ _ := hunused.map

/-- `map_image` changes the maps only. -/
theorem mapImage_frame {v : Vol} {rbd dev : Nat} (hmap : h.mapImage v rbd = some (dev, h')) :
    h' = { h with maps := h'.maps } := by
  unfold Host.mapImage at hmap
  split at hmap
  · cases hmap
    rfl
  · split at hmap
    · cases hmap
    · cases hmap
      rfl

/-- The references after one has been added. -/
theorem mem_refsOf_refAdd (image token : String) :
    token ∈ (h.refAdd image domain).refsOf image ↔
      token = refToken domain ∨ token ∈ h.refsOf image := by
  simp [Host.refsOf, Host.refAdd, AList.lookup_insert, List.mem_insert_iff]

/-- `qsd.start` leaves a daemon that runs alone. -/
theorem startQsd_of_running {image : String} {s : Server} (hs : h.daemons.lookup image = some s)
    (dev : Nat) (readOnly : Bool) : h.startQsd image dev readOnly = h := by
  simp [Host.startQsd, hs]

/-- `qsd.start` starts a daemon where none runs. -/
theorem startQsd_of_stopped {image : String} (hnone : h.daemons.lookup image = none) (dev : Nat)
    (readOnly : Bool) : h.startQsd image dev readOnly = { h with
      daemons := h.daemons.insert image ⟨h.nextPid, dev, readOnly⟩
      nextPid := h.nextPid + 1 } := by
  simp [Host.startQsd, hnone]

/-- A device that is connected anew. -/
theorem nbdAttach_of_new {image : String} {s : Server} {nbd n : Nat}
    (hattach : h.nbdAttach image nbd = some (n, h')) (hs : h.daemons.lookup image = some s)
    (hfile : h.nbdFile.lookup image = none) :
    h' =
      { h with nbds := h.nbds.insert n (image, s.pid), nbdFile := h.nbdFile.insert image n } := by
  simp only [Host.nbdAttach, hfile, Host.connect, hs] at hattach
  split at hattach
  next server _ hserver _ =>
      cases hserver
      cases hattach
      rfl
  next => cases hattach

/-- A device that is connected and remembered is reused. -/
theorem nbdAttach_of_wired {image : String} {nbd pid new : Nat}
    (hfile : h.nbdFile.lookup image = some nbd) (hnbd : h.nbds.lookup nbd = some (image, pid)) :
    h.nbdAttach image new = some (nbd, h) := by
  have hwired : h.wired nbd image = true := by simp [Host.wired, hnbd]
  simp [Host.nbdAttach, hfile, hwired]

/-- A device of the image that no server of the image holds is not open. -/
theorem not_opened {v : Vol} {dev : Nat} (hi : Inv h) (hv : h.maps.lookup v = some dev)
    (hdaemon : h.daemons.lookup v.image = none) (hnbd : h.qemuNbds.lookup v.image = none) :
    h.opened dev = false := by
  have hheld : ∀ servers : AList fun _ : String => Server, Backed h.maps servers →
      servers.lookup v.image = none → (servers.entries.any fun e => e.2.dev == dev) = false := by
    intro servers hbacked hnone
    by_contra hopen
    obtain ⟨image, s, hs, hdev⟩ := any_dev_iff.mp (Bool.not_eq_false _ ▸ hopen)
    obtain ⟨w, hw, himage, -⟩ := hbacked image s hs
    rw [hdev] at hw
    cases hi.maps_inj w v dev hw hv
    rw [himage] at hnone
    rw [hnone] at hs
    cases hs
  rw [Host.opened, hheld _ hi.daemons hdaemon, hheld _ hi.qemuNbds hnbd]
  rfl

/-- `unmap_image` of a volume whose image has no server. -/
theorem unmapImage_spec {v : Vol} (hi : Inv h) (hdaemon : h.daemons.lookup v.image = none)
    (hnbd : h.qemuNbds.lookup v.image = none) :
    (h.unmapImage v).maps.lookup v = none ∧
      h.unmapImage v = { h with maps := (h.unmapImage v).maps } := by
  unfold Host.unmapImage
  split
  next dev hv =>
      rw [not_opened hi hv hdaemon hnbd]
      exact ⟨AList.lookup_erase _ _, rfl⟩
  next hnone => exact ⟨hnone, rfl⟩

/-- An attach. -/
theorem Counted.attach (hc : Counted t u) (hmode : t.mode = "qemu")
    (hattach : attach u.host t domain choice = some (h', r)) :
    Counted t { host := h', attached := u.attached.insert domain, settled := false } := by
  have hi' := (attach_spec hc.inv hattach).1
  obtain ⟨⟨dev, mapped⟩, hmap, hrest⟩ := Option.bind_eq_some_iff.mp hattach
  have hframe := mapImage_frame hmap
  have hne : ¬u.attached.insert domain = [] := by
    intro hnil
    have hmem : domain ∈ u.attached.insert domain := List.mem_insert_self
    rw [hnil] at hmem
    cases hmem
  dsimp only at hrest
  rw [if_neg (by rw [hmode]; decide), if_pos hmode] at hrest
  obtain ⟨⟨n, wired⟩, hnbd, hpair⟩ := Option.map_eq_some_iff.mp hrest
  cases hpair
  have hrefs : ∀ token, token ∈ (mapped.refAdd t.image domain).refsOf t.image ↔
      ∃ d ∈ u.attached.insert domain, refToken d = token := by
    intro token
    have hsame : mapped.refsOf t.image = u.host.refsOf t.image := by
      rw [hframe]
      rfl
    rw [mem_refsOf_refAdd, hsame, hc.references]
    constructor
    · rintro (rfl | ⟨d, hd, rfl⟩)
      · exact ⟨domain, List.mem_insert_self, rfl⟩
      · exact ⟨d, List.mem_insert_of_mem hd, rfl⟩
    · rintro ⟨d, hd, rfl⟩
      obtain rfl | hd := List.mem_insert_iff.mp hd
      · exact .inl rfl
      · exact .inr ⟨d, hd, rfl⟩
  by_cases hidle : u.attached = []
  · -- the first one starts the daemon and connects the device
    obtain ⟨hdaemon, hfile, hnone⟩ := hc.idle hidle
    have hdaemon' : (mapped.refAdd t.image domain).daemons.lookup t.image = none := by
      rw [hframe]
      exact hdaemon
    have hfile' : mapped.nbdFile.lookup t.image = none := by
      rw [hframe]
      exact hfile
    have hnone' : ∀ nbd pid, mapped.nbds.lookup nbd ≠ some (t.image, pid) := by
      rw [hframe]
      exact hnone
    rw [startQsd_of_stopped hdaemon'] at hnbd
    cases nbdAttach_of_new hnbd (AList.lookup_insert _) hfile'
    refine ⟨hi', ?_, fun hnil => absurd hnil hne, fun _ => ⟨_, n, AList.lookup_insert _,
      AList.lookup_insert _, AList.lookup_insert _, fun other pid hother => ?_⟩, hrefs, nofun⟩
    · rw [hframe]
      exact hc.qemuNbd
    · by_contra hdiffers
      rw [AList.lookup_insert_ne hdiffers] at hother
      exact hnone' other pid hother
  · -- a later one finds both
    obtain ⟨s, nbd, hs, hfile, hdev, honly⟩ := hc.busy hidle
    have hs' : (mapped.refAdd t.image domain).daemons.lookup t.image = some s := by
      rw [hframe]
      exact hs
    have hfile' : (mapped.refAdd t.image domain).nbdFile.lookup t.image = some nbd := by
      rw [hframe]
      exact hfile
    have hdev' : (mapped.refAdd t.image domain).nbds.lookup nbd = some (t.image, s.pid) := by
      rw [hframe]
      exact hdev
    rw [startQsd_of_running hs', nbdAttach_of_wired hfile' hdev'] at hnbd
    cases hnbd
    refine ⟨hi', ?_, fun hnil => absurd hnil hne, fun _ => ⟨s, n, hs', hfile', hdev', ?_⟩, hrefs,
      nofun⟩
    · rw [hframe]
      exact hc.qemuNbd
    · rw [hframe]
      exact honly

/-- A change of the maps only. -/
theorem Counted.remap (hc : Counted t u) {mapped : Host} (hi : Inv mapped)
    (hframe : mapped = { u.host with maps := mapped.maps }) :
    Counted t { u with host := mapped, settled := false } := by
  refine ⟨hi, ?_, ?_, ?_, ?_, nofun⟩
  · rw [hframe]
    exact hc.qemuNbd
  · rw [hframe]
    exact hc.idle
  · rw [hframe]
    exact hc.busy
  · rw [hframe]
    exact hc.references

/-- An attach that raises before it takes its reference, or whose domain is attached already. -/
theorem Counted.fail (hc : Counted t u) {stage : Stage}
    (hfair : domain ∈ u.attached ∨ stage.beforeRef = true)
    (hfail : failAttach u.host t domain choice stage = some h') :
    Counted t { u with host := h', settled := false } := by
  obtain ⟨⟨dev, mapped⟩, hmap, hrest⟩ := Option.bind_eq_some_iff.mp hfail
  have hframe := mapImage_frame hmap
  have himapped := (mapImage_spec hc.inv hmap).1
  have hmapped := hc.remap himapped hframe
  -- the reference of a domain that is attached is there already
  have hcounted : domain ∈ u.attached →
      Counted t { u with host := mapped.refAdd t.image domain, settled := false } := by
    intro hdomain
    refine ⟨refAdd_inv himapped t.image domain, hmapped.qemuNbd, hmapped.idle, hmapped.busy,
      ?_, nofun⟩
    intro token
    rw [mem_refsOf_refAdd, hmapped.references]
    constructor
    · rintro (rfl | hd)
      · exact ⟨domain, hdomain, rfl⟩
      · exact hd
    · exact .inr
  have hserved : domain ∈ u.attached →
      (u.host.daemons.lookup t.image).isSome = true ∧ wiredNbd u.host t.image = true := by
    intro hdomain
    obtain ⟨s, nbd, hs, hfile, hdev, -⟩ := hc.busy (List.ne_nil_of_mem hdomain)
    exact ⟨by simp [hs], by simp [wiredNbd, hfile, Host.wired, hdev]⟩
  have hattached : stage.beforeRef = false → domain ∈ u.attached := by
    intro hlate
    obtain hdomain | hearly := hfair
    · exact hdomain
    · rw [hlate] at hearly
      cases hearly
  cases stage with
  | makedirs =>
      cases hrest
      exact hmapped
  | openRef =>
      cases hrest
      exact hmapped
  | countRefs =>
      cases hrest
      exact hcounted (hattached rfl)
  | requireBin =>
      cases hrest
      exact hcounted (hattached rfl)
  | spawn => simp [(hserved (hattached rfl)).1] at hrest
  | waitSocket => simp [(hserved (hattached rfl)).1] at hrest
  | connectNbd => simp [(hserved (hattached rfl)).2] at hrest
  | rememberNbd => simp [(hserved (hattached rfl)).2] at hrest

/-- What `qsd.stop` leaves of the image. -/
theorem stopped (hc : Counted t u) : Unused t ((u.host.stopQsd t.image).unmapImage (volOf t)) := by
  have hdaemon : (u.host.stopQsd t.image).daemons.lookup t.image = none := AList.lookup_erase _ _
  obtain ⟨hmap, hframe⟩ := unmapImage_spec (v := volOf t) (stopQsd_inv hc.inv t.image) hdaemon
    hc.qemuNbd
  have hdevices : ∀ nbd pid, (u.host.stopQsd t.image).nbds.lookup nbd ≠ some (t.image, pid) := by
    intro nbd pid hnbd
    dsimp only [Host.stopQsd] at hnbd
    by_cases hidle : u.attached = []
    · obtain ⟨-, hfile, hnone⟩ := hc.idle hidle
      rw [hfile] at hnbd
      exact hnone nbd pid hnbd
    · obtain ⟨s, only, -, hfile, -, honly⟩ := hc.busy hidle
      rw [hfile] at hnbd
      by_cases heq : nbd = only
      · rw [heq, AList.lookup_erase] at hnbd
        cases hnbd
      · rw [AList.lookup_erase_ne heq] at hnbd
        exact heq (honly nbd pid hnbd)
  refine ⟨?_, ?_, ?_, ?_, ?_, hmap⟩
  · rw [hframe]
    exact hdaemon
  · rw [hframe]
    exact hc.qemuNbd
  · rw [hframe]
    exact AList.lookup_erase _ _
  · rw [hframe]
    exact hdevices
  · rw [hframe]
    simp [Host.refsOf, Host.stopQsd]

/-- A detach. -/
theorem Counted.detach (hc : Counted t u) (hmode : t.mode = "qemu")
    (hfair : ∀ d ∈ u.attached, refToken d = refToken domain → d = domain)
    (hdetach : detach u.host t domain = some h') :
    Counted t { host := h', attached := u.attached.filter (· != domain), settled := true } := by
  have hi' := detach_inv hc.inv hdetach
  rw [Serve.detach, if_neg (by rw [hmode]; decide), if_pos hmode] at hdetach
  cases hdetach
  -- the references that are left are those of the domains that are left
  have hleft : ∀ token, token ∈ (u.host.refsOf t.image).filter (· != refToken domain) ↔
      ∃ d ∈ u.attached.filter (· != domain), refToken d = token := by
    intro token
    simp only [List.mem_filter, bne_iff_ne, hc.references]
    constructor
    · rintro ⟨⟨d, hd, rfl⟩, hne⟩
      exact ⟨d, ⟨hd, fun heq => hne (heq ▸ rfl)⟩, rfl⟩
    · rintro ⟨d, ⟨hd, hne⟩, rfl⟩
      exact ⟨⟨d, hd, rfl⟩, fun heq => hne (hfair d hd heq)⟩
  dsimp only [detachQemu] at hi' ⊢
  split at hi' <;> split
  next hempty _ =>
      have hnone : u.attached.filter (· != domain) = [] := by
        rw [List.isEmpty_iff] at hempty
        rw [List.eq_nil_iff_forall_not_mem]
        intro d hd
        have hmem := (hleft (refToken d)).mpr ⟨d, hd, rfl⟩
        rw [hempty] at hmem
        cases hmem
      rw [hnone]
      exact (stopped hc).counted hi'
  next => contradiction
  next => contradiction
  next hmore _ =>
      have hsome : ¬u.attached.filter (· != domain) = [] := by
        intro hnone
        refine hmore
          (List.isEmpty_iff.mpr (List.eq_nil_iff_forall_not_mem.mpr fun token htoken => ?_))
        obtain ⟨d, hd, -⟩ := (hleft token).mp htoken
        rw [hnone] at hd
        cases hd
      have hbusy : u.attached ≠ [] := by
        rintro hnil
        rw [hnil] at hsome
        exact hsome rfl
      refine ⟨hi', hc.qemuNbd, fun hnone => absurd hnone hsome, fun _ => hc.busy hbusy, ?_,
        fun _ hnone => absurd hnone hsome⟩
      intro token
      rw [← hleft]
      simp [Host.refsOf]

/-- Every call keeps the invariant. -/
theorem Counted.step {event : Event} (hc : Counted t u) (hmode : t.mode = "qemu")
    (hfair : Fair u event) (hstep : step t u event = some u') : Counted t u' := by
  cases event with
  | attach domain choice =>
      obtain ⟨⟨host, r⟩, hattach, rfl⟩ := Option.map_eq_some_iff.mp hstep
      exact hc.attach hmode hattach
  | fail domain choice stage =>
      obtain ⟨host, hfail, rfl⟩ := Option.map_eq_some_iff.mp hstep
      exact hc.fail hfair hfail
  | detach domain =>
      obtain ⟨host, hdetach, rfl⟩ := Option.map_eq_some_iff.mp hstep
      exact hc.detach hmode hfair hdetach

end Steps

/-- In every run of attaches and detaches of one URI in the qemu mode in which no domain shares its
token with another one that is attached, and an attach that raises has taken no new reference:
the daemon and its NBD device exist exactly while some domain is attached, the references are those
of the attached domains, and the last detach leaves the volume unmapped. -/
theorem references_exact {t : Target} {h : Host} {events : List Event} {u : Use}
    (hmode : t.mode = "qemu") (hi : Inv h) (hunused : Unused t h)
    (hrun : Run.run (step t) { host := h } events = some u)
    (hfair : Run.Along (step t) Fair { host := h } events) : Exact t u := by
  have hc : Counted t u := Run.run_invariant
    (fun _ _ _ hc hfair hstep => Counted.step hc hmode hfair hstep) (hunused.counted hi) hfair hrun
  exact hc.exact

instance (u : Use) (event : Event) : Decidable (Fair u event) :=
  match event with
  | .attach _ _ | .detach _ => inferInstanceAs (Decidable (∀ _ ∈ _, _ → _))
  | .fail _ _ _ => inferInstanceAs (Decidable (_ ∨ _))

/-- A fresh host has no image in use. -/
theorem unused_empty (t : Target) : Unused t {} where
  daemon := rfl
  qemuNbd := rfl
  file := rfl
  devices _ _ := nofun
  refs := rfl
  map := rfl

/-- Two domains share the disk, an attach fails and one is repeated, and both detach. -/
def sharedEvents : List Event :=
  [.attach "MIR" ⟨0, 0⟩, .attach "3" ⟨1, 1⟩, .fail "4" ⟨1, 1⟩ .makedirs,
    .fail "3" ⟨1, 1⟩ .requireBin, .detach "MIR", .attach "3" ⟨1, 1⟩, .detach "3"]

/-- Nothing is left after the last detach. -/
theorem references_exact_shared :
    ∃ u, Run.run (step (disk none)) { host := {} } sharedEvents = some u ∧
    u.attached = [] ∧ Exact (disk none) u := by
  have hchecked : (Run.checked (step (disk none)) Fair { host := {} } sharedEvents).any
      (fun u => u.attached == []) = true := by
    decide +kernel
  obtain ⟨u, hrun, hfair, htest⟩ := Run.exists_of_checked hchecked
  exact ⟨u, hrun, beq_iff_eq.mp htest,
    references_exact rfl inv_empty (unused_empty (disk none)) hrun hfair⟩

/-- An attach raises after it has taken its reference: no domain is attached, but the daemon runs
and the reference stays. -/
theorem failed_attach_counted : ∃ u, Run.run (step (disk none)) { host := {} }
      [.fail "3" ⟨0, 0⟩ .connectNbd] = some u ∧
    u.attached = [] ∧ u.host.refsOf "vol" = ["3"] ∧ ¬Exact (disk none) u := by
  have hrun : (Run.run (step (disk none)) { host := {} } [.fail "3" ⟨0, 0⟩ .connectNbd]).any
      (fun u => u.attached == [] && u.host.refsOf "vol" == ["3"]) = true := by
    decide +kernel
  obtain ⟨u, hrun, htest⟩ := (Option.any_eq_true _ _).mp hrun
  rw [Bool.and_eq_true, beq_iff_eq, beq_iff_eq] at htest
  obtain ⟨hattached, hrefs⟩ := htest
  refine ⟨u, hrun, hattached, hrefs, fun hexact => ?_⟩
  have hmem : "3" ∈ u.host.refsOf (disk none).image := by
    show "3" ∈ u.host.refsOf "vol"
    rw [hrefs]
    exact List.mem_singleton_self _
  obtain ⟨d, hd, -⟩ := (hexact.references "3").mp hmem
  rw [hattached] at hd
  cases hd

end XcpCephRbd.Serve.Refs
