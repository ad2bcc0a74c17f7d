import Mathlib.Data.List.AList
import XcpCephRbd.Lib.Run
import XcpCephRbd.Datapath.Resolve
import XcpCephRbd.Datapath.Qemu

/-!
# Which device an attach hands out

`Datapath.attach` and `detach` of `datapath.py` in the qemu and the blkback mode, with the parts of
`rbd_sysfs.py`, `qsd.py`, `dp_qemu.py`, `blknbd.py` and `dp_blkback.py` that they use, on one host
and with no operation failing. krbd maps are kept by volume: pool, namespace, image and snapshot. A
server, its socket, its NBD device and its references are kept by image alone, and an attach that
finds a server running for the image reuses it whatever volume it was started for.
`attach_serves_iff` says that in every state that attaches and detaches lead to, an attach hands out
the device of its URI exactly if the server it finds running, if any, serves that very device.
-/

namespace XcpCephRbd.Serve

/-- A volume as krbd maps it. -/
structure Vol where
  pool : String
  ns : String
  image : String
  snap : Option String
  deriving DecidableEq, Repr

/-- The volume that a URI stands for. -/
def volOf (t : Datapath.Target) : Vol :=
  { pool := t.pool, ns := t.ns, image := t.image, snap := t.snap }

/-- An NBD server process: a `qemu-storage-daemon` or a `qemu-nbd`, over one device. -/
structure Server where
  pid : Nat
  dev : Nat
  readOnly : Bool
  deriving DecidableEq, Repr

/-- What the host keeps: the mapped rbd devices, the running servers by image, and for the qemu mode
the references, the NBD device remembered for an image and the NBD devices that are connected, each
with the image of its socket and the process behind it. -/
structure Host where
  maps : AList (fun _ : Vol => Nat) := ∅
  daemons : AList (fun _ : String => Server) := ∅
  qemuNbds : AList (fun _ : String => Server) := ∅
  refs : AList (fun _ : String => List String) := ∅
  nbdFile : AList (fun _ : String => Nat) := ∅
  nbds : AList (fun _ : Nat => String × Nat) := ∅
  nextPid : Nat := 0

/-- What the kernel picks in an attach: the number of a new rbd device and a free NBD device. -/
structure Choice where
  rbd : Nat
  nbd : Nat
  deriving DecidableEq, Repr

/-- What an attach returns: the device it mapped, and the NBD device and the socket, if it served
the volume. -/
structure Attached where
  dev : Nat
  nbd : Option Nat := none
  sock : Option (Bool × String) := none
  deriving DecidableEq, Repr

namespace Host

/-- A mapped device has this number. -/
def usesRbd (h : Host) (dev : Nat) : Bool := h.maps.entries.any fun e => e.2 == dev

/-- A server holds the device open. -/
def opened (h : Host) (dev : Nat) : Bool :=
  (h.daemons.entries.any fun e => e.2.dev == dev) ||
    h.qemuNbds.entries.any fun e => e.2.dev == dev

/-- `map_image`: the device of the volume, which is mapped if it was not. -/
def mapImage (h : Host) (v : Vol) (rbd : Nat) : Option (Nat × Host) :=
  match h.maps.lookup v with
  | some dev => some (dev, h)
  | none => if h.usesRbd rbd then none else some (rbd, { h with maps := h.maps.insert v rbd })

/-- `unmap_image`; the kernel refuses to unmap a device that is open, which the caller logs. -/
def unmapImage (h : Host) (v : Vol) : Host :=
  match h.maps.lookup v with
  | some dev => if h.opened dev then h else { h with maps := h.maps.erase v }
  | none => h

/-- The references of an image. -/
def refsOf (h : Host) (image : String) : List String := (h.refs.lookup image).getD []

/-- `qsd.ref_add(image, domain)`. -/
def refAdd (h : Host) (image domain : String) : Host :=
  { h with refs := h.refs.insert image ((h.refsOf image).insert (Qemu.refToken domain)) }

/-- `qsd.start(image, dev, export, read_only)`: start the daemon, or reuse the one that runs. -/
def startQsd (h : Host) (image : String) (dev : Nat) (readOnly : Bool) : Host :=
  match h.daemons.lookup image with
  | some _ => h
  | none =>
      { h with
        daemons := h.daemons.insert image ⟨h.nextPid, dev, readOnly⟩
        nextPid := h.nextPid + 1 }

/-- `_nbd_wired_to(dev, sock)`: the NBD device is connected to the socket of the image. -/
def wired (h : Host) (nbd : Nat) (image : String) : Bool :=
  (h.nbds.lookup nbd).any fun c => c.1 == image

/-- Connect a free NBD device to the daemon of the image. -/
def connect (h : Host) (image : String) (nbd : Nat) : Option (Nat × Host) :=
  match h.daemons.lookup image, h.nbds.lookup nbd with
  | some s, none =>
      some (nbd, { h with
        nbds := h.nbds.insert nbd (image, s.pid)
        nbdFile := h.nbdFile.insert image nbd })
  | _, _ => none

/-- `qsd.nbd_attach(image, export)`: the device remembered for the image if it is wired to its
socket, else a new one. -/
def nbdAttach (h : Host) (image : String) (nbd : Nat) : Option (Nat × Host) :=
  match h.nbdFile.lookup image with
  | some existing => if h.wired existing image then some (existing, h) else h.connect image nbd
  | none => h.connect image nbd

/-- `qsd.stop(image)`. -/
def stopQsd (h : Host) (image : String) : Host :=
  { h with
    nbds := match h.nbdFile.lookup image with
      | some nbd => h.nbds.erase nbd
      | none => h.nbds
    daemons := h.daemons.erase image
    nbdFile := h.nbdFile.erase image
    refs := h.refs.erase image }

/-- `blknbd.serve(image, dev, read_only)`: start the `qemu-nbd`, or reuse the one that runs. -/
def serve (h : Host) (image : String) (dev : Nat) (readOnly : Bool) : Host :=
  match h.qemuNbds.lookup image with
  | some _ => h
  | none =>
      { h with
        qemuNbds := h.qemuNbds.insert image ⟨h.nextPid, dev, readOnly⟩
        nextPid := h.nextPid + 1 }

end Host

/-- `_is_sxm_domain(domain)`: the domain is not a number. -/
def isSxmDomain (domain : String) : Bool := domain == "" || !domain.toList.all Char.isDigit

/-- `dp_qemu.attach(image, snap, dev, domain)`. -/
def attachQemu (h : Host) (image : String) (snap : Option String) (dev : Nat) (domain : String)
    (nbd : Nat) : Option (Host × Attached) :=
  ((((h.refAdd image domain).startQsd image dev snap.isSome)).nbdAttach image nbd).map
    fun (existing, after) =>
      (after, { dev := dev, nbd := some existing, sock := some (true, image) })

/-- `dp_blkback.attach(image, snap, dev, domain)`. -/
def attachBlkback (h : Host) (image : String) (snap : Option String) (dev : Nat) (domain : String) :
    Host × Attached :=
  if isSxmDomain domain then
    (h.serve image dev snap.isSome, { dev := dev, sock := some (false, image) })
  else
    (h, { dev := dev })

/-- `Datapath.attach(uri, domain)` of a URI in the qemu or the blkback mode. -/
def attach (h : Host) (t : Datapath.Target) (domain : String) (choice : Choice) :
    Option (Host × Attached) :=
  (h.mapImage (volOf t) choice.rbd).bind fun (dev, mapped) =>
    if t.mode = "tapdisk" then none
    else if t.mode = "qemu" then attachQemu mapped t.image t.snap dev domain choice.nbd
    else some (attachBlkback mapped t.image t.snap dev domain)

/-- `dp_qemu.detach(image, domain)` and the unmap that follows the last consumer's. -/
def detachQemu (h : Host) (t : Datapath.Target) (domain : String) : Host :=
  let left := (h.refsOf t.image).filter fun token => token != Qemu.refToken domain
  if left.isEmpty then (h.stopQsd t.image).unmapImage (volOf t)
  else { h with refs := h.refs.insert t.image left }

/-- `Datapath.detach(uri, domain)` of a URI in the qemu or the blkback mode. -/
def detach (h : Host) (t : Datapath.Target) (domain : String) : Option Host :=
  if t.mode = "tapdisk" then none
  else if t.mode = "qemu" then some (detachQemu h t domain)
  else some ({ h with qemuNbds := h.qemuNbds.erase t.image }.unmapImage (volOf t))

/-- A call on the host. -/
inductive Act where
  | attach (uri domain : String) (choice : Choice)
  | detach (uri domain : String)
  deriving DecidableEq, Repr

/-- One call. -/
def step (read : String → Option Datapath.SrMeta) (h : Host) : Act → Option Host
  | .attach uri domain choice =>
      (Datapath.resolve read uri).bind fun t => (attach h t domain choice).map Prod.fst
  | .detach uri domain => (Datapath.resolve read uri).bind fun t => detach h t domain

/-- The server behind an NBD device. -/
def Host.behindNbd (h : Host) (nbd : Nat) : Option Server :=
  (h.nbds.lookup nbd).bind fun (image, pid) => (h.daemons.lookup image).filter fun s => s.pid == pid

/-- The server behind a socket: a daemon's, or a `qemu-nbd`'s. -/
def Host.behindSock (h : Host) : Bool × String → Option Server
  | (true, image) => h.daemons.lookup image
  | (false, image) => h.qemuNbds.lookup image

/-- The server exports the device that is mapped for the volume, read-only exactly if it is a
snapshot. -/
def Exports (h : Host) (v : Vol) (dev : Nat) (server : Option Server) : Prop :=
  h.maps.lookup v = some dev ∧ ∃ s, server = some s ∧ s.dev = dev ∧ s.readOnly = v.snap.isSome

/-- Everything that the attach handed out exports the device that it mapped. -/
def ServesRequested (h : Host) (t : Datapath.Target) (r : Attached) : Prop :=
  (∀ nbd ∈ r.nbd, Exports h (volOf t) r.dev (h.behindNbd nbd)) ∧
    ∀ sock ∈ r.sock, Exports h (volOf t) r.dev (h.behindSock sock)

/-- The server that an attach finds running. -/
def Host.found (h : Host) (t : Datapath.Target) (domain : String) : Option Server :=
  if t.mode = "qemu" then h.daemons.lookup t.image
  else if isSxmDomain domain then h.qemuNbds.lookup t.image
  else none

/-- If the attach finds a server running for its image, it serves the device of its own volume. -/
def ReusesOwn (h : Host) (t : Datapath.Target) (domain : String) : Prop :=
  ∀ s, h.found t domain = some s → h.maps.lookup (volOf t) = some s.dev

/-- Every server holds the device of a volume of its image, read-only exactly if that is a
snapshot. -/
def Backed (maps : AList fun _ : Vol => Nat) (servers : AList fun _ : String => Server) : Prop :=
  ∀ image s, servers.lookup image = some s →
    ∃ v, maps.lookup v = some s.dev ∧ v.image = image ∧ s.readOnly = v.snap.isSome

/-- What holds between any two calls: devices have one volume each, servers are backed, and an NBD
device that is remembered for an image and wired to its socket is connected to the daemon that
runs. -/
structure Inv (h : Host) : Prop where
  maps_inj : ∀ v v' dev, h.maps.lookup v = some dev → h.maps.lookup v' = some dev → v = v'
  daemons : Backed h.maps h.daemons
  qemuNbds : Backed h.maps h.qemuNbds
  wired : ∀ image nbd pid, h.nbdFile.lookup image = some nbd →
    h.nbds.lookup nbd = some (image, pid) → ∃ s, h.daemons.lookup image = some s ∧ s.pid = pid

section Lookup

variable {h : Host} {dev : Nat}

/-- The numbers in use are those of the mapped devices. -/
theorem usesRbd_iff : h.usesRbd dev = true ↔ ∃ v, h.maps.lookup v = some dev := by
  simp only [Host.usesRbd, List.any_eq_true, beq_iff_eq]
  constructor
  · rintro ⟨e, he, rfl⟩
    exact ⟨e.1, AList.mem_lookup_iff.mpr he⟩
  · rintro ⟨v, hv⟩
    exact ⟨⟨v, dev⟩, AList.mem_lookup_iff.mp hv, rfl⟩

/-- A server of the table holds the device. -/
theorem any_dev_iff {servers : AList fun _ : String => Server} :
    (servers.entries.any fun e => e.2.dev == dev) = true ↔
      ∃ image s, servers.lookup image = some s ∧ s.dev = dev := by
  simp only [List.any_eq_true, beq_iff_eq]
  constructor
  · rintro ⟨e, he, rfl⟩
    exact ⟨e.1, e.2, AList.mem_lookup_iff.mpr he, rfl⟩
  · rintro ⟨image, s, hs, rfl⟩
    exact ⟨⟨image, s⟩, AList.mem_lookup_iff.mp hs, rfl⟩

/-- A device that is not open has no server. -/
theorem not_held_of_not_opened (hopened : ¬h.opened dev = true) :
    (∀ image s, h.daemons.lookup image = some s → s.dev ≠ dev) ∧
      ∀ image s, h.qemuNbds.lookup image = some s → s.dev ≠ dev := by
  rw [Host.opened, Bool.or_eq_true, not_or, any_dev_iff, any_dev_iff] at hopened
  constructor
  · rintro image s hs rfl
    exact hopened.1 ⟨image, s, hs, rfl⟩
  · rintro image s hs rfl
    exact hopened.2 ⟨image, s, hs, rfl⟩

end Lookup

section Backed

variable {maps : AList fun _ : Vol => Nat} {servers : AList fun _ : String => Server}

/-- A volume that was not mapped may be mapped. -/
theorem Backed.map {v : Vol} (hb : Backed maps servers) (hnew : maps.lookup v = none) (dev : Nat) :
    Backed (maps.insert v dev) servers := by
  intro image s hs
  obtain ⟨w, hw, himage, hro⟩ := hb image s hs
  have hne : w ≠ v := by
    rintro rfl
    rw [hnew] at hw
    cases hw
  exact ⟨w, by rwa [AList.lookup_insert_ne hne], himage, hro⟩

/-- A volume whose device no server holds may be unmapped. -/
theorem Backed.unmap {v : Vol} {dev : Nat} (hb : Backed maps servers)
    (hv : maps.lookup v = some dev)
    (hfree : ∀ image s, servers.lookup image = some s → s.dev ≠ dev) :
    Backed (maps.erase v) servers := by
  intro image s hs
  obtain ⟨w, hw, himage, hro⟩ := hb image s hs
  have hne : w ≠ v := by
    rintro rfl
    rw [hv] at hw
    exact hfree image s hs (Option.some.inj hw).symm
  exact ⟨w, by rwa [AList.lookup_erase_ne hne], himage, hro⟩

/-- A server may be started over a device of its image. -/
theorem Backed.start {v : Vol} {dev : Nat} (hb : Backed maps servers)
    (hv : maps.lookup v = some dev) (pid : Nat) :
    Backed maps (servers.insert v.image ⟨pid, dev, v.snap.isSome⟩) := by
  intro image s hs
  by_cases himage : image = v.image
  · rw [himage, AList.lookup_insert] at hs
    cases hs
    exact ⟨v, hv, himage.symm, rfl⟩
  · rw [AList.lookup_insert_ne himage] at hs
    exact hb image s hs

/-- A server may be stopped. -/
theorem Backed.stop (hb : Backed maps servers) (image : String) :
    Backed maps (servers.erase image) := by
  intro other s hs
  by_cases hother : other = image
  · rw [hother, AList.lookup_erase] at hs
    cases hs
  · rw [AList.lookup_erase_ne hother] at hs
    exact hb other s hs

end Backed

section Steps

variable {h : Host}

/-- What `map_image` does: the device it returns is the volume's, and the rest stays. -/
theorem mapImage_spec {v : Vol} {rbd dev : Nat} {h' : Host} (hi : Inv h)
    (hmap : h.mapImage v rbd = some (dev, h')) :
    Inv h' ∧ h'.maps.lookup v = some dev ∧ h'.daemons = h.daemons ∧ h'.qemuNbds = h.qemuNbds ∧
      (h.maps.lookup v = some dev ∨
        h.maps.lookup v = none ∧ ∀ w, h.maps.lookup w ≠ some dev) := by
  unfold Host.mapImage at hmap
  split at hmap
  next old hold =>
      cases hmap
      exact ⟨hi, hold, rfl, rfl, .inl hold⟩
  next hnone =>
      split at hmap
      · cases hmap
      next huses =>
      cases hmap
      have hfresh : ∀ w, h.maps.lookup w ≠ some rbd := fun w hw => huses (usesRbd_iff.mpr ⟨w, hw⟩)
      refine ⟨⟨?_, hi.daemons.map hnone rbd, hi.qemuNbds.map hnone rbd, hi.wired⟩,
        AList.lookup_insert _, rfl, rfl, .inr ⟨hnone, hfresh⟩⟩
      intro w w' dev hw hw'
      by_cases hwv : w = v <;> by_cases hwv' : w' = v
      · rw [hwv, hwv']
      · rw [hwv, AList.lookup_insert] at hw
        rw [AList.lookup_insert_ne hwv', ← hw] at hw'
        exact absurd hw' (hfresh w')
      · rw [hwv', AList.lookup_insert] at hw'
        rw [AList.lookup_insert_ne hwv, ← hw'] at hw
        exact absurd hw (hfresh w)
      · rw [AList.lookup_insert_ne hwv] at hw
        rw [AList.lookup_insert_ne hwv'] at hw'
        exact hi.maps_inj w w' dev hw hw'

/-- Unmapping keeps the invariant. -/
theorem unmapImage_inv (hi : Inv h) (v : Vol) : Inv (h.unmapImage v) := by
  unfold Host.unmapImage
  split
  next dev hv =>
      split
      · exact hi
      next hopened =>
      obtain ⟨hdaemons, hnbds⟩ := not_held_of_not_opened hopened
      refine ⟨?_, hi.daemons.unmap hv hdaemons, hi.qemuNbds.unmap hv hnbds, hi.wired⟩
      intro w w' other hw hw'
      by_cases hwv : w = v
      · rw [hwv, AList.lookup_erase] at hw
        cases hw
      by_cases hwv' : w' = v
      · rw [hwv', AList.lookup_erase] at hw'
        cases hw'
      rw [AList.lookup_erase_ne hwv] at hw
      rw [AList.lookup_erase_ne hwv'] at hw'
      exact hi.maps_inj w w' other hw hw'
  next => exact hi

/-- A reference changes nothing else. -/
theorem refAdd_inv (hi : Inv h) (image domain : String) : Inv (h.refAdd image domain) :=
  ⟨hi.maps_inj, hi.daemons, hi.qemuNbds, hi.wired⟩

/-- What `qsd.start` does: a daemon runs for the image, the one from before or a new one over the
device. -/
theorem startQsd_spec {v : Vol} {dev : Nat} (hi : Inv h) (hv : h.maps.lookup v = some dev) :
    Inv (h.startQsd v.image dev v.snap.isSome) ∧
      (h.startQsd v.image dev v.snap.isSome).maps = h.maps ∧
      ∃ s, (h.startQsd v.image dev v.snap.isSome).daemons.lookup v.image = some s ∧
        (h.daemons.lookup v.image = some s ∨
          h.daemons.lookup v.image = none ∧ s.dev = dev ∧ s.readOnly = v.snap.isSome) := by
  unfold Host.startQsd
  split
  next s hs => exact ⟨hi, rfl, s, hs, .inl hs⟩
  next hnone =>
      refine ⟨⟨hi.maps_inj, hi.daemons.start hv _, hi.qemuNbds, ?_⟩, rfl, _, AList.lookup_insert _,
        .inr ⟨hnone, rfl, rfl⟩⟩
      intro image nbd pid hfile hnbd
      obtain ⟨s, hs, hpid⟩ := hi.wired image nbd pid hfile hnbd
      have hne : image ≠ v.image := by
        rintro rfl
        rw [hnone] at hs
        cases hs
      exact ⟨s, by rwa [AList.lookup_insert_ne hne], hpid⟩

/-- What connecting an NBD device does. -/
theorem connect_spec {image : String} {nbd n : Nat} {h' : Host} (hi : Inv h)
    (hconnect : h.connect image nbd = some (n, h')) :
    Inv h' ∧ h'.maps = h.maps ∧ h'.daemons = h.daemons ∧ h'.qemuNbds = h.qemuNbds ∧
      h'.behindNbd n = h.daemons.lookup image := by
  unfold Host.connect at hconnect
  split at hconnect
  next s hs hfree =>
      cases hconnect
      refine ⟨⟨hi.maps_inj, hi.daemons, hi.qemuNbds, ?_⟩, rfl, rfl, rfl, ?_⟩
      · intro other m pid hfile hnbd
        by_cases hother : other = image
        · rw [hother, AList.lookup_insert] at hfile
          cases hfile
          rw [AList.lookup_insert] at hnbd
          cases hnbd
          exact ⟨s, hs, rfl⟩
        · rw [AList.lookup_insert_ne hother] at hfile
          by_cases hm : m = nbd
          · rw [hm, AList.lookup_insert] at hnbd
            cases hnbd
            exact absurd rfl hother
          · rw [AList.lookup_insert_ne hm] at hnbd
            exact hi.wired other m pid hfile hnbd
      · simp [Host.behindNbd, AList.lookup_insert, hs]
  next => cases hconnect

/-- What `qsd.nbd_attach` does: the device that it returns is connected to the daemon of the
image. -/
theorem nbdAttach_spec {image : String} {nbd n : Nat} {h' : Host} (hi : Inv h)
    (hattach : h.nbdAttach image nbd = some (n, h')) :
    Inv h' ∧ h'.maps = h.maps ∧ h'.daemons = h.daemons ∧ h'.qemuNbds = h.qemuNbds ∧
      h'.behindNbd n = h.daemons.lookup image := by
  unfold Host.nbdAttach at hattach
  split at hattach
  next existing hfile =>
      split at hattach
      next hwired =>
          cases hattach
          obtain ⟨⟨other, pid⟩, hnbd, hsock⟩ := (Option.any_eq_true _ _).mp hwired
          obtain rfl : other = image := by simpa using hsock
          obtain ⟨s, hs, hpid⟩ := hi.wired other _ pid hfile hnbd
          exact ⟨hi, rfl, rfl, rfl, by simp [Host.behindNbd, hnbd, hs, hpid]⟩
      next => exact connect_spec hi hattach
  next => exact connect_spec hi hattach

/-- Stopping a daemon keeps the invariant. -/
theorem stopQsd_inv (hi : Inv h) (image : String) : Inv (h.stopQsd image) := by
  refine ⟨hi.maps_inj, hi.daemons.stop image, hi.qemuNbds, ?_⟩
  intro other nbd pid hfile hnbd
  dsimp only [Host.stopQsd] at hfile hnbd
  have hother : other ≠ image := by
    rintro rfl
    rw [AList.lookup_erase] at hfile
    cases hfile
  rw [AList.lookup_erase_ne hother] at hfile
  have hbefore : h.nbds.lookup nbd = some (other, pid) := by
    split at hnbd
    next gone _ =>
        have hne : nbd ≠ gone := by
          rintro rfl
          rw [AList.lookup_erase] at hnbd
          cases hnbd
        rwa [AList.lookup_erase_ne hne] at hnbd
    next => exact hnbd
  obtain ⟨s, hs, hpid⟩ := hi.wired other nbd pid hfile hbefore
  exact ⟨s, by rwa [Host.stopQsd, AList.lookup_erase_ne hother], hpid⟩

/-- What `blknbd.serve` does: a `qemu-nbd` runs for the image, the one from before or a new one over
the device. -/
theorem serve_spec {v : Vol} {dev : Nat} (hi : Inv h) (hv : h.maps.lookup v = some dev) :
    Inv (h.serve v.image dev v.snap.isSome) ∧
      (h.serve v.image dev v.snap.isSome).maps = h.maps ∧
      ∃ s, (h.serve v.image dev v.snap.isSome).qemuNbds.lookup v.image = some s ∧
        (h.qemuNbds.lookup v.image = some s ∨
          h.qemuNbds.lookup v.image = none ∧ s.dev = dev ∧ s.readOnly = v.snap.isSome) := by
  unfold Host.serve
  split
  next s hs => exact ⟨hi, rfl, s, hs, .inl hs⟩
  next hnone =>
      exact ⟨⟨hi.maps_inj, hi.daemons, hi.qemuNbds.start hv _, hi.wired⟩, rfl, _,
        AList.lookup_insert _, .inr ⟨hnone, rfl, rfl⟩⟩

/-- The server that an attach hands out, the one from before or a new one over the device that was
mapped, exports that device exactly if the one from before, if there was one, held it already. -/
theorem exports_iff (after : Host) (v : Vol) {mapped : Host} {dev : Nat} {s : Server}
    {before : Option Server} {servers : AList fun _ : String => Server} (hi : Inv mapped)
    (hb : Backed mapped.maps servers) (hbefore : servers.lookup v.image = before)
    (hdev : mapped.maps.lookup v = some dev) (hmaps : after.maps = mapped.maps)
    (hmapped : h.maps.lookup v = some dev ∨ h.maps.lookup v = none ∧ ∀ w,
      h.maps.lookup w ≠ some dev)
    (hheld : ∀ s, before = some s → ∃ w, h.maps.lookup w = some s.dev)
    (hs : before = some s ∨ before = none ∧ s.dev = dev ∧ s.readOnly = v.snap.isSome) :
    Exports after v dev (some s) ↔ ∀ s', before = some s' → h.maps.lookup v = some s'.dev := by
  obtain hold | ⟨hnone, hnew, hro⟩ := hs
  · have hone : (∀ s', before = some s' → h.maps.lookup v = some s'.dev) ↔
        h.maps.lookup v = some s.dev := by
      simp [hold]
    rw [hone]
    obtain ⟨w, hw, -, hro⟩ := hb v.image s (hbefore.trans hold)
    constructor
    · rintro ⟨-, _, hsome, hsame, -⟩
      cases hsome
      obtain hold' | ⟨-, hfresh⟩ := hmapped
      · rw [hold', hsame]
      · obtain ⟨u, hu⟩ := hheld s hold
        rw [hsame] at hu
        exact absurd hu (hfresh u)
    · intro hsame
      have hdevs : s.dev = dev := by
        obtain hold' | ⟨hno, -⟩ := hmapped
        · rw [hsame] at hold'
          exact Option.some.inj hold'
        · rw [hno] at hsame
          cases hsame
      rw [hdevs] at hw
      obtain rfl := hi.maps_inj w v dev hw hdev
      exact ⟨by rw [hmaps, hdev], s, rfl, hdevs, hro⟩
  · have hall : ∀ s', before = some s' → h.maps.lookup v = some s'.dev := by simp [hnone]
    exact ⟨fun _ => hall, fun _ => ⟨by rw [hmaps, hdev], s, rfl, hnew, hro⟩⟩

/-- What an attach does: the invariant is kept, and what it hands out exports the device of the URI
exactly if the server it found, if any, held that device. -/
theorem attach_spec {t : Datapath.Target} {domain : String} {choice : Choice} {h' : Host}
    {r : Attached} (hi : Inv h) (hattach : attach h t domain choice = some (h', r)) :
    Inv h' ∧ (ServesRequested h' t r ↔ ReusesOwn h t domain) := by
  obtain ⟨⟨dev, mapped⟩, hmap, hrest⟩ := Option.bind_eq_some_iff.mp hattach
  obtain ⟨himapped, hdev, hdaemons, hnbds, hmapped⟩ := mapImage_spec hi hmap
  have hheldDaemon : ∀ s, h.daemons.lookup t.image = some s → ∃ w, h.maps.lookup w = some s.dev :=
    fun s hs => (hi.daemons _ s hs).imp fun _ hw => hw.1
  have hheldNbd : ∀ s, h.qemuNbds.lookup t.image = some s → ∃ w, h.maps.lookup w = some s.dev :=
    fun s hs => (hi.qemuNbds _ s hs).imp fun _ hw => hw.1
  dsimp only at hrest
  split at hrest
  · cases hrest
  split at hrest
  next hqemu =>
      -- qemu: the daemon and the NBD device over it
      obtain ⟨⟨n, wiredHost⟩, hnbd, hpair⟩ := Option.map_eq_some_iff.mp hrest
      cases hpair
      have hirefs := refAdd_inv himapped t.image domain
      obtain ⟨histart, hmaps, s, hs, hstarted⟩ :=
        startQsd_spec (v := volOf t) hirefs (show _ = some dev from hdev)
      obtain ⟨hi', hmaps', hdaemons', -, hbehind⟩ := nbdAttach_spec histart hnbd
      have hbefore : (mapped.refAdd t.image domain).daemons.lookup t.image =
          h.daemons.lookup t.image := by
        rw [← hdaemons]
        rfl
      rw [show (volOf t).image = t.image from rfl] at hs hstarted
      rw [hbefore] at hstarted
      have hexports := exports_iff h' (volOf t) himapped
        (hdaemons ▸ himapped.daemons) rfl hdev (hmaps'.trans hmaps) hmapped hheldDaemon hstarted
      refine ⟨hi', ?_⟩
      have hnbds : h'.behindNbd n = some s := hbehind.trans hs
      have hsocks : h'.behindSock (true, t.image) = some s := by
        rw [Host.behindSock, hdaemons']
        exact hs
      simp only [ServesRequested, Option.mem_some_iff, forall_eq', hnbds, hsocks, and_self,
        hexports, ReusesOwn, Host.found, if_pos hqemu]
      rfl
  next hnotQemu =>
      have hpair := Option.some.inj hrest
      unfold attachBlkback at hpair
      by_cases hsxm : isSxmDomain domain = true
      · -- an SXM consumer: the qemu-nbd
        obtain ⟨hi', hmaps, s, hs, hserved⟩ := serve_spec (v := volOf t) himapped hdev
        rw [hnbds] at hserved
        have hexports := exports_iff (mapped.serve t.image dev t.snap.isSome) (volOf t) himapped
          (hnbds ▸ himapped.qemuNbds) rfl hdev hmaps hmapped hheldNbd hserved
        rw [if_pos hsxm] at hpair
        cases hpair
        refine ⟨hi', ?_⟩
        have hsocks : (mapped.serve t.image dev t.snap.isSome).behindSock (false, t.image) =
            some s := hs
        simp only [ServesRequested, Option.mem_some_iff, forall_eq', hsocks, hexports,
          ReusesOwn, Host.found, if_neg hnotQemu, if_pos hsxm]
        simp
        rfl
      · -- a guest: no server
        rw [if_neg hsxm] at hpair
        cases hpair
        refine ⟨himapped, ?_⟩
        simp [ServesRequested, ReusesOwn, Host.found, hnotQemu, hsxm]

/-- A detach keeps the invariant. -/
theorem detach_inv {t : Datapath.Target} {domain : String} {h' : Host} (hi : Inv h)
    (hdetach : detach h t domain = some h') : Inv h' := by
  unfold detach at hdetach
  split at hdetach
  · cases hdetach
  split at hdetach
  · cases hdetach
    dsimp only [detachQemu]
    split
    · exact unmapImage_inv (stopQsd_inv hi t.image) (volOf t)
    · exact ⟨hi.maps_inj, hi.daemons, hi.qemuNbds, hi.wired⟩
  · cases hdetach
    refine unmapImage_inv ?_ (volOf t)
    exact ⟨hi.maps_inj, hi.daemons, hi.qemuNbds.stop t.image, hi.wired⟩

/-- Every call keeps the invariant. -/
theorem step_inv {read : String → Option Datapath.SrMeta} {act : Act} {h' : Host} (hi : Inv h)
    (hstep : step read h act = some h') : Inv h' := by
  cases act with
  | attach uri domain choice =>
      obtain ⟨t, -, hattach⟩ := Option.bind_eq_some_iff.mp hstep
      obtain ⟨⟨after, r⟩, hsome, rfl⟩ := Option.map_eq_some_iff.mp hattach
      exact (attach_spec hi hsome).1
  | detach uri domain =>
      obtain ⟨t, -, hdetach⟩ := Option.bind_eq_some_iff.mp hstep
      exact detach_inv hi hdetach

end Steps

/-- On a host on which nothing is attached the invariant holds. -/
theorem inv_empty : Inv {} where
  maps_inj _ _ _ hv := nomatch hv
  daemons _ _ hs := nomatch hs
  qemuNbds _ _ hs := nomatch hs
  wired _ _ _ hfile := nomatch hfile

/-- The invariant holds in every state that calls lead to. -/
theorem run_inv {read : String → Option Datapath.SrMeta} {acts : List Act} {h : Host}
    (hrun : Run.run (step read) {} acts = some h) : Inv h :=
  Run.run_invariant (fun _ _ _ hi _ hstep => step_inv hi hstep) inv_empty
    (Run.along_of_forall fun _ _ => trivial) hrun

/-- After any sequence of attaches and detaches, what an attach hands out exports the device mapped
for its URI, read-only exactly if that is a snapshot, if and only if the server that the attach
found running for the image, if any, held that device. -/
theorem attach_serves_iff (read : String → Option Datapath.SrMeta) (acts : List Act) (h h' : Host)
    (t : Datapath.Target) (domain : String) (choice : Choice) (r : Attached)
    (hrun : Run.run (step read) {} acts = some h)
    (hattach : attach h t domain choice = some (h', r)) :
    ServesRequested h' t r ↔ ReusesOwn h t domain :=
  (attach_spec (run_inv hrun) hattach).2

/-- The SR of the runs below. -/
def qemuSr : String → Option Datapath.SrMeta :=
  fun _ => some { srUuid := "sr", pool := "xen", datapath := some "qemu" }

/-- The disk of the runs below, and its snapshots. -/
def disk (snap : Option String) : Datapath.Target := ⟨"xen", "sr", "vol", snap, "qemu"⟩

/-- The URI of a snapshot of the disk. -/
theorem resolve_snapshot : Datapath.resolve qemuSr "rbd://sr/vol@s" = some (disk (some "s")) := by
  decide +kernel

/-- A second consumer of the disk is handed the device of the disk. -/
theorem second_consumer_served : ∃ h h' r,
    Run.run (step qemuSr) {} [.attach "rbd://sr/vol" "1" ⟨0, 0⟩] = some h ∧
      attach h (disk none) "MIR" ⟨1, 1⟩ = some (h', r) ∧ ServesRequested h' (disk none) r := by
  have hcheck : ((Run.run (step qemuSr) {} [.attach "rbd://sr/vol" "1" ⟨0, 0⟩]).any fun h =>
      (attach h (disk none) "MIR" ⟨1, 1⟩).isSome &&
        h.found (disk none) "MIR" == some ⟨0, 0, false⟩ &&
        h.maps.lookup (volOf (disk none)) == some 0) = true := by
    decide +kernel
  obtain ⟨h, hrun, htest⟩ := (Option.any_eq_true _ _).mp hcheck
  simp only [Bool.and_eq_true, beq_iff_eq] at htest
  obtain ⟨⟨hsome, hfound⟩, hmap⟩ := htest
  obtain ⟨⟨h', r⟩, hattach⟩ := Option.isSome_iff_exists.mp hsome
  refine ⟨h, h', r, hrun, hattach, ?_⟩
  rw [attach_serves_iff _ _ _ _ _ _ _ _ hrun hattach]
  intro s hs
  rw [hfound] at hs
  cases hs
  exact hmap

/-- A snapshot that is attached while its disk is in use: the daemon of the disk is reused, and the
consumer of the snapshot is handed the disk. -/
theorem snapshot_gets_disk : ∃ h h' r,
    Run.run (step qemuSr) {} [.attach "rbd://sr/vol" "1" ⟨0, 0⟩] = some h ∧
      Datapath.resolve qemuSr "rbd://sr/vol@s" = some (disk (some "s")) ∧
      attach h (disk (some "s")) "2" ⟨1, 1⟩ = some (h', r) ∧
      ¬ServesRequested h' (disk (some "s")) r := by
  have hcheck : ((Run.run (step qemuSr) {} [.attach "rbd://sr/vol" "1" ⟨0, 0⟩]).any fun h =>
      (attach h (disk (some "s")) "2" ⟨1, 1⟩).isSome &&
        h.found (disk (some "s")) "2" == some ⟨0, 0, false⟩ &&
        h.maps.lookup (volOf (disk (some "s"))) == none) = true := by
    decide +kernel
  obtain ⟨h, hrun, htest⟩ := (Option.any_eq_true _ _).mp hcheck
  simp only [Bool.and_eq_true, beq_iff_eq] at htest
  obtain ⟨⟨hsome, hfound⟩, hmap⟩ := htest
  obtain ⟨⟨h', r⟩, hattach⟩ := Option.isSome_iff_exists.mp hsome
  refine ⟨h, h', r, hrun, resolve_snapshot, hattach, fun hserves => ?_⟩
  have hreuse := (attach_spec (run_inv hrun) hattach).2.mp hserves _ hfound
  rw [hmap] at hreuse
  cases hreuse

end XcpCephRbd.Serve
