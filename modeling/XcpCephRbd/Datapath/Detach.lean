import XcpCephRbd.Blkmirror.Stat
import XcpCephRbd.Datapath.Resolve

/-!
# Datapath calls beside a blkback mirror

`Datapath.attach` and `Datapath.detach` of `datapath.py` over all images of a host, each call with
its own control point, interleaved with each other and with the mirrors' own processes. In blkback
mode `detach` asks whether the *image* of the URI has a mirror and then finalizes or cancels it,
whichever URI is detached; `detach_keeps_mirror_iff` says for which URIs a detach leaves the mirror
of an image alone.
-/

namespace XcpCephRbd.Datapath

open Blkmirror

/-- A call of the datapath. -/
inductive Op where
  | attach (domain : String)
  | detach (domain : String)
  deriving DecidableEq, Repr

/-- Control points of a call: `map` and `serve` are those of an attach, `mirror` the blkback branch
of a detach, `stop` the mode's own detach. -/
inductive CallPc where
  | idle
  | resolve (op : Op) (uri : String)
  | map (t : Target) (domain : String)
  | serve (t : Target) (domain : String)
  | mirror (t : Target)
  | stop (t : Target)
  | unmap (t : Target)
  | returned
  | raised
  deriving DecidableEq, Repr

/-- What a step of a call is answered; `last` is what `dp_qemu.detach` returns. -/
structure CallReply extends Reply where
  last : Bool := true

/-- The datapath's side of a host: the SR metadata, the mirror of every image, the krbd maps of the
images (those of snapshots are in the image's mirror) and the userspace servers. -/
structure Host where
  read : String → Option SrMeta
  mirrors : String → Sys
  maps : List (String × String × String)
  servers : List (String × String)
  calls : Nat → CallPc

namespace Host

/-- Give the mirror of `image` the state `s`. -/
def setMirror (h : Host) (image : String) (s : Sys) : Host :=
  { h with mirrors := Function.update h.mirrors image s }

/-- Give call `c` the control point `pc`. -/
def setCall (h : Host) (c : Nat) (pc : CallPc) : Host :=
  { h with calls := Function.update h.calls c pc }

/-- Change the world of an image's mirror. -/
def setWorld (h : Host) (image : String) (w : World) : Host :=
  h.setMirror image { h.mirrors image with world := w }

variable (h : Host)

@[simp] theorem setCall_mirrors (c : Nat) (pc : CallPc) :
    (h.setCall c pc).mirrors = h.mirrors := rfl

@[simp] theorem setCall_read (c : Nat) (pc : CallPc) : (h.setCall c pc).read = h.read := rfl

@[simp] theorem setCall_self (c : Nat) (pc : CallPc) : (h.setCall c pc).calls c = pc := by
  simp [setCall]

theorem setCall_of_ne {c d : Nat} (pc : CallPc) (hne : d ≠ c) :
    (h.setCall c pc).calls d = h.calls d := by
  simp [setCall, hne]

@[simp] theorem setMirror_read (image : String) (s : Sys) :
    (h.setMirror image s).read = h.read := rfl

@[simp] theorem setMirror_calls (image : String) (s : Sys) :
    (h.setMirror image s).calls = h.calls := rfl

@[simp] theorem setMirror_self (image : String) (s : Sys) :
    (h.setMirror image s).mirrors image = s := by
  simp [setMirror]

theorem setMirror_of_ne {image other : String} (s : Sys) (hne : other ≠ image) :
    (h.setMirror image s).mirrors other = h.mirrors other := by
  simp [setMirror, hne]

end Host

/-- `_is_sxm_domain(domain)`. -/
def isSxmDomain (domain : String) : Bool := domain == "" || !domain.toList.all Char.isDigit

/-- The server an attach starts: in blkback mode one only for the receiving end of a migration. -/
def server (t : Target) (domain : String) : List (String × String) :=
  if t.mode = "tapdisk" then [("tapdisk", t.image)]
  else if t.mode = "qemu" then [("qemu", t.image)]
  else if isSxmDomain domain then [("nbd", t.image)]
  else []

section Step

variable {geom : String → Geometry} (be : ∀ image, ObjectDiff (geom image))
  (dconf : String → Dconf)

/-- `rbd_sysfs.map_image`: mapping again is a no-op, and a snapshot is mapped only if it exists. -/
def mapTarget (h : Host) (t : Target) (r : Reply) : Option Host :=
  match t.snap with
  | none =>
      if h.maps.contains (t.pool, t.ns, t.image) then some h
      else if r.ok then some { h with maps := (t.pool, t.ns, t.image) :: h.maps }
      else none
  | some snap => ((h.mirrors t.image).world.mapSnap snap r).map (h.setWorld t.image)

/-- `rbd_sysfs.unmap_image`, with its failure logged and ignored. -/
def unmapTarget (h : Host) (t : Target) (r : Reply) : Host :=
  match t.snap with
  | none =>
      if r.ok then { h with maps := h.maps.filter fun m => m != (t.pool, t.ns, t.image) } else h
  | some snap => h.setWorld t.image ((h.mirrors t.image).world.unmapSnap snap r)

/-- The next step of call `c`. A detach in blkback mode runs the mirror's code on the image of its
URI, as detach number `c`; an exception of `finalize` or `cancel` ends the call. -/
def callStep (h : Host) (c : Nat) (r : CallReply) : Option Host :=
  match h.calls c with
  | .idle | .returned | .raised => none
  | .resolve op uri =>
      match resolve h.read uri with
      | none => some (h.setCall c .raised)
      | some t =>
          some (h.setCall c (match op with
            | .attach domain => .map t domain
            | .detach _ => if t.mode = "tapdisk" ∨ t.mode = "qemu" then .stop t else .mirror t))
  | .map t domain =>
      match mapTarget h t r.toReply with
      | some h' => some (h'.setCall c (.serve t domain))
      | none => some (h.setCall c .raised)
  | .serve t domain =>
      if r.ok then
        some ({ h with servers := server t domain ++ h.servers }.setCall c .returned)
      else some (h.setCall c .raised)
  | .mirror t =>
      (detachStep (be t.image) (h.mirrors t.image) c r.toReply).map fun s =>
        (h.setMirror t.image s).setCall c (match s.detach c with
          | .done .raised => .raised
          | .done _ => .stop t
          | _ => .mirror t)
  | .stop t =>
      if t.mode = "tapdisk" then
        -- a `tap-ctl destroy` that fails is logged and ignored
        let servers := h.servers.filter fun e => !r.ok || e != ("tapdisk", t.image)
        some ({ h with servers := servers }.setCall c (.unmap t))
      else if t.mode = "qemu" then
        if r.last then
          some ({ h with servers := h.servers.filter fun e => e != ("qemu", t.image) }.setCall c
            (.unmap t))
        else some (h.setCall c .returned)
      else
        some ({ h with servers := h.servers.filter fun e => e != ("nbd", t.image) }.setCall c
          (.unmap t))
  | .unmap t => some ((unmapTarget h t r.toReply).setCall c .returned)

/-- One step of a host: a call comes in, a call takes its next step, or a process of an image's
mirror other than a detach does. -/
inductive HostAct where
  | call (c : Nat) (op : Op) (uri : String)
  | step (c : Nat) (r : CallReply)
  | mirror (image : String) (a : Act)

/-- One step of the host. -/
def hostStep (h : Host) : HostAct → Option Host
  | .call c op uri => if h.calls c = .idle then some (h.setCall c (.resolve op uri)) else none
  | .step c r => callStep be h c r
  | .mirror image a =>
      match a with
      | .detach _ _ => none
      | _ => (Blkmirror.step (be image) (dconf image) (h.mirrors image) a).map (h.setMirror image)

end Step

/-! ## Which detaches leave a mirror alone -/

/-- The mirror as its migration depends on it: its worker, the files of its state directory, its
snapshots and its destination connection are the same. -/
structure Kept (s s' : Sys) : Prop where
  worker : s'.worker = s.worker
  dir : s'.world.dir = s.world.dir
  job : s'.world.job = s.world.job
  status : s'.world.status = s.world.status
  stop : s'.world.stop = s.world.stop
  snaps : s'.world.snaps = s.world.snaps
  nbd : s'.world.nbd = s.world.nbd

/-- A detach that executes or has executed `finalize` or `cancel`. -/
def Cutting : DetachPc → Bool
  | .idle | .checkActive | .checkStatus | .done .noMirror => false
  | _ => true

/-- The detach of `uri` is not one of the image `base` in blkback mode. -/
def Harmless (read : String → Option SrMeta) (base uri : String) : Prop :=
  ∀ t, resolve read uri = some t → t.mode = "tapdisk" ∨ t.mode = "qemu" ∨ t.image ≠ base

/-- In every run after call `c` has come in, whatever else happens on the host, each step of the
call keeps the mirror of `base` and executes neither `finalize` nor `cancel` of it. -/
def LeavesMirror {geom : String → Geometry} (be : ∀ image, ObjectDiff (geom image))
    (dconf : String → Dconf) (h : Host) (c : Nat) (op : Op) (uri base : String) : Prop :=
  ∀ acts h₁ r h₂, Run.run (hostStep be dconf) h (.call c op uri :: acts) = some h₁ →
    hostStep be dconf h₁ (.step c r) = some h₂ →
    Kept (h₁.mirrors base) (h₂.mirrors base) ∧ Cutting ((h₂.mirrors base).detach c) = false

theorem Kept.refl (s : Sys) : Kept s s := ⟨rfl, rfl, rfl, rfl, rfl, rfl, rfl⟩

section Keep

variable {geom : String → Geometry} {be : ∀ image, ObjectDiff (geom image)}
  {dconf : String → Dconf}

/-- `krbd` maps of snapshots are no part of what the mirror depends on. -/
theorem unmapTarget_mirrors (h : Host) (t : Target) (r : Reply) (base : String) :
    Kept (h.mirrors base) ((unmapTarget h t r).mirrors base) ∧
      ((unmapTarget h t r).mirrors base).detach = (h.mirrors base).detach := by
  unfold unmapTarget
  cases t.snap with
  | none =>
      dsimp only
      split <;> exact ⟨.refl _, rfl⟩
  | some snap =>
      by_cases himage : base = t.image
      · subst himage
        simp only [Host.setWorld, Host.setMirror_self, World.unmapSnap]
        cases r.ok <;> exact ⟨⟨rfl, rfl, rfl, rfl, rfl, rfl, rfl⟩, trivial⟩
      · simp only [Host.setWorld, Host.setMirror_of_ne _ _ himage]
        exact ⟨.refl _, trivial⟩

theorem mapTarget_detach {h h' : Host} {t : Target} {r : Reply} (hmap : mapTarget h t r = some h')
    (base : String) : (h'.mirrors base).detach = (h.mirrors base).detach ∧
      h'.calls = h.calls ∧ h'.read = h.read := by
  unfold mapTarget at hmap
  cases hsnap : t.snap with
  | none =>
      simp only [hsnap] at hmap
      split at hmap
      · cases hmap
        exact ⟨rfl, rfl, rfl⟩
      · simp only [Option.ite_none_right_eq_some, Option.some.injEq] at hmap
        obtain ⟨-, rfl⟩ := hmap
        exact ⟨rfl, rfl, rfl⟩
  | some snap =>
      simp only [hsnap, Option.map_eq_some_iff] at hmap
      obtain ⟨w, -, rfl⟩ := hmap
      refine ⟨?_, rfl, rfl⟩
      by_cases himage : base = t.image
      · subst himage
        simp [Host.setWorld]
      · simp [Host.setWorld, Host.setMirror_of_ne _ _ himage]

theorem unmapTarget_calls (h : Host) (t : Target) (r : Reply) :
    (unmapTarget h t r).calls = h.calls ∧ (unmapTarget h t r).read = h.read := by
  unfold unmapTarget
  cases t.snap with
  | none =>
      dsimp only
      split <;> exact ⟨rfl, rfl⟩
  | some snap => exact ⟨rfl, rfl⟩

/-- A step of one call leaves the others alone, in the datapath and in every mirror. -/
theorem callStep_frame {h h' : Host} {c d : Nat} {r : CallReply} (hne : d ≠ c)
    (hstep : callStep be h c r = some h') (base : String) :
    h'.read = h.read ∧ h'.calls d = h.calls d ∧
      (h'.mirrors base).detach d = (h.mirrors base).detach d := by
  unfold callStep at hstep
  cases hc : h.calls c with
  | idle | returned | raised => simp [hc] at hstep
  | resolve op uri =>
      simp only [hc] at hstep
      split at hstep <;> cases hstep <;> simp [Host.setCall_of_ne _ _ hne]
  | map t domain =>
      simp only [hc] at hstep
      cases hmap : mapTarget h t r.toReply with
      | none =>
          simp only [hmap, Option.some.injEq] at hstep
          subst hstep
          simp [Host.setCall_of_ne _ _ hne]
      | some h'' =>
          simp only [hmap, Option.some.injEq] at hstep
          subst hstep
          obtain ⟨hdetach, hcalls, hread⟩ := mapTarget_detach hmap base
          simp [Host.setCall_of_ne _ _ hne, hdetach, hcalls, hread]
  | serve t domain =>
      simp only [hc] at hstep
      split at hstep <;> cases hstep <;> simp [Host.setCall_of_ne _ _ hne]
  | mirror t =>
      simp only [hc, Option.map_eq_some_iff] at hstep
      obtain ⟨s, hdetach, rfl⟩ := hstep
      refine ⟨rfl, by simp [Host.setCall_of_ne _ _ hne], ?_⟩
      by_cases himage : base = t.image
      · subst himage
        simpa using (detachStep_cases hdetach).detach_of_ne hne
      · simp [Host.setMirror_of_ne _ _ himage]
  | stop t =>
      simp only [hc] at hstep
      split at hstep
      · cases hstep
        simp [Host.setCall_of_ne _ _ hne]
      · split at hstep
        · split at hstep <;> cases hstep <;> simp [Host.setCall_of_ne _ _ hne]
        · cases hstep
          simp [Host.setCall_of_ne _ _ hne]
  | unmap t =>
      simp only [hc, Option.some.injEq] at hstep
      subst hstep
      obtain ⟨hcalls, hread⟩ := unmapTarget_calls h t r.toReply
      simp [Host.setCall_of_ne _ _ hne, hcalls, hread, (unmapTarget_mirrors h t r.toReply base).2]

/-- Where a detach call of `uri` may be, if it is none of `base` in blkback mode. -/
def Aside (base uri : String) : CallPc → Prop
  | .resolve (.detach _) uri' => uri' = uri
  | .mirror t => t.image ≠ base
  | .stop _ | .unmap _ | .returned | .raised => True
  | _ => False

/-- Call `c` stays aside of the mirror of `base`. -/
structure Bystander (srs : String → Option SrMeta) (base uri : String) (c : Nat) (h : Host) :
    Prop where
  srs : h.read = srs
  call : Aside base uri (h.calls c)
  detach : (h.mirrors base).detach c = .idle

/-- A step of such a call keeps the mirror and stays aside of it. -/
theorem Bystander.own {srs : String → Option SrMeta} {base uri : String} {c : Nat} {h h' : Host}
    {r : CallReply} (hby : Bystander srs base uri c h) (hharm : Harmless srs base uri)
    (hstep : callStep be h c r = some h') :
    Kept (h.mirrors base) (h'.mirrors base) ∧ Bystander srs base uri c h' := by
  obtain ⟨hsrs, hcall, hidle⟩ := hby
  unfold callStep at hstep
  cases hc : h.calls c with
  | idle | map _ _ | serve _ _ =>
      rw [hc] at hcall
      exact hcall.elim
  | returned | raised => simp [hc] at hstep
  | resolve op uri' =>
      rw [hc] at hcall
      cases op with
      | attach domain => exact hcall.elim
      | detach domain =>
          obtain rfl : uri' = uri := hcall
          simp only [hc] at hstep
          cases ht : resolve h.read uri' with
          | none =>
              simp only [ht, Option.some.injEq] at hstep
              subst hstep
              exact ⟨.refl _, hsrs, by simp [Aside], hidle⟩
          | some t =>
              simp only [ht, Option.some.injEq] at hstep
              subst hstep
              refine ⟨.refl _, hsrs, ?_, hidle⟩
              by_cases hmode : t.mode = "tapdisk" ∨ t.mode = "qemu"
              · simp [hmode, Aside]
              · have himage : t.image ≠ base := by
                  have := hharm t (hsrs ▸ ht)
                  tauto
                simp [hmode, Aside, himage]
  | mirror t =>
      rw [hc] at hcall
      simp only [hc, Option.map_eq_some_iff] at hstep
      obtain ⟨s, -, rfl⟩ := hstep
      have hsame : ((h.setMirror t.image s).mirrors base) = h.mirrors base :=
        Host.setMirror_of_ne _ _ (Ne.symm hcall)
      refine ⟨by simpa [hsame] using Kept.refl _, hsrs, ?_, by simpa [hsame] using hidle⟩
      rw [Host.setCall_self]
      split
      · trivial
      · trivial
      · exact hcall
  | stop t =>
      simp only [hc] at hstep
      split at hstep
      · cases hstep
        exact ⟨.refl _, hsrs, by simp [Aside], hidle⟩
      · split at hstep
        · split at hstep <;> cases hstep <;> exact ⟨.refl _, hsrs, by simp [Aside], hidle⟩
        · cases hstep
          exact ⟨.refl _, hsrs, by simp [Aside], hidle⟩
  | unmap t =>
      simp only [hc, Option.some.injEq] at hstep
      subst hstep
      obtain ⟨hkept, hdetach⟩ := unmapTarget_mirrors h t r.toReply base
      refine ⟨hkept, (unmapTarget_calls h t r.toReply).2.trans hsrs, by simp [Aside], ?_⟩
      simpa [hdetach] using hidle

/-- Nothing on the host draws the call in. -/
theorem Bystander.step {srs : String → Option SrMeta} {base uri : String} {c : Nat} {h h' : Host}
    {a : HostAct} (hby : Bystander srs base uri c h) (hharm : Harmless srs base uri)
    (hstep : hostStep be dconf h a = some h') : Bystander srs base uri c h' := by
  cases a with
  | call d op u =>
      simp only [hostStep, Option.ite_none_right_eq_some, Option.some.injEq] at hstep
      obtain ⟨hidle, rfl⟩ := hstep
      have hne : c ≠ d := by
        rintro rfl
        have hcall := hby.call
        rw [hidle] at hcall
        exact hcall.elim
      exact ⟨hby.srs, by simpa [Host.setCall_of_ne _ _ hne] using hby.call, hby.detach⟩
  | step d r =>
      by_cases hd : c = d
      · subst hd
        exact (hby.own hharm hstep).2
      · obtain ⟨hread, hcalls, hdetach⟩ := callStep_frame hd hstep base
        exact ⟨hread.trans hby.srs, hcalls ▸ hby.call, hdetach.trans hby.detach⟩
  | mirror image a =>
      have hframe : notDetach a = true ∧ ∃ s,
          Blkmirror.step (be image) (dconf image) (h.mirrors image) a = some s ∧
            h.setMirror image s = h' := by
        cases a <;> simp_all [hostStep, notDetach, Option.map_eq_some_iff]
      obtain ⟨hnot, s, hs, rfl⟩ := hframe
      refine ⟨hby.srs, hby.call, ?_⟩
      by_cases himage : base = image
      · subst himage
        rw [Host.setMirror_self, step_detach hnot hs]
        exact hby.detach
      · rw [Host.setMirror_of_ne _ _ himage]
        exact hby.detach

/-- A step of a detach call in the mirror's code that does not end it. -/
theorem mirror_step (be : ∀ image, ObjectDiff (geom image)) (dconf : String → Dconf)
    {h : Host} {c : Nat} {t : Target} {s : Sys} (hc : h.calls c = .mirror t)
    (hs : detachStep (be t.image) (h.mirrors t.image) c {} = some s)
    (hgo : ∀ e, s.detach c ≠ .done e) :
    ∃ h', hostStep be dconf h (.step c {}) = some h' ∧ h'.calls c = .mirror t ∧
      h'.mirrors t.image = s := by
  refine ⟨(h.setMirror t.image s).setCall c (.mirror t), ?_, by simp, by simp⟩
  simp only [hostStep, callStep, hc, hs, Option.map_some, Option.some.injEq]
  split
  · exact absurd ‹_› (hgo _)
  · exact absurd ‹_› (hgo _)
  · rfl

/-- In blkback mode a detach call of an image with an active mirror executes `finalize` or
`cancel`. -/
theorem detach_cuts (be : ∀ image, ObjectDiff (geom image)) (dconf : String → Dconf)
    (domain : String) {h : Host} {c : Nat} {uri : String} {t : Target} (hcall : h.calls c = .idle)
    (hfresh : (h.mirrors t.image).detach c = .idle)
    (hactive : (h.mirrors t.image).world.active = true) (ht : resolve h.read uri = some t)
    (hmode : ¬ (t.mode = "tapdisk" ∨ t.mode = "qemu")) :
    ∃ h₁ h₂, Run.run (hostStep be dconf) h
        (.call c (.detach domain) uri :: List.replicate 3 (HostAct.step c {})) = some h₁ ∧
      hostStep be dconf h₁ (.step c {}) = some h₂ ∧
      Cutting ((h₂.mirrors t.image).detach c) = true := by
  have hincoming : hostStep be dconf h (.call c (.detach domain) uri) =
      some (h.setCall c (.resolve (.detach domain) uri)) := by
    simp [hostStep, hcall]
  have hresolved : hostStep be dconf (h.setCall c (.resolve (.detach domain) uri)) (.step c {}) =
      some ((h.setCall c (.resolve (.detach domain) uri)).setCall c (.mirror t)) := by
    simp [hostStep, callStep, ht, hmode]
  obtain ⟨ha, hstepA, hcA, hsA⟩ := mirror_step be dconf
    (Host.setCall_self (h.setCall c (.resolve (.detach domain) uri)) c (.mirror t))
    (s := (h.mirrors t.image).setDetach c .checkActive) (by simp [detachStep, hfresh]) (by simp)
  obtain ⟨hb, hstepB, hcB, hsB⟩ := mirror_step be dconf hcA
    (s := (ha.mirrors t.image).setDetach c .checkStatus)
    (by simp [detachStep, hsA, hactive]) (by simp)
  obtain ⟨hz, hstepZ, -, hsZ⟩ := mirror_step be dconf hcB
    (s := (hb.mirrors t.image).setDetach c (if
      truthy ((hb.mirrors t.image).world.readStatus.get "complete") &&
        !truthy ((hb.mirrors t.image).world.readStatus.get "failed") then .finRead else .canActive))
    (by simp [detachStep, hsB]) (by split <;> simp)
  refine ⟨hb, hz, ?_, hstepZ, ?_⟩
  · exact Run.run_cons_iff.mpr ⟨_, hincoming, Run.run_cons_iff.mpr ⟨_, hresolved,
      Run.run_cons_iff.mpr ⟨_, hstepA, Run.run_cons_iff.mpr ⟨_, hstepB, rfl⟩⟩⟩⟩
  · rw [hsZ, Sys.setDetach_self]
    split <;> rfl

/-- **Which detaches leave a mirror alone.** While the mirror of `base` is active, the detach of a
URI leaves it alone, in every run of the host, exactly when the URI is not one of that image in
blkback mode; that it is the URI of a snapshot does not matter. -/
theorem detach_keeps_mirror_iff {h : Host} {c : Nat} {uri domain base : String}
    (hcall : h.calls c = .idle) (hfresh : (h.mirrors base).detach c = .idle)
    (hactive : (h.mirrors base).world.active = true) :
    LeavesMirror be dconf h c (.detach domain) uri base ↔ Harmless h.read base uri := by
  constructor
  · intro hleaves t ht
    by_contra hnot
    obtain ⟨hmode, rfl⟩ : ¬ (t.mode = "tapdisk" ∨ t.mode = "qemu") ∧ t.image = base := by tauto
    obtain ⟨h₁, h₂, hrun, hstep, hcut⟩ :=
      detach_cuts be dconf domain hcall hfresh hactive ht hmode
    have hnot := (hleaves _ h₁ {} h₂ hrun hstep).2
    simp [hcut] at hnot
  · intro hharm acts h₁ r h₂ hrun hstep
    obtain ⟨h₀, hcall', hrest⟩ := Run.run_cons_iff.mp hrun
    simp only [hostStep, hcall, if_true, Option.some.injEq] at hcall'
    subst hcall'
    have hinit : Bystander h.read base uri c (h.setCall c (.resolve (.detach domain) uri)) :=
      ⟨rfl, by simp [Aside], hfresh⟩
    have hguard : Run.Along (hostStep be dconf) (fun _ _ => True)
        (h.setCall c (.resolve (.detach domain) uri)) acts :=
      Run.along_of_forall fun _ _ => trivial
    have hby : Bystander h.read base uri c h₁ :=
      Run.run_invariant (fun _ _ _ hb _ hs => Bystander.step hb hharm hs) hinit hguard hrest
    obtain ⟨hkept, hby'⟩ := hby.own hharm hstep
    exact ⟨hkept, by rw [hby'.detach]; rfl⟩

end Keep

/-- A host with one SR in blkback mode, no call, and an empty image of one sector behind every
name. -/
def Host.fresh : Host where
  read := fun uuid => if uuid = "sr" then some { srUuid := "sr", pool := "rbd" } else none
  mirrors := fun _ => Sys.init .empty []
  maps := []
  servers := []
  calls := fun _ => .idle

/-- The host step with images of one sector. -/
def sectorStep : Host → HostAct → Option Host :=
  hostStep (fun _ => ObjectDiff.exact sector) (fun _ => {})

/-- `mirror()` of the image `disk` and its first pass. -/
def converged : List HostAct :=
  List.replicate 10 (HostAct.mirror "disk" (.mirror {})) ++
    List.replicate 7 (HostAct.mirror "disk" (.worker {}))

/-- While `disk` is mirrored, the detach of another image leaves it alone. -/
theorem detach_keeps_mirror_other_image :
    ∃ h, Run.run sectorStep Host.fresh converged = some h ∧
      (LeavesMirror (fun _ => ObjectDiff.exact sector) (fun _ => {}) h 0 (.detach "0")
          "rbd://sr/other" "disk" ↔ Harmless h.read "disk" "rbd://sr/other") ∧
      Harmless h.read "disk" "rbd://sr/other" := by
  have hrun : ((Run.run sectorStep Host.fresh converged).any fun h =>
      decide (h.calls 0 = .idle) && decide ((h.mirrors "disk").detach 0 = .idle) &&
        (h.mirrors "disk").world.active && decide (resolve h.read "rbd://sr/other" =
          some ⟨"rbd", "sr", "other", none, "blkback"⟩)) = true := by
    decide +kernel
  simp only [Option.any_eq_true, Bool.and_eq_true, decide_eq_true_eq] at hrun
  obtain ⟨h, hrun, ⟨⟨hcall, hfresh⟩, hactive⟩, ht⟩ := hrun
  refine ⟨h, hrun, detach_keeps_mirror_iff hcall hfresh hactive, fun t ht' => ?_⟩
  cases ht.symm.trans ht'
  exact .inr (.inr (by decide))

/-- The detach of a snapshot of `disk`, as a backup that has read it makes it, finalizes the
mirror of `disk` while its guest still runs: the worker is stopped, the snapshots of the mirror
and its state are gone. -/
theorem snapshot_detach_finalizes :
    ∃ h h', Run.run sectorStep Host.fresh converged = some h ∧
      (h.mirrors "disk").world.active = true ∧ (h.mirrors "disk").worker.running = true ∧
      (resolve h.read "rbd://sr/disk@backup").map (fun t => (t.image, t.snap)) =
        some ("disk", some "backup") ∧
      Run.run sectorStep h ([.call 0 (.detach "0") "rbd://sr/disk@backup"] ++
        List.replicate 10 (HostAct.step 0 {}) ++ [HostAct.mirror "disk" (.worker {})] ++
        List.replicate 14 (HostAct.step 0 {})) = some h' ∧
      h'.calls 0 = .returned ∧ (h'.mirrors "disk").detach 0 = .done .finalized ∧
      (h'.mirrors "disk").world.active = false ∧ (h'.mirrors "disk").worker.running = false ∧
      (h'.mirrors "disk").world.snaps.length < (h.mirrors "disk").world.snaps.length := by
  have hrun : ((Run.run sectorStep Host.fresh converged).any fun h =>
      (h.mirrors "disk").world.active && (h.mirrors "disk").worker.running &&
      decide ((resolve h.read "rbd://sr/disk@backup").map (fun t => (t.image, t.snap)) =
        some ("disk", some "backup")) &&
      (Run.run sectorStep h ([.call 0 (.detach "0") "rbd://sr/disk@backup"] ++
        List.replicate 10 (HostAct.step 0 {}) ++ [HostAct.mirror "disk" (.worker {})] ++
        List.replicate 14 (HostAct.step 0 {}))).any fun h' =>
      decide (h'.calls 0 = .returned) && decide ((h'.mirrors "disk").detach 0 = .done .finalized) &&
      !(h'.mirrors "disk").world.active && !(h'.mirrors "disk").worker.running &&
      decide ((h'.mirrors "disk").world.snaps.length < (h.mirrors "disk").world.snaps.length)) =
        true := by
    decide +kernel
  simp only [Option.any_eq_true, Bool.and_eq_true, decide_eq_true_eq, Bool.not_eq_true'] at hrun
  obtain ⟨h, hrun, ⟨⟨hactive, hworker⟩, ht⟩, h', hrun', ⟨⟨⟨hcall, hdone⟩, hgone⟩, hstopped⟩, hlt⟩ :=
    hrun
  exact ⟨h, h', hrun, hactive, hworker, ht, hrun', hcall, hdone, hgone, hstopped, hlt⟩

end XcpCephRbd.Datapath
