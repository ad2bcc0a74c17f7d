import XcpCephRbd.Lib.Run

/-!
# The consumers of one image in qemu mode

`dp_qemu.py` and the parts of `qsd.py` it uses: a storage daemon exports the node `vol` over the
mapped device, its consumers are counted by a reference per domain, `mirror` starts a block job to
the node `dst`, and every detach drains that job by completing it. Completing a job puts `dst` in
the place of `vol` for every user of the node, the export included. The drain takes this for
harmless because the daemon is killed next, which is so only in the last consumer's detach.
`export_served` says that the export of the consumers that stay is backed by the device in every
run in which only the detach of the last consumer completes a job.

Calls come one after the other; the block job moves on its own between any two steps.
-/

namespace XcpCephRbd.Qemu

/-- What the export is backed by. -/
inductive Backing where
  | device
  | target
  deriving DecidableEq, Repr

/-- A `blockdev-mirror` job of the daemon. -/
structure Job where
  id : String
  ready : Bool := false
  completing : Bool := false
  deriving DecidableEq, Repr

/-- A running storage daemon: what backs its export, whether the node `dst` exists, and its job. -/
structure Daemon where
  backing : Backing := .device
  dst : Bool := false
  job : Option Job := none
  deriving DecidableEq, Repr

namespace Daemon

/-- `blockdev-del` of `dst`; a node in use by a job or by the export stays. -/
def delDst (d : Daemon) : Daemon :=
  if d.job.isNone && d.backing == .device then { d with dst := false } else d

/-- `query-block-jobs`, looking for the job `id`. -/
def findJob (d : Daemon) (id : String) : Option Job := d.job.filter fun j => j.id == id

end Daemon

/-- Control points of the call that is under way, with its live variables. The drain's loops count
the polls that are left. -/
inductive Pc where
  | idle
  | refAdd (domain : String)
  | start (domain : String)
  | nbdAttach
  | mirrorDel (job : String)
  | mirrorAdd (job : String)
  | mirrorStart (job : String)
  | mirrorUndo
  | drainQuery (domain : String)
  | drainPoll (domain id : String) (left : Nat)
  | drainComplete (domain id : String)
  | drainWait (domain id : String) (left : Nat)
  | drainDel (domain : String)
  | refDel (domain : String)
  | stop
  deriving DecidableEq, Repr

/-- The state of one image in qemu mode. -/
structure Qsd where
  daemon : Option Daemon := none
  refs : List String := []
  pc : Pc := .idle
  deriving DecidableEq, Repr

/-- One step: a call comes in, the call under way takes its next step, with what it is answered, or
the job or the daemon moves. -/
inductive Act where
  | attach (domain : String)
  | mirror (remote : String)
  | detach (domain : String)
  | step (ok : Bool)
  | ready
  | finish
  | fail
  | crash
  deriving DecidableEq, Repr

/-- `_ref_token(domain)`. -/
def refToken (domain : String) : String :=
  if domain = "" then "none"
  else String.ofList (domain.toList.map fun c => if c = '/' then '_' else c)

/-- The job id of a mirror to `name`. -/
def jobId (name : String) : String := "m_" ++ String.ofList (name.toList.take 32)

/-- The polls of each of the drain's loops. -/
def polls : Nat := 600

/-- The next step of the call under way. A QMP command fails without a daemon; a failure inside
`drain_mirror` is logged and ends the drain. -/
def callStep (s : Qsd) (ok : Bool) : Option Qsd :=
  match s.pc with
  | .idle => none
  -- attach
  | .refAdd domain =>
      some { s with refs := s.refs.insert (refToken domain), pc := .start domain }
  | .start _ =>
      match s.daemon with
      | some _ => some { s with pc := .nbdAttach }
      | none => some (if ok then { s with daemon := some {}, pc := .nbdAttach }
          else { s with pc := .idle })
  | .nbdAttach => some { s with pc := .idle }
  -- mirror
  | .mirrorDel job =>
      match s.daemon with
      | some d => some { s with daemon := some d.delDst, pc := .mirrorAdd job }
      | none => some { s with pc := .idle }
  | .mirrorAdd job =>
      match s.daemon with
      | some d =>
          some (if ok && !d.dst then
            { s with daemon := some { d with dst := true }, pc := .mirrorStart job }
            else { s with pc := .idle })
      | none => some { s with pc := .idle }
  | .mirrorStart job =>
      match s.daemon with
      | some d =>
          some (if ok && d.job.isNone then
            { s with daemon := some { d with job := some { id := job } }, pc := .idle }
            else { s with pc := .mirrorUndo })
      | none => some { s with pc := .idle }
  | .mirrorUndo => some { s with daemon := s.daemon.map Daemon.delDst, pc := .idle }
  -- detach: drain_mirror
  | .drainQuery domain =>
      match s.daemon with
      | some d =>
          some { s with pc := if ok then (match d.job with
            | some j => .drainPoll domain j.id polls
            | none => .drainDel domain) else .refDel domain }
      | none => some { s with pc := .refDel domain }
  | .drainPoll domain id 0 => some { s with pc := .drainComplete domain id }
  | .drainPoll domain id (left + 1) =>
      match s.daemon with
      | some d =>
          some { s with pc := if ok then (match d.findJob id with
            | none => .drainDel domain
            | some j => if j.ready then .drainComplete domain id else .drainPoll domain id left)
            else .refDel domain }
      | none => some { s with pc := .refDel domain }
  | .drainComplete domain id =>
      match s.daemon with
      | some d =>
          some (match d.findJob id with
            | some j =>
                if ok && j.ready then
                  { s with
                    daemon := some { d with job := some { j with completing := true } }
                    pc := .drainWait domain id polls }
                else { s with pc := .refDel domain }
            | none => { s with pc := .refDel domain })
      | none => some { s with pc := .refDel domain }
  | .drainWait domain _ 0 => some { s with pc := .drainDel domain }
  | .drainWait domain id (left + 1) =>
      match s.daemon with
      | some d =>
          some { s with pc := if ok then (match d.findJob id with
            | none => .drainDel domain
            | some _ => .drainWait domain id left) else .refDel domain }
      | none => some { s with pc := .refDel domain }
  | .drainDel domain => some { s with daemon := s.daemon.map Daemon.delDst, pc := .refDel domain }
  -- detach: ref_del and stop
  | .refDel domain =>
      let refs := s.refs.filter fun token => token != refToken domain
      some { s with refs := refs, pc := if refs.isEmpty then .stop else .idle }
  | .stop => some { s with daemon := none, refs := [], pc := .idle }

/-- Change the daemon's job, if there is one. -/
def moveJob (s : Qsd) (f : Daemon → Job → Option Daemon) : Option Qsd :=
  s.daemon.bind fun d => d.job.bind fun j => (f d j).map fun d' => { s with daemon := some d' }

/-- One step of the image. A job that is completing ends with `dst` in the place of `vol`; a job may
fail at any time, which leaves the nodes as they are. -/
def step (s : Qsd) : Act → Option Qsd
  | .attach domain => if s.pc = .idle then some { s with pc := .refAdd domain } else none
  | .mirror name => if s.pc = .idle then some { s with pc := .mirrorDel (jobId name) } else none
  | .detach domain => if s.pc = .idle then some { s with pc := .drainQuery domain } else none
  | .step ok => callStep s ok
  | .ready => moveJob s fun d j => some { d with job := some { j with ready := true } }
  | .finish => moveJob s fun d j =>
      if j.completing then some { d with backing := .target, job := none } else none
  | .fail => moveJob s fun d _ => some { d with job := none }
  | .crash => s.daemon.map fun _ => { s with daemon := none }

/-- The domain whose detach is under way. -/
def Pc.detaching : Pc → Option String
  | .drainQuery domain | .drainPoll domain _ _ | .drainComplete domain _ | .drainWait domain _ _
  | .drainDel domain | .refDel domain => some domain
  | _ => none

/-- The references of the consumers that stay. -/
def Qsd.remaining (s : Qsd) : List String :=
  match s.pc.detaching with
  | some domain => s.refs.filter fun token => token != refToken domain
  | none => s.refs

/-- As long as a consumer stays, the export is backed by the device. -/
def Served (s : Qsd) : Prop :=
  ∀ d, s.daemon = some d → s.remaining ≠ [] → d.backing = .device

/-- The step is a successful `block-job-complete` of a drain. -/
def completes (s : Qsd) : Act → Bool
  | .step ok =>
      match s.pc, s.daemon with
      | .drainComplete _ id, some d => ok && (d.findJob id).any fun j => j.ready
      | _, _ => false
  | _ => false

/-- A detach completes the mirror's job only if its domain is the last consumer. -/
def LastCompletes (s : Qsd) (a : Act) : Prop := completes s a = true → s.remaining = []

instance (s : Qsd) (a : Act) : Decidable (LastCompletes s a) :=
  inferInstanceAs (Decidable (_ → _))

/-! ## The export of the consumers that stay -/

/-- A daemon whose export is backed by the device and will be: its job is not being completed. -/
structure Daemon.Sound (d : Daemon) : Prop where
  backing : d.backing = .device
  job : ∀ j, d.job = some j → j.completing = false

/-- A detach that may have completed the mirror's job. -/
def Pc.cutting : Pc → Bool
  | .drainWait _ _ _ | .drainDel _ | .refDel _ | .stop => true
  | _ => false

/-- The daemon is sound, or the last consumer is on its way to stop it. -/
def Inv (s : Qsd) : Prop :=
  (∀ d, s.daemon = some d → d.Sound) ∨ (s.pc.cutting = true ∧ s.remaining = [])

theorem Daemon.Sound.delDst {d : Daemon} (h : d.Sound) : d.delDst.Sound := by
  unfold Daemon.delDst
  split
  · exact ⟨h.backing, h.job⟩
  · exact h

theorem Inv.served {s : Qsd} (h : Inv s) : Served s := by
  intro d hd hremaining
  rcases h with hsound | ⟨-, hnone⟩
  · exact (hsound d hd).backing
  · exact absurd hnone hremaining

/-- Where no detach is past the completion of a job, the daemon is sound. -/
theorem Inv.sound {s : Qsd} (h : Inv s) (hpc : s.pc.cutting = false) :
    ∀ d, s.daemon = some d → d.Sound := by
  rcases h with hsound | ⟨hcutting, -⟩
  · exact hsound
  · simp [hpc] at hcutting

/-- The last consumer stays the last on its way from the completed job to `ref_del`. -/
theorem Inv.move {s : Qsd} {daemon : Option Daemon} {pc : Pc} (h : Inv s)
    (hdaemon : (∀ d, s.daemon = some d → d.Sound) → ∀ d, daemon = some d → d.Sound)
    (hcutting : pc.cutting = true) (hdomain : pc.detaching = s.pc.detaching) :
    Inv { s with daemon := daemon, pc := pc } := by
  rcases h with hsound | ⟨-, hlast⟩
  · exact .inl (hdaemon hsound)
  · exact .inr ⟨hcutting, by simpa [Qsd.remaining, hdomain] using hlast⟩

theorem Inv.callStep {s s' : Qsd} {ok : Bool} (h : Inv s)
    (hlast : LastCompletes s (.step ok)) (hstep : callStep s ok = some s') : Inv s' := by
  have hsound := h.sound
  unfold Qemu.callStep at hstep
  cases hpc : s.pc with
  | idle => simp [hpc] at hstep
  | refAdd domain | nbdAttach =>
      simp only [hpc, Option.some.injEq] at hstep
      subst hstep
      exact .inl (hsound (by rw [hpc]; rfl))
  | stop =>
      simp only [hpc, Option.some.injEq] at hstep
      subst hstep
      exact .inl (by simp)
  | start domain =>
      simp only [hpc] at hstep
      split at hstep <;> cases hstep
      · exact .inl (hsound (by rw [hpc]; rfl))
      · split
        · exact .inl fun d hnew => by cases hnew; exact ⟨rfl, by simp⟩
        · exact .inl (hsound (by rw [hpc]; rfl))
  | mirrorDel job =>
      simp only [hpc] at hstep
      split at hstep <;> cases hstep
      · rename_i d hd
        exact .inl fun d' hnew => by
          cases hnew
          exact (hsound (by rw [hpc]; rfl) d hd).delDst
      · exact .inl (hsound (by rw [hpc]; rfl))
  | mirrorAdd job =>
      simp only [hpc] at hstep
      split at hstep <;> cases hstep
      · rename_i d hd
        have hd' := hsound (by rw [hpc]; rfl) d hd
        split
        · exact .inl fun d' hnew => by cases hnew; exact ⟨hd'.backing, hd'.job⟩
        · exact .inl (hsound (by rw [hpc]; rfl))
      · exact .inl (hsound (by rw [hpc]; rfl))
  | mirrorStart job =>
      simp only [hpc] at hstep
      split at hstep <;> cases hstep
      · rename_i d hd
        have hd' := hsound (by rw [hpc]; rfl) d hd
        split
        · exact .inl fun d' hnew => by cases hnew; exact ⟨hd'.backing, by simp⟩
        · exact .inl (hsound (by rw [hpc]; rfl))
      · exact .inl (hsound (by rw [hpc]; rfl))
  | mirrorUndo =>
      simp only [hpc, Option.some.injEq] at hstep
      subst hstep
      refine .inl fun d' hnew => ?_
      obtain ⟨d, hd, rfl⟩ := Option.map_eq_some_iff.mp hnew
      exact (hsound (by rw [hpc]; rfl) d hd).delDst
  | drainQuery domain =>
      simp only [hpc] at hstep
      split at hstep <;> cases hstep <;> exact .inl (hsound (by rw [hpc]; rfl))
  | drainPoll domain job left =>
      have hsame : s'.daemon = s.daemon := by
        cases left with
        | zero =>
            simp only [hpc, Option.some.injEq] at hstep
            rw [← hstep]
        | succ left =>
            simp only [hpc] at hstep
            split at hstep <;> cases hstep <;> rfl
      exact .inl (hsame ▸ hsound (by rw [hpc]; rfl))
  | drainComplete domain job =>
      simp only [hpc] at hstep
      split at hstep <;> cases hstep
      · rename_i d hd
        cases hj : d.findJob job with
        | none => exact .inl (hsound (by rw [hpc]; rfl))
        | some j =>
            by_cases hready : (ok && j.ready) = true
            · -- the job is completed now, so this is the last consumer
              have hnone := hlast (by simpa [completes, hpc, hd, hj] using hready)
              simp only [hready, if_true]
              exact .inr ⟨rfl, by simpa [Qsd.remaining, hpc, Pc.detaching] using hnone⟩
            · simp only [hready]
              exact .inl (hsound (by rw [hpc]; rfl))
      · exact .inl (hsound (by rw [hpc]; rfl))
  | drainWait domain job left =>
      cases left with
      | zero =>
          simp only [hpc, Option.some.injEq] at hstep
          subst hstep
          exact h.move (fun hd => hd) rfl (by rw [hpc]; rfl)
      | succ left =>
          simp only [hpc] at hstep
          split at hstep <;> cases hstep
          · refine h.move (fun hd => hd) ?_ ?_
            · split
              · split <;> rfl
              · rfl
            · rw [hpc]
              split
              · split <;> rfl
              · rfl
          · exact h.move (fun hd => hd) rfl (by rw [hpc]; rfl)
  | drainDel domain =>
      simp only [hpc, Option.some.injEq] at hstep
      subst hstep
      refine h.move (fun hsound d' hnew => ?_) rfl (by rw [hpc]; rfl)
      obtain ⟨d, hd, rfl⟩ := Option.map_eq_some_iff.mp hnew
      exact (hsound d hd).delDst
  | refDel domain =>
      simp only [hpc, Option.some.injEq] at hstep
      subst hstep
      rcases h with hsound | ⟨-, hnone⟩
      · exact .inl hsound
      · have hrefs : (s.refs.filter fun token => token != refToken domain) = [] := by
          simpa only [Qsd.remaining, hpc, Pc.detaching] using hnone
        rw [hrefs]
        exact .inr ⟨rfl, rfl⟩

/-- The job and the daemon move on their own: a job that is not being completed cannot take the
export over. -/
theorem Inv.moveJob {s s' : Qsd} {f : Daemon → Job → Option Daemon} (h : Inv s)
    (hf : ∀ d j d', d.Sound → d.job = some j → f d j = some d' → d'.Sound)
    (hstep : moveJob s f = some s') : Inv s' := by
  simp only [Qemu.moveJob, Option.bind_eq_some_iff, Option.map_eq_some_iff] at hstep
  obtain ⟨d, hd, j, hj, d', hd', rfl⟩ := hstep
  rcases h with hsound | hlast
  · refine .inl fun d'' hnew => ?_
    cases hnew
    exact hf d j _ (hsound d hd) hj hd'
  · exact .inr hlast

theorem Inv.step {s s' : Qsd} {a : Act} (h : Inv s) (hlast : LastCompletes s a)
    (hstep : step s a = some s') : Inv s' := by
  cases a with
  | attach domain | mirror remote | detach domain =>
      simp only [Qemu.step, Option.ite_none_right_eq_some, Option.some.injEq] at hstep
      obtain ⟨hidle, rfl⟩ := hstep
      exact .inl (h.sound (by rw [hidle]; rfl))
  | step ok => exact h.callStep hlast hstep
  | ready =>
      refine h.moveJob (fun d j d' hd hj hd' => ?_) hstep
      cases hd'
      exact ⟨hd.backing, by simpa using hd.job j hj⟩
  | finish =>
      refine h.moveJob (fun d j d' hd hj hd' => ?_) hstep
      simp [hd.job j hj] at hd'
  | fail =>
      refine h.moveJob (fun d j d' hd hj hd' => ?_) hstep
      cases hd'
      exact ⟨hd.backing, by simp⟩
  | crash =>
      simp only [Qemu.step, Option.map_eq_some_iff] at hstep
      obtain ⟨-, -, rfl⟩ := hstep
      exact .inl (by simp)

/-- **The consumers that stay write to the source.** In every run of attaches, mirrors and detaches
in which only the detach of the last consumer completes a mirror job, the export is backed by the
mapped device as long as a consumer stays. -/
theorem export_served {acts : List Act} {s : Qsd} (hrun : Run.run step {} acts = some s)
    (hlast : Run.Along step LastCompletes {} acts) : Served s := by
  have hinit : Inv {} := .inl (by simp)
  exact (Run.run_invariant (fun _ _ _ h hg hs => Inv.step h hg hs) hinit hlast hrun).served

/-- A guest attaches, the mirror's own consumer attaches, and a mirror is started. -/
def mirrored : List Act :=
  [Act.attach "1"] ++ List.replicate 3 (Act.step true) ++ [Act.attach "u0-mir"] ++
    List.replicate 3 (Act.step true) ++ [Act.mirror "disk"] ++ List.replicate 3 (Act.step true)

/-- A detach of the mirror's consumer after its job has failed. -/
theorem export_served_failed_job :
    ∃ s, Run.run step {}
        (mirrored ++ [Act.fail, .detach "u0-mir"] ++ List.replicate 3 (Act.step true)) =
        some s ∧
      s.pc = .idle ∧ s.refs = ["1"] ∧ Served s := by
  have hrun : ((Run.checked step LastCompletes {}
      (mirrored ++ [Act.fail, .detach "u0-mir"] ++ List.replicate 3 (Act.step true))).any fun s =>
        decide (s.pc = .idle) && decide (s.refs = ["1"])) = true := by
    decide +kernel
  obtain ⟨s, hrun, hlast, htest⟩ := Run.exists_of_checked hrun
  simp only [Bool.and_eq_true, decide_eq_true_eq] at htest
  exact ⟨s, hrun, htest.1, htest.2, export_served hrun hlast⟩

/-- The detach of the mirror's consumer completes the ready job: the guest stays attached and its
export is the migration target. -/
theorem export_moved_to_target :
    ∃ s d, Run.run step {} (mirrored ++ [Act.ready, .detach "u0-mir"] ++
        List.replicate 3 (Act.step true) ++
        [Act.finish] ++ List.replicate 3 (Act.step true)) = some s ∧
      s.pc = .idle ∧ s.refs = ["1"] ∧ s.daemon = some d ∧ d.backing = .target := by
  have hrun : ((Run.run step {} (mirrored ++ [.ready, .detach "u0-mir"] ++
      List.replicate 3 (Act.step true) ++ [Act.finish] ++
        List.replicate 3 (Act.step true))).any fun s =>
        decide (s.pc = .idle) && decide (s.refs = ["1"]) &&
        s.daemon.any fun d => decide (d.backing = .target)) = true := by
    decide +kernel
  simp only [Option.any_eq_true, Bool.and_eq_true, decide_eq_true_eq] at hrun
  obtain ⟨s, hrun, ⟨hidle, hrefs⟩, d, hd, htarget⟩ := hrun
  exact ⟨s, d, hrun, hidle, hrefs, hd, htarget⟩

end XcpCephRbd.Qemu
