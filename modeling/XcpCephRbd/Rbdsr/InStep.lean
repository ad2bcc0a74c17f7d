import XcpCephRbd.Gc.Undo
import XcpCephRbd.Rbdsr.Life

/-!
# Ceph and the XAPI database in step

`CephRBDVDI.create`, `snapshot` and `clone` make an object in Ceph and a record in XAPI's database.
One failing call of the backend or of XAPI may stop them at any point, and their handlers then undo
what was made. `in_step_iff` says that the object and the record come together or not at all, with
two exceptions: `snapshot` asks XAPI for the reference of the base outside of any handler, and an
exception of the backend that is no `RbdBackendError`, such as a timeout, escapes the `try` around
the snapshot that `snapshot` and `clone` made.
-/

namespace XcpCephRbd.Rbdsr.Life

open Fault Prog
open Gc (Graph Extra SameImages Image Snap Spec raisesRbd)
open Volume (BackendError Exc)

/-! ## One failing call -/

/-- The calls that can fail: those of the backend and of XAPI. -/
def canFail : Call → Bool
  | .gc c => Gc.isBackend c
  | _ => true

/-- What a call fails with: one of the backend with any exception, an `RbdBackendError` or not. -/
def failure (error : Exc) (message : String) : Call → Exc
  | .gc _ | .poolStats => error
  | _ => .other message

/-- Ceph grants what it can of the backend's calls, and the host answers the others. -/
def honest (host : Nat → Gc.Cluster → Gc.OpCall → Gc.OpChoice) (time : Nat) (w : Gc.Cluster)
    (c : Gc.OpCall) : Gc.OpChoice :=
  if Gc.isBackend c then .ok else host time w c

/-- The system with another graph. -/
def Sys.withGraph (st : Sys) (g : Graph) : Sys :=
  { st with cluster := { st.cluster with graph := g } }

@[simp] theorem Sys.withGraph_graph (st : Sys) (g : Graph) :
    (st.withGraph g).cluster.graph = g := rfl

@[simp] theorem Sys.withGraph_db (st : Sys) (g : Graph) : (st.withGraph g).db = st.db := rfl

section Faulty

variable (shape : Gc.Shape) (sr : Gc.Sr) (host : Nat → Gc.Cluster → Gc.OpCall → Gc.OpChoice)
  (error : Exc) (message : String) (n : Nat)

/-- Call number `n` fails, if it is one of the backend or of XAPI. -/
def faulty : Armed Sys → (c : Call) → Option (Except Exc c.Result × Armed Sys) :=
  strike (answer shape sr (honest host)) canFail (failure error message) n

variable {shape sr host error message n} {st st' : Sys} {t : Nat} {armed : Bool}

/-- A call that fails. -/
theorem ask_hit {c : Call} (hc : canFail c = true) (ht : t = n) :
    (ask c).exec (faulty shape sr host error message n) ⟨st, t, true⟩ =
      some (.error (failure error message c), ⟨st, t + 1, false⟩) :=
  exec_perform (strike_hit rfl ht hc)

/-- A call that is answered. -/
theorem ask_ok {c : Call} {result : c.Result} (hmiss : armed = false ∨ t ≠ n)
    (hanswer : answer shape sr (honest host) t st c = some (.ok result, st')) :
    (ask c).exec (faulty shape sr host error message n) ⟨st, t, armed⟩ =
      some (.ok result, ⟨st', t + 1, armed⟩) :=
  exec_perform (strike_ok hmiss hanswer)

/-- A call that is refused. -/
theorem ask_refused {c : Call} {e : Exc} (hc : canFail c = true) (hmiss : armed = false ∨ t ≠ n)
    (hanswer : answer shape sr (honest host) t st c = some (.error e, st')) :
    (ask c).exec (faulty shape sr host error message n) ⟨st, t, armed⟩ =
      some (.error e, ⟨st', t + 1, false⟩) :=
  exec_perform (strike_refused hc hmiss hanswer)

/-- The answer to a call of the backend. -/
theorem answer_gc {c : Gc.OpCall} (hc : Gc.isBackend c = true) :
    answer shape sr (honest host) t st (.gc c) =
      match Gc.opEffect shape sr st.cluster c with
      | some (result, cluster) => some (.ok result, { st with cluster := cluster })
      | none => some (.error (.backend (Gc.refused sr st.cluster c)), st) := by
  rw [answer, Gc.opAnswer, honest, if_pos hc, Gc.opHandle_granted]
  cases Gc.opEffect shape sr st.cluster c <;> rfl

/-- A call of the backend that Ceph grants. -/
theorem ceph_grant {c : Gc.OpCall} {result : c.Result} {g : Graph} (hc : Gc.isBackend c = true)
    (hmiss : armed = false ∨ t ≠ n)
    (heffect : Gc.opEffect shape sr st.cluster c =
      some (result, { st.cluster with graph := g })) :
    (ceph c).exec (faulty shape sr host error message n) ⟨st, t, armed⟩ =
      some (.ok result, ⟨st.withGraph g, t + 1, armed⟩) := by
  refine ask_ok hmiss ?_
  rw [answer_gc hc, heffect]
  rfl

/-- A call of the backend that Ceph refuses. -/
theorem ceph_refuse {c : Gc.OpCall} (hc : Gc.isBackend c = true) (hmiss : armed = false ∨ t ≠ n)
    (heffect : Gc.opEffect shape sr st.cluster c = none) :
    (ceph c).exec (faulty shape sr host error message n) ⟨st, t, armed⟩ =
      some (.error (.backend (Gc.refused sr st.cluster c)), ⟨st, t + 1, false⟩) := by
  refine ask_refused hc hmiss ?_
  rw [answer_gc hc, heffect]

/-- An exception that is no `RbdBackendError` is not handled. -/
theorem except_other {α : Type} {p : Py α} {handler : BackendError → Py α} {e : Exc}
    {s s' : Armed Sys} (he : raisesRbd e = false)
    (h : p.exec (faulty shape sr host error message n) s = some (.error e, s')) :
    (exceptBackend p handler).exec (faulty shape sr host error message n) s =
      some (.error e, s') := by
  refine (exec_tryCatch_error h).trans ?_
  cases e with
  | backend b => cases he
  | unimplemented | calledProcess | other => rfl

/-- An `RbdBackendError` is. -/
theorem except_backend {α : Type} {p : Py α} {handler : BackendError → Py α} {b : BackendError}
    {s between : Armed Sys} {reply : Option (Except Exc α × Armed Sys)}
    (h : p.exec (faulty shape sr host error message n) s = some (.error (.backend b), between))
    (hhandler : (handler b).exec (faulty shape sr host error message n) between = reply) :
    (exceptBackend p handler).exec (faulty shape sr host error message n) s = reply :=
  (exec_tryCatch_error h).trans hhandler

/-- A new UUID. -/
theorem run_genUuid {uuid : String} (hhost : host t st.cluster (.call .uuid4) = .fresh uuid)
    (huuid : Volume.isUuid uuid.toList = true) :
    genUuid.exec (faulty shape sr host error message n) ⟨st, t, armed⟩ =
      some (.ok uuid, ⟨st, t + 1, armed⟩) := by
  have hanswer : answer shape sr (honest host) t st (.gc (.call .uuid4)) = some (.ok uuid, st) := by
    rw [answer, Gc.opAnswer, honest, if_neg (by decide), hhost, Gc.opHandle, if_pos huuid]
    rfl
  refine exec_perform ((strike_miss (.inr (.inr rfl)) hanswer).trans ?_)
  simp [Except.isOk, Except.toBool]

/-- Every call is answered. -/
theorem faulty_answered (s : Armed Sys) (c : Call) :
    ∃ reply after, faulty shape sr host error message n s c = some (reply, after) := by
  have hanswer : ∃ reply after, answer shape sr (honest host) s.time s.state c =
      some (reply, after) := by
    cases c with
    | gc c =>
        simp only [answer, Gc.opAnswer]
        cases Gc.opHandle shape sr (honest host s.time s.state.cluster c) s.state.cluster c <;>
          exact ⟨_, _, rfl⟩
    | getByUuid uuid =>
        rw [answer]
        split <;> exact ⟨_, _, rfl⟩
    | getCbtEnabled ref =>
        rw [answer]
        split <;> exact ⟨_, _, rfl⟩
    | dbIntroduce uuid record =>
        rw [answer]
        split <;> exact ⟨_, _, rfl⟩
    | dbUpdate uuid size =>
        rw [answer]
        split <;> exact ⟨_, _, rfl⟩
    | poolStats => exact ⟨_, _, rfl⟩
    | loadVdi uuid => exact ⟨_, _, rfl⟩
    | dbForget uuid => exact ⟨_, _, rfl⟩
    | getVirtualAllocation => exact ⟨_, _, rfl⟩
    | setStats virtualAllocation physicalSize physicalUtilisation => exact ⟨_, _, rfl⟩
  obtain ⟨reply, after, hanswer⟩ := hanswer
  unfold faulty strike
  split
  · exact ⟨_, _, rfl⟩
  · rw [hanswer]
    exact ⟨_, _, rfl⟩

/-- A call that is not the failing one. -/
theorem miss_of_not_hit (h : ¬(armed = true ∧ t = n)) : armed = false ∨ t ≠ n := by
  cases armed with
  | false => exact .inl rfl
  | true => exact .inr fun ht => h ⟨rfl, ht⟩

/-- After a reading in a `try` of its own the rest runs on the system as it was. -/
theorem of_guarded {α : Type} {c : Call} {result default : c.Result} {rest : c.Result → Py α}
    {out : Except Exc α} {s : Armed Sys}
    (h : (MonadExcept.tryCatch (ask c) (fun _ => pure default) >>= rest : Py α).exec
      (faulty shape sr host error message n) ⟨st, t, armed⟩ = some (out, s))
    (hc : canFail c = true)
    (hanswer : answer shape sr (honest host) t st c = some (.ok result, st)) :
    ∃ value armed', (rest value).exec (faulty shape sr host error message n)
      ⟨st, t + 1, armed'⟩ = some (out, s) ∧ (t ≠ n → armed' = armed) := by
  by_cases hhit : armed = true ∧ t = n
  · obtain ⟨rfl, ht⟩ := hhit
    have hread : (MonadExcept.tryCatch (ask c) fun _ => pure default : Py c.Result).exec
        (faulty shape sr host error message n) ⟨st, t, true⟩ =
          some (.ok default, ⟨st, t + 1, false⟩) := exec_tryCatch_error (ask_hit hc ht)
    rw [exec_bind hread] at h
    exact ⟨default, false, h, fun hne => absurd ht hne⟩
  · have hread : (MonadExcept.tryCatch (ask c) fun _ => pure default : Py c.Result).exec
        (faulty shape sr host error message n) ⟨st, t, armed⟩ =
          some (.ok result, ⟨st, t + 1, armed⟩) :=
      exec_tryCatch (ask_ok (miss_of_not_hit hhit) hanswer)
    rw [exec_bind hread] at h
    exact ⟨result, armed, h, fun _ => rfl⟩

/-- After `load` the rest runs on the system as it was. -/
theorem of_load {α : Type} {uuid : String} {rest : Vdi → Py α} {out : Except Exc α}
    {s : Armed Sys}
    (h : (load uuid >>= rest).exec (faulty shape sr host error message n) ⟨st, t, armed⟩ =
      some (out, s)) :
    ∃ vdi armed', (rest vdi).exec (faulty shape sr host error message n) ⟨st, t + 1, armed'⟩ =
      some (out, s) ∧ (t ≠ n → armed' = armed) := by
  rw [load, bind_assoc] at h
  obtain ⟨record, armed', hrest, harmed⟩ := of_guarded h rfl rfl
  exact ⟨_, armed', hrest, harmed⟩

/-- `_updateStats` touches neither the images nor the records, whether it returns or raises. -/
theorem run_updateStats {delta : Int} {outcome : Except Exc Unit} {s : Armed Sys}
    (h : (updateStats delta).exec (faulty shape sr host error message n) ⟨st, t, armed⟩ =
      some (outcome, s)) : s.state.cluster = st.cluster ∧ s.state.db = st.db := by
  refine exec_strike_invariant (I := fun x => x.cluster = st.cluster ∧ x.db = st.db) ?_ h ⟨rfl, rfl⟩
  have hread : ∀ c : Call, c = .getVirtualAllocation ∨ c = .poolStats →
      ∀ time x reply after, x.cluster = st.cluster ∧ x.db = st.db →
        answer shape sr (honest host) time x c = some (reply, after) →
          after.cluster = st.cluster ∧ after.db = st.db := by
    rintro c (rfl | rfl) time x reply after hx hanswer <;> cases hanswer <;> exact hx
  refine AllCalls.bind (AllCalls.tryCatch (AllCalls.perform (hread _ (.inl rfl))) ?_) fun va => ?_
  · exact fun _ => trivial
  refine AllCalls.bind (AllCalls.tryCatch (AllCalls.perform (hread _ (.inr rfl))) ?_)
    fun stats => ?_
  · intro e
    cases e <;> trivial
  refine AllCalls.perform ?_
  intro time x reply after hx hanswer
  cases hanswer
  exact hx

end Faulty

/-! ## A snapshot that is made and undone -/

/-- What `takeSnap` and `cloneLive` share: a protected snapshot is made, `rest` works on it, and a
backend error undoes the snapshot. -/
def makeSnap (base snap : String) (rest : Py Unit) (text : String) : Py Unit :=
  exceptBackend (do
    ceph (.call (.snapCreate base snap))
    ceph (.call (.snapSetProtected base snap true))
    rest) fun error => do
      purgeSnapQuiet base snap
      throw (.other (text ++ error.message))

theorem takeSnap_eq (base snap : String) :
    takeSnap base snap = makeSnap base snap (pure ()) "VDISnapshot: " := by
  have hprotect : (do ceph (.call (.snapSetProtected base snap true)); pure () : Py Unit) =
      ceph (.call (.snapSetProtected base snap true)) := Prog.map_id _
  rw [makeSnap, hprotect]
  rfl

theorem cloneLive_eq (self : Vdi) (snap cloneUuid : String) (features : List String) :
    cloneLive self snap cloneUuid features = makeSnap self.uuid snap
      (ceph (.clone self.uuid snap cloneUuid features)) "VDIClone: " := rfl

/-- The images and the records are as they were. -/
def Undone (st st' : Sys) : Prop :=
  SameImages st.cluster.graph st'.cluster.graph ∧ st'.db = st.db

section MakeSnap

variable {shape : Gc.Shape} {sr : Gc.Sr} {host : Nat → Gc.Cluster → Gc.OpCall → Gc.OpChoice}
  {error : Exc} {message : String} {n t : Nat} {st : Sys} {base snap text : String}
  {rest : Py Unit}

/-- Where there is no such snapshot, the undoing changes nothing. -/
theorem purge_absent
    (h : ∀ img, st.cluster.graph.images.lookup (sr.spec base) = some img → img.named snap = []) :
    (purgeSnapQuiet base snap).exec (faulty shape sr host error message n) ⟨st, t, false⟩ =
      some (.ok (), ⟨st, t + 2, false⟩) := by
  have hnone : st.cluster.graph.apply (.snapSetProtected (sr.spec base) snap false) = none ∧
      st.cluster.graph.apply (.snapRemove (sr.spec base) snap) = none := by
    cases himg : st.cluster.graph.images.lookup (sr.spec base) with
    | none => simp [Graph.apply, Gc.Req.spec, himg]
    | some img => simp [Graph.apply, Gc.Req.spec, himg, Graph.edit, h img himg]
  have hunprotect :
      (ceph (.call (.snapSetProtected base snap false))).exec
        (faulty shape sr host error message n) ⟨st, t, false⟩ =
          some (.error (.backend _), ⟨st, t + 1, false⟩) :=
    ceph_refuse rfl (.inl rfl) (by rw [Gc.opEffect, hnone.1]; rfl)
  have hremove :
      (ceph (.call (.snapRemove base snap))).exec (faulty shape sr host error message n)
        ⟨st, t + 1, false⟩ = some (.error (.backend _), ⟨st, t + 1 + 1, false⟩) :=
    ceph_refuse rfl (.inl rfl) (by rw [Gc.opEffect, hnone.2]; rfl)
  exact (exec_bind (exec_tryCatch_error hunprotect)).trans (exec_tryCatch_error hremove)

/-- The undoing removes the snapshot, protected or not: the two calls are in a `try` each. -/
theorem purge_done {g₀ : Graph} {img : Image} {s : Snap}
    (h : Extra g₀ st.cluster.graph (sr.spec base) img s) :
    ∃ g', (purgeSnapQuiet base s.name).exec (faulty shape sr host error message n)
      ⟨st, t, false⟩ = some (.ok (), ⟨st.withGraph g', t + 2, false⟩) ∧ SameImages g₀ g' := by
  have hfirst : ∃ g₁ s₁, s₁.name = s.name ∧ s₁.isProtected = false ∧
      Extra g₀ g₁ (sr.spec base) img s₁ ∧
      (exceptBackend (ceph (.call (.snapSetProtected base s.name false))) fun _ => pure ()).exec
        (faulty shape sr host error message n) ⟨st, t, false⟩ =
          some (.ok (), ⟨st.withGraph g₁, t + 1, false⟩) := by
    cases hs : s.isProtected with
    | true =>
        obtain ⟨g₁, happly, hextra⟩ := h.setProtected (show s.isProtected = !false from hs)
        have hunprotect :
            (ceph (.call (.snapSetProtected base s.name false))).exec
              (faulty shape sr host error message n) ⟨st, t, false⟩ =
                some (.ok (), ⟨st.withGraph g₁, t + 1, false⟩) :=
          ceph_grant rfl (.inl rfl) (by rw [Gc.opEffect, happly]; rfl)
        exact ⟨g₁, { s with isProtected := false }, rfl, rfl, hextra, exec_tryCatch hunprotect⟩
    | false =>
        have hunprotect :
            (ceph (.call (.snapSetProtected base s.name false))).exec
              (faulty shape sr host error message n) ⟨st, t, false⟩ =
                some (.error (.backend _), ⟨st, t + 1, false⟩) :=
          ceph_refuse rfl (.inl rfl) (by rw [Gc.opEffect, h.unprotect_refused hs]; rfl)
        exact ⟨st.cluster.graph, s, rfl, hs, h, exec_tryCatch_error hunprotect⟩
  obtain ⟨g₁, s₁, hname, hs₁, hextra, hunprotect⟩ := hfirst
  obtain ⟨g₂, happly, hsame⟩ := hextra.snapRemove hs₁
  rw [hname] at happly
  have hremove :
      (ceph (.call (.snapRemove base s.name))).exec (faulty shape sr host error message n)
        ⟨st.withGraph g₁, t + 1, false⟩ =
          some (.ok (), ⟨(st.withGraph g₁).withGraph g₂, t + 1 + 1, false⟩) :=
    ceph_grant rfl (.inl rfl) (by rw [Gc.opEffect]; exact congrArg _ happly)
  exact ⟨g₂, (exec_bind hunprotect).trans (exec_tryCatch hremove), hsame⟩

variable (hn : st.cluster.graph.Numbered)
  (hfresh : ∀ img, st.cluster.graph.images.lookup (sr.spec base) = some img → img.named snap = [])

include hn hfresh

variable (shape host error message n) in
/-- The snapshot is made, unless this call fails or the image does not exist. -/
theorem snapCreate_cases (t : Nat) :
    ((t = n ∨ sr.spec base ∉ st.cluster.graph.images) ∧ ∃ e,
      (ceph (.call (.snapCreate base snap))).exec (faulty shape sr host error message n)
        ⟨st, t, true⟩ = some (.error e, ⟨st, t + 1, false⟩)) ∨
    t ≠ n ∧ ∃ img g' s, st.cluster.graph.images.lookup (sr.spec base) = some img ∧
      s.name = snap ∧ s.isProtected = false ∧ Extra st.cluster.graph g' (sr.spec base) img s ∧
      (ceph (.call (.snapCreate base snap))).exec (faulty shape sr host error message n)
        ⟨st, t, true⟩ = some (.ok (), ⟨st.withGraph g', t + 1, true⟩) := by
  by_cases ht : t = n
  · exact .inl ⟨.inl ht, error, ask_hit rfl ht⟩
  · cases himg : st.cluster.graph.images.lookup (sr.spec base) with
    | none =>
        refine .inl ⟨.inr (AList.lookup_eq_none.mp himg), _, ceph_refuse rfl (.inr ht) ?_⟩
        rw [Gc.opEffect]
        simp [Graph.apply, Gc.Req.spec, himg]
    | some img =>
        obtain ⟨g₁, s, happly, hname, hs, hextra⟩ := Extra.of_snapCreate hn himg (hfresh img himg)
        exact .inr ⟨ht, img, g₁, s, rfl, hname, hs, hextra,
          ceph_grant rfl (.inr ht) (by rw [Gc.opEffect, happly]; rfl)⟩

/-- Where the protected snapshot cannot be made, what was made is undone, if the exception of the
call that protects it is handled. -/
theorem makeSnap_fails
    (hfails : t = n ∨ (t + 1 = n ∧ raisesRbd error = true) ∨
      sr.spec base ∉ st.cluster.graph.images) :
    ∃ e st' t', (makeSnap base snap rest text).exec (faulty shape sr host error message n)
      ⟨st, t, true⟩ = some (.error e, ⟨st', t', false⟩) ∧ Undone st st' := by
  rcases snapCreate_cases shape host error message n hn hfresh t with
    ⟨-, e, hcreate⟩ | ⟨ht, img, g₁, s, himg, rfl, hs, hextra, hcreate⟩
  · cases e with
    | backend b =>
        refine ⟨.other (text ++ b.message), st, t + 1 + 2, ?_, fun _ => rfl, rfl⟩
        exact except_backend (exec_bind_error hcreate)
          ((exec_bind (purge_absent hfresh)).trans rfl)
    | unimplemented | calledProcess | other =>
        exact ⟨_, st, t + 1, except_other rfl (exec_bind_error hcreate), fun _ => rfl, rfl⟩
  · obtain ⟨ht', hcaught⟩ : t + 1 = n ∧ raisesRbd error = true := by
      rcases hfails with h | h | h
      · exact absurd h ht
      · exact h
      · exact absurd (AList.lookup_isSome.mp (by rw [himg]; rfl)) h
    have hprotect :
        (ceph (.call (.snapSetProtected base s.name true))).exec
          (faulty shape sr host error message n) ⟨st.withGraph g₁, t + 1, true⟩ =
            some (.error error, ⟨st.withGraph g₁, t + 1 + 1, false⟩) :=
      ask_hit rfl ht'
    have hextra' : Extra st.cluster.graph (st.withGraph g₁).cluster.graph (sr.spec base) img s :=
      hextra
    cases error with
    | backend b =>
        obtain ⟨g₂, hpurge, hsame⟩ := purge_done hextra'
        refine ⟨.other (text ++ b.message), (st.withGraph g₁).withGraph g₂, t + 1 + 1 + 2, ?_,
          hsame, rfl⟩
        refine except_backend ((exec_bind hcreate).trans (exec_bind_error hprotect)) ?_
        exact (exec_bind hpurge).trans rfl
    | unimplemented | calledProcess | other => cases hcaught

/-- Where the exception of the call that protects the snapshot is not handled, the snapshot is
left. -/
theorem makeSnap_protect_escapes (ht : t + 1 = n) (hother : raisesRbd error = false)
    (hbase : sr.spec base ∈ st.cluster.graph.images) :
    ∃ e img g' s t', s.name = snap ∧ Extra st.cluster.graph g' (sr.spec base) img s ∧
      (makeSnap base snap rest text).exec (faulty shape sr host error message n) ⟨st, t, true⟩ =
        some (.error e, ⟨st.withGraph g', t', false⟩) := by
  rcases snapCreate_cases shape host error message n hn hfresh t with
    ⟨h | h, -⟩ | ⟨-, img, g₁, s, himg, rfl, hs, hextra, hcreate⟩
  · omega
  · exact absurd hbase h
  · have hprotect :
        (ceph (.call (.snapSetProtected base s.name true))).exec
          (faulty shape sr host error message n) ⟨st.withGraph g₁, t + 1, true⟩ =
            some (.error error, ⟨st.withGraph g₁, t + 1 + 1, false⟩) :=
      ask_hit rfl ht
    exact ⟨error, img, g₁, s, t + 1 + 1, rfl, hextra,
      except_other hother ((exec_bind hcreate).trans (exec_bind_error hprotect))⟩

variable (shape host error message) in
/-- Where it can, `rest` runs on it. -/
theorem makeSnap_ready (rest : Py Unit) (ht : t ≠ n) (ht' : t + 1 ≠ n)
    (hbase : sr.spec base ∈ st.cluster.graph.images) :
    ∃ img g' s, s.name = snap ∧ s.isProtected = true ∧
      Extra st.cluster.graph g' (sr.spec base) img s ∧
      (do
        ceph (.call (.snapCreate base snap))
        ceph (.call (.snapSetProtected base snap true))
        rest : Py Unit).exec (faulty shape sr host error message n) ⟨st, t, true⟩ =
          rest.exec (faulty shape sr host error message n) ⟨st.withGraph g', t + 2, true⟩ := by
  rcases snapCreate_cases shape host error message n hn hfresh t with
    ⟨hfails, -⟩ | ⟨-, img, g₁, s, himg, rfl, hs, hextra, hcreate⟩
  · rcases hfails with h | h
    · exact absurd h ht
    · exact absurd hbase h
  · obtain ⟨g₂, happly, hextra'⟩ := hextra.setProtected (show s.isProtected = !true from hs)
    have hprotect :
        (ceph (.call (.snapSetProtected base s.name true))).exec
          (faulty shape sr host error message n) ⟨st.withGraph g₁, t + 1, true⟩ =
            some (.ok (), ⟨(st.withGraph g₁).withGraph g₂, t + 1 + 1, true⟩) :=
      ceph_grant rfl (.inr ht') (by rw [Gc.opEffect]; exact congrArg _ happly)
    exact ⟨img, g₂, { s with isProtected := true }, rfl, rfl, hextra',
      (exec_bind hcreate).trans (exec_bind hprotect)⟩

end MakeSnap

/-! ## In step -/

/-- The operations that make a VDI. -/
inductive Maker where
  | create (uuid : String) (size : Nat)
  | snapshot (self : Vdi)
  | clone (self : Vdi)

/-- The operation. -/
def Maker.op (features : List String) : Maker → Py String
  | .create uuid size => Life.create features uuid size
  | .snapshot self => Life.snapshot self
  | .clone self => Life.clone self features

/-- The UUID of the new VDI and, for the clone of a live image, that of the transient snapshot, as
the operation gets them: XAPI chooses that of `create`. -/
def Maker.Uses (host : Nat → Gc.Cluster → Gc.OpCall → Gc.OpChoice) (w : Gc.Cluster)
    (uuid transient : String) : Maker → Prop
  | .create given _ => uuid = given
  | .snapshot _ => host 0 w (.call .uuid4) = .fresh uuid
  | .clone self => host 0 w (.call .uuid4) = .fresh uuid ∧
      (self.isASnapshot = false → host 1 w (.call .uuid4) = .fresh transient)

/-- The two UUIDs are new, in Ceph and in the database. -/
structure NewUuids (sr : Gc.Sr) (st : Sys) (uuid transient : String) : Prop where
  numbered : st.cluster.graph.Numbered
  valid : Volume.isUuid uuid.toList = true
  validTransient : Volume.isUuid transient.toList = true
  record : uuid ∉ st.db
  image : sr.spec uuid ∉ st.cluster.graph.images
  snaps : ∀ base img, st.cluster.graph.images.lookup (sr.spec base) = some img →
    img.named uuid = [] ∧ img.named (Gc.cloneSnapPrefix ++ transient) = []

/-- The new object exists in Ceph: a snapshot of the VDI, or an image. -/
def Maker.Made (sr : Gc.Sr) (g : Graph) (uuid : String) : Maker → Prop
  | .snapshot self => ∃ img, g.images.lookup (sr.spec self.uuid) = some img ∧ img.named uuid ≠ []
  | _ => sr.spec uuid ∈ g.images

/-- The new object exists together with its record, or neither does and no transient snapshot is
left. -/
def InStep (sr : Gc.Sr) (maker : Maker) (uuid transient : String) (st : Sys) : Prop :=
  (maker.Made sr st.cluster.graph uuid ∧ uuid ∈ st.db) ∨
    (¬maker.Made sr st.cluster.graph uuid ∧ uuid ∉ st.db ∧
      ∀ base img, st.cluster.graph.images.lookup (sr.spec base) = some img →
        img.named (Gc.cloneSnapPrefix ++ transient) = [])

/-- XAPI does not give `snapshot` the reference of the base, after the snapshot was made. -/
def Maker.LosesReference (sr : Gc.Sr) (st : Sys) (n : Nat) : Maker → Prop
  | .snapshot self => self.isASnapshot = false ∧ sr.spec self.uuid ∈ st.cluster.graph.images ∧
      n ≠ 1 ∧ n ≠ 2 ∧ (n = 4 ∨ self.uuid ∉ st.db)
  | _ => False

/-- A call that fails after the snapshot was made, and before the end of the `try` around it, fails
with an exception that is no `RbdBackendError`. -/
def Maker.Escapes (sr : Gc.Sr) (st : Sys) (error : Exc) (n : Nat) : Maker → Prop
  | .create _ _ => False
  | .snapshot self => raisesRbd error = false ∧ self.isASnapshot = false ∧
      sr.spec self.uuid ∈ st.cluster.graph.images ∧ n = 2
  | .clone self => raisesRbd error = false ∧ self.isASnapshot = false ∧
      sr.spec self.uuid ∈ st.cluster.graph.images ∧ (n = 3 ∨ n = 4)

/-- What was undone is in step. -/
theorem Undone.inStep {sr : Gc.Sr} {st st' : Sys} {uuid transient : String} (h : Undone st st')
    (hfresh : NewUuids sr st uuid transient) (maker : Maker) :
    InStep sr maker uuid transient st' := by
  refine .inr ⟨?_, h.2 ▸ hfresh.record, ?_⟩
  · cases maker with
    | create given size =>
        intro hmade
        have hlookup := AList.lookup_isSome.mpr hmade
        rw [h.1] at hlookup
        exact hfresh.image (AList.lookup_isSome.mp hlookup)
    | clone self =>
        intro hmade
        have hlookup := AList.lookup_isSome.mpr hmade
        rw [h.1] at hlookup
        exact hfresh.image (AList.lookup_isSome.mp hlookup)
    | snapshot self =>
        intro hmade
        obtain ⟨img, himg, hnamed⟩ := hmade
        rw [h.1] at himg
        exact hnamed (hfresh.snaps _ _ himg).1
  · intro base img himg
    rw [h.1] at himg
    exact (hfresh.snaps _ _ himg).2

theorem undone_refl (st : Sys) : Undone st st := ⟨fun _ => rfl, rfl⟩

section Ops

variable {shape : Gc.Shape} {sr : Gc.Sr} {host : Nat → Gc.Cluster → Gc.OpCall → Gc.OpChoice}
  {error : Exc} {message : String} {n : Nat} {st : Sys} {uuid transient : String}
  {features : List String} {outcome : Except Exc String} {s : Armed Sys}

/-- What follows a record that was introduced keeps image and record. -/
theorem updateStats_inStep {maker : Maker} {delta : Int} {t : Nat} {armed : Bool} {st' : Sys}
    (hmade : maker.Made sr st'.cluster.graph uuid) (hrecord : uuid ∈ st'.db)
    (h : (do updateStats delta; return uuid : Py String).exec
      (faulty shape sr host error message n) ⟨st', t, armed⟩ = some (outcome, s)) :
    InStep sr maker uuid transient s.state := by
  rcases of_exec_bind h with ⟨_, between, hstats, hret⟩ | ⟨e, hstats, -⟩
  · cases hret
    obtain ⟨hcluster, hdb⟩ := run_updateStats hstats
    exact .inl ⟨hcluster ▸ hmade, hdb ▸ hrecord⟩
  · obtain ⟨hcluster, hdb⟩ := run_updateStats hstats
    exact .inl ⟨hcluster ▸ hmade, hdb ▸ hrecord⟩

variable (hfresh : NewUuids sr st uuid transient)

include hfresh

omit hfresh in
/-- A new image is removed again before the rest of a handler. -/
theorem of_remove {g : Graph} {new : Image} {nextId t : Nat} {rest : Py Unit}
    {out : Except Exc Unit}
    (h : (do
      exceptBackend (ceph (.call (.remove uuid))) fun _ => pure ()
      rest : Py Unit).exec (faulty shape sr host error message n)
        ⟨st.withGraph { images := g.images.insert (sr.spec uuid) new, nextId := nextId }, t,
          false⟩ = some (out, s))
    (hdst : sr.spec uuid ∉ g.images) (hnew : new.snapshots = []) :
    ∃ g', SameImages g g' ∧ rest.exec (faulty shape sr host error message n)
      ⟨st.withGraph g', t + 1, false⟩ = some (out, s) := by
  obtain ⟨g', happly, hsame⟩ := Gc.remove_new nextId hdst hnew
  have hremove :
      (ceph (.call (.remove uuid))).exec (faulty shape sr host error message n)
        ⟨st.withGraph { images := g.images.insert (sr.spec uuid) new, nextId := nextId }, t,
          false⟩ = some (.ok (), ⟨st.withGraph g', t + 1, false⟩) :=
    ceph_grant rfl (.inl rfl) (by rw [Gc.opEffect]; exact congrArg _ happly)
  refine ⟨g', hsame, ?_⟩
  rw [← h]
  exact (exec_bind (f := fun _ => rest) (exec_tryCatch hremove)).symm

omit hfresh in
/-- The record of a new VDI is introduced, or the handler runs on the system as it was. -/
theorem introduce_cases {record : Record} {handler : Exc → Py Unit} {t : Nat} {armed : Bool}
    {out : Except Exc Unit}
    (h : (MonadExcept.tryCatch (ask (.dbIntroduce uuid record)) handler : Py Unit).exec
      (faulty shape sr host error message n) ⟨st, t, armed⟩ = some (out, s))
    (hnew : uuid ∉ st.db) :
    (out = .ok () ∧ s = ⟨{ st with db := st.db.insert uuid record }, t + 1, armed⟩) ∨
      ∃ e, (handler e).exec (faulty shape sr host error message n) ⟨st, t + 1, false⟩ =
        some (out, s) := by
  by_cases hhit : armed = true ∧ t = n
  · obtain ⟨rfl, ht⟩ := hhit
    rw [exec_tryCatch_error (ask_hit rfl ht)] at h
    exact .inr ⟨_, h⟩
  · have hok : answer shape sr (honest host) t st (.dbIntroduce uuid record) =
        some (.ok (), { st with db := st.db.insert uuid record }) := by
      rw [answer, if_neg hnew]
    rw [exec_tryCatch (ask_ok (miss_of_not_hit hhit) hok)] at h
    cases h
    exact .inl ⟨rfl, rfl⟩

/-- `create` keeps Ceph and the database in step. -/
theorem create_inStep {size : Nat}
    (h : (create features uuid size).exec (faulty shape sr host error message n) { state := st } =
      some (outcome, s)) : InStep sr (.create uuid size) uuid transient s.state := by
  by_cases ht : 0 = n
  · have hcreate : ∃ e,
        (exceptBackend (ceph (.call (.create uuid size features))) fun error =>
          throw (.other ("VDICreate: " ++ error.message)) : Py Unit).exec
            (faulty shape sr host error message n) ⟨st, 0, true⟩ =
              some (.error e, ⟨st, 1, false⟩) := by
      cases error with
      | backend b => exact ⟨_, except_backend (ask_hit rfl ht) rfl⟩
      | unimplemented | calledProcess | other =>
          exact ⟨_, except_other rfl (ask_hit rfl ht)⟩
    obtain ⟨e, hcreate⟩ := hcreate
    rw [create, exec_bind_error hcreate] at h
    cases h
    exact (undone_refl st).inStep hfresh _
  · have hcreate :
        (exceptBackend (ceph (.call (.create uuid size features))) fun error =>
          throw (.other ("VDICreate: " ++ error.message)) : Py Unit).exec
            (faulty shape sr host error message n) ⟨st, 0, true⟩ =
              some (.ok (), ⟨st.withGraph
                { images := st.cluster.graph.images.insert (sr.spec uuid)
                    { id := st.cluster.graph.nextId, size := size, features := features }
                  nextId := st.cluster.graph.nextId + 1 }, 1, true⟩) := by
      refine exec_tryCatch (ceph_grant rfl (.inr ht) ?_)
      rw [Gc.opEffect, Graph.apply, if_neg hfresh.image]
      rfl
    rw [create, exec_bind hcreate] at h
    rcases of_exec_bind h with ⟨_, between, hintroduce, hrest⟩ | ⟨e, hintroduce, -⟩
    · rcases introduce_cases hintroduce hfresh.record with ⟨-, rfl⟩ | ⟨e, hhandler⟩
      · refine updateStats_inStep ?_ ?_ hrest
        · exact (AList.mem_insert _).mpr (.inl rfl)
        · exact (AList.mem_insert _).mpr (.inl rfl)
      · obtain ⟨g', -, hthrow⟩ := of_remove hhandler hfresh.image rfl
        cases hthrow
    · rcases introduce_cases hintroduce hfresh.record with ⟨hok, -⟩ | ⟨e', hhandler⟩
      · cases hok
      · obtain ⟨g', hsame, hthrow⟩ := of_remove hhandler hfresh.image rfl
        cases hthrow
        have hundone : Undone st (st.withGraph g') := ⟨hsame, rfl⟩
        exact hundone.inStep hfresh _

omit hfresh in
/-- The record of the snapshot: XAPI has no reference of the base, or the record is introduced, or
the snapshot is undone. -/
theorem introduceSnap_cases {self : Vdi} {snap : String} {out : Except Exc Unit}
    (h : (introduceSnap self snap).exec (faulty shape sr host error message n) ⟨st, 3, true⟩ =
      some (out, s)) (hnew : snap ∉ st.db) :
    ((n = 4 ∨ self.uuid ∉ st.db) ∧ s.state = st ∧ ∃ e, out = .error e) ∨
      (¬(n = 4 ∨ self.uuid ∉ st.db) ∧
        ((out = .ok () ∧ ∃ record, s.state = { st with db := st.db.insert snap record }) ∨
          ∃ e t, (do purgeSnapQuiet self.uuid snap; throw e : Py Unit).exec
            (faulty shape sr host error message n) ⟨st, t, false⟩ = some (out, s))) := by
  rw [introduceSnap] at h
  obtain ⟨vdi, armed, h, harmed⟩ := of_load h
  by_cases hmem : self.uuid ∈ st.db
  · by_cases hhit : n = 4
    · -- the failing call is the one that asks for the reference
      have hone : armed = true := harmed (by omega)
      subst hone
      have href : (ask (.getByUuid self.uuid)).exec (faulty shape sr host error message n)
          ⟨st, 3 + 1, true⟩ = some (.error (.other message), ⟨st, 5, false⟩) :=
        ask_hit rfl (by omega)
      rw [exec_bind_error href] at h
      cases h
      exact .inl ⟨.inl hhit, rfl, _, rfl⟩
    · have href : (ask (.getByUuid self.uuid)).exec (faulty shape sr host error message n)
          ⟨st, 3 + 1, armed⟩ = some (.ok self.uuid, ⟨st, 5, armed⟩) :=
        ask_ok (.inr (by omega)) (by rw [answer, if_pos hmem])
      rw [exec_bind href] at h
      obtain ⟨record, hrecord⟩ := Option.isSome_iff_exists.mp (AList.lookup_isSome.mpr hmem)
      obtain ⟨cbt, armed', h, -⟩ := of_guarded h rfl (by rw [answer, hrecord])
      refine .inr ⟨by simp [hhit, hmem], ?_⟩
      rcases introduce_cases h hnew with ⟨hout, rfl⟩ | ⟨e, hpurge⟩
      · exact .inl ⟨hout, _, rfl⟩
      · exact .inr ⟨e, _, hpurge⟩
  · have href : ∃ e, (ask (.getByUuid self.uuid)).exec (faulty shape sr host error message n)
        ⟨st, 3 + 1, armed⟩ = some (.error e, ⟨st, 5, false⟩) := by
      by_cases hhit : armed = true ∧ 3 + 1 = n
      · obtain ⟨rfl, ht⟩ := hhit
        exact ⟨_, ask_hit rfl ht⟩
      · exact ⟨_, ask_refused rfl (miss_of_not_hit hhit) (by rw [answer, if_neg hmem])⟩
    obtain ⟨e, href⟩ := href
    rw [exec_bind_error href] at h
    cases h
    exact .inl ⟨.inr hmem, rfl, _, rfl⟩

/-- What `snapshot` ends with, where no exception escapes its `try`: it was undone, or the snapshot
and its record are there, or only the snapshot is, because XAPI did not give the reference of the
base. -/
theorem snapshot_ends {self : Vdi} (huses : host 0 st.cluster (.call .uuid4) = .fresh uuid)
    (hescapes : ¬Maker.Escapes sr st error n (.snapshot self))
    (h : (snapshot self).exec (faulty shape sr host error message n) { state := st } =
      some (outcome, s)) :
    (¬Maker.LosesReference sr st n (.snapshot self) ∧
        InStep sr (.snapshot self) uuid transient s.state) ∨
      Maker.LosesReference sr st n (.snapshot self) ∧
        Maker.Made sr s.state.cluster.graph uuid (.snapshot self) ∧ s.state.db = st.db := by
  have hnamed : ∀ img, st.cluster.graph.images.lookup (sr.spec self.uuid) = some img →
      img.named uuid = [] := fun img himg => (hfresh.snaps _ _ himg).1
  cases hsnap : self.isASnapshot with
  | true =>
      rw [snapshot, if_pos hsnap] at h
      cases h
      exact .inl ⟨by simp [Maker.LosesReference, hsnap], (undone_refl st).inStep hfresh _⟩
  | false =>
      rw [snapshot, hsnap, if_neg (by decide), exec_bind (run_genUuid huses hfresh.valid),
        takeSnap_eq] at h
      -- the calls in their order: `uuid4` is call 0, `snap_create` 1, `snap_set_protected` 2
      by_cases hfails : 1 = n ∨ (1 + 1 = n ∧ raisesRbd error = true) ∨
          sr.spec self.uuid ∉ st.cluster.graph.images
      · obtain ⟨e, st', t', hmake, hundone⟩ := makeSnap_fails hfresh.numbered hnamed hfails
        rw [exec_bind_error hmake] at h
        cases h
        refine .inl ⟨?_, hundone.inStep hfresh _⟩
        rintro ⟨-, hbase, hone, htwo, -⟩
        rcases hfails with hfails | hfails | hfails
        · exact hone hfails.symm
        · exact htwo hfails.1.symm
        · exact hfails hbase
      · push Not at hfails
        obtain ⟨ht, hcaught, hbase⟩ := hfails
        have ht' : 1 + 1 ≠ n := fun heq =>
          hescapes ⟨by simpa using hcaught heq, hsnap, hbase, heq.symm⟩
        obtain ⟨img, g', snap, rfl, hs, hextra, hready⟩ := makeSnap_ready shape host error message
          hfresh.numbered hnamed (pure ()) ht ht' hbase
        have hmake : (makeSnap self.uuid snap.name (pure ()) "VDISnapshot: ").exec
            (faulty shape sr host error message n) ⟨st, 1, true⟩ =
              some (.ok (), ⟨st.withGraph g', 3, true⟩) := exec_tryCatch (hready.trans rfl)
        have hmade : Maker.Made sr g' snap.name (.snapshot self) :=
          ⟨_, hextra.here, by rw [Gc.named_withSnap hextra.unnamed]; simp⟩
        have hrecord : ∀ {st' : Sys}, (∃ record, st' =
            { st.withGraph g' with db := st.db.insert snap.name record }) →
              InStep sr (.snapshot self) snap.name transient st' := by
          rintro st' ⟨record, rfl⟩
          exact .inl ⟨hmade, (AList.mem_insert _).mpr (.inl rfl)⟩
        -- where the record fails, `_purge_snap_quiet` takes the snapshot back: no other call fails
        have hpurged : ∀ {e : Exc} {t : Nat} {out : Except Exc Unit} {s' : Armed Sys},
            (do purgeSnapQuiet self.uuid snap.name; throw e : Py Unit).exec
              (faulty shape sr host error message n) ⟨st.withGraph g', t, false⟩ =
                some (out, s') → out = .error e ∧ Undone st s'.state := by
          intro e t out s' hpurge
          have hextra' : Extra st.cluster.graph (st.withGraph g').cluster.graph (sr.spec self.uuid)
              img snap := hextra
          obtain ⟨g'', hdone, hsame⟩ := purge_done hextra'
          rw [exec_bind hdone] at hpurge
          cases hpurge
          exact ⟨rfl, hsame, rfl⟩
        rw [exec_bind hmake] at h
        have hends : ∀ {out : Except Exc Unit} {s' : Armed Sys},
            (introduceSnap self snap.name).exec (faulty shape sr host error message n)
              ⟨st.withGraph g', 3, true⟩ = some (out, s') →
            (¬(n = 4 ∨ self.uuid ∉ st.db) ∧
                InStep sr (.snapshot self) snap.name transient s'.state) ∨
              (n = 4 ∨ self.uuid ∉ st.db) ∧ s'.state = st.withGraph g' := by
          intro out s' hintroduce
          rcases introduceSnap_cases hintroduce hfresh.record with
            ⟨hcond, hstate, -⟩ | ⟨hcond, ⟨-, hstate⟩ | ⟨e, t, hpurge⟩⟩
          · exact .inr ⟨hcond, hstate⟩
          · exact .inl ⟨hcond, hrecord hstate⟩
          · exact .inl ⟨hcond, (hpurged hpurge).2.inStep hfresh _⟩
        have hintroduce : ∃ out, (introduceSnap self snap.name).exec
            (faulty shape sr host error message n) ⟨st.withGraph g', 3, true⟩ = some (out, s) := by
          rcases of_exec_bind h with ⟨_, between, hintroduce, hrest⟩ | ⟨e, hintroduce, -⟩
          · cases hrest
            exact ⟨_, hintroduce⟩
          · exact ⟨_, hintroduce⟩
        obtain ⟨out, hintroduce⟩ := hintroduce
        rcases hends hintroduce with ⟨hcond, hstep⟩ | ⟨hcond, hstate⟩
        · exact .inl ⟨fun hall => hcond hall.2.2.2.2, hstep⟩
        · rw [hstate]
          exact .inr ⟨⟨hsnap, hbase, Ne.symm ht, Ne.symm ht', hcond⟩, hmade, rfl⟩

omit hfresh in
variable (shape host error message n features) in
/-- A clone fails, with an `RbdBackendError` if it is not the failing call, or it is a new image. -/
theorem clone_cases (base snap : String) (t : Nat) :
    (∃ e, (raisesRbd e = true ∨ (t = n ∧ e = error)) ∧
      (ceph (.clone base snap uuid features)).exec (faulty shape sr host error message n)
        ⟨st, t, true⟩ = some (.error e, ⟨st, t + 1, false⟩)) ∨
    ∃ new nextId, new.snapshots = [] ∧ sr.spec uuid ∉ st.cluster.graph.images ∧
      (ceph (.clone base snap uuid features)).exec (faulty shape sr host error message n)
        ⟨st, t, true⟩ = some (.ok (), ⟨st.withGraph
          { images := st.cluster.graph.images.insert (sr.spec uuid) new, nextId := nextId },
          t + 1, true⟩) := by
  by_cases ht : t = n
  · exact .inl ⟨error, .inr ⟨ht, rfl⟩, ask_hit rfl ht⟩
  · cases happly : st.cluster.graph.apply
        (.clone (sr.spec base) snap (sr.spec uuid) features) with
    | none =>
        exact .inl ⟨_, .inl rfl, ceph_refuse rfl (.inr ht) (by rw [Gc.opEffect, happly]; rfl)⟩
    | some g' =>
        have hgrant : (ceph (.clone base snap uuid features)).exec
            (faulty shape sr host error message n) ⟨st, t, true⟩ =
              some (.ok (), ⟨st.withGraph g', t + 1, true⟩) :=
          ceph_grant rfl (.inr ht) (by rw [Gc.opEffect, happly]; rfl)
        cases Gc.change_of_apply happly with
        | edit himg hedit => cases hedit
        | clone himg hsnap hdst hprotected => exact .inr ⟨_, _, rfl, hdst, hgrant⟩

/-- The end of `clone`, once the image is made: it is recorded, or what was made is undone. -/
theorem introduceClone_inStep {self : Vdi} {snap? : Option String} {g : Graph} {new : Image}
    {nextId t : Nat} {armed : Bool} (hdst : sr.spec uuid ∉ g.images) (hnew : new.snapshots = [])
    (hundo : ∀ g' t e out s', SameImages g g' →
      (do
        match snap? with
        | some snap => purgeSnapQuiet self.uuid snap
        | none => pure ()
        throw e : Py Unit).exec (faulty shape sr host error message n)
          ⟨st.withGraph g', t, false⟩ = some (out, s') → out = .error e ∧ Undone st s'.state)
    (h : (do
      introduceClone self snap? uuid
      updateStats self.size
      return uuid : Py String).exec (faulty shape sr host error message n)
        ⟨st.withGraph { images := g.images.insert (sr.spec uuid) new, nextId := nextId }, t,
          armed⟩ = some (outcome, s)) : InStep sr (.clone self) uuid transient s.state := by
  have hends : ∀ {out : Except Exc Unit} {s' : Armed Sys},
      (introduceClone self snap? uuid).exec (faulty shape sr host error message n)
        ⟨st.withGraph { images := g.images.insert (sr.spec uuid) new, nextId := nextId }, t,
          armed⟩ = some (out, s') →
      (out = .ok () ∧ sr.spec uuid ∈ s'.state.cluster.graph.images ∧ uuid ∈ s'.state.db) ∨
        (∃ e, out = .error e) ∧ Undone st s'.state := by
    intro out s' hintroduce
    rw [introduceClone] at hintroduce
    obtain ⟨vdi, armed', hintroduce, -⟩ := of_load hintroduce
    rcases introduce_cases hintroduce hfresh.record with ⟨hout, rfl⟩ | ⟨e, hhandler⟩
    · exact .inl ⟨hout, (AList.mem_insert _).mpr (.inl rfl), (AList.mem_insert _).mpr (.inl rfl)⟩
    · obtain ⟨g', hsame, hrest⟩ := of_remove hhandler hdst hnew
      obtain ⟨hout, hundone⟩ := hundo g' _ e out s' hsame hrest
      exact .inr ⟨⟨e, hout⟩, hundone⟩
  rcases of_exec_bind h with ⟨_, between, hintroduce, hrest⟩ | ⟨e, hintroduce, -⟩
  · rcases hends hintroduce with ⟨-, hmade, hrecord⟩ | ⟨⟨e, hout⟩, -⟩
    · exact updateStats_inStep hmade hrecord hrest
    · cases hout
  · rcases hends hintroduce with ⟨hout, -, -⟩ | ⟨-, hundone⟩
    · cases hout
    · exact hundone.inStep hfresh _

/-- `clone` keeps them in step, where no exception escapes its `try` once the transient snapshot is
made. -/
theorem clone_inStep {self : Vdi} (huses : Maker.Uses host st.cluster uuid transient (.clone self))
    (hescapes : ¬Maker.Escapes sr st error n (.clone self))
    (h : (clone self features).exec (faulty shape sr host error message n) { state := st } =
      some (outcome, s)) : InStep sr (.clone self) uuid transient s.state := by
  obtain ⟨huuid, htransient⟩ := huses
  rw [clone, exec_bind (run_genUuid huuid hfresh.valid)] at h
  cases hsnap : self.isASnapshot with
  | true =>
      rw [hsnap, if_pos rfl] at h
      rcases clone_cases shape host error message n features (self.parentUuid.getD "None") self.uuid
        (0 + 1) with ⟨e, -, hclone⟩ | ⟨new, nextId, hnew, hdst, hclone⟩
      · have hfail : ∃ e', (cloneSnap self uuid features).exec
            (faulty shape sr host error message n) ⟨st, 0 + 1, true⟩ =
              some (.error e', ⟨st, 0 + 1 + 1, false⟩) := by
          cases e with
          | backend b => exact ⟨_, except_backend hclone rfl⟩
          | unimplemented | calledProcess | other => exact ⟨_, except_other rfl hclone⟩
        obtain ⟨e', hfail⟩ := hfail
        rw [exec_bind_error hfail] at h
        cases h
        exact (undone_refl st).inStep hfresh _
      · rw [exec_bind (show (cloneSnap self uuid features).exec _ _ = _ from
          exec_tryCatch hclone)] at h
        refine introduceClone_inStep hfresh hdst hnew ?_ h
        intro g' t e out s' hsame hthrow
        cases hthrow
        exact ⟨rfl, hsame, rfl⟩
  | false =>
      rw [hsnap, if_neg (by decide),
        exec_bind (run_genUuid (htransient hsnap) hfresh.validTransient), cloneLive_eq] at h
      have hnamed : ∀ img, st.cluster.graph.images.lookup (sr.spec self.uuid) = some img →
          img.named (Gc.cloneSnapPrefix ++ transient) = [] :=
        fun img himg => (hfresh.snaps _ _ himg).2
      by_cases hfails : 2 = n ∨ (2 + 1 = n ∧ raisesRbd error = true) ∨
          sr.spec self.uuid ∉ st.cluster.graph.images
      · obtain ⟨e, st', t', hmake, hundone⟩ := makeSnap_fails hfresh.numbered hnamed hfails
        rw [exec_bind_error hmake] at h
        cases h
        exact hundone.inStep hfresh _
      · push Not at hfails
        obtain ⟨ht, hcaught, hbase⟩ := hfails
        have ht' : 2 + 1 ≠ n := fun heq =>
          hescapes ⟨by simpa using hcaught heq, hsnap, hbase, .inl heq.symm⟩
        obtain ⟨img, g', snap, hname, hs, hextra, hready⟩ := makeSnap_ready shape host error message
          hfresh.numbered hnamed (ceph (.clone self.uuid (Gc.cloneSnapPrefix ++ transient) uuid
            features)) ht ht' hbase
        rcases @clone_cases shape sr host error message n (st.withGraph g') uuid features self.uuid
          (Gc.cloneSnapPrefix ++ transient) 4 with
          ⟨e, he, hclone⟩ | ⟨new, nextId, hnew, hdst, hclone⟩
        · -- the transient snapshot is undone by the handler of the clone
          have hraises : raisesRbd e = true := by
            rcases he with he | ⟨htime, rfl⟩
            · exact he
            · by_contra hother
              exact hescapes ⟨by simpa using hother, hsnap, hbase, .inr htime.symm⟩
          obtain ⟨b, rfl⟩ : ∃ b, e = .backend b := by
            cases e with
            | backend b => exact ⟨b, rfl⟩
            | unimplemented | calledProcess | other => cases hraises
          have hextra' : Extra st.cluster.graph (st.withGraph g').cluster.graph (sr.spec self.uuid)
              img snap := hextra
          obtain ⟨g'', hpurge, hsame⟩ := purge_done hextra'
          rw [hname] at hpurge
          have hmake : (makeSnap self.uuid (Gc.cloneSnapPrefix ++ transient)
              (ceph (.clone self.uuid (Gc.cloneSnapPrefix ++ transient) uuid features))
              "VDIClone: ").exec (faulty shape sr host error message n) ⟨st, 2, true⟩ =
                some (.error (.other ("VDIClone: " ++ b.message)),
                  ⟨(st.withGraph g').withGraph g'', 7, false⟩) := by
            refine (exec_tryCatch_error (hready.trans hclone)).trans ?_
            exact (exec_bind hpurge).trans rfl
          rw [exec_bind_error hmake] at h
          cases h
          have hundone : Undone st ((st.withGraph g').withGraph g'') := ⟨hsame, rfl⟩
          exact hundone.inStep hfresh _
        · have hmake : (makeSnap self.uuid (Gc.cloneSnapPrefix ++ transient)
              (ceph (.clone self.uuid (Gc.cloneSnapPrefix ++ transient) uuid features))
              "VDIClone: ").exec (faulty shape sr host error message n) ⟨st, 2, true⟩ =
                some (.ok (), ⟨st.withGraph { images := g'.images.insert (sr.spec uuid) new
                                              nextId := nextId }, 5, true⟩) :=
            exec_tryCatch (hready.trans hclone)
          rw [exec_bind hmake] at h
          refine introduceClone_inStep hfresh hdst hnew ?_ h
          intro g'' t e out s' hsame hpurge
          have hextra' : Extra st.cluster.graph (st.withGraph g'').cluster.graph (sr.spec self.uuid)
              img snap := hextra.congr hsame
          obtain ⟨g₃, hdone, hsame'⟩ := purge_done hextra'
          rw [hname] at hdone
          rw [exec_bind hdone] at hpurge
          cases hpurge
          exact ⟨rfl, hsame', rfl⟩

/-- A snapshot that loses the reference of the base is left without a record. -/
theorem snapshot_loses {self : Vdi} (huses : host 0 st.cluster (.call .uuid4) = .fresh uuid)
    (hloses : Maker.LosesReference sr st n (.snapshot self)) :
    ¬∀ outcome s, (snapshot self).exec (faulty shape sr host error message n) { state := st } =
      some (outcome, s) → InStep sr (.snapshot self) uuid transient s.state := by
  intro hall
  obtain ⟨outcome, s, h⟩ := exists_exec faulty_answered (snapshot self) { state := st }
  have hescapes : ¬Maker.Escapes sr st error n (.snapshot self) :=
    fun hescapes => hloses.2.2.2.1 hescapes.2.2.2
  rcases snapshot_ends hfresh huses hescapes h with ⟨hnot, -⟩ | ⟨-, hmade, hdb⟩
  · exact hnot hloses
  · rcases hall outcome s h with ⟨-, hrecord⟩ | ⟨hnot, -, -⟩
    · exact hfresh.record (hdb ▸ hrecord)
    · exact hnot hmade

/-- Where the exception of the call that protects the snapshot escapes, the snapshot is left without
a record. -/
theorem snapshot_escapes {self : Vdi} (huses : host 0 st.cluster (.call .uuid4) = .fresh uuid)
    (hescapes : Maker.Escapes sr st error n (.snapshot self)) :
    ¬∀ outcome s, (snapshot self).exec (faulty shape sr host error message n) { state := st } =
      some (outcome, s) → InStep sr (.snapshot self) uuid transient s.state := by
  intro hall
  obtain ⟨hother, hsnap, hbase, rfl⟩ := hescapes
  have hnamed : ∀ img, st.cluster.graph.images.lookup (sr.spec self.uuid) = some img →
      img.named uuid = [] := fun img himg => (hfresh.snaps _ _ himg).1
  have hmade : ∃ e img g' snap t', snap.name = uuid ∧
      Extra st.cluster.graph g' (sr.spec self.uuid) img snap ∧
      (makeSnap self.uuid uuid (pure ()) "VDISnapshot: ").exec
          (faulty shape sr host error message 2) ⟨st, 1, true⟩ =
        some (.error e, ⟨st.withGraph g', t', false⟩) :=
    makeSnap_protect_escapes hfresh.numbered hnamed rfl hother hbase
  obtain ⟨e, img, g', snap, t', rfl, hextra, hmake⟩ := hmade
  have hrun : (snapshot self).exec (faulty shape sr host error message 2) { state := st } =
      some (.error e, ⟨st.withGraph g', t', false⟩) := by
    rw [snapshot, hsnap, if_neg (by decide), exec_bind (run_genUuid huses hfresh.valid),
      takeSnap_eq]
    exact exec_bind_error hmake
  rcases hall _ _ hrun with ⟨-, hrecord⟩ | ⟨hnot, -, -⟩
  · exact hfresh.record hrecord
  · exact hnot ⟨_, hextra.here, by rw [Gc.named_withSnap hextra.unnamed]; simp⟩

/-- Where the exception of the call that protects the transient snapshot escapes, or that of the
clone, the transient snapshot is left. -/
theorem clone_escapes {self : Vdi} (huses : Maker.Uses host st.cluster uuid transient (.clone self))
    (hescapes : Maker.Escapes sr st error n (.clone self)) :
    ¬∀ outcome s, (clone self features).exec (faulty shape sr host error message n)
      { state := st } = some (outcome, s) → InStep sr (.clone self) uuid transient s.state := by
  intro hall
  obtain ⟨hother, hsnap, hbase, hn⟩ := hescapes
  obtain ⟨huuid, htransient⟩ := huses
  have hnamed : ∀ img, st.cluster.graph.images.lookup (sr.spec self.uuid) = some img →
      img.named (Gc.cloneSnapPrefix ++ transient) = [] :=
    fun img himg => (hfresh.snaps _ _ himg).2
  have hleft : ∃ e img g' snap t', snap.name = Gc.cloneSnapPrefix ++ transient ∧
      Extra st.cluster.graph g' (sr.spec self.uuid) img snap ∧
      (cloneLive self (Gc.cloneSnapPrefix ++ transient) uuid features).exec
        (faulty shape sr host error message n) ⟨st, 2, true⟩ =
          some (.error e, ⟨st.withGraph g', t', false⟩) := by
    rw [cloneLive_eq]
    rcases hn with rfl | rfl
    · exact makeSnap_protect_escapes hfresh.numbered hnamed rfl hother hbase
    · obtain ⟨img, g', snap, hname, -, hextra, hready⟩ := makeSnap_ready shape host error message
        hfresh.numbered hnamed (ceph (.clone self.uuid (Gc.cloneSnapPrefix ++ transient) uuid
          features)) (show 2 ≠ 4 by decide) (show 2 + 1 ≠ 4 by decide) hbase
      exact ⟨error, img, g', snap, 5, hname, hextra,
        except_other hother (hready.trans (ask_hit rfl rfl))⟩
  obtain ⟨e, img, g', snap, t', hname, hextra, hmake⟩ := hleft
  have hrun : (clone self features).exec (faulty shape sr host error message n) { state := st } =
      some (.error e, ⟨st.withGraph g', t', false⟩) := by
    rw [clone, exec_bind (run_genUuid huuid hfresh.valid), hsnap, if_neg (by decide),
      exec_bind (run_genUuid (htransient hsnap) hfresh.validTransient)]
    exact exec_bind_error hmake
  rcases hall _ _ hrun with ⟨-, hrecord⟩ | ⟨-, -, hnone⟩
  · exact hfresh.record hrecord
  · have hgone := hnone _ _ hextra.here
    rw [← hname, Gc.named_withSnap hextra.unnamed] at hgone
    cases hgone

/-- After `create`, `snapshot` or `clone` with one failing call, whether it returned or raised, the
new object and its record exist together or not at all, and in the second case no transient
snapshot is left, exactly where `snapshot` does not lose the reference of the base and no exception
escapes the `try` around a snapshot that was made. -/
theorem in_step_iff {maker : Maker} (huses : maker.Uses host st.cluster uuid transient) :
    (∀ outcome s, (maker.op features).exec (faulty shape sr host error message n) { state := st } =
      some (outcome, s) → InStep sr maker uuid transient s.state) ↔
        ¬(maker.LosesReference sr st n ∨ maker.Escapes sr st error n) := by
  cases maker with
  | create given size =>
      have hgiven : uuid = given := huses
      subst hgiven
      refine ⟨fun _ hfalse => hfalse.elim id id, ?_⟩
      intro _ outcome s h
      exact create_inStep hfresh h
  | clone self =>
      constructor
      · rintro hall (hfalse | hescapes)
        · exact hfalse
        · exact clone_escapes hfresh huses hescapes hall
      · intro hcond outcome s h
        exact clone_inStep hfresh huses (not_or.mp hcond).2 h
  | snapshot self =>
      constructor
      · rintro hall (hloses | hescapes)
        · exact snapshot_loses hfresh huses hloses hall
        · exact snapshot_escapes hfresh huses hescapes hall
      · intro hcond outcome s h
        obtain ⟨hreference, hescapes⟩ := not_or.mp hcond
        rcases snapshot_ends hfresh huses hescapes h with ⟨-, hstep⟩ | ⟨hloses, -⟩
        · exact hstep
        · exact absurd hloses hreference

end Ops

/-- An SR with one VDI. -/
def oneVdi : Sys where
  cluster := Gc.oneImage
  db := AList.insert "11111111-1111-1111-1111-111111111111" { size := 4194304 } ∅
  allocation := 4194304

/-- The VDI as `load` gives it. -/
def oneSelf : Vdi := { uuid := "11111111-1111-1111-1111-111111111111", size := 4194304 }

theorem oneVdi_newUuids :
    NewUuids ⟨"rbd", ""⟩ oneVdi "22222222-2222-2222-2222-222222222222"
      "22222222-2222-2222-2222-222222222222" where
  numbered := Gc.oneImage_numbered
  valid := by decide
  validTransient := by decide
  record := by decide
  image := by decide
  snaps := by
    intro base img himg
    rw [Gc.oneImage_lookup himg]
    exact ⟨rfl, rfl⟩

/-- A clone of the VDI whose record cannot be introduced leaves image and record in step. -/
theorem in_step_clone :
    ∃ outcome s, (Maker.op ["layering"] (.clone oneSelf)).exec
      (faulty .rest ⟨"rbd", ""⟩ Gc.oneUuid (.other "timed out") "HOST_OFFLINE" 6)
        { state := oneVdi } = some (outcome, s) ∧
      InStep ⟨"rbd", ""⟩ (.clone oneSelf) "22222222-2222-2222-2222-222222222222"
        "22222222-2222-2222-2222-222222222222" s.state := by
  have huses : Maker.Uses Gc.oneUuid oneVdi.cluster "22222222-2222-2222-2222-222222222222"
      "22222222-2222-2222-2222-222222222222" (.clone oneSelf) := ⟨rfl, fun _ => rfl⟩
  have hruns : ((Maker.op ["layering"] (.clone oneSelf)).exec
      (faulty .rest ⟨"rbd", ""⟩ Gc.oneUuid (.other "timed out") "HOST_OFFLINE" 6)
        { state := oneVdi }).isSome = true := by
    decide +kernel
  obtain ⟨⟨outcome, s⟩, hexec⟩ := Option.isSome_iff_exists.mp hruns
  refine ⟨outcome, s, hexec, (in_step_iff oneVdi_newUuids huses).mpr ?_ _ _ hexec⟩
  rintro (hfalse | ⟨-, -, -, htime⟩)
  · exact hfalse
  · simp at htime

/-- A snapshot of the VDI for which XAPI does not answer `VDI.get_by_uuid` is left without a
record; so is one whose protection times out, and a clone that times out leaves the transient
snapshot. -/
theorem snapshot_without_record :
    (¬∀ outcome s, (Maker.op ["layering"] (.snapshot oneSelf)).exec
        (faulty .rest ⟨"rbd", ""⟩ Gc.oneUuid (.backend { message := "timeout" }) "HOST_OFFLINE" 4)
          { state := oneVdi } = some (outcome, s) →
        InStep ⟨"rbd", ""⟩ (.snapshot oneSelf) "22222222-2222-2222-2222-222222222222"
          "22222222-2222-2222-2222-222222222222" s.state) ∧
      (¬∀ outcome s, (Maker.op ["layering"] (.snapshot oneSelf)).exec
          (faulty .rest ⟨"rbd", ""⟩ Gc.oneUuid (.other "timed out") "HOST_OFFLINE" 2)
            { state := oneVdi } = some (outcome, s) →
          InStep ⟨"rbd", ""⟩ (.snapshot oneSelf) "22222222-2222-2222-2222-222222222222"
            "22222222-2222-2222-2222-222222222222" s.state) ∧
      ¬∀ outcome s, (Maker.op ["layering"] (.clone oneSelf)).exec
          (faulty .rest ⟨"rbd", ""⟩ Gc.oneUuid (.other "timed out") "HOST_OFFLINE" 4)
            { state := oneVdi } = some (outcome, s) →
          InStep ⟨"rbd", ""⟩ (.clone oneSelf) "22222222-2222-2222-2222-222222222222"
            "22222222-2222-2222-2222-222222222222" s.state :=
  ⟨snapshot_loses oneVdi_newUuids rfl ⟨rfl, by decide, by decide, by decide, .inl rfl⟩,
    snapshot_escapes oneVdi_newUuids rfl ⟨rfl, rfl, by decide, rfl⟩,
    clone_escapes oneVdi_newUuids ⟨rfl, fun _ => rfl⟩ ⟨rfl, rfl, by decide, .inr rfl⟩⟩

end XcpCephRbd.Rbdsr.Life
