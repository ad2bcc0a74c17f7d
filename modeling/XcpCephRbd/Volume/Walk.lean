import XcpCephRbd.Volume.Ops

/-!
# Properties that a metadata operation has from its parts

The operations that write image-meta are put together from single calls, read-modify-writes of the
base, sequences and handlers. `Closed base P` says that `P` holds of those parts and passes from
them to what is put together; each operation on `base` then has `P`. `SR.ls`, which writes what its
listing said, is left to the properties themselves; what it does besides is to queue jobs.
-/

namespace XcpCephRbd.Volume

open Datapath (SrMeta splitKey)
open Prog (AllCalls)

/-- The call neither writes an image, nor removes `base`, nor rolls it back. -/
def Call.Plain (base : String) : Call → Prop
  | .putImage _ _ => False
  | .remove image => image ≠ base
  | .snapRollback image _ => image ≠ base
  | _ => True

/-- What the parts of a metadata operation on `base` have and pass on. -/
structure Closed (base : String) (P : {α : Type} → Op α → Prop) : Prop where
  ret : ∀ {α : Type} (value : α), P (.ret value)
  raise : ∀ {α : Type} (error : Exc), P (.raise error : Op α)
  perform : ∀ {c : Call}, c.Plain base → P (perform c)
  bind : ∀ {α β : Type} {p : Op α} {f : α → Op β}, P p → (∀ result, P (f result)) →
    P (p >>= f)
  tryCatch : ∀ {α : Type} {p : Op α} {handler : Exc → Op α}, P p →
    (∀ error, P (handler error)) → P (MonadExcept.tryCatch p handler)
  rmw : ∀ mutate, P (rmw base mutate)

namespace Closed

variable {base : String} {P : {α : Type} → Op α → Prop} {α : Type}

theorem exceptBackend (h : Closed base @P) {p : Op α} {handler : BackendError → Op α} (hp : P p)
    (hhandler : ∀ error, P (handler error)) : P (exceptBackend p handler) := by
  refine h.tryCatch hp fun error => ?_
  cases error with
  | backend error => exact hhandler error
  | unimplemented | calledProcess | other => exact h.raise _

theorem exceptCalled (h : Closed base @P) {p handler : Op α} (hp : P p) (hhandler : P handler) :
    P (exceptCalled p handler) := by
  refine h.tryCatch hp fun error => ?_
  cases error with
  | calledProcess => exact hhandler
  | backend | unimplemented | other => exact h.raise _

theorem exceptAny (h : Closed base @P) {p handler : Op α} (hp : P p) (hhandler : P handler) :
    P (exceptAny p handler) := h.tryCatch hp fun _ => hhandler

theorem finallyDo (h : Closed base @P) {p : Op α} {cleanup : Op Unit} (hp : P p)
    (hcleanup : P cleanup) : P (finallyDo p cleanup) :=
  h.bind (h.tryCatch hp fun error => h.bind hcleanup fun _ => h.raise error) fun result =>
    h.bind hcleanup fun _ => h.ret result

theorem ite (_h : Closed base @P) {c : Prop} [Decidable c] {p q : Op α} (hp : P p) (hq : P q) :
    P (if c then p else q) := by
  split
  · exact hp
  · exact hq

theorem forM (h : Closed base @P) {γ : Type} {f : γ → Op Unit} (hf : ∀ x, P (f x))
    (xs : List γ) : P (xs.forM f) := by
  induction xs with
  | nil => exact h.ret ()
  | cons x xs ih => exact h.bind (hf x) fun _ => ih

theorem imageInfo (h : Closed base @P) (image : String) : P (imageInfo image) :=
  h.perform trivial

theorem unmap (h : Closed base @P) (image : String) : P (Cbtlog.unmap image) :=
  h.exceptAny (h.perform trivial) (h.ret ())

theorem createCompanion (h : Closed base @P) (size : Nat) :
    P (Cbtlog.createCompanion base size) :=
  h.bind (h.perform trivial) fun _ => h.bind (h.perform trivial) fun _ =>
    h.bind (h.perform trivial) fun _ =>
      h.bind (h.finallyDo (h.bind (h.perform trivial) fun _ => h.perform trivial) (h.unmap _))
        fun _ => h.ret _

theorem removeCompanion (h : Closed base @P) (gen : String) :
    P (Cbtlog.removeCompanion base gen) :=
  h.ite (h.ret ()) (h.bind (h.unmap _) fun _ =>
    h.exceptAny (h.perform (Cbtlog.companionName_ne base gen)) (h.ret ()))

theorem tapRunning (h : Closed base @P) : P (Cbtlog.tapRunning base) :=
  h.bind (h.perform trivial) fun _ =>
    h.ite (h.exceptCalled (h.perform trivial) (h.ret _)) (h.ret _)

theorem relog (h : Closed base @P) (target gen : String) : P (Cbtlog.relog target base gen) :=
  h.bind (h.perform trivial) fun _ => h.bind (h.perform trivial) fun _ => h.perform trivial

theorem swapLog (h : Closed base @P) (oldGen : Option String) (newGen : String) :
    P (Cbtlog.swapLog base oldGen newGen) := by
  refine h.bind h.tapRunning fun running => ?_
  cases running with
  | none => exact h.ret ()
  | some target =>
      refine h.bind (h.relog target newGen) fun _ => ?_
      cases oldGen with
      | none => exact h.ret ()
      | some gen => exact h.ite (h.ret ()) (h.unmap _)

theorem injectRunning (h : Closed base @P) (gen : String) :
    P (Cbtlog.injectRunning base gen) := by
  refine h.bind h.tapRunning fun running => ?_
  cases running with
  | none => exact h.ret _
  | some target => exact h.bind (h.relog target gen) fun _ => h.ret _

theorem rotateLog (h : Closed base @P) (snap : String) (metadata : Dict) (size : Nat) :
    P (rotateLog base snap metadata size) :=
  h.ite (h.exceptAny (h.bind (h.bind (h.createCompanion _) fun _ =>
    h.bind (h.swapLog _ _) fun _ => h.ret _) fun _ => h.rmw _) (h.ret ())) (h.ret ())

theorem enableTapdisk (h : Closed base @P) (size : Nat) : P (enableTapdisk base size) :=
  h.bind (h.createCompanion _) fun gen => h.bind (h.rmw _) fun _ =>
    h.exceptAny (h.bind (h.injectRunning gen) fun _ => h.ret ()) (h.ret ())

theorem takeSnap (h : Closed base @P) (snap : String) : P (takeSnap base snap) :=
  h.exceptBackend (h.bind (h.perform trivial) fun _ => h.perform trivial) fun _ =>
    h.bind (h.exceptBackend (h.bind (h.perform trivial) fun _ => h.perform trivial) fun _ =>
      h.ret ()) fun _ => h.raise _

theorem releaseSnap (h : Closed base @P) (snap : String) : P (releaseSnap base snap) := by
  refine h.bind (h.exceptBackend (h.bind (h.imageInfo _) fun info => ?_) fun _ => h.ret _)
    fun _ => h.ite ?_ ?_
  · split <;> exact h.ret _
  · exact h.bind (h.perform trivial) fun _ => h.bind (h.perform trivial) fun _ => h.perform trivial
  · exact h.bind (h.exceptBackend (h.perform trivial) fun _ => h.ret ()) fun _ => h.perform trivial

theorem dropSealed (h : Closed base @P) (snap : String) : P (dropSealed base snap) := by
  refine h.exceptBackend (h.bind (h.imageInfo _) fun info => ?_) fun _ => h.ret ()
  split
  · exact h.ite (h.ret ()) (h.bind (h.removeCompanion _) fun _ => h.rmw _)
  · exact h.ret ()

theorem destroySnap (h : Closed base @P) (snap : String) : P (destroySnap base snap) :=
  h.exceptBackend (h.bind (h.releaseSnap _) fun _ =>
    h.bind (h.exceptBackend (h.rmw _) fun _ => h.ret ()) fun _ => h.dropSealed _)
    fun _ => h.ite (h.ret ()) (h.raise _)

theorem snapshot (h : Closed base @P) (sr : SrMeta) {key : String} (hbase :
    (splitKey key).1 = base) :
    P (snapshot sr key) := by
  subst hbase
  exact h.ite (h.raise _) (h.bind (h.perform trivial) fun snap =>
    h.bind (h.takeSnap _) fun _ =>
      h.bind (h.exceptBackend (h.bind (h.imageInfo _) fun _ => h.ret _) fun _ => h.ret _)
        fun _ => h.bind (h.ite (h.exceptBackend (h.rmw _) fun _ => h.ret ()) (h.ret ()))
          fun _ => h.bind (h.rotateLog _ _ _) fun _ => h.ret _)

theorem enableCbt (h : Closed base @P) (sr : SrMeta) {key : String} (hbase :
    (splitKey key).1 = base) :
    P (enableCbt sr key) := by
  subst hbase
  exact h.ite (h.bind (h.imageInfo _) fun _ => h.ite (h.ret ()) (h.enableTapdisk _))
    (h.bind (h.imageInfo _) fun _ => h.ite (h.rmw _) (h.raise _))

theorem disableCbt (h : Closed base @P) {key : String} (hbase : (splitKey key).1 = base) :
    P (disableCbt key) := by
  subst hbase
  exact h.ite (h.bind (h.imageInfo _) fun _ =>
    h.ite (h.bind (h.forM (fun _ => h.removeCompanion _) _) fun _ => h.rmw _) (h.rmw _)) (h.rmw _)

theorem dataDestroy (h : Closed base @P) {key : String} (hbase : (splitKey key).1 = base) :
    P (dataDestroy key) := by
  subst hbase
  unfold Volume.dataDestroy
  split
  next => exact h.raise _
  next hsplit =>
    rw [hsplit] at h
    exact h.rmw _

end Closed

section Listing

variable {P : Call → Prop}

/-- Requeuing a trashed object only queues jobs. -/
theorem allCalls_requeue (hspawn : ∀ job, P (.gcSpawn job)) (targets : List Job) (job : Job) :
    AllCalls P (requeue targets job) := by
  unfold requeue
  split
  · trivial
  · exact .bind (.perform (hspawn job)) fun _ => trivial

/-- The records of the snapshots only queue jobs. -/
theorem allCalls_lsSnapshots (hspawn : ∀ job, P (.gcSpawn job)) (sr : SrMeta) (info : Info)
    (metadata : Dict) (targets : List Job) (snaps : List SnapInfo) :
    AllCalls P (lsSnapshots sr info metadata targets snaps) := by
  induction snaps generalizing targets with
  | nil => trivial
  | cons snap snaps ih =>
      unfold lsSnapshots
      split
      · exact .bind (allCalls_requeue hspawn _ _) fun targets => ih targets
      · split
        · exact .bind (ih targets) fun _ => trivial
        · exact ih targets

end Listing

end XcpCephRbd.Volume
