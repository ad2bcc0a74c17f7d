import XcpCephRbd.Gc.Retention

/-!
# No volume is lost

The volume operations, one after the other, each of which may die at any point, among any number of
workers on the jobs that they and `SR.ls` queue. What was not ordered away is retained along every
run (`volumes_retained`).
-/

namespace XcpCephRbd.Gc

open Volume (Job uuidMatch)
open Datapath (SrMeta splitKey)
open Prog (AllCalls Safe)

/-- The operations of the life cycle of volumes, and the scan of the SR. -/
inductive Operation where
  | create (features : List String) (name description : String) (size : Nat) (sharable : Bool)
  | snapshot (key : String)
  | clone (features : List String) (key : String)
  | destroy (dbg key : String)
  | revert (snapshotKey : String)
  | resize (key : String) (newSize : Nat)
  | ls
  deriving DecidableEq

/-- The operation, without what it returns. -/
def Operation.program (m : SrMeta) : Operation → Op Unit
  | .create features name description size sharable => do
      let _ ← Gc.create m features name description size sharable
      return ()
  | .snapshot key => do
      let _ ← lift (Volume.snapshot m key)
      return ()
  | .clone features key => do
      let _ ← Gc.clone m features key
      return ()
  | .destroy dbg key => Gc.destroy dbg key
  | .revert snapshotKey => do
      let _ ← lift (Volume.revert m snapshotKey)
      return ()
  | .resize key newSize => lift (Volume.resize key newSize)
  | .ls => do
      let _ ← lift (Volume.ls m)
      return ()

/-- Nothing in the trash is snapshotted or cloned, and a destroy does not come from a storage
migration. -/
def Operation.Permitted : Operation → Prop
  | .snapshot key | .clone _ key => isTrash (splitKey key).1 = false
  | .destroy dbg _ => fromSxm dbg = false
  | .create _ _ _ _ _ | .revert _ | .resize _ _ | .ls => True

/-- What the operations of a list order. -/
def ordersOf (sr : Sr) (operations : List Operation) : Orders where
  base spec := ∃ dbg key image, .destroy dbg key ∈ operations ∧ victimOf key = .base image ∧
    spec = sr.spec image
  snap spec snap := ∃ dbg key image, .destroy dbg key ∈ operations ∧
    victimOf key = .snapshot image snap ∧ spec = sr.spec image
  edited spec := ∃ key, spec = sr.spec (splitKey key).1 ∧
    (.revert key ∈ operations ∨ ∃ newSize, .resize key newSize ∈ operations)

/-- What happens next: an operation begins, the one before having ended or died, or a step of the
system. -/
inductive LifeLabel where
  | begin (operation : Operation)
  | step (label : Label)

/-- One step of the life cycle. -/
def lifeStep (shape : Shape) (sr : Sr) (m : SrMeta) (s : System) : LifeLabel → Option System
  | .begin operation => some { s with op := operation.program m }
  | .step label => systemStep shape sr s label

/-- The operations that begin in a run. -/
def begun : List LifeLabel → List Operation
  | [] => []
  | .begin operation :: rest => operation :: begun rest
  | .step _ :: rest => begun rest

/-- The operation that began last in a run, and may still be under way where it ends; those of
`operations` where none began. -/
def underWay (operations : List Operation) : List LifeLabel → List Operation
  | [] => operations
  | .begin operation :: rest => underWay [operation] rest
  | .step _ :: rest => underWay operations rest

/-- What is assumed of a step: what operations are asked for is permitted, a new UUID is the name of
nothing, and workers are started on jobs that were queued. Any call may fail. -/
def permitted (sr : Sr) (s : System) : LifeLabel → Prop
  | .begin operation => operation.Permitted
  | .step (.op choice) => ∀ c ∈ s.op.firstCall, FreshUuid choice s.cluster c
  | .step (.worker _ _) => True
  | .step (.start pool ns job) => pool = sr.pool ∧ ns = sr.ns ∧ job ∈ s.cluster.jobs

section Life

variable {shape : Shape} {sr : Sr} {m : SrMeta}

/-- Every operation that was ordered is safe. -/
theorem safe_operation {operations : List Operation} {operation : Operation}
    (hmem : operation ∈ operations) (hpermitted : operation.Permitted) (w : Cluster) :
    Safe (retaining shape sr (ordersOf sr operations)) (fun _ _ => True) (fun _ _ => True)
      (operation.program m) w := by
  have hunit : ∀ {α : Type} {p : Op α}, Safe (retaining shape sr (ordersOf sr operations))
      (fun _ _ => True) (fun _ _ => True) p w →
      Safe (retaining shape sr (ordersOf sr operations)) (fun _ _ => True) (fun _ _ => True)
        (p >>= fun _ => pure ()) w :=
    fun h => Prog.safe_bind (h.mono (fun _ _ _ => trivial) fun _ _ h => h)
  cases operation with
  | create features name description size sharable =>
      exact hunit (safe_create m features name description size sharable)
  | snapshot key => exact hunit (safe_lift (safe_snapshot m hpermitted))
  | clone features key =>
      exact hunit (safe_innocent (innocent_clone m features hpermitted))
  | revert key =>
      exact hunit (safe_lift (safe_innocentPlain (innocent_revert m ⟨key, rfl, .inl hmem⟩)))
  | resize key newSize =>
      exact safe_lift (safe_innocentPlain (innocent_resize newSize
        ⟨key, rfl, .inr ⟨newSize, hmem⟩⟩))
  | ls => exact hunit (safe_lift (safe_ls m))
  | destroy dbg key =>
      have hbase : ∀ base, victimOf key = .base base →
          Safe (retaining shape sr (ordersOf sr operations)) (fun _ _ => True) (fun _ _ => True)
            (catchBackend (destroyBase (fromSxm dbg) base) fun error =>
              if error.notFound then pure ()
              else throw (.other ("VDI destroy failed: " ++ error.message))) w := by
        intro base hvictim
        rw [show fromSxm dbg = false from hpermitted]
        refine safe_catch_of (E := fun _ => True)
          (safe_destroyedBase ⟨dbg, key, base, hmem, hvictim, rfl⟩) (fun error _ _ => ?_)
          fun _ _ _ => trivial
        split <;> trivial
      simp only [Operation.program, Gc.destroy]
      unfold victimOf at hbase
      cases hkey : splitKey key with
      | mk base snap =>
          rw [hkey] at hbase
          cases snap with
          | none => exact hbase base rfl
          | some snap =>
              dsimp only at hbase ⊢
              split
              next hempty => exact hbase base (if_pos hempty)
              next hsome =>
                  refine safe_lift (safe_destroyedSnap ⟨dbg, key, base, hmem, ?_, rfl⟩)
                  rw [victimOf, hkey]
                  exact if_neg hsome

/-- What holds in every state of the life cycle. -/
structure Retaining (shape : Shape) (sr : Sr) (o : Orders) (s : System) : Prop where
  safe : Safe (retaining shape sr o) (fun _ _ => True) (fun _ _ => True) s.op s.cluster
  workers : ∀ worker ∈ s.workers, AllCalls GcCall worker
  jobs : ∀ job ∈ s.cluster.jobs, TrashJob job
  tidy : s.cluster.graph.Tidy
  intact : s.cluster.graph.Intact

/-- A request that is harmless and granted keeps what holds of the graph, and retains. -/
theorem retains_of_apply {o : Orders} {g g' : Graph} {r : Req} (hharmless : Harmless o g r)
    (htidy : g.Tidy) (hintact : g.Intact) (happly : g.apply r = some g') :
    g'.Tidy ∧ g'.Intact ∧ Retains o g g' := by
  have hchange := change_of_apply happly
  obtain ⟨hretains, htidy'⟩ := hharmless.retains htidy hchange
  exact ⟨htidy', hchange.intact hintact, hretains⟩

/-- Each step keeps it, and retains what was not ordered away. -/
theorem Retaining.step {operations : List Operation} {s s' : System} {label : LifeLabel}
    (h : Retaining shape sr (ordersOf sr operations) s) (hguard : permitted sr s label)
    (hordered : ∀ operation, label = .begin operation → operation ∈ operations)
    (hstep : lifeStep shape sr m s label = some s') :
    Retaining shape sr (ordersOf sr operations) s' ∧
      Retains (ordersOf sr operations) s.cluster.graph s'.cluster.graph := by
  cases label with
  | begin operation =>
      cases hstep
      exact ⟨⟨safe_operation (hordered operation rfl) hguard _, h.workers, h.jobs, h.tidy,
        h.intact⟩, .refl _⟩
  | step label =>
      cases label with
      | op choice =>
          obtain ⟨⟨op, cluster⟩, hnext, heq⟩ := Option.map_eq_some_iff.mp hstep
          cases heq
          have hsafe := h.safe.next hguard hnext
          obtain ⟨c, resume, reply, hop, hhandle, -⟩ := Prog.next_eq_some_iff.mp hnext
          have hasserted : retainAsserted sr (ordersOf sr operations) s.cluster c :=
            h.safe.asserted (by rw [hop]; rfl)
          have hjobs : ∀ job ∈ cluster.jobs, TrashJob job := by
            intro job hjob
            obtain hsame | ⟨new, rfl, hnew⟩ := opHandle_jobs hhandle
            · exact h.jobs job (hsame ▸ hjob)
            · rw [show cluster.jobs = s.cluster.jobs ++ [new] from hnew] at hjob
              obtain hold | hlast := List.mem_append.mp hjob
              · exact h.jobs job hold
              · obtain rfl := List.mem_singleton.mp hlast
                exact hasserted.2 job rfl
          -- a call that is no request leaves the graph; a request of the operation is harmless
          obtain hsame | ⟨r, hreq, happly⟩ := opHandle_graph hhandle
          · have hgraph : cluster.graph = s.cluster.graph := hsame
            refine ⟨⟨hsafe, h.workers, hjobs, ?_, ?_⟩, ?_⟩
            · exact hgraph ▸ h.tidy
            · exact hgraph ▸ h.intact
            · exact hgraph ▸ .refl _
          · obtain ⟨htidy, hintact, hretains⟩ :=
              retains_of_apply (hasserted.1 r hreq) h.tidy h.intact happly
            exact ⟨⟨hsafe, h.workers, hjobs, htidy, hintact⟩, hretains⟩
      | start pool ns job =>
          cases hstep
          refine ⟨⟨h.safe, fun worker hworker => ?_, h.jobs, h.tidy, h.intact⟩, .refl _⟩
          obtain rfl | hold := List.mem_cons.mp hworker
          · exact gcCall_main (h.jobs job hguard.2.2)
          · exact h.workers worker hold
      | worker index choice =>
          obtain ⟨worker, hworker, hmap⟩ := Option.bind_eq_some_iff.mp hstep
          obtain ⟨⟨worker', cluster⟩, hnext, heq⟩ := Option.map_eq_some_iff.mp hmap
          cases heq
          obtain ⟨c, resume, reply, rfl, hhandle, rfl⟩ := Prog.next_eq_some_iff.mp hnext
          have hcalls := h.workers _ (List.mem_of_getElem? hworker)
          have hworkers : ∀ other ∈ s.workers.set index (resume reply), AllCalls GcCall other := by
            intro other hother
            obtain hold | rfl := List.mem_or_eq_of_mem_set hother
            · exact h.workers other hold
            · exact hcalls.2 reply
          obtain hsame | ⟨r, graph, rfl, happly, hcluster⟩ := workerHandle_cases hhandle
          · obtain rfl : cluster = s.cluster := hsame
            exact ⟨⟨h.safe, hworkers, h.jobs, h.tidy, h.intact⟩, .refl _⟩
          · obtain rfl : cluster = { s.cluster with graph := graph } := hcluster
            have hgc : GcReq r := hcalls.1
            obtain ⟨htidy, hintact, hretains⟩ :=
              retains_of_apply (harmless_of_gcReq hgc) h.tidy h.intact happly
            -- the operation under way stands the request of a worker
            refine ⟨⟨?_, hworkers, h.jobs, htidy, hintact⟩, hretains⟩
            exact h.safe.move ⟨r, graph, hgc, happly, rfl⟩ (fun _ _ _ _ _ => trivial)
              fun _ _ _ _ _ => trivial

/-- An operation that begins in a run is one of those begun. -/
theorem mem_begun {labels : List LifeLabel} {operation : Operation}
    (h : .begin operation ∈ labels) : operation ∈ begun labels := by
  induction labels with
  | nil => cases h
  | cons label rest ih =>
      cases label with
      | begin other =>
          obtain heq | hrest := List.mem_cons.mp h
          · cases heq
            exact List.mem_cons_self
          · exact List.mem_cons_of_mem _ (ih hrest)
      | step label =>
          obtain heq | hrest := List.mem_cons.mp h
          · cases heq
          · exact ih hrest

/-- The invariant holds where a run ends, and the run retains what was not ordered away. -/
theorem Retaining.run {operations : List Operation} {s final : System} {labels : List LifeLabel}
    (h : Retaining shape sr (ordersOf sr operations) s)
    (hordered : ∀ operation, .begin operation ∈ labels → operation ∈ operations)
    (hguard : Run.Along (lifeStep shape sr m) (permitted sr) s labels)
    (hrun : Run.run (lifeStep shape sr m) s labels = some final) :
    Retaining shape sr (ordersOf sr operations) final ∧
      Retains (ordersOf sr operations) s.cluster.graph final.cluster.graph := by
  induction labels generalizing s with
  | nil =>
      cases hrun
      exact ⟨h, .refl _⟩
  | cons label rest ih =>
      obtain ⟨next, hstep, hrest⟩ := Run.run_cons_iff.mp hrun
      have hlabel : ∀ operation, label = .begin operation → operation ∈ operations :=
        fun operation heq => hordered operation (heq ▸ List.mem_cons_self)
      obtain ⟨hnext, hretains⟩ := h.step hguard.1 hlabel hstep
      obtain ⟨hfinal, hretains'⟩ := ih hnext
        (fun operation hmem => hordered operation (List.mem_cons_of_mem _ hmem))
        (hguard.2 next hstep) hrest
      exact ⟨hfinal, hretains.trans hretains'⟩

/-- Once an operation has begun, nothing is left of the orders before it. -/
theorem Retaining.underWay {operations later : List Operation} {s final : System}
    {labels : List LifeLabel} (h : Retaining shape sr (ordersOf sr (operations ++ later)) s)
    (hguard : Run.Along (lifeStep shape sr m) (permitted sr) s labels)
    (hrun : Run.run (lifeStep shape sr m) s labels = some final) :
    Retaining shape sr (ordersOf sr (underWay operations labels ++ later)) final := by
  induction labels generalizing s operations with
  | nil =>
      cases hrun
      exact h
  | cons label rest ih =>
      obtain ⟨next, hstep, hrest⟩ := Run.run_cons_iff.mp hrun
      have hrestGuard := hguard.2 next hstep
      cases label with
      | begin operation =>
          cases hstep
          have hmem : operation ∈ [operation] ++ later :=
            List.mem_append_left _ (List.mem_singleton_self operation)
          have hnext : Retaining shape sr (ordersOf sr ([operation] ++ later))
              { s with op := operation.program m } :=
            ⟨safe_operation hmem hguard.1 _, h.workers, h.jobs, h.tidy, h.intact⟩
          exact ih hnext hrestGuard hrest
      | step label => exact ih (h.step hguard.1 nofun hstep).1 hrestGuard hrest

/-- Where the life cycle begins: no operation and no worker runs. -/
def System.idle (cluster : Cluster) : System where
  op := .ret ()
  workers := []
  cluster := cluster

/-- In every run of volume operations and workers, from every state of it on, each image but the
trash and the CBT logs keeps its name and its content unless it is destroyed, reverted or resized by
an operation that is under way there or begins later, each snapshot named by a UUID keeps its name
and its content unless such an operation destroys it, and whatever reads through a parent can still
do so. -/
theorem volumes_retained {cluster : Cluster} {first second : List LifeLabel} {middle final : System}
    (htidy : cluster.graph.Tidy) (hintact : cluster.graph.Intact)
    (hjobs : ∀ job ∈ cluster.jobs, TrashJob job)
    (hfirst : Run.run (lifeStep shape sr m) (.idle cluster) first = some middle)
    (hsecond : Run.run (lifeStep shape sr m) middle second = some final)
    (hpermitted : Run.Along (lifeStep shape sr m) (permitted sr) (.idle cluster)
      (first ++ second)) :
    Retains (ordersOf sr (underWay [] first ++ begun second)) middle.cluster.graph
        final.cluster.graph ∧
      final.cluster.graph.Intact := by
  have hidle : Retaining shape sr (ordersOf sr ([] ++ begun second)) (.idle cluster) :=
    ⟨trivial, nofun, hjobs, htidy, hintact⟩
  have hmiddle := hidle.underWay hpermitted.append_left hfirst
  obtain ⟨hfinal, hretains⟩ := hmiddle.run
    (fun operation hmem => List.mem_append_right _ (mem_begun hmem))
    (hpermitted.append_right hfirst) hsecond
  exact ⟨hretains, hfinal.intact⟩

end Life

section Clone

instance (g : Graph) (text : String) : Decidable (g.Unused text) :=
  decidable_of_iff (∀ entry ∈ g.images.entries,
      entry.1.image ≠ text ∧ ∀ s ∈ entry.2.snapshots, s.name ≠ text) (by
    constructor
    · intro h spec img himg
      exact h ⟨spec, img⟩ (AList.mem_lookup_iff.mp himg)
    · intro h entry hentry
      exact h entry.1 entry.2 (AList.mem_lookup_iff.mpr hentry))

/-- The call asks for a new UUID. -/
def asksUuid : OpCall → Bool
  | .call .uuid4 => true
  | _ => false

/-- It does where it is that call. -/
theorem asksUuid_iff {c : OpCall} : asksUuid c = true ↔ c = .call .uuid4 := by
  constructor
  · intro h
    unfold asksUuid at h
    split at h
    · rfl
    · cases h
  · rintro rfl
    rfl

instance (choice : OpChoice) (w : Cluster) (c : OpCall) : Decidable (FreshUuid choice w c) :=
  match choice with
  | .fresh text => decidable_of_iff (asksUuid c = true → w.graph.Unused text)
      ⟨fun h hc _ heq => OpChoice.fresh.inj heq ▸ h (asksUuid_iff.mpr hc),
        fun h hc => h (asksUuid_iff.mp hc) text rfl⟩
  | .ok | .fail _ | .diff _ | .flag _ | .tap _ | .bytes _ => isTrue nofun

instance (operation : Operation) : Decidable operation.Permitted :=
  match operation with
  | .snapshot _ | .clone _ _ | .destroy _ _ => inferInstanceAs (Decidable (_ = _))
  | .create _ _ _ _ _ | .revert _ | .resize _ _ | .ls => isTrue trivial

instance (sr : Sr) (s : System) (label : LifeLabel) : Decidable (permitted sr s label) :=
  match label with
  | .begin operation => inferInstanceAs (Decidable operation.Permitted)
  | .step (.op choice) => inferInstanceAs (Decidable (∀ c ∈ s.op.firstCall, FreshUuid choice _ c))
  | .step (.worker _ _) => isTrue trivial
  | .step (.start _ _ _) => inferInstanceAs (Decidable (_ ∧ _ ∧ _))

/-- A UUID. -/
def uuidOf (digit : String) : String := "00000000-0000-0000-0000-00000000000" ++ digit

/-- A disk is created, a snapshot of it taken and the snapshot cloned. -/
def cloned : List LifeLabel :=
  [.begin (.create [] "" "" 1 false), .step (.op (.fresh (uuidOf "1"))), .step (.op .ok),
    .begin (.snapshot (uuidOf "1")), .step (.op (.fresh (uuidOf "2"))), .step (.op .ok),
    .step (.op .ok), .step (.op .ok),
    .begin (.clone [] (uuidOf "1" ++ "@" ++ uuidOf "2")), .step (.op (.fresh (uuidOf "3"))),
    .step (.op .ok), .step (.op .ok)]

/-- The snapshot is destroyed, and a worker flattens the clone and removes the snapshot while
`destroy` still runs. -/
def collected : List LifeLabel :=
  [.begin (.destroy "" (uuidOf "1" ++ "@" ++ uuidOf "2")), .step (.op .ok),
    .step (.op (.fresh (uuidOf "4"))), .step (.op .ok), .step (.op .ok),
    .step (.start "rbd" "" { kind := "snap", image := uuidOf "1"
                             snap := some (Volume.trashPrefix ++ uuidOf "4") }),
    .step (.worker 0 .ok), .step (.op .ok), .step (.worker 0 .ok), .step (.op .ok),
    .step (.worker 0 .ok), .step (.op .ok), .step (.worker 0 .ok), .step (.op .ok),
    .step (.worker 0 .ok), .step (.worker 0 .ok)]

/-- The clone outlives the destroyed snapshot. -/
theorem volumes_retained_clone :
    ∃ middle final,
      Run.run (lifeStep .rest ⟨"rbd", ""⟩ ⟨"sr", "rbd", none, none⟩) (.idle ⟨⟨∅, 0⟩, []⟩) cloned =
        some middle ∧
      Run.run (lifeStep .rest ⟨"rbd", ""⟩ ⟨"sr", "rbd", none, none⟩) middle collected =
        some final ∧
      (⟨"rbd", "", uuidOf "3"⟩ : Spec) ∈ final.cluster.graph.images ∧
      Retains (ordersOf ⟨"rbd", ""⟩ (underWay [] cloned ++ begun collected)) middle.cluster.graph
        final.cluster.graph ∧ final.cluster.graph.Intact := by
  have hchecked : ((Run.checked (lifeStep .rest ⟨"rbd", ""⟩ ⟨"sr", "rbd", none, none⟩)
      (permitted ⟨"rbd", ""⟩) (.idle ⟨⟨∅, 0⟩, []⟩) (cloned ++ collected)).any fun s =>
        decide ((⟨"rbd", "", uuidOf "3"⟩ : Spec) ∈ s.cluster.graph.images)) = true := by
    decide +kernel
  obtain ⟨final, hrun, hguard, hclone⟩ := Run.exists_of_checked hchecked
  obtain ⟨middle, hfirst, hsecond⟩ := Run.run_append_iff.mp hrun
  have hnone : ∀ (spec : Spec) (img : Image), (∅ : AList fun _ : Spec => Image).lookup spec ≠
      some img := by
    intro spec img
    rw [AList.lookup_empty]
    nofun
  refine ⟨middle, final, hfirst, hsecond, of_decide_eq_true hclone, ?_⟩
  exact volumes_retained (fun spec img himg => absurd himg (hnone spec img))
    (fun spec img himg => absurd himg (hnone spec img))
    (fun _ hjob => absurd hjob List.not_mem_nil) hfirst hsecond hguard

end Clone

end XcpCephRbd.Gc
