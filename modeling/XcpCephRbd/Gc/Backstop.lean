import XcpCephRbd.Gc.Retention
import XcpCephRbd.Gc.Spool

/-!
# What `SR.ls` knows of the trash

A worker unlinks its job file only when the object is gone, and while no `destroy` runs an object
that is gone does not come back (`Host.Recedes`). So a job file that `sweep` has read is there as
long as the object is, and what `SR.ls` lists afterwards without a job gets one: `safe_scan` goes
through `sweep` and the listing.
-/

namespace XcpCephRbd.Gc

open Volume (BackendError Info Job VolumeDict trashPrefix uuidMatch)
open Datapath (SrMeta)
open Prog (AllCalls Safe Setting Stable)

/-- The request gives no name that the job is about. -/
def Req.Spares (r : Req) (job : Job) : Prop :=
  ∀ name ∈ r.names, name ≠ job.image ∧ job.snap ≠ some name

section Gone

variable {pool ns : String} {job : Job} {g g' : Graph} {r : Req}

/-- An object that is gone stays gone unless its name is given again. -/
theorem gone_of_spares (hspares : r.Spares job) (h : g.apply r = some g')
    (hgone : g.Gone pool ns job) : g'.Gone pool ns job := by
  have himage : job.image ∉ r.names := fun hmem => (hspares _ hmem).1 rfl
  unfold Graph.Gone at hgone ⊢
  split
  next hkind =>
      rw [if_pos hkind] at hgone
      split
      next snap hsnap =>
          rw [hsnap] at hgone
          exact noSnap_of_names h himage (fun hmem => (hspares _ hmem).2 hsnap) hgone
      next hnone =>
          rw [hnone] at hgone
          exact hgone
  next hkind =>
      rw [if_neg hkind] at hgone
      split
      next himg =>
          rw [if_pos himg] at hgone
          exact absent_of_names h himage hgone
      next himg =>
          rw [if_neg himg] at hgone
          exact hgone

/-- A request that names nothing spares every job. -/
theorem spares_of_naming (h : r.naming = false) (job : Job) : r.Spares job := by
  intro name hmem
  rw [r.names_eq_nil h] at hmem
  cases hmem

end Gone

section Worker

variable {shape : Shape} {pool ns : String} {job : Job} {g : Graph}

/-- A worker among others, none of whom brings back the object of its job. -/
def untilGone (shape : Shape) (pool ns : String) (job : Job) :
    Setting Exc Call Call.Result Graph Choice where
  handle choice g c :=
    (handle shape choice { graph := g } c).map fun (reply, st) => (reply, st.graph)
  allowed choice g c := Truthful choice { graph := g } c
  rely g g' := g.Gone pool ns job → g'.Gone pool ns job
  asserted g c := c = .unlink → g.Gone pool ns job

/-- What a worker does before the removal of its object. -/
theorem safe_before {α : Type} {p : Py α} (hp : AllCalls (· ≠ Call.unlink) p) :
    Safe (untilGone shape pool ns job) (fun _ _ => True) (fun _ _ => True) p g :=
  Prog.safe_keep hp (fun _ _ _ _ => trivial) (fun _ _ hc _ heq => absurd heq hc)
    (fun _ _ _ _ _ _ _ _ _ => trivial) trivial

/-- The removal of the object: where it returns the object is gone. -/
theorem safe_passNotFound {r : Req} {post : Graph → Prop}
    (hremoved : ∀ g g' : Graph, g.apply r = some g' → post g')
    (hnone : ∀ g, g.found r = false → post g) :
    Safe (untilGone shape pool ns job) (fun _ => post) (fun _ _ => True)
      (passNotFound (request r)) g := by
  refine safe_exceptBackend fun before _ => ⟨nofun, fun choice reply after htruthful hhandle => ?_⟩
  obtain ⟨⟨reply', st⟩, hhandle', hpair⟩ := Option.map_eq_some_iff.mp hhandle
  cases hpair
  cases choice with
  | ok =>
      obtain ⟨graph, happly, hgraph⟩ := Option.map_eq_some_iff.mp hhandle'
      cases hgraph
      exact hremoved _ _ happly
  | fail error =>
      cases hhandle'
      show Safe (untilGone shape pool ns job) (fun _ => post) (fun _ _ => True)
        (if error.notFound then pure () else throw (.backend error)) before
      split
      next hnotFound => exact hnone _ (htruthful error rfl hnotFound)
      next => trivial

/-- `run`: where it returns the object is gone. -/
theorem safe_runGone :
    Safe (untilGone shape pool ns job) (fun _ g => g.Gone pool ns job) (fun _ _ => True)
      (run pool ns job) g := by
  have hinfo : ∀ spec, Call.imageInfo spec ≠ .unlink := by
    intro spec h
    cases h
  have hflatten : ∀ child, Call.request (.flatten child) ≠ .unlink := by
    intro child h
    cases h
  have hresolve : ∀ (snapFilter : Option String) (rest : Py Unit) (g : Graph),
      (∀ g, Safe (untilGone shape pool ns job) (fun _ g => g.Gone pool ns job) (fun _ _ => True)
        rest g) →
      Safe (untilGone shape pool ns job) (fun _ g => g.Gone pool ns job) (fun _ _ => True)
        (resolveChildren ⟨pool, ns, job.image⟩ snapFilter >>= fun t =>
          checkResolved t >>= fun _ => rest) g := by
    intro snapFilter rest g hrest
    refine Prog.safe_bind ((safe_before (allCalls_resolveChildren hinfo hflatten _ snapFilter)).mono
      (fun t g _ => ?_) fun _ _ _ => trivial)
    exact Prog.safe_bind ((safe_before (allCalls_checkResolved t)).mono (fun _ g _ => hrest g)
      fun _ _ _ => trivial)
  unfold run
  dsimp only
  split
  next hkind =>
      split
      next snap hsnap =>
          have hgone : ∀ g : Graph, g.NoSnap ⟨pool, ns, job.image⟩ snap → g.Gone pool ns job := by
            intro g hnone
            simpa [Graph.Gone, hkind, hsnap] using hnone
          refine hresolve _ _ _ fun g => ?_
          have hunprotect : AllCalls (· ≠ Call.unlink) (exceptBackend
              (request (.snapSetProtected ⟨pool, ns, job.image⟩ snap false)) fun _ => pure ()) :=
            allCalls_exceptBackend (AllCalls.perform (by intro h; cases h)) fun _ => trivial
          refine Prog.safe_bind
            ((safe_before hunprotect).mono (fun _ g _ => ?_) fun _ _ _ => trivial)
          exact safe_passNotFound (fun _ _ h => hgone _ (noSnap_of_removed h))
            fun _ h => hgone _ (noSnap_of_not_found h)
      next => trivial
  next =>
      split
      next hkind =>
          have hgone : ∀ g : Graph, ⟨pool, ns, job.image⟩ ∉ g.images → g.Gone pool ns job := by
            intro g habsent
            simpa [Graph.Gone, hkind] using habsent
          refine hresolve _ _ _ fun g => ?_
          refine Prog.safe_bind ((safe_before (allCalls_readOrGone hinfo _)).mono
            (fun found g _ => ?_) fun _ _ _ => trivial)
          have hpurge : ∀ snaps, AllCalls (· ≠ Call.unlink)
              (purgeSnaps ⟨pool, ns, job.image⟩ snaps) := by
            intro snaps
            induction snaps with
            | nil => trivial
            | cons snap rest ih =>
                refine AllCalls.bind (allCalls_purgeOne ?_ ?_) fun _ => ih
                · intro h
                  cases h
                · intro h
                  cases h
          refine Prog.safe_bind
            ((safe_before (hpurge _)).mono (fun _ g _ => ?_) fun _ _ _ => trivial)
          exact safe_passNotFound (fun _ _ h => hgone _ (absent_of_removed h))
            fun _ h => hgone _ (of_decide_eq_false h)
      next => trivial

/-- `main`: the job file is unlinked only when the object is gone. -/
theorem safe_mainGone :
    Safe (untilGone shape pool ns job) (fun _ _ => True) (fun _ _ => True)
      (main pool ns (some job)) g := by
  refine Prog.safe_bind (Prog.safe_tryCatch (Prog.safe_bind ?_))
  refine safe_runGone.mono (fun _ g hgone => ?_) fun _ _ _ => trivial
  refine Prog.safe_bind (Prog.safe_tryCatch ?_)
  -- between the removal and the unlink nobody brings the object back
  have hstable : Stable (untilGone shape pool ns job).rely fun g => g.Gone pool ns job :=
    fun _ _ hgone hrely => hrely hgone
  exact Prog.safe_perform hstable hgone (fun _ hgone _ => hgone)
    (fun _ _ _ _ _ _ _ => trivial) fun _ _ _ _ _ _ _ => trivial

end Worker

section Expand

variable {σ ι α β : Type} {W : Setting Volume.Exc FileCall FileCall.Result σ ι}
  {post : β → σ → Prop} {exc : Volume.Exc → σ → Prop} {s : σ}

/-- The file calls of a sequence. -/
theorem expand_bind (p : Volume.Op α) (f : α → Volume.Op β) :
    expand (lift (p >>= f)) = expand (lift p) >>= fun value => expand (lift (f value)) := by
  induction p with
  | ret value => rfl
  | raise error => rfl
  | call c resume ih =>
      cases c with
      | gcSpawn job =>
          refine (congrArg (spawn job).finish (funext ih)).trans ?_
          exact (Prog.finish_bind _ _ _).symm
      | gcSweep =>
          refine (congrArg sweep.finish (funext ih)).trans ?_
          exact (Prog.finish_bind _ _ _).symm
      | _ => exact congrArg (Prog.call _) (funext ih)

/-- The file calls of a handled operation. -/
theorem expand_tryCatch (p : Volume.Op α) (handler : Volume.Exc → Volume.Op α) :
    expand (lift (MonadExcept.tryCatch p handler)) =
      MonadExcept.tryCatch (expand (lift p)) fun error => expand (lift (handler error)) := by
  induction p with
  | ret value => rfl
  | raise error => rfl
  | call c resume ih =>
      cases c with
      | gcSpawn job =>
          refine (congrArg (spawn job).finish (funext ih)).trans ?_
          exact (Prog.finish_tryCatch _ _ _).symm
      | gcSweep =>
          refine (congrArg sweep.finish (funext ih)).trans ?_
          exact (Prog.finish_tryCatch _ _ _).symm
      | _ => exact congrArg (Prog.call _) (funext ih)

/-- A sequence of operations. -/
theorem safe_expandBind {p : Volume.Op α} {f : α → Volume.Op β}
    (h : Safe W (fun value s => Safe W post exc (expand (lift (f value))) s) exc
      (expand (lift p)) s) : Safe W post exc (expand (lift (p >>= f))) s := by
  rw [expand_bind]
  exact Prog.safe_bind h

end Expand

/-- What happens to the host between two calls of `SR.ls`: what is gone stays gone, and a job file
is unlinked when its object is gone. -/
structure Host.Recedes (sr : Sr) (w w' : Host) : Prop where
  before : w'.before = w.before
  created : w'.created = w.created
  gone : ∀ job, w.graph.Gone sr.pool sr.ns job → w'.graph.Gone sr.pool sr.ns job
  files : ∀ path, w'.spool.lookup path = w.spool.lookup path ∨ (w'.spool.lookup path = none ∧
    ∃ job, w.spool.lookup path = some (some job) ∧ w'.graph.Gone sr.pool sr.ns job)

/-- The request that a call of a process makes of Ceph. -/
def fileReq (sr : Sr) : FileCall → Option Req
  | .op c => reqOf sr c
  | _ => none

/-- `SR.ls` among workers. -/
def scanning (shape : Shape) (sr : Sr) :
    Setting Volume.Exc FileCall FileCall.Result Host FileChoice where
  handle := fileHandle shape sr
  allowed _ _ _ := True
  rely := Host.Recedes sr
  asserted _ c := ∀ r, fileReq sr c = some r → r.naming = false

/-- A call of `SR.ls` that names nothing and is not about the spool. -/
def QuietCall (sr : Sr) (c : Volume.Call) : Prop :=
  (∀ r, reqOf sr (.call c) = some r → r.naming = false) ∧ (∀ job, c ≠ .gcSpawn job) ∧ c ≠ .gcSweep

/-- There is a job for the object, or it is gone. -/
def Host.Queued (sr : Sr) (w : Host) (job : Job) : Prop :=
  w.graph.Gone sr.pool sr.ns job ∨ ∃ path, w.spool.lookup path = some (some job)

section Scan

variable {shape : Shape} {sr : Sr} {w w' : Host} {job : Job}

/-- A job stays until its object is gone. -/
theorem Host.Recedes.queued (h : w.Recedes sr w') (hqueued : w.Queued sr job) :
    w'.Queued sr job := by
  obtain hgone | ⟨path, hpath⟩ := hqueued
  · exact .inl (h.gone job hgone)
  · obtain hsame | ⟨-, other, hother, hgone⟩ := h.files path
    · exact .inr ⟨path, hsame.trans hpath⟩
    · cases hpath.symm.trans hother
      exact .inl hgone

/-- A graph that a request changed that names nothing. -/
theorem recedes_of_apply {r : Req} {graph : Graph} (hnaming : r.naming = false)
    (happly : w.graph.apply r = some graph) : w.Recedes sr { w with graph := graph } :=
  ⟨rfl, rfl, fun job => gone_of_spares (spares_of_naming hnaming job) happly, fun _ => .inl rfl⟩

/-- A call of an operation makes its request, or changes nothing. -/
theorem fileHandle_op {choice : FileChoice} {c : OpCall} {reply : Except Volume.Exc c.Result}
    (h : fileHandle shape sr choice w (.op c) = some (reply, w')) :
    w' = w ∨ ∃ r graph, reqOf sr c = some r ∧ w.graph.apply r = some graph ∧
      w' = { w with graph := graph } := by
  cases choice with
  | op choice =>
      obtain ⟨⟨reply', after⟩, hhandle, hpair⟩ := Option.map_eq_some_iff.mp h
      cases hpair
      obtain hsame | ⟨r, hreq, happly⟩ := opHandle_graph hhandle
      · left
        rw [show after.graph = w.graph from hsame]
      · exact .inr ⟨r, after.graph, hreq, happly, rfl⟩
  | _ => cases h

/-- What workers keep, quiet calls keep. -/
theorem safe_quiet {α : Type} {p : Volume.Op α} {Q : Host → Prop}
    (hp : AllCalls (QuietCall sr) p) (hQ : Stable (Host.Recedes sr) Q) (hw : Q w) :
    Safe (scanning shape sr) (fun _ => Q) (fun _ => Q) (expand (lift p)) w := by
  induction p generalizing w with
  | ret value => exact hw
  | raise error => exact hw
  | call c resume ih =>
      obtain ⟨⟨hnaming, hspawn, hsweep⟩, hrest⟩ := hp
      have hcall : expand (lift (.call c resume)) =
          .call (.op (.call c)) fun reply => expand (lift (resume reply)) := by
        cases c with
        | gcSpawn job => exact absurd rfl (hspawn job)
        | gcSweep => exact absurd rfl hsweep
        | _ => rfl
      rw [hcall]
      intro before hmoves
      have hbefore := hQ.star hw hmoves
      refine ⟨fun r hreq => hnaming r hreq, fun choice reply after _ hhandle => ?_⟩
      refine ih reply (hrest reply) ?_
      obtain rfl | ⟨r, graph, hreq, happly, rfl⟩ := fileHandle_op hhandle
      · exact hbefore
      · exact hQ _ _ hbefore (recedes_of_apply (hnaming r hreq) happly)

end Scan

/-- What holds while `sweep` goes through the files: the jobs it has read are queued, and a job that
was readable when `SR.ls` began is one of them, still to be read, or its object is gone. -/
structure Swept (sr : Sr) (targets : List Job) (files : List String) (w : Host) : Prop where
  queued : ∀ job ∈ targets, w.Queued sr job
  before : ∀ job ∈ w.before, w.graph.Gone sr.pool sr.ns job ∨ job ∈ targets ∨
    ∃ path ∈ files, Text.endsWith path ".json" = true ∧ w.spool.lookup path = some (some job)
  created : w.created = []

/-- What holds when `SR.ls` begins. -/
structure Beginning (sr : Sr) (w : Host) : Prop where
  before : ∀ job ∈ w.before, w.graph.Gone sr.pool sr.ns job ∨
    ∃ path, Text.endsWith path ".json" = true ∧ w.spool.lookup path = some (some job)
  created : w.created = []

section Sweep

variable {shape : Shape} {sr : Sr} {w w' : Host} {targets : List Job} {files : List String}

/-- Workers keep it. -/
theorem stable_swept : Stable (Host.Recedes sr) (Swept sr targets files) := by
  intro w w' h hmove
  refine ⟨fun job hjob => hmove.queued (h.queued job hjob), fun job hjob => ?_,
    hmove.created.trans h.created⟩
  obtain hgone | htarget | ⟨path, hmem, hjson, hpath⟩ := h.before job (hmove.before ▸ hjob)
  · exact .inl (hmove.gone job hgone)
  · exact .inr (.inl htarget)
  · obtain hsame | ⟨-, other, hother, hgone⟩ := hmove.files path
    · exact .inr (.inr ⟨path, hmem, hjson, hsame.trans hpath⟩)
    · cases hpath.symm.trans hother
      exact .inl hgone

/-- Workers keep it. -/
theorem stable_beginning : Stable (Host.Recedes sr) (Beginning sr) := by
  intro w w' h hmove
  refine ⟨fun job hjob => ?_, hmove.created.trans h.created⟩
  obtain hgone | ⟨path, hjson, hpath⟩ := h.before job (hmove.before ▸ hjob)
  · exact .inl (hmove.gone job hgone)
  · obtain hsame | ⟨-, other, hother, hgone⟩ := hmove.files path
    · exact .inr ⟨path, hjson, hsame.trans hpath⟩
    · cases hpath.symm.trans hother
      exact .inl hgone

/-- A launch changes nothing, whether it succeeds or not. -/
theorem safe_tryLaunch {Q : Host → Prop} (hQ : Stable (Host.Recedes sr) Q) (path : String)
    (hw : Q w) :
    Safe (scanning shape sr) (fun _ => Q) (fun _ => Q) (tryLaunch path) w := by
  have hlaunch : AllCalls (· = FileCall.launch path) (tryLaunch path) :=
    AllCalls.tryCatch (AllCalls.perform rfl) fun _ => trivial
  refine Prog.safe_keep hlaunch hQ ?_ ?_ hw
  · rintro s c rfl _ r hreq
    cases hreq
  · rintro s choice c reply after rfl hs _ hhandle
    cases choice <;> cases hhandle <;> exact hs

/-- So does a new launch of what is stale. -/
theorem safe_relaunch {Q : Host → Prop} (hQ : Stable (Host.Recedes sr) Q) (path : String)
    (hw : Q w) :
    Safe (scanning shape sr) (fun _ => Q) (fun _ => Q) (relaunch path) w := by
  have hstale : AllCalls (· = FileCall.isStale path)
      (tryCatch (fileCall (.isStale path)) fun _ => pure false) :=
    AllCalls.tryCatch (AllCalls.perform rfl) fun _ => trivial
  refine Prog.safe_bind ((Prog.safe_keep hstale hQ ?_ ?_ hw).mono (fun stale w hw => ?_)
    fun _ _ h => h)
  · rintro s c rfl _ r hreq
    cases hreq
  · rintro s choice c reply after rfl hs _ hhandle
    cases choice <;> cases hhandle <;> exact hs
  · cases stale with
    | true => exact safe_tryLaunch hQ path hw
    | false => exact hw

/-- A file that is read gives its job, and one that cannot be read has none. -/
theorem safe_readJob (path : String) (hw : Swept sr targets files w) :
    Safe (scanning shape sr)
      (fun found w => Swept sr targets files w ∧
        ((∃ job, found = some job ∧ w.spool.lookup path = some (some job)) ∨
          found = none ∧ ∀ job, w.spool.lookup path ≠ some (some job)))
      (fun _ _ => True) (readJob path) w := by
  refine Prog.safe_tryCatch (Prog.safe_bind ?_)
  refine Prog.safe_perform stable_swept hw (fun _ _ => nofun) ?_ ?_
  · intro s choice job after hs _ hhandle
    cases choice with
    | ok =>
        dsimp only [scanning, fileHandle] at hhandle
        split at hhandle
        next found hlookup =>
            cases hhandle
            exact ⟨hs, .inl ⟨job, rfl, hlookup⟩⟩
        next => cases hhandle
    | _ => cases hhandle
  · intro s choice error after hs _ hhandle
    cases choice with
    | ok =>
        dsimp only [scanning, fileHandle] at hhandle
        split at hhandle
        next => cases hhandle
        next hunreadable =>
            cases hhandle
            exact ⟨hs, .inr ⟨rfl, fun job hlookup => hunreadable job hlookup⟩⟩
    | _ => cases hhandle

/-- A file is done with when its job, if there is one, is known. -/
theorem Swept.next {known : List Job} {path : String} (hw : Swept sr targets (path :: files) w)
    (hqueued : ∀ job ∈ known, w.Queued sr job) (hsub : ∀ job, job ∈ targets → job ∈ known)
    (hread : ∀ job, Text.endsWith path ".json" = true → w.spool.lookup path = some (some job) →
      job ∈ known) : Swept sr known files w := by
  refine ⟨hqueued, fun job hjob => ?_, hw.created⟩
  obtain hgone | htarget | ⟨other, hmem, hsuffix, hlookup⟩ := hw.before job hjob
  · exact .inl hgone
  · exact .inr (.inl (hsub job htarget))
  · obtain rfl | hrest := List.mem_cons.mp hmem
    · exact .inr (.inl (hread job hsuffix hlookup))
    · exact .inr (.inr ⟨other, hrest, hsuffix, hlookup⟩)

/-- The loop of `sweep`. -/
theorem safe_sweepFiles (hw : Swept sr targets files w) :
    Safe (scanning shape sr) (fun targets w => Swept sr targets [] w) (fun _ _ => True)
      (sweepFiles targets files) w := by
  induction files generalizing targets w with
  | nil => exact hw
  | cons path rest ih =>
      unfold sweepFiles
      split
      next hjson =>
          refine Prog.safe_bind ((safe_readJob path hw).mono ?_ fun _ _ h => h)
          rintro found w ⟨hw, ⟨job, rfl, hpath⟩ | ⟨rfl, hunreadable⟩⟩
          · have hnext : Swept sr (job :: targets) rest w := by
              refine hw.next (fun other hother => ?_) (fun _ => List.mem_cons_of_mem _)
                fun other _ hlookup => ?_
              · obtain rfl | hold := List.mem_cons.mp hother
                · exact .inr ⟨path, hpath⟩
                · exact hw.queued other hold
              · cases hpath.symm.trans hlookup
                exact List.mem_cons_self
            refine Prog.safe_bind ((safe_relaunch stable_swept path hnext).mono (fun _ w hw => ?_)
              fun _ _ _ => trivial)
            exact ih hw
          · exact ih (hw.next hw.queued (fun _ => id)
              fun other _ hlookup => absurd hlookup (hunreadable other))
      next hjson =>
          exact ih (hw.next hw.queued (fun _ => id) fun _ hsuffix _ => absurd hsuffix hjson)

/-- `sweep` learns of every job that was readable when `SR.ls` began, unless the object is gone. -/
theorem safe_sweep (hw : Beginning sr w) :
    Safe (scanning shape sr) (fun targets w => Swept sr targets [] w)
    (fun _ _ => True) sweep w := by
  have hfiles : ∀ w, Beginning sr w → Swept sr [] w.spool.keys w := by
    intro w hw
    refine ⟨fun _ hjob => absurd hjob List.not_mem_nil, fun job hjob => ?_, hw.created⟩
    obtain hgone | ⟨path, hjson, hpath⟩ := hw.before job hjob
    · exact .inl hgone
    · refine .inr (.inr ⟨path, ?_, hjson, hpath⟩)
      exact AList.mem_keys.mpr (AList.lookup_isSome.mp (by rw [hpath]; rfl))
  refine Prog.safe_bind (Prog.safe_tryCatch ?_)
  refine Prog.safe_perform stable_beginning hw (fun _ _ => nofun) ?_ ?_
  · intro s choice files after hs _ hhandle
    cases choice with
    | ok =>
        cases hhandle
        exact safe_sweepFiles (hfiles _ hs)
    | fail error =>
        obtain ⟨-, hpair⟩ := Option.ite_none_right_eq_some.mp hhandle
        cases hpair
    | _ => cases hhandle
  · intro s choice error after hs _ hhandle
    cases choice with
    | fail error =>
        obtain ⟨hempty, hpair⟩ := Option.ite_none_right_eq_some.mp hhandle
        cases hpair
        have hswept := hfiles _ hs
        rw [hempty] at hswept
        exact safe_sweepFiles hswept
    | _ => cases hhandle

end Sweep

/-- The job is that of an object in the trash: of an image, or of a snapshot of a volume. -/
def Trashed (sr : Sr) (g : Graph) (job : Job) : Prop :=
  (∃ name, job = { kind := "image", image := name } ∧ isTrash name = true ∧
    sr.spec name ∈ g.images) ∨
  ∃ base snap img, job = { kind := "snap", image := base, snap := some snap } ∧
    uuidMatch base = true ∧ isTrash snap = true ∧ g.images.lookup (sr.spec base) = some img ∧
    snap ∈ img.snapshots.map Snap.name

/-- The jobs of the snapshots of a report that are in the trash. -/
def snapJobs (image : String) (snaps : List Volume.SnapInfo) : List Job :=
  (snaps.filter fun s => isTrash s.name).map fun s =>
    { kind := "snap", image := image, snap := some s.name }

/-- The jobs of the objects of a listing that are in the trash. -/
def listedJobs (infos : List Info) : List Job :=
  infos.flatMap fun info =>
    if isTrash info.name then [{ kind := "image", image := info.name }]
    else if uuidMatch info.name then snapJobs info.name info.snapshots
    else []

section Listing

variable {shape : Shape} {sr : Sr} {g g' : Graph} {job : Job}

/-- A trashed image is gone where no image has its name. -/
theorem gone_image_iff {name : String} :
    g.Gone sr.pool sr.ns { kind := "image", image := name } ↔ sr.spec name ∉ g.images := by
  have hkind : "image" ≠ "snap" := by decide
  rw [Graph.Gone, if_neg hkind, if_pos rfl]
  rfl

/-- A trashed snapshot is gone where no snapshot has its name. -/
theorem gone_snap_iff {base snap : String} :
    g.Gone sr.pool sr.ns { kind := "snap", image := base, snap := some snap } ↔
      g.NoSnap (sr.spec base) snap := by
  rw [Graph.Gone, if_pos rfl]
  rfl

/-- An object in the trash is not gone. -/
theorem Trashed.not_gone (h : Trashed sr g job) : ¬g.Gone sr.pool sr.ns job := by
  obtain ⟨name, rfl, -, hmem⟩ | ⟨base, snap, img, rfl, -, -, himg, hsnap⟩ := h
  · exact fun hgone => gone_image_iff.mp hgone hmem
  · intro hgone
    have hnamed := gone_snap_iff.mp hgone img himg
    obtain ⟨s, hs, rfl⟩ := List.mem_map.mp hsnap
    simp only [Image.named, List.filter_eq_nil_iff, beq_iff_eq] at hnamed
    exact hnamed s hs rfl

/-- An object that is in the trash was there before, where what was gone has stayed gone. -/
theorem Trashed.of_gone (h : Trashed sr g' job)
    (hgone : ∀ job, g.Gone sr.pool sr.ns job → g'.Gone sr.pool sr.ns job) : Trashed sr g job := by
  have hnot : ¬g.Gone sr.pool sr.ns job := fun hg => h.not_gone (hgone job hg)
  obtain ⟨name, rfl, htrash, -⟩ | ⟨base, snap, img, rfl, huuid, htrash, -, -⟩ := h
  · refine .inl ⟨name, rfl, htrash, ?_⟩
    rwa [gone_image_iff, not_not] at hnot
  · rw [gone_snap_iff, Graph.NoSnap] at hnot
    push Not at hnot
    obtain ⟨old, hold, hnamed⟩ := hnot
    refine .inr ⟨base, snap, old, rfl, huuid, htrash, hold, ?_⟩
    obtain ⟨s, hs⟩ := List.exists_mem_of_ne_nil _ hnamed
    obtain ⟨hmem, hname⟩ := List.mem_filter.mp hs
    exact List.mem_map.mpr ⟨s, hmem, beq_iff_eq.mp hname⟩

/-- The jobs of a listing are those of the objects in the trash. -/
theorem mem_listedJobs_iff : job ∈ listedJobs (g.listing shape sr) ↔ Trashed sr g job := by
  simp only [listedJobs, List.mem_flatMap]
  constructor
  · rintro ⟨info, hinfo, hjob⟩
    obtain ⟨img, himg, heq⟩ := mem_listing_iff.mp hinfo
    split at hjob
    next htrash =>
        rw [List.mem_singleton.mp hjob]
        refine .inl ⟨info.name, rfl, htrash, ?_⟩
        exact AList.lookup_isSome.mp (by rw [himg]; rfl)
    next =>
        split at hjob
        next huuid =>
            obtain ⟨s, hs, rfl⟩ := List.mem_map.mp hjob
            obtain ⟨hmem, htrash⟩ := List.mem_filter.mp hs
            rw [heq] at hmem
            obtain ⟨t, ht, rfl⟩ := List.mem_map.mp hmem
            exact .inr ⟨info.name, t.name, img, rfl, huuid, htrash, himg, List.mem_map_of_mem ht⟩
        next => cases hjob
  · rintro (⟨name, rfl, htrash, hmem⟩ | ⟨base, snap, img, rfl, huuid, htrash, himg, hsnap⟩)
    · obtain ⟨img, himg⟩ := Option.isSome_iff_exists.mp (AList.lookup_isSome.mpr hmem)
      refine ⟨g.volumeInfo shape name img, mem_listing_iff.mpr ⟨img, himg, rfl⟩, ?_⟩
      exact (if_pos htrash).symm ▸ List.mem_singleton_self _
    · refine ⟨g.volumeInfo shape base img, mem_listing_iff.mpr ⟨img, himg, rfl⟩, ?_⟩
      have hnot : isTrash base = false := isTrash_of_uuid huuid
      have hname : (g.volumeInfo shape base img).name = base := rfl
      rw [hname, if_neg (by rw [hnot]; nofun), if_pos huuid]
      obtain ⟨s, hs, rfl⟩ := List.mem_map.mp hsnap
      refine List.mem_map.mpr ⟨_, List.mem_filter.mpr ⟨List.mem_map_of_mem hs, htrash⟩, rfl⟩

end Listing

/-- What holds while `SR.ls` goes through the listing: every object in the trash is known or still
to be seen, what is known is queued, and what was written is new. -/
structure Scanned (sr : Sr) (pending targets : List Job) (w : Host) : Prop where
  queued : ∀ job ∈ targets, w.Queued sr job
  trashed : ∀ job, Trashed sr w.graph job → job ∈ targets ∨ job ∈ pending
  before : ∀ job ∈ pending, job ∈ w.before → job ∈ targets
  known : ∀ job ∈ w.created, job ∈ targets
  new : ∀ job ∈ w.created, job ∉ w.before
  nodup : w.created.Nodup

section Requeue

variable {shape : Shape} {sr : Sr} {w w' : Host} {pending targets : List Job} {job : Job}

/-- Workers keep it. -/
theorem stable_scanned : Stable (Host.Recedes sr) (Scanned sr pending targets) := by
  intro w w' h hmove
  constructor
  · exact fun job hjob => hmove.queued (h.queued job hjob)
  · exact fun job hjob => h.trashed job (hjob.of_gone hmove.gone)
  · rw [hmove.before]
    exact h.before
  · rw [hmove.created]
    exact h.known
  · rw [hmove.created, hmove.before]
    exact h.new
  · rw [hmove.created]
    exact h.nodup

/-- An object that is known has been seen. -/
theorem Scanned.skip (h : Scanned sr (job :: pending) targets w) (hjob : job ∈ targets) :
    Scanned sr pending targets w := by
  refine ⟨h.queued, fun other hother => ?_, fun other hmem => h.before other
    (List.mem_cons_of_mem _ hmem), h.known, h.new, h.nodup⟩
  obtain hknown | hpending := h.trashed other hother
  · exact .inl hknown
  · obtain rfl | hrest := List.mem_cons.mp hpending
    · exact .inl hjob
    · exact .inr hrest

/-- A new file does not change what is queued. -/
theorem Scanned.temp {path : String} (h : Scanned sr pending targets w) (hpath : path ∉ w.spool) :
    Scanned sr pending targets { w with spool := w.spool.insert path none } := by
  refine ⟨fun job hjob => ?_, h.trashed, h.before, h.known, h.new, h.nodup⟩
  obtain hgone | ⟨other, hother⟩ := h.queued job hjob
  · exact .inl hgone
  · have hne : other ≠ path := by
      rintro rfl
      exact hpath (AList.lookup_isSome.mp (by rw [hother]; rfl))
    exact .inr ⟨other, (AList.lookup_insert_ne hne).trans hother⟩

/-- An object that was not known gets its job. -/
theorem Scanned.write {path : String} (h : Scanned sr (job :: pending) targets w)
    (hpath : w.spool.lookup path = some none) (hjob : job ∉ targets) :
    Scanned sr pending (job :: targets)
      { w with spool := w.spool.insert path (some job), created := job :: w.created } := by
  have hnew : job ∉ w.before := fun hbefore => hjob (h.before job List.mem_cons_self hbefore)
  constructor
  · intro other hother
    obtain rfl | hold := List.mem_cons.mp hother
    · exact .inr ⟨path, AList.lookup_insert _⟩
    · obtain hgone | ⟨file, hfile⟩ := h.queued other hold
      · exact .inl hgone
      · have hne : file ≠ path := by
          rintro rfl
          cases hpath.symm.trans hfile
        exact .inr ⟨file, (AList.lookup_insert_ne hne).trans hfile⟩
  · intro other hother
    obtain hknown | hpending := h.trashed other hother
    · exact .inl (List.mem_cons_of_mem _ hknown)
    · obtain rfl | hrest := List.mem_cons.mp hpending
      · exact .inl List.mem_cons_self
      · exact .inr hrest
  · intro other hother hbefore
    exact List.mem_cons_of_mem _ (h.before other (List.mem_cons_of_mem _ hother) hbefore)
  · intro other hother
    obtain rfl | hold := List.mem_cons.mp hother
    · exact List.mem_cons_self
    · exact List.mem_cons_of_mem _ (h.known other hold)
  · intro other hother
    obtain rfl | hold := List.mem_cons.mp hother
    · exact hnew
    · exact h.new other hold
  · exact List.nodup_cons.mpr ⟨fun hcreated => hjob (h.known job hcreated), h.nodup⟩

/-- A file that was made and not written stays so among workers. -/
theorem stable_unwritten (path : String) :
    Stable (Host.Recedes sr) fun w => w.spool.lookup path = some none := by
  intro w w' h hmove
  obtain hsame | ⟨-, job, hjob, -⟩ := hmove.files path
  · exact hsame.trans h
  · cases h.symm.trans hjob

/-- `spawn`: where it returns there is a new job file. -/
theorem safe_spawn (hjob : job ∉ targets) (hw : Scanned sr (job :: pending) targets w) :
    Safe (scanning shape sr) (fun _ w => Scanned sr pending (job :: targets) w) (fun _ _ => True)
      (spawn job) w := by
  refine Prog.safe_bind (Prog.safe_perform stable_scanned hw (fun _ _ => nofun) ?_
    fun _ _ _ _ _ _ _ => trivial)
  intro s choice (path : String) after hs _ hhandle
  have hmade : Scanned sr (job :: pending) targets after ∧ after.spool.lookup path = some none := by
    cases choice with
    | temp text =>
        obtain ⟨hfresh, hpair⟩ := Option.ite_none_left_eq_some.mp hhandle
        cases hpair
        exact ⟨hs.temp (not_or.mp hfresh).2, AList.lookup_insert _⟩
    | _ => cases hhandle
  have hstable : Stable (Host.Recedes sr) fun w =>
      Scanned sr (job :: pending) targets w ∧ w.spool.lookup path = some none :=
    fun w w' h hmove => ⟨stable_scanned w w' h.1 hmove, stable_unwritten path w w' h.2 hmove⟩
  refine Prog.safe_bind (Prog.safe_perform hstable hmade (fun _ _ => nofun) ?_
    fun _ _ _ _ _ _ _ => trivial)
  intro s choice _ after hs _ hhandle
  have hwritten : Scanned sr pending (job :: targets) after := by
    cases choice with
    | ok =>
        dsimp only [scanning, fileHandle] at hhandle
        rw [if_pos hs.2] at hhandle
        cases hhandle
        exact hs.1.write hs.2 hjob
    | _ => cases hhandle
  exact (safe_tryLaunch stable_scanned path hwritten).mono (fun _ _ h => h) fun _ _ _ => trivial

/-- The re-queueing of an object of the listing. -/
theorem safe_requeue (hw : Scanned sr (job :: pending) targets w) :
    Safe (scanning shape sr) (fun targets w => Scanned sr pending targets w) (fun _ _ => True)
      (expand (lift (Volume.requeue targets job))) w := by
  unfold Volume.requeue
  split
  next hjob => exact hw.skip hjob
  next hjob =>
      refine safe_expandBind (Prog.safe_finish ?_)
      exact (safe_spawn hjob hw).mono (fun _ _ h => h) fun _ _ h => h

/-- `SR.ls`'s records of the snapshots of an image. -/
theorem safe_scanSnapshots (m : SrMeta) (info : Info) (metadata : Volume.Dict)
    (snaps : List Volume.SnapInfo)
    (hw : Scanned sr (snapJobs info.name snaps ++ pending) targets w) :
    Safe (scanning shape sr) (fun found w => Scanned sr pending found.1 w) (fun _ _ => True)
      (expand (lift (Volume.lsSnapshots m info metadata targets snaps))) w := by
  induction snaps generalizing targets w with
  | nil => exact hw
  | cons snap rest ih =>
      unfold Volume.lsSnapshots
      split
      next htrash =>
          have hjobs : snapJobs info.name (snap :: rest) =
              { kind := "snap", image := info.name, snap := some snap.name } ::
                snapJobs info.name rest := by
            rw [snapJobs, List.filter_cons, if_pos (show isTrash snap.name = true from htrash)]
            rfl
          rw [hjobs] at hw
          refine safe_expandBind ((safe_requeue hw).mono (fun targets w hw => ?_) fun _ _ h => h)
          exact ih hw
      next htrash =>
          have hjobs : snapJobs info.name (snap :: rest) = snapJobs info.name rest := by
            rw [snapJobs, List.filter_cons, if_neg (show ¬isTrash snap.name = true from htrash)]
            rfl
          rw [hjobs] at hw
          split
          · exact safe_expandBind ((ih hw).mono (fun _ _ h => h) fun _ _ h => h)
          · exact ih hw

/-- `SR.ls`'s prune is quiet. -/
theorem quiet_pruneOrphans (info : Info) : AllCalls (QuietCall sr) (Volume.pruneOrphans info) := by
  have hread : QuietCall sr (.metaRead info.name) := ⟨nofun, nofun, nofun⟩
  have hput : ∀ body, QuietCall sr (.putImage info.name body) := by
    refine fun body => ⟨fun r hreq => ?_, nofun, nofun⟩
    cases hreq
    rfl
  unfold Volume.pruneOrphans
  dsimp only
  split
  · trivial
  · refine allCalls_except (AllCalls.bind ?_ fun _ => trivial) fun _ => trivial
    refine AllCalls.bind (allCalls_except (AllCalls.bind (AllCalls.perform hread) fun _ => trivial)
      fun _ => trivial) fun current => AllCalls.perform (hput _)

/-- `SR.ls`'s records of the images of a listing. -/
theorem safe_scanImages (m : SrMeta) (infos : List Info)
    (hw : Scanned sr (listedJobs infos) targets w) :
    Safe (scanning shape sr) (fun _ w => ∃ targets, Scanned sr [] targets w) (fun _ _ => True)
      (expand (lift (Volume.lsImages m targets infos))) w := by
  induction infos generalizing targets w with
  | nil => exact ⟨targets, hw⟩
  | cons info rest ih =>
      rw [listedJobs, List.flatMap_cons] at hw
      unfold Volume.lsImages
      split
      next htrash =>
          rw [if_pos (show isTrash info.name = true from htrash)] at hw
          refine safe_expandBind ((safe_requeue hw).mono (fun targets w hw => ?_) fun _ _ h => h)
          exact ih hw
      next htrash =>
          rw [if_neg (show ¬isTrash info.name = true from htrash)] at hw
          split
          next huuid =>
              rw [if_pos huuid] at hw
              refine safe_expandBind ((safe_quiet (quiet_pruneOrphans info) stable_scanned hw).mono
                (fun metadata w hw => ?_) fun _ _ _ => trivial)
              refine safe_expandBind ((safe_scanSnapshots m info metadata _ hw).mono
                (fun found w hw => ?_) fun _ _ h => h)
              exact safe_expandBind ((ih hw).mono (fun _ _ h => h) fun _ _ h => h)
          next huuid =>
              rw [if_neg huuid] at hw
              exact ih hw

/-- `SR.ls`: where it returns, every object in the trash is known. -/
theorem safe_scan (m : SrMeta) (hw : Beginning sr w) :
    Safe (scanning shape sr) (fun _ w => ∃ targets, Scanned sr [] targets w) (fun _ _ => True)
      (expand (lift (Volume.ls m))) w := by
  refine safe_expandBind (Prog.safe_finish ((safe_sweep hw).mono (fun targets w hw => ?_)
    fun _ _ _ => trivial))
  refine safe_expandBind ?_
  rw [Volume.exceptBackend, expand_tryCatch]
  refine Prog.safe_tryCatch ?_
  intro before hmoves
  have hswept := stable_swept.star hw hmoves
  refine ⟨nofun, fun choice reply after _ hhandle => ?_⟩
  cases reply with
  | error error =>
      -- the listing failed: `SR.ls` raises
      cases error <;> trivial
  | ok infos =>
      have hlisted : after = before ∧ infos = before.graph.listing shape sr := by
        cases choice with
        | op choice =>
            cases choice with
            | ok =>
                cases hhandle
                exact ⟨rfl, rfl⟩
            | _ => cases hhandle
        | _ => cases hhandle
      obtain ⟨rfl, rfl⟩ := hlisted
      refine safe_scanImages m _ ⟨hswept.queued, fun job hjob => .inr (mem_listedJobs_iff.mpr hjob),
        fun job hjob hbefore => ?_, ?_, ?_, ?_⟩
      · obtain hgone | htarget | ⟨path, hmem, -⟩ := hswept.before job hbefore
        · exact absurd hgone (mem_listedJobs_iff.mp hjob).not_gone
        · exact htarget
        · cases hmem
      · simp [hswept.created]
      · simp [hswept.created]
      · simp [hswept.created]

end Requeue

end XcpCephRbd.Gc
