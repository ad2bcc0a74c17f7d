import XcpCephRbd.Gc.Backstop

/-!
# No trash is left without a job

The host in every state of a run: each worker is one that unlinks its job file when the object is
gone, its file is there or was unlinked, and a scan goes on as it should whatever the workers do.
`trash_queued` is what this gives where an `SR.ls` has returned.
-/

namespace XcpCephRbd.Gc

open Volume (Job VolumeDict trashPrefix)
open Datapath (SrMeta)
open Prog (AllCalls Safe)

/-- What is assumed of a step. A name that is given is new: no running worker's job is about it. So
is the path of a new job file: no running worker was started on it. No `destroy` runs during an
`SR.ls`, and a worker is told that an object was not found only where there is none. -/
def tending (sr : Sr) (s : Spool) : SpoolLabel → Prop
  | .destroy _ _ => s.scan.isNone = true
  | .destroyStep index choice =>
      (∀ p ∈ s.destroys[index]?, ∀ c ∈ p.firstCall, ∀ r ∈ fileReq sr c,
        ∀ worker ∈ s.workers, r.Spares worker.job) ∧
      ∀ path ∈ choice.path, ∀ worker ∈ s.workers, worker.path ≠ path
  | .scan => ∀ p ∈ s.destroys, p.firstCall.isNone = true
  | .scanStep choice => ∀ path ∈ choice.path, ∀ worker ∈ s.workers, worker.path ≠ path
  | .workerStep index choice => ∀ worker ∈ s.workers[index]?, ∀ c ∈ worker.program.firstCall,
      Truthful choice { graph := s.host.graph } c
  | .destroyEnd _ | .scanEnd | .start _ | .workerEnd _ => True

/-- What holds of the host and its processes in every state. -/
structure Tended (shape : Shape) (sr : Sr) (s : Spool) : Prop where
  json : ∀ path ∈ s.host.spool, Text.endsWith path ".json" = true
  safe : ∀ worker ∈ s.workers, Safe (untilGone shape sr.pool sr.ns worker.job) (fun _ _ => True)
    (fun _ _ => True) worker.program s.host.graph
  quiet : ∀ worker ∈ s.workers, AllCalls ByWorker worker.program
  file : ∀ worker ∈ s.workers, s.host.spool.lookup worker.path = some (some worker.job) ∨
    worker.path ∉ s.host.spool
  scan : ∀ p, s.scan = some p → Safe (scanning shape sr)
    (fun _ w => ∃ targets, Scanned sr [] targets w) (fun _ _ => True) p s.host
  alone : s.scan.isSome = true → ∀ p ∈ s.destroys, p.firstCall.isNone = true

section Steps

variable {shape : Shape} {sr : Sr} {m : SrMeta} {s s' : Spool} {w w' : Host}

/-- What a call of a process does: nothing, its request, or a file that it makes or writes. -/
theorem fileHandle_cases {choice : FileChoice} {c : FileCall} {reply : Except Volume.Exc c.Result}
    (h : fileHandle shape sr choice w c = some (reply, w')) :
    w' = w ∨
      (∃ r graph, fileReq sr c = some r ∧ w.graph.apply r = some graph ∧
        w' = { w with graph := graph }) ∨
      (∃ path, choice.path = some path ∧ isTemp path = true ∧ path ∉ w.spool ∧
        w' = { w with spool := w.spool.insert path none }) ∨
      ∃ path job, w.spool.lookup path = some none ∧
        w' = { w with spool := w.spool.insert path (some job), created := job :: w.created } := by
  cases c with
  | op c =>
      obtain hsame | hmade := fileHandle_op h
      · exact .inl hsame
      · exact .inr (.inl hmade)
  | write path job =>
      cases choice with
      | ok =>
          dsimp only [fileHandle] at h
          split at h
          next hunwritten =>
              cases h
              exact .inr (.inr (.inr ⟨path, job, hunwritten, rfl⟩))
          next =>
              cases h
              exact .inl rfl
      | fail error =>
          cases h
          exact .inl rfl
      | _ => cases h
  | read path =>
      left
      cases choice with
      | ok =>
          dsimp only [fileHandle] at h
          split at h <;> cases h <;> rfl
      | _ => cases h
  | mkstemp =>
      cases choice with
      | temp path =>
          obtain ⟨hfresh, hpair⟩ := Option.ite_none_left_eq_some.mp h
          cases hpair
          obtain ⟨htemp, hnew⟩ := not_or.mp hfresh
          exact .inr (.inr (.inl ⟨path, rfl, Bool.not_eq_false _ ▸ htemp, hnew, rfl⟩))
      | fail error =>
          cases h
          exact .inl rfl
      | _ => cases h
  | listdir =>
      left
      cases choice with
      | fail error =>
          obtain ⟨-, hpair⟩ := Option.ite_none_right_eq_some.mp h
          cases hpair
          rfl
      | _ => cases h <;> rfl
  | launch path => left; cases choice <;> cases h <;> rfl
  | isStale path => left; cases choice <;> cases h <;> rfl

/-- A worker goes on when a request spares its object. -/
theorem safe_spared {worker : Worker} {g g' : Graph} {r : Req}
    (h : Safe (untilGone shape sr.pool sr.ns worker.job) (fun _ _ => True) (fun _ _ => True)
      worker.program g)
    (hspares : r.Spares worker.job) (happly : g.apply r = some g') :
    Safe (untilGone shape sr.pool sr.ns worker.job) (fun _ _ => True) (fun _ _ => True)
      worker.program g' :=
  h.move (gone_of_spares hspares happly) (fun _ _ _ _ _ => trivial) fun _ _ _ _ _ => trivial

/-- What a call of a process leaves to the workers, when the names it gives and the file it makes
are new. -/
theorem Tended.process (h : Tended shape sr s) {choice : FileChoice} {c : FileCall}
    {reply : Except Volume.Exc c.Result}
    (hhandle : fileHandle shape sr choice s.host c = some (reply, w'))
    (hspares : ∀ r, fileReq sr c = some r → ∀ worker ∈ s.workers, r.Spares worker.job)
    (hpath : ∀ path ∈ choice.path, ∀ worker ∈ s.workers, worker.path ≠ path) :
    (∀ path ∈ w'.spool, Text.endsWith path ".json" = true) ∧
      (∀ worker ∈ s.workers, Safe (untilGone shape sr.pool sr.ns worker.job) (fun _ _ => True)
        (fun _ _ => True) worker.program w'.graph) ∧
      ∀ worker ∈ s.workers, w'.spool.lookup worker.path = some (some worker.job) ∨
        worker.path ∉ w'.spool := by
  obtain rfl | ⟨r, graph, hreq, happly, rfl⟩ | ⟨path, hchoice, htemp, -, rfl⟩ |
    ⟨path, job, hunwritten, rfl⟩ := fileHandle_cases hhandle
  · exact ⟨h.json, h.safe, h.file⟩
  · exact ⟨h.json, fun worker hworker => safe_spared (h.safe worker hworker)
      (hspares r hreq worker hworker) happly, h.file⟩
  · refine ⟨fun other hother => ?_, h.safe, fun worker hworker => ?_⟩
    · obtain rfl | hold := (AList.mem_insert _).mp hother
      · exact (Bool.and_eq_true_iff.mp htemp).2
      · exact h.json other hold
    · have hne : worker.path ≠ path := hpath path hchoice worker hworker
      rw [AList.lookup_insert_ne hne, AList.mem_insert]
      obtain hjob | habsent := h.file worker hworker
      · exact .inl hjob
      · exact .inr (not_or.mpr ⟨hne, habsent⟩)
  · have hmem : path ∈ s.host.spool := AList.lookup_isSome.mp (by rw [hunwritten]; rfl)
    refine ⟨fun other hother => ?_, h.safe, fun worker hworker => ?_⟩
    · obtain rfl | hold := (AList.mem_insert _).mp hother
      · exact h.json other hmem
      · exact h.json other hold
    · have hne : worker.path ≠ path := by
        rintro rfl
        obtain hjob | habsent := h.file worker hworker
        · cases hunwritten.symm.trans hjob
        · exact habsent hmem
      rw [AList.lookup_insert_ne hne, AList.mem_insert]
      obtain hjob | habsent := h.file worker hworker
      · exact .inl hjob
      · exact .inr (not_or.mpr ⟨hne, habsent⟩)

/-- What a call of a worker does: nothing, its request, or the unlinking of its job file. -/
theorem workerStep_cases (sr : Sr) {worker worker' : Worker} {choice : Choice}
    (h : worker.step shape choice w = some (worker', w')) :
    worker'.path = worker.path ∧ worker'.job = worker.job ∧
      worker.program.next (untilGone shape sr.pool sr.ns worker.job).handle choice w.graph =
        some (worker'.program, w'.graph) ∧
      (w' = w ∨
        (∃ r graph, worker.program.firstCall = some (.request r) ∧ w.graph.apply r = some graph ∧
          w' = { w with graph := graph }) ∨
        (worker.program.firstCall = some .unlink ∧
          w' = { w with spool := w.spool.erase worker.path })) := by
  obtain ⟨⟨program, st⟩, hnext, hpair⟩ := Option.map_eq_some_iff.mp h
  cases hpair
  obtain ⟨c, resume, reply, hprogram, hhandle, rfl⟩ := Prog.next_eq_some_iff.mp hnext
  refine ⟨rfl, rfl, ?_, ?_⟩
  · refine Prog.next_eq_some_iff.mpr ⟨c, resume, reply, hprogram, ?_, rfl⟩
    exact Option.map_eq_some_iff.mpr ⟨(reply, st), hhandle, rfl⟩
  · rw [hprogram]
    cases choice with
    | fail error => cases c <;> cases hhandle <;> exact .inl rfl
    | ok =>
        cases c with
        | unlink =>
            cases hhandle
            exact .inr (.inr ⟨rfl, rfl⟩)
        | imageInfo spec =>
            obtain ⟨info, -, hinfo⟩ := Option.map_eq_some_iff.mp hhandle
            cases hinfo
            exact .inl rfl
        | request r =>
            obtain ⟨graph, happly, hgraph⟩ := Option.map_eq_some_iff.mp hhandle
            cases hgraph
            exact .inr (.inl ⟨r, graph, rfl, happly, rfl⟩)

/-- What a call of a worker is to `SR.ls`. -/
theorem Tended.recedes (h : Tended shape sr s) {worker worker' : Worker} {choice : Choice}
    (hworker : worker ∈ s.workers) (hstep : worker.step shape choice s.host = some (worker', w')) :
    s.host.Recedes sr w' := by
  obtain ⟨-, -, -, rfl | ⟨r, graph, hfirst, happly, rfl⟩ | ⟨hfirst, rfl⟩⟩ :=
    workerStep_cases sr hstep
  · exact ⟨rfl, rfl, fun _ => id, fun _ => .inl rfl⟩
  · exact recedes_of_apply (naming_of_byWorker ((h.quiet worker hworker).first hfirst)) happly
  · have hgone : s.host.graph.Gone sr.pool sr.ns worker.job :=
      (h.safe worker hworker).asserted hfirst rfl
    refine ⟨rfl, rfl, fun _ => id, fun path => ?_⟩
    by_cases hpath : path = worker.path
    · subst hpath
      obtain hjob | habsent := h.file worker hworker
      · exact .inr ⟨AList.lookup_erase _ _, worker.job, hjob, hgone⟩
      · left
        rw [AList.lookup_erase, AList.lookup_eq_none.mpr habsent]
    · exact .inl (AList.lookup_erase_ne hpath)

/-- A call of a worker leaves the other workers their jobs. -/
theorem Tended.worker (h : Tended shape sr s) {worker worker' other : Worker} {choice : Choice}
    (hworker : worker ∈ s.workers) (hother : other ∈ s.workers)
    (hstep : worker.step shape choice s.host = some (worker', w')) :
    Safe (untilGone shape sr.pool sr.ns other.job) (fun _ _ => True) (fun _ _ => True)
        other.program w'.graph ∧
      (w'.spool.lookup other.path = some (some other.job) ∨ other.path ∉ w'.spool) := by
  obtain ⟨-, -, -, rfl | ⟨r, graph, hfirst, happly, rfl⟩ | ⟨-, rfl⟩⟩ :=
    workerStep_cases sr hstep
  · exact ⟨h.safe other hother, h.file other hother⟩
  · have hnaming := naming_of_byWorker ((h.quiet worker hworker).first hfirst)
    exact ⟨safe_spared (h.safe other hother) (spares_of_naming hnaming _) happly,
      h.file other hother⟩
  · refine ⟨h.safe other hother, ?_⟩
    by_cases hpath : other.path = worker.path
    · right
      rw [hpath, AList.mem_erase]
      exact fun hmem => hmem.1 rfl
    · rw [AList.lookup_erase_ne hpath, AList.mem_erase]
      obtain hjob | habsent := h.file other hother
      · exact .inl hjob
      · exact .inr fun hmem => habsent hmem.2

/-- Every step keeps it. -/
theorem Tended.step {label : SpoolLabel} (h : Tended shape sr s) (hguard : tending sr s label)
    (hstep : spoolStep shape sr m s label = some s') : Tended shape sr s' := by
  cases label with
  | destroy dbg key =>
      cases hstep
      have hnone : s.scan = none := Option.isNone_iff_eq_none.mp hguard
      refine ⟨h.json, h.safe, h.quiet, h.file, h.scan, fun hscan => ?_⟩
      rw [show s.scan.isSome = false by rw [hnone]; rfl] at hscan
      cases hscan
  | destroyStep index choice =>
      obtain ⟨p, hp, hmap⟩ := Option.bind_eq_some_iff.mp hstep
      obtain ⟨⟨p', host⟩, hnext, heq⟩ := Option.map_eq_some_iff.mp hmap
      cases heq
      obtain ⟨c, resume, reply, rfl, hhandle, rfl⟩ := Prog.next_eq_some_iff.mp hnext
      obtain ⟨hjson, hsafe, hfile⟩ := h.process hhandle
        (fun r hreq => hguard.1 _ hp c rfl r hreq) hguard.2
      -- no destroy runs beside a scan, so what the scan has read is not taken back
      have hnone : s.scan = none := by
        by_contra hsome
        have hdone := h.alone (Option.isSome_iff_ne_none.mpr hsome) _ (List.mem_of_getElem? hp)
        cases hdone
      refine ⟨hjson, hsafe, h.quiet, hfile, fun q hq => ?_, fun hscan => ?_⟩
      · cases hnone.symm.trans hq
      · rw [show s.scan.isSome = false by rw [hnone]; rfl] at hscan
        cases hscan
  | destroyEnd index =>
      cases hstep
      exact ⟨h.json, h.safe, h.quiet, h.file, h.scan,
        fun hscan p hp => h.alone hscan p (List.mem_of_mem_eraseIdx hp)⟩
  | scan =>
      cases hstep
      refine ⟨h.json, h.safe, h.quiet, h.file, fun p hp => ?_, fun _ => hguard⟩
      cases hp
      refine safe_scan m ⟨fun job hjob => ?_, rfl⟩
      obtain ⟨⟨path, found⟩, hmem, hfound⟩ := List.mem_filterMap.mp hjob
      have hlookup : s.host.spool.lookup path = some (some job) :=
        AList.mem_lookup_iff.mpr (hfound ▸ hmem)
      exact .inr ⟨path, h.json path (AList.lookup_isSome.mp (by rw [hlookup]; rfl)), hlookup⟩
  | scanStep choice =>
      obtain ⟨p, hp, hmap⟩ := Option.bind_eq_some_iff.mp hstep
      obtain ⟨⟨p', host⟩, hnext, heq⟩ := Option.map_eq_some_iff.mp hmap
      cases heq
      have hsafe := (h.scan p hp).next (fun _ _ => trivial) hnext
      obtain ⟨c, resume, reply, rfl, hhandle, rfl⟩ := Prog.next_eq_some_iff.mp hnext
      have hnaming : ∀ r, fileReq sr c = some r → r.naming = false := (h.scan _ hp).asserted rfl
      obtain ⟨hjson, hworkers, hfile⟩ := h.process hhandle
        (fun r hreq worker _ => spares_of_naming (hnaming r hreq) worker.job) hguard
      refine ⟨hjson, hworkers, h.quiet, hfile, fun q hq => ?_, fun _ => h.alone (by rw [hp]; rfl)⟩
      cases hq
      exact hsafe
  | scanEnd =>
      cases hstep
      exact ⟨h.json, h.safe, h.quiet, h.file, nofun, nofun⟩
  | start path =>
      dsimp only [spoolStep] at hstep
      split at hstep
      next job hlookup =>
          cases hstep
          refine ⟨h.json, fun worker hworker => ?_, fun worker hworker => ?_,
            fun worker hworker => ?_, h.scan, h.alone⟩
          · obtain rfl | hold := List.mem_cons.mp hworker
            · exact safe_mainGone
            · exact h.safe worker hold
          · obtain rfl | hold := List.mem_cons.mp hworker
            · exact byWorker_main _ _ _
            · exact h.quiet worker hold
          · obtain rfl | hold := List.mem_cons.mp hworker
            · exact .inl hlookup
            · exact h.file worker hold
      next =>
          cases hstep
          exact h
  | workerStep index choice =>
      obtain ⟨worker, hindex, hmap⟩ := Option.bind_eq_some_iff.mp hstep
      obtain ⟨⟨worker', host⟩, hcall, heq⟩ := Option.map_eq_some_iff.mp hmap
      cases heq
      have hworker := List.mem_of_getElem? hindex
      obtain ⟨hpath, hjob, hnext, -⟩ := workerStep_cases sr hcall
      have hsafe := (h.safe worker hworker).next (hguard worker hindex) hnext
      have hothers : ∀ other ∈ s.workers.set index worker', other ∈ s.workers ∨ other = worker' :=
        fun other hother => List.mem_or_eq_of_mem_set hother
      have hrecedes := h.recedes hworker hcall
      refine ⟨fun path hmem => h.json path ?_, fun other hother => ?_, fun other hother => ?_,
        fun other hother => ?_, fun p hp => ?_, h.alone⟩
      · have hsome := AList.lookup_isSome.mpr hmem
        obtain hsame | ⟨hnone, -⟩ := hrecedes.files path
        · exact AList.lookup_isSome.mp (hsame ▸ hsome)
        · rw [hnone] at hsome
          cases hsome
      · obtain hold | rfl := hothers other hother
        · exact (h.worker hworker hold hcall).1
        · rw [hjob]
          exact hsafe
      · obtain hold | rfl := hothers other hother
        · exact h.quiet other hold
        · exact (h.quiet worker hworker).next hnext
      · obtain hold | rfl := hothers other hother
        · exact (h.worker hworker hold hcall).2
        · rw [hpath, hjob]
          exact (h.worker hworker hworker hcall).2
      -- a worker only takes objects and job files away, which a scan stands
      · refine (h.scan p hp).move hrecedes (fun _ => ?_) fun _ _ _ _ _ => trivial
        rintro w w' ⟨targets, hscanned⟩ hmove
        exact ⟨targets, stable_scanned w w' hscanned hmove⟩
  | workerEnd index =>
      cases hstep
      have hsub : ∀ worker ∈ s.workers.eraseIdx index, worker ∈ s.workers :=
        fun worker hworker => List.mem_of_mem_eraseIdx hworker
      exact ⟨h.json, fun worker hworker => h.safe worker (hsub worker hworker),
        fun worker hworker => h.quiet worker (hsub worker hworker),
        fun worker hworker => h.file worker (hsub worker hworker), h.scan, h.alone⟩

/-- In every run of `destroy`s, scans and workers on a host, each of which may die at any point,
where an `SR.ls` has returned that no `destroy` ran beside: every object in the trash has a job file
that can be read, and `SR.ls` has written no job twice, nor any that was readable when it began. -/
theorem trash_queued {host : Host} {labels : List SpoolLabel} {final : Spool}
    {records : List VolumeDict}
    (hjson : ∀ path ∈ host.spool, Text.endsWith path ".json" = true)
    (hrun : Run.run (spoolStep shape sr m) { host := host } labels = some final)
    (hguard : Run.Along (spoolStep shape sr m) (tending sr) { host := host } labels)
    (hreturned : final.scan = some (.ret records)) :
    (∀ job, Trashed sr final.host.graph job →
        ∃ path, final.host.spool.lookup path = some (some job)) ∧
      final.host.created.Nodup ∧ ∀ job ∈ final.host.created, job ∉ final.host.before := by
  have hinit : Tended shape sr { host := host } := by
    refine ⟨hjson, fun _ hworker => ?_, fun _ hworker => ?_, fun _ hworker => ?_, nofun, nofun⟩
    · cases hworker
    · cases hworker
    · cases hworker
  have hfinal : Tended shape sr final :=
    Run.run_invariant (fun _ _ _ h hguard hstep => h.step hguard hstep) hinit hguard hrun
  obtain ⟨targets, hscanned⟩ := hfinal.scan _ hreturned
  refine ⟨fun job htrashed => ?_, hscanned.nodup, hscanned.new⟩
  obtain hknown | hpending := hscanned.trashed job htrashed
  · obtain hgone | hqueued := hscanned.queued job hknown
    · exact absurd hgone htrashed.not_gone
    · exact hqueued
  · cases hpending

end Steps

section Died

instance (r : Req) (job : Job) : Decidable (r.Spares job) :=
  inferInstanceAs (Decidable (∀ name ∈ r.names, _ ∧ _))

instance (choice : Choice) (st : State) (c : Call) : Decidable (Truthful choice st c) :=
  match choice with
  | .ok => isTrue nofun
  | .fail error => decidable_of_iff (error.notFound = true → st.graph.foundCall c = false)
      ⟨fun h _ heq => Choice.fail.inj heq ▸ h, fun h => h error rfl⟩

instance (sr : Sr) (s : Spool) (label : SpoolLabel) : Decidable (tending sr s label) :=
  match label with
  | .destroy _ _ => inferInstanceAs (Decidable (_ = _))
  | .destroyStep index choice => inferInstanceAs (Decidable
      ((∀ p ∈ s.destroys[index]?, ∀ c ∈ p.firstCall, ∀ r ∈ fileReq sr c,
        ∀ worker ∈ s.workers, r.Spares worker.job) ∧
      ∀ path ∈ choice.path, ∀ worker ∈ s.workers, worker.path ≠ path))
  | .scan => inferInstanceAs (Decidable (∀ p ∈ s.destroys, p.firstCall.isNone = true))
  | .scanStep choice => inferInstanceAs (Decidable
      (∀ path ∈ choice.path, ∀ worker ∈ s.workers, worker.path ≠ path))
  | .workerStep index choice => inferInstanceAs (Decidable
      (∀ worker ∈ s.workers[index]?, ∀ c ∈ worker.program.firstCall, Truthful choice _ c))
  | .destroyEnd _ | .scanEnd | .start _ | .workerEnd _ => isTrue trivial

/-- The name of a volume. -/
def volumeName (digit : String) : String := "11111111-1111-1111-1111-11111111111" ++ digit

/-- A disk with a snapshot that has a clone. -/
def clonedHost : Host where
  graph :=
    { images := (AList.insert (⟨"rbd", "", volumeName "1"⟩ : Spec)
          { id := 0, size := 1, snapshots := [
            { id := 1, name := volumeName "2", size := 1, isProtected := true,
              content := fun _ => 0 }] }
          ∅).insert ⟨"rbd", "", volumeName "3"⟩ { id := 2, size := 1, parent := some ⟨0, 1⟩ }
      nextId := 3 }
  spool := ∅

/-- A `destroy` of the snapshot dies after it has renamed it and before its job file is written, and
`SR.ls` finds the snapshot without a job. -/
def diedLabels : List SpoolLabel :=
  [.destroy "" (volumeName "1" ++ "@" ++ volumeName "2"), .destroyStep 0 (.op .ok),
    .destroyStep 0 (.op (.fresh (volumeName "4"))), .destroyStep 0 (.op .ok),
    .destroyStep 0 (.temp "gc-1.json"), .destroyEnd 0,
    .scan, .scanStep .ok, .scanStep .ok, .scanStep (.op .ok), .scanStep (.temp "gc-2.json"),
    .scanStep .ok, .scanStep .ok]

/-- The job that `SR.ls` writes for it. -/
def diedJob : Job :=
  { kind := "snap", image := volumeName "1", snap := some (trashPrefix ++ volumeName "4") }

/-- The scan has returned. -/
def scanReturned : Option (FileProg (List VolumeDict)) → Bool
  | some (.ret _) => true
  | _ => false

/-- A scan that has returned is at its end. -/
theorem eq_ret_of_scanReturned {scan : Option (FileProg (List VolumeDict))}
    (h : scanReturned scan = true) : ∃ records, scan = some (.ret records) := by
  unfold scanReturned at h
  split at h
  · exact ⟨_, rfl⟩
  · cases h

/-- The snapshot that was left without a job has one after `SR.ls`. -/
theorem trash_queued_died :
    ∃ final records, Run.run (spoolStep .rest ⟨"rbd", ""⟩ ⟨"sr", "rbd", none, none⟩)
        { host := clonedHost } diedLabels = some final ∧ final.scan = some (.ret records) ∧
      final.host.spool.lookup "gc-1.json" = some none ∧ final.host.created = [diedJob] ∧
      ∀ job, Trashed ⟨"rbd", ""⟩ final.host.graph job →
        ∃ path, final.host.spool.lookup path = some (some job) := by
  have hchecked : ((Run.checked (spoolStep .rest ⟨"rbd", ""⟩ ⟨"sr", "rbd", none, none⟩)
      (tending ⟨"rbd", ""⟩) { host := clonedHost } diedLabels).any fun s => scanReturned s.scan &&
        decide (s.host.spool.lookup "gc-1.json" = some none ∧ s.host.created = [diedJob])) =
          true := by
    decide +kernel
  obtain ⟨final, hrun, hguard, hfinal⟩ := Run.exists_of_checked hchecked
  rw [Bool.and_eq_true, decide_eq_true_eq] at hfinal
  obtain ⟨hscan, hlookup, hcreated⟩ := hfinal
  obtain ⟨records, hrecords⟩ := eq_ret_of_scanReturned hscan
  have hempty : ∀ path ∈ clonedHost.spool, Text.endsWith path ".json" = true := by
    intro path hpath
    exact absurd hpath (AList.notMem_empty path)
  exact ⟨final, records, hrun, hrecords, hlookup, hcreated,
    (trash_queued hempty hrun hguard hrecords).1⟩

end Died

end XcpCephRbd.Gc
