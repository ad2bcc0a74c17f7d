import XcpCephRbd.Gc.Spares

/-!
# A worker's run from beginning to end

A worker finishes when nothing stands in its way: `run` returns where every clone that pins the
object can be flattened so that it frees it. Together with what a worker leaves when it does not
finish this is `collect_exact`, for a job that has been tried any number of times before.
-/

namespace XcpCephRbd.Gc

open Volume (Job)
open Relation (ReflTransGen)

section Completion

variable {pool ns : String} {job : Job} {scope : List Spec} {st : State} {img : Image}

/-- A request that Ceph grants. -/
theorem answer_granted {r : Req} {graph : Graph} (h : st.graph.apply r = some graph) :
    answer .rest st (.request r) = some (.ok (), { st with graph := graph }) := by
  simp [answer, handle, h]

/-- A request that Ceph refuses. -/
theorem answer_refused {r : Req} (h : st.graph.apply r = none) :
    answer .rest st (.request r) = some (.error (.backend
      { message := "refused", notFound := !st.graph.found r }), st) := by
  simp [answer, handle, h, Graph.foundCall]

/-- The inspection of a clone reports it as it is. -/
theorem exec_inspect (st : State) (child : Spec) :
    ∃ after, (inspect child).exec (answer .rest) st =
        some (.ok (st.graph.info .rest child, true), after) ∧
      after.graph = st.graph ∧ after.jobFile = st.jobFile := by
  cases hinfo : st.graph.info .rest child with
  | some info =>
      refine ⟨{ st with inspected := (child, info) :: st.inspected }, ?_, rfl, rfl⟩
      have hanswer : answer .rest st (.imageInfo child) =
          some (.ok info, { st with inspected := (child, info) :: st.inspected }) := by
        simp [answer, handle, hinfo]
      exact Prog.exec_tryCatch (Prog.exec_bind (Prog.exec_perform hanswer))
  | none =>
      have hgone : child ∉ st.graph.images := by
        rw [Graph.info, Option.map_eq_none_iff] at hinfo
        exact AList.lookup_eq_none.mp hinfo
      have hanswer : answer .rest st (.imageInfo child) =
          some (.error (.backend { message := "refused", notFound := true }), st) := by
        simp [answer, handle, hinfo, Graph.foundCall, hgone]
      refine ⟨st, ?_, rfl, rfl⟩
      simp [inspect, exceptBackend, imageInfo, ask, Prog.perform, Prog.exec, hanswer]

/-- The image refers to nothing. -/
def Graph.Unlinked (g : Graph) (child : Spec) : Prop :=
  ∀ img, g.images.lookup child = some img → ∀ link, img.linksTo link = false

/-- Flattening the image frees what it refers to. -/
def Graph.Frees (g : Graph) (child : Spec) : Prop :=
  ∀ img, g.images.lookup child = some img → img.deep = true ∨ img.snapshots = []

/-- What refers to nothing goes on to refer to nothing. -/
theorem Graph.Shrinks.unlinked {g g' : Graph} (h : g.Shrinks g') {child : Spec}
    (hunlinked : g.Unlinked child) : g'.Unlinked child := by
  intro img' himg' link
  obtain ⟨img, himg, hred⟩ := h _ img' himg'
  by_contra hlinks
  have := hunlinked img himg link
  rw [hred.linksTo (Bool.not_eq_false _ ▸ hlinks)] at this
  cases this

/-- A clone that can be freed can still be freed. -/
theorem Graph.Shrinks.frees {g g' : Graph} (h : g.Shrinks g') {child : Spec}
    (hfrees : g.Frees child) : g'.Frees child := by
  intro img' himg'
  obtain ⟨img, himg, hred⟩ := h _ img' himg'
  refine (hfrees img himg).imp (fun hdeep => ?_) fun hempty => ?_
  · rwa [Image.deep, hred.features]
  · refine List.eq_nil_iff_forall_not_mem.mpr fun s' hs' => ?_
    obtain ⟨s, hs, -⟩ := hred.snapshots s' hs'
    rw [hempty] at hs
    cases hs

/-- An image that is flat, or flattened, refers to nothing where its snapshots do not. -/
theorem unlinked_of_flat (hparent : img.parent = none)
    (hsnaps : ∀ s ∈ img.snapshots, s.parent = none) (link : Link) : img.linksTo link = false := by
  rw [Bool.eq_false_iff]
  intro hlinks
  obtain hhead | ⟨s, hs, hlink⟩ := linksTo_iff.mp hlinks
  · rw [hparent] at hhead
    cases hhead
  · rw [hsnaps s hs] at hlink
    cases hlink

/-- A flatten that frees leaves an image that refers to nothing. -/
theorem unlinked_flatten (hfrees : img.deep = true ∨ img.snapshots = []) (link : Link) :
    img.flatten.linksTo link = false := by
  refine unlinked_of_flat rfl (fun s hs => ?_) link
  dsimp only [Image.flatten] at hs
  split at hs
  · obtain ⟨t, -, rfl⟩ := List.mem_map.mp hs
    rfl
  next hnot =>
      obtain hdeep | hempty := hfrees
      · exact absurd hdeep hnot
      · rw [hempty] at hs
        cases hs

/-- The loop body for a clone that can be freed frees it. -/
theorem exec_resolveChild (pool ns : String) (job : Job) (hw : st.graph.WellFormed) {child : Spec}
    (hscope : child ∈ scope) (hfrees : st.graph.Frees child) (t : Tally) :
    ∃ after, (resolveChild t (Shape.rest.child child)).exec (answer .rest) st =
        some (.ok t, after) ∧ after.jobFile = st.jobFile ∧
      ReflTransGen (Collects pool ns job scope) st.graph after.graph ∧
      after.graph.Unlinked child := by
  dsimp only [resolveChild, Shape.child]
  split
  next hempty =>
      refine ⟨st, rfl, rfl, .refl, fun img himg => ?_⟩
      exact absurd hempty (hw.named child (AList.lookup_isSome.mp (by rw [himg]; rfl)))
  next =>
      obtain ⟨read, hread, hgraph, hfile⟩ := exec_inspect st child
      rw [Prog.exec_bind hread]
      cases himg : st.graph.images.lookup child with
      | none =>
          have hinfo : st.graph.info .rest child = none := by rw [Graph.info, himg]; rfl
          rw [hinfo]
          refine ⟨read, rfl, hfile, hgraph ▸ .refl, fun img hread => ?_⟩
          rw [hgraph, himg] at hread
          cases hread
      | some img =>
          have hinfo : ∃ info, st.graph.info .rest child = some info ∧
              info.parent = img.parent.isSome ∧ info.freeing =
                (img.deep || img.snapshots.isEmpty) :=
            ⟨_, by rw [Graph.info, himg]; rfl, rfl, by simp [ImageInfo.freeing, Image.deep]⟩
          obtain ⟨info, hinfo, hparent, hfreeing⟩ := hinfo
          have hfree : (img.deep || img.snapshots.isEmpty) = true := by
            simpa [List.isEmpty_iff] using hfrees img himg
          rw [hinfo]
          dsimp only
          cases hhead : img.parent with
          | none =>
              rw [hparent, hhead]
              refine ⟨read, rfl, hfile, hgraph ▸ .refl, fun img' himg' => ?_⟩
              rw [hgraph, himg] at himg'
              cases himg'
              refine unlinked_of_flat hhead fun s hs => ?_
              obtain hdeep | hempty := hfrees img himg
              · exact hw.flat child img himg hdeep hhead s hs
              · rw [hempty] at hs
                cases hs
          | some link =>
              rw [hparent, hhead, hfreeing, hfree]
              have happly : read.graph.apply (.flatten child) = some
                  { images := read.graph.images.insert child img.flatten
                    nextId := read.graph.nextId + 1 } := by
                rw [hgraph]
                simp [Graph.apply, Req.spec, himg, Graph.edit, hhead]
              have hone : (flattenOne child flattenRetries).exec (answer .rest) read =
                  some (.ok true, { read with graph :=
                    { images := read.graph.images.insert child img.flatten
                      nextId := read.graph.nextId + 1 } }) :=
                Prog.exec_tryCatch (Prog.exec_bind (Prog.exec_perform (answer_granted happly)))
              refine ⟨_, Prog.exec_bind hone, hfile, ?_, fun img' himg' => ?_⟩
              · exact .single (.flatten hscope (hgraph ▸ happly))
              · cases (AList.lookup_insert _).symm.trans himg'
                exact unlinked_flatten (hfrees img himg)

/-- The loops free all clones that can be freed. -/
theorem exec_resolveAll (pool ns : String) (job : Job) {children : List Spec}
    (hw : st.graph.WellFormed)
    (hscope : ∀ child ∈ children, child ∈ scope)
    (hfrees : ∀ child ∈ children, st.graph.Frees child) (t : Tally) :
    ∃ after, (resolveAll t (children.map Shape.rest.child)).exec (answer .rest) st =
        some (.ok t, after) ∧ after.jobFile = st.jobFile ∧
      ReflTransGen (Collects pool ns job scope) st.graph after.graph ∧
      ∀ child ∈ children, after.graph.Unlinked child := by
  induction children generalizing st with
  | nil => exact ⟨st, rfl, rfl, .refl, fun _ h => by cases h⟩
  | cons child rest ih =>
      obtain ⟨between, hfirst, hfile, hcollects, hunlinked⟩ :=
        exec_resolveChild pool ns job hw (hscope child List.mem_cons_self)
          (hfrees child List.mem_cons_self) t
      have hshrinks := (spares_of_collects hcollects).shrinks
      obtain ⟨after, hrest, hfile', hcollects', hunlinked'⟩ :=
        ih (wellFormed_of_collects hcollects hw)
          (fun c hc => hscope c (List.mem_cons_of_mem _ hc))
          fun c hc => hshrinks.frees (hfrees c (List.mem_cons_of_mem _ hc))
      refine ⟨after, (Prog.exec_bind hfirst).trans hrest, hfile'.trans hfile,
        hcollects.trans hcollects', fun c hc => ?_⟩
      obtain rfl | hmem := List.mem_cons.mp hc
      · exact (spares_of_collects hcollects').shrinks.unlinked hunlinked
      · exact hunlinked' c hmem

/-- `_resolve_children` frees the snapshots that pass the filter. -/
theorem exec_resolveChildren (pool ns : String) (job : Job) {spec : Spec}
    {snapFilter : Option String}
    (hw : st.graph.WellFormed) (hscope : ∀ child ∈ st.graph.pinning spec snapFilter, child ∈ scope)
    (hfrees : ∀ child ∈ st.graph.pinning spec snapFilter, st.graph.Frees child) :
    ∃ after, (resolveChildren spec snapFilter).exec (answer .rest) st = some (.ok {}, after) ∧
      after.jobFile = st.jobFile ∧
      ReflTransGen (Collects pool ns job scope) st.graph after.graph ∧
      ∀ img, after.graph.images.lookup spec = some img → ∀ s ∈ img.snapshots,
        (snapFilter.all fun snap => s.name == snap) = true →
        after.graph.hasChildren img s = false := by
  obtain ⟨read, hread, hgraph, hfile⟩ := exec_readOrGone .rest st spec
  cases hinfo : st.graph.info .rest spec with
  | none =>
      rw [hinfo] at hread
      refine ⟨read, Prog.exec_bind hread, hfile, hgraph ▸ .refl, fun img himg => ?_⟩
      rw [Graph.info, Option.map_eq_none_iff] at hinfo
      rw [hgraph, hinfo] at himg
      cases himg
  | some info =>
      rw [hinfo] at hread
      rw [← hgraph] at hw hscope hfrees
      obtain ⟨after, hall, hfile', hcollects, hunlinked⟩ :=
        exec_resolveAll pool ns job hw hscope hfrees {}
      have hscope' : info.inScope snapFilter =
          (read.graph.pinning spec snapFilter).map Shape.rest.child := by
        rw [hgraph]
        exact inScope_info hinfo snapFilter
      refine ⟨after, (Prog.exec_bind hread).trans ?_, hfile'.trans hfile, hgraph ▸ hcollects, ?_⟩
      · dsimp only
        rw [hscope']
        exact hall
      · intro img himg s hs hpasses
        have hshrinks := (spares_of_collects hcollects).shrinks
        simp only [Graph.hasChildren, Bool.not_eq_false', List.isEmpty_iff,
          List.eq_nil_iff_forall_not_mem]
        intro child hchild
        have hpinning : child ∈ read.graph.pinning spec snapFilter := by
          refine hshrinks.pinning ?_
          simp only [Graph.pinning, himg, Option.map_some, Option.getD_some, List.mem_flatMap,
            List.mem_filter]
          exact ⟨s, ⟨hs, hpasses⟩, hchild⟩
        obtain ⟨cimg, hcimg, hlinks⟩ := mem_children_iff.mp hchild
        rw [hunlinked child hpinning cimg hcimg _] at hlinks
        cases hlinks

/-- Unprotecting a childless snapshot, whether it was protected or not. -/
theorem exec_unprotect (pool ns : String) (scope : List Spec) {job : Job} {snap : String}
    (hcovers : Covers job snap)
    (hw : st.graph.WellFormed) (himg : st.graph.images.lookup ⟨pool, ns, job.image⟩ = some img)
    (hchildless : ∀ s ∈ img.named snap, st.graph.hasChildren img s = false) :
    ∃ after img', (exceptBackend (request (.snapSetProtected ⟨pool, ns, job.image⟩ snap false))
        fun _ => pure ()).exec (answer .rest) st = some (.ok (), after) ∧
      after.jobFile = st.jobFile ∧
      ReflTransGen (Collects pool ns job scope) st.graph after.graph ∧
      after.graph.images.lookup ⟨pool, ns, job.image⟩ = some img' ∧ img.Reduced img' ∧
      ∀ s ∈ img'.named snap, s.isProtected = false := by
  cases happly : st.graph.apply (.snapSetProtected ⟨pool, ns, job.image⟩ snap false) with
  | some graph =>
      refine ⟨_, img.mapSnap snap fun s => { s with isProtected := false },
        Prog.exec_tryCatch (Prog.exec_perform (answer_granted happly)), rfl,
        .single (.unprotect hcovers happly), ?_, (reduced_protect img snap false).1, fun s hs => ?_⟩
      · obtain ⟨old, hold, hmap⟩ := Option.bind_eq_some_iff.mp happly
        obtain ⟨img', hedit, rfl⟩ := Option.map_eq_some_iff.mp hmap
        obtain ⟨-, -, rfl⟩ := edit_snapSetProtected hedit
        cases himg.symm.trans hold
        exact AList.lookup_insert _
      · obtain ⟨hs, hname⟩ := List.mem_filter.mp hs
        obtain ⟨t, -, rfl⟩ := List.mem_map.mp hs
        split
        · rfl
        next hnot =>
            rw [if_neg hnot] at hname
            exact absurd hname hnot
  | none =>
      refine ⟨st, img, ?_, rfl, .refl, himg, .refl img, fun s hs => ?_⟩
      · simp [exceptBackend, request, ask, Prog.perform, Prog.exec, answer_refused happly]
      · by_contra hprotected
        have hone : ∀ t ∈ img.named snap, t = s := by
          intro t ht
          have hnodup := hw.unique _ img himg
          rw [Image.named, List.mem_filter, beq_iff_eq] at hs ht
          exact List.inj_on_of_nodup_map hnodup ht.1 hs.1 (ht.2.trans hs.2.symm)
        have hedit :
            st.graph.edit (.snapSetProtected ⟨pool, ns, job.image⟩ snap false) img ≠ none := by
          simp only [Graph.edit, ne_eq, ite_eq_left_iff, reduceCtorEq, imp_false, not_not,
            Bool.or_eq_true, List.isEmpty_iff, List.any_eq_true, not_or]
          refine ⟨List.ne_nil_of_mem hs, ?_⟩
          rintro ⟨t, ht, hrefused⟩
          obtain rfl := hone t ht
          simp_all
        simp [Graph.apply, Req.spec, himg, hedit] at happly

/-- The purge of a childless snapshot removes it. -/
theorem exec_purgeSnap (pool ns : String) (scope : List Spec) {job : Job} {snap : String}
    (hcovers : Covers job snap)
    (hw : st.graph.WellFormed) (himg : st.graph.images.lookup ⟨pool, ns, job.image⟩ = some img)
    (hchildless : ∀ s ∈ img.named snap, st.graph.hasChildren img s = false) :
    ∃ after, (purgeSnap ⟨pool, ns, job.image⟩ snap).exec (answer .rest) st = some (.ok (), after) ∧
      after.jobFile = st.jobFile ∧
      ReflTransGen (Collects pool ns job scope) st.graph after.graph ∧
      after.graph.NoSnap ⟨pool, ns, job.image⟩ snap := by
  obtain ⟨between, img', hfirst, hfile, hcollects, himg', hred, hfree⟩ :=
    exec_unprotect pool ns scope hcovers hw himg hchildless
  have hshrinks := (spares_of_collects hcollects).shrinks
  cases happly : between.graph.apply (.snapRemove ⟨pool, ns, job.image⟩ snap) with
  | some graph =>
      refine ⟨{ between with graph := graph }, (Prog.exec_bind hfirst).trans ?_, hfile,
        hcollects.tail (.removeSnap hcovers happly), noSnap_of_removed happly⟩
      exact Prog.exec_tryCatch (Prog.exec_perform (answer_granted happly))
  | none =>
      have hempty : img'.named snap = [] := by
        by_contra hnonempty
        have hedit : between.graph.edit (.snapRemove ⟨pool, ns, job.image⟩ snap) img' ≠ none := by
          simp only [Graph.edit, ne_eq, ite_eq_left_iff, reduceCtorEq, imp_false, not_not,
            Bool.or_eq_true, List.isEmpty_iff, List.any_eq_true, not_or]
          refine ⟨hnonempty, ?_⟩
          rintro ⟨s', hs', hprotected | hchildren⟩
          · rw [hfree s' hs'] at hprotected
            cases hprotected
          · obtain ⟨hmem, hname⟩ := List.mem_filter.mp hs'
            obtain ⟨s, hs, hsred⟩ := hred.snapshots s' hmem
            have hnamed : s ∈ img.named snap :=
              List.mem_filter.mpr ⟨hs, hsred.name ▸ hname⟩
            rw [hshrinks.childless hred.id hsred.id (hchildless s hnamed)] at hchildren
            cases hchildren
        simp [Graph.apply, Req.spec, himg', hedit] at happly
      have hgone : between.graph.NoSnap ⟨pool, ns, job.image⟩ snap := by
        intro other hother
        cases himg'.symm.trans hother
        exact hempty
      have hfound : between.graph.found (.snapRemove ⟨pool, ns, job.image⟩ snap) = false := by
        simp [Graph.found, himg', hempty]
      refine ⟨between, (Prog.exec_bind hfirst).trans ?_, hfile, hcollects, hgone⟩
      simp [passNotFound, exceptBackend, request, ask, Prog.perform, Prog.exec,
        answer_refused happly, hfound]

/-- A snapshot that is gone does not come back. -/
theorem Graph.Shrinks.noSnap {g g' : Graph} (h : g.Shrinks g') {spec : Spec} {snap : String}
    (hgone : g.NoSnap spec snap) : g'.NoSnap spec snap := by
  intro img' himg'
  obtain ⟨img, himg, hred⟩ := h spec img' himg'
  have hnone := hgone img himg
  simp only [Image.named, List.filter_eq_nil_iff] at hnone ⊢
  intro s' hs'
  obtain ⟨s, hs, hsred⟩ := hred.snapshots s' hs'
  exact hsred.name ▸ hnone s hs

/-- The purge of all snapshots of a listing, where none has clones. -/
theorem exec_purgeSnaps (pool ns : String) (scope : List Spec) {job : Job}
    (hkind : job.kind = "image") {snaps : List String} (hw : st.graph.WellFormed)
    (himg : st.graph.images.lookup ⟨pool, ns, job.image⟩ = some img)
    (hchildless : ∀ s ∈ img.snapshots, st.graph.hasChildren img s = false) :
    ∃ after, (purgeSnaps ⟨pool, ns, job.image⟩ snaps).exec (answer .rest) st =
        some (.ok (), after) ∧ after.jobFile = st.jobFile ∧
      ReflTransGen (Collects pool ns job scope) st.graph after.graph ∧
      ∀ snap ∈ snaps, after.graph.NoSnap ⟨pool, ns, job.image⟩ snap := by
  induction snaps generalizing st img with
  | nil => exact ⟨st, rfl, rfl, .refl, fun _ h => by cases h⟩
  | cons snap rest ih =>
      obtain ⟨between, hfirst, hfile, hcollects, hgone⟩ :=
        exec_purgeSnap pool ns scope (.inr hkind) hw himg
          fun s (hs : s ∈ img.named snap) => hchildless s (List.mem_filter.mp hs).1
      have hspares := spares_of_collects hcollects
      obtain ⟨img', himg', hred, -⟩ := hspares.kept _ img himg
      have hchildless' : ∀ s ∈ img'.snapshots, between.graph.hasChildren img' s = false := by
        intro s' hs'
        obtain ⟨s, hs, hsred⟩ := hred.snapshots s' hs'
        exact hspares.shrinks.childless hred.id hsred.id (hchildless s hs)
      obtain ⟨after, hrest, hfile', hcollects', hgone'⟩ :=
        ih (wellFormed_of_collects hcollects hw) himg' hchildless'
      refine ⟨after, (Prog.exec_bind hfirst).trans hrest, hfile'.trans hfile,
        hcollects.trans hcollects', fun s hs => ?_⟩
      obtain rfl | hmem := List.mem_cons.mp hs
      · exact (spares_of_collects hcollects').shrinks.noSnap hgone
      · exact hgone' s hmem

/-- An image without snapshots, or one that is gone, is removed. -/
theorem exec_removeImage {spec : Spec}
    (hempty : ∀ img, st.graph.images.lookup spec = some img → img.snapshots = []) :
    ∃ after, (passNotFound (request (.remove spec))).exec (answer .rest) st =
      some (.ok (), after) ∧ after.jobFile = st.jobFile := by
  cases himg : st.graph.images.lookup spec with
  | none =>
      have happly : st.graph.apply (.remove spec) = none := by simp [Graph.apply, himg]
      have hfound : st.graph.found (.remove spec) = false := by
        exact decide_eq_false (AList.lookup_eq_none.mp himg)
      refine ⟨st, ?_, rfl⟩
      simp [passNotFound, exceptBackend, request, ask, Prog.perform, Prog.exec,
        answer_refused happly, hfound]
  | some img =>
      have happly : st.graph.apply (.remove spec) =
          some { st.graph with images := st.graph.images.erase spec } := by
        simp [Graph.apply, himg, hempty img himg]
      exact ⟨_, Prog.exec_tryCatch (Prog.exec_perform (answer_granted happly)), rfl⟩

/-- The job of a snapshot returns where its clones can be freed. -/
theorem exec_runSnap (pool ns : String) {job : Job} {snap : String} (hkind : job.kind = "snap")
    (hsnap : job.snap = some snap) (hw : st.graph.WellFormed)
    (hfrees : ∀ child ∈ st.graph.pinning ⟨pool, ns, job.image⟩ (some snap), st.graph.Frees child) :
    ∃ after, (runSnap ⟨pool, ns, job.image⟩ snap).exec (answer .rest) st = some (.ok (), after) ∧
      after.jobFile = st.jobFile := by
  obtain ⟨resolved, hresolve, hfile, hcollects, hchildless⟩ :=
    exec_resolveChildren pool ns job hw (fun child hchild => hchild) hfrees
  rw [runSnap, Prog.exec_bind hresolve]
  change ∃ after, (purgeSnap _ snap).exec (answer .rest) resolved = _ ∧ _
  cases himg : resolved.graph.images.lookup ⟨pool, ns, job.image⟩ with
  | none =>
      refine ⟨resolved, ?_, hfile⟩
      have hrefused : ∀ on, resolved.graph.apply
          (.snapSetProtected ⟨pool, ns, job.image⟩ snap on) = none := by
        simp [Graph.apply, Req.spec, himg]
      have hremove : resolved.graph.apply (.snapRemove ⟨pool, ns, job.image⟩ snap) = none := by
        simp [Graph.apply, Req.spec, himg]
      have hfound : resolved.graph.found (.snapRemove ⟨pool, ns, job.image⟩ snap) = false := by
        simp [Graph.found, himg]
      simp [purgeSnap, passNotFound, exceptBackend, request, ask, Prog.perform, Prog.exec,
        answer_refused (hrefused false), answer_refused hremove, hfound]
  | some img =>
      obtain ⟨after, hpurge, hfile', -, -⟩ :=
        exec_purgeSnap pool ns (st.graph.pinning ⟨pool, ns, job.image⟩ (some snap))
          (.inl ⟨hkind, hsnap⟩) (wellFormed_of_collects hcollects hw) himg
          fun s (hs : s ∈ img.named snap) =>
            hchildless img himg s (List.mem_filter.mp hs).1 (List.mem_filter.mp hs).2
      exact ⟨after, hpurge, hfile'.trans hfile⟩

/-- The job of an image returns where its clones can be freed. -/
theorem exec_runImage (pool ns : String) {job : Job} (hkind : job.kind = "image")
    (hw : st.graph.WellFormed)
    (hfrees : ∀ child ∈ st.graph.pinning ⟨pool, ns, job.image⟩ none, st.graph.Frees child) :
    ∃ after, (runImage ⟨pool, ns, job.image⟩).exec (answer .rest) st = some (.ok (), after) ∧
      after.jobFile = st.jobFile := by
  obtain ⟨resolved, hresolve, hfile, hcollects, hchildless⟩ :=
    exec_resolveChildren pool ns job hw (fun child hchild => hchild) hfrees
  obtain ⟨read, hread, hgraph, hfile'⟩ := exec_readOrGone .rest resolved ⟨pool, ns, job.image⟩
  have hcheck : ∀ rest : Unit → Py Unit,
      (checkResolved {} >>= rest).exec (answer .rest) resolved =
        (rest ()).exec (answer .rest) resolved := fun _ => rfl
  rw [runImage, Prog.exec_bind hresolve, hcheck, Prog.exec_bind hread]
  cases himg : resolved.graph.images.lookup ⟨pool, ns, job.image⟩ with
  | none =>
      have hinfo : resolved.graph.info .rest ⟨pool, ns, job.image⟩ = none := by
        rw [Graph.info, himg]
        rfl
      rw [hinfo]
      obtain ⟨after, hremove, hlast⟩ := @exec_removeImage read ⟨pool, ns, job.image⟩
        fun img hread => by rw [hgraph, himg] at hread; cases hread
      exact ⟨after, hremove, hlast.trans (hfile'.trans hfile)⟩
  | some img =>
      have hinfo : (resolved.graph.info .rest ⟨pool, ns, job.image⟩).map
          (fun info => info.snapshots.map SnapInfo.name) = some (img.snapshots.map Snap.name) := by
        simp [Graph.info, himg, Function.comp_def]
      rw [hinfo, Option.getD_some]
      have hw' : read.graph.WellFormed := hgraph ▸ wellFormed_of_collects hcollects hw
      have himg' : read.graph.images.lookup ⟨pool, ns, job.image⟩ = some img := hgraph ▸ himg
      obtain ⟨purged, hpurge, hfile'', hcollects', hgone⟩ :=
        exec_purgeSnaps pool ns (st.graph.pinning ⟨pool, ns, job.image⟩ none) hkind hw' himg'
          (fun s hs => hgraph ▸ hchildless img himg s hs rfl)
      have hempty : ∀ img', purged.graph.images.lookup ⟨pool, ns, job.image⟩ = some img' →
          img'.snapshots = [] := by
        intro img' hpurged
        obtain ⟨old, hold, hred⟩ := (spares_of_collects hcollects').shrinks _ img' hpurged
        cases himg'.symm.trans hold
        refine List.eq_nil_iff_forall_not_mem.mpr fun s' hs' => ?_
        obtain ⟨s, hs, hsred⟩ := hred.snapshots s' hs'
        have hnone := hgone s.name (List.mem_map.mpr ⟨s, hs, rfl⟩) img' hpurged
        have hmem : s' ∈ img'.named s.name := List.mem_filter.mpr ⟨hs', by simp [hsred.name]⟩
        rw [hnone] at hmem
        cases hmem
      obtain ⟨after, hremove, hlast⟩ := exec_removeImage hempty
      refine ⟨after, (Prog.exec_bind hpurge).trans hremove, ?_⟩
      rw [hlast, hfile'', hfile', hfile]

/-- The job names an object, as every job that is queued does. -/
def Names (job : Job) : Prop := (job.kind = "snap" ∧ job.snap.isSome) ∨ job.kind = "image"

/-- `run` returns where the clones that pin the object can be freed. -/
theorem exec_run (pool ns : String) {job : Job} (hnames : Names job) (hw : st.graph.WellFormed)
    (hfrees : ∀ child ∈ st.graph.jobScope pool ns job, st.graph.Frees child) :
    ∃ after, (run pool ns job).exec (answer .rest) st = some (.ok (), after) ∧
      after.jobFile = st.jobFile := by
  obtain ⟨hkind, hsome⟩ | hkind := hnames
  · obtain ⟨snap, hsnap⟩ := Option.isSome_iff_exists.mp hsome
    have hrun : run pool ns job = runSnap ⟨pool, ns, job.image⟩ snap := by simp [run, hkind, hsnap]
    have hscope : st.graph.jobScope pool ns job =
        st.graph.pinning ⟨pool, ns, job.image⟩ (some snap) := by
      simp [Graph.jobScope, hkind, hsnap]
    rw [hrun]
    exact exec_runSnap pool ns hkind hsnap hw (hscope ▸ hfrees)
  · have hrun : run pool ns job = runImage ⟨pool, ns, job.image⟩ := by simp [run, hkind]
    have hscope : st.graph.jobScope pool ns job = st.graph.pinning ⟨pool, ns, job.image⟩ none := by
      simp [Graph.jobScope, hkind]
    rw [hrun]
    exact exec_runImage pool ns hkind hw (hscope ▸ hfrees)

end Completion

section Attempts

variable {pool ns : String} {job : Job}

/-- A worker on the job that ended somewhere, or died, with the job file still there. -/
def Attempt (pool ns : String) (job : Job) (g g' : Graph) : Prop :=
  ∃ choices p st, Run.run workerStep (main pool ns (some job), { graph := g }) choices =
    some (p, st) ∧
    Run.Along workerStep truthfully (main pool ns (some job), { graph := g }) choices ∧
    st.jobFile = true ∧ st.graph = g'

/-- `run` has returned: what is left of `main` is to unlink the job file, or nothing. -/
def Returned (p : Py Nat) : Prop := p.firstCall = some .unlink ∨ p = .ret 0

/-- Every state of a run of `main`. -/
theorem main_reached {start : Graph} {choices : List Choice} {p : Py Nat} {st : State}
    (hrun : Run.run workerStep (main pool ns (some job), { graph := start }) choices = some (p, st))
    (htruthful :
      Run.Along workerStep truthfully (main pool ns (some job), { graph := start }) choices) :
    (Returned p → st.graph.Gone pool ns job ∧ Finishes pool ns job start st.graph) ∧
      (¬Returned p → Kept pool ns job start st) ∧
      ∀ child, p.firstCall = some (.request (.flatten child)) →
        ∃ info, (child, info) ∈ st.inspected ∧ info.freeing = true := by
  have hsafe := safe_along (safe_main rfl ⟨rfl, .refl⟩) htruthful hrun
  cases p with
  | ret status =>
      refine ⟨fun hreturned => ?_, fun hnot => ?_, nofun⟩
      · obtain hcall | hzero := hreturned
        · cases hcall
        · cases hzero
          exact hsafe.1 rfl
      · exact hsafe.2 fun hzero => hnot (.inr (by rw [hzero]))
  | raise error => exact hsafe.elim
  | call c resume =>
      have hasserted := hsafe.asserted rfl
      refine ⟨fun hreturned => ?_, fun hnot => ?_, fun child hcall => ?_⟩
      · obtain hcall | hzero := hreturned
        · cases hcall
          exact ⟨hasserted.gone, hasserted.finishes⟩
        · cases hzero
      · cases c with
        | unlink => exact absurd (.inl rfl) hnot
        | imageInfo spec => exact hasserted
        | request r => cases r <;> first | exact hasserted | exact hasserted.1
      · cases hcall
        exact hasserted.2

/-- What one attempt leaves. -/
theorem Attempt.shrinks {g g' : Graph} (h : Attempt pool ns job g g') :
    g.Shrinks g' ∧ (g.WellFormed → g'.WellFormed) := by
  obtain ⟨choices, p, st, hrun, htruthful, -, rfl⟩ := h
  obtain ⟨hreturned, hkept, -⟩ := main_reached hrun htruthful
  by_cases hreturn : Returned p
  · obtain ⟨between, hcollects, hlast⟩ := (hreturned hreturn).2
    have hshrinks := (spares_of_collects hcollects).shrinks
    obtain heq | hremove := hlast
    · rw [heq]
      exact ⟨hshrinks, wellFormed_of_collects hcollects⟩
    · refine ⟨hshrinks.trans (shrinks_of_remove hremove), fun hw => ?_⟩
      exact (change_of_apply hremove).wellFormed trivial (wellFormed_of_collects hcollects hw)
  · have hcollects := (hkept hreturn).collects
    exact ⟨(spares_of_collects hcollects).shrinks, wellFormed_of_collects hcollects⟩

/-- What any number of attempts leaves. -/
theorem attempts_shrink {g g' : Graph} (h : ReflTransGen (Attempt pool ns job) g g') :
    g.Shrinks g' ∧ (g.WellFormed → g'.WellFormed) := by
  induction h with
  | refl => exact ⟨.refl g, id⟩
  | tail _ hlast ih =>
      obtain ⟨hshrinks, hwell⟩ := hlast.shrinks
      exact ⟨ih.1.trans hshrinks, fun hw => hwell (ih.2 hw)⟩

/-- The clones that the job's `run` looks at were there before. -/
theorem Graph.Shrinks.jobScope {g g' : Graph} (h : g.Shrinks g') {child : Spec}
    (hchild : child ∈ g'.jobScope pool ns job) : child ∈ g.jobScope pool ns job := by
  unfold Graph.jobScope at hchild ⊢
  split
  next hkind =>
      rw [if_pos hkind] at hchild
      cases hsnap : job.snap with
      | none => simp [hsnap] at hchild
      | some snap =>
          rw [hsnap] at hchild
          exact h.pinning hchild
  next hkind =>
      rw [if_neg hkind] at hchild
      split
      next himage =>
          rw [if_pos himage] at hchild
          exact h.pinning hchild
      next himage => simp [himage] at hchild

/-- What was reported of a clone was so at an earlier point of the run. -/
theorem inspected_before {α : Type} {p q : Py α} {st st' : State} {choices : List Choice}
    (hrun : Run.run workerStep (p, st) choices = some (q, st')) {child : Spec} {info : ImageInfo}
    (hmem : (child, info) ∈ st'.inspected) :
    (child, info) ∈ st.inspected ∨ ∃ n between at', Run.run workerStep (p, st) (choices.take n) =
      some (between, at') ∧ at'.graph.info .rest child = some info := by
  induction choices generalizing p st with
  | nil =>
      cases hrun
      exact .inl hmem
  | cons choice rest ih =>
      obtain ⟨⟨p₁, st₁⟩, hstep, hrest⟩ := Run.run_cons_iff.mp hrun
      obtain hbefore | ⟨n, between, at', htake, hinfo⟩ := ih hrest
      · obtain ⟨c, resume, reply, rfl, hhandle, rfl⟩ := Prog.next_eq_some_iff.mp hstep
        cases choice with
        | fail error =>
            cases c <;> cases hhandle <;> exact .inl hbefore
        | ok =>
            cases c with
            | unlink =>
                cases hhandle
                exact .inl hbefore
            | request r =>
                obtain ⟨graph, -, hpair⟩ := Option.map_eq_some_iff.mp hhandle
                cases hpair
                exact .inl hbefore
            | imageInfo spec =>
                obtain ⟨report, hreport, hpair⟩ := Option.map_eq_some_iff.mp hhandle
                cases hpair
                obtain hnew | hold := List.mem_cons.mp hbefore
                · cases hnew
                  exact .inr ⟨0, _, st, rfl, hreport⟩
                · exact .inl hold
      · exact .inr ⟨n + 1, between, at', Run.run_cons_iff.mpr ⟨_, hstep, htake⟩, hinfo⟩

/-- A worker that nothing stands in the way of removes the object and its job file. -/
theorem exec_main {g : Graph} (hnames : Names job) (hw : g.WellFormed)
    (hfrees : ∀ child ∈ g.jobScope pool ns job, g.Frees child) :
    ∃ final, (main pool ns (some job)).exec (answer .rest) { graph := g } = some (.ok 0, final) ∧
      final.graph.Gone pool ns job ∧ final.jobFile = false := by
  obtain ⟨after, hexec, hfile⟩ :=
    @exec_run { graph := g } pool ns job hnames hw hfrees
  have hdone : Done pool ns job g after := by
    have hsafe := @safe_run pool ns job g { graph := g } rfl ⟨rfl, .refl⟩
    exact (hsafe.exec (fun s c reply next hanswer => handle_of_answer hanswer) hexec).1 () rfl
  have hreturned : (tryCatch (do run pool ns job; return true) fun _ => pure false : Py Bool).exec
      (answer .rest) { graph := g } = some (.ok true, after) :=
    Prog.exec_tryCatch (Prog.exec_bind hexec)
  have hunlink : answer .rest after .unlink = some (.ok (), { after with jobFile := false }) := rfl
  refine ⟨{ after with jobFile := false }, (Prog.exec_bind hreturned).trans ?_, hdone.gone, rfl⟩
  exact Prog.exec_bind (Prog.exec_tryCatch (Prog.exec_perform hunlink))

/-- A job that was tried any number of times and is run again, the worker dying at any point. Where
`run` returns, the object is gone, and only then the job file is unlinked; otherwise the job file is
kept, and the cluster is as before but for flattened clones of the object and for snapshots that the
job covers. A clone is flattened only where it was reported, at an earlier point of the run, to have
`deep-flatten` or no snapshots. And wherever the attempts stopped, one more run that nothing stands
in the way of removes the object, if every image that refers to it, itself or by a snapshot of its
own, has `deep-flatten` or no snapshots. -/
theorem collect_exact (pool ns : String) (job : Job) {first start : Graph}
    (hprior : ReflTransGen (Attempt pool ns job) first start) :
    (∀ choices st, Run.Along workerStep truthfully (run pool ns job, { graph := start }) choices →
      Run.run workerStep (run pool ns job, { graph := start }) choices = some (.ret (), st) →
      st.graph.Gone pool ns job) ∧
    ∀ choices p st,
      Run.Along workerStep truthfully (main pool ns (some job), { graph := start }) choices →
      Run.run workerStep (main pool ns (some job), { graph := start }) choices = some (p, st) →
      (st.jobFile = false → st.graph.Gone pool ns job) ∧
      (Returned p → st.graph.Gone pool ns job) ∧
      (¬Returned p → st.jobFile = true ∧
        ReflTransGen (Collects pool ns job (start.jobScope pool ns job)) start st.graph ∧
        Spares pool ns job start st.graph) ∧
      (∀ child, p.firstCall = some (.request (.flatten child)) → ∃ n between at' info,
        Run.run workerStep (main pool ns (some job), { graph := start }) (choices.take n) =
          some (between, at') ∧
        at'.graph.info .rest child = some info ∧ info.freeing = true) ∧
      (Names job → first.WellFormed →
        (∀ child ∈ first.jobScope pool ns job, first.Frees child) → st.jobFile = true →
        ∃ final, (main pool ns (some job)).exec (answer .rest) { graph := st.graph } =
            some (.ok 0, final) ∧
          final.graph.Gone pool ns job ∧ final.jobFile = false) := by
  refine ⟨fun choices st htruthful hrun => ?_, fun choices p st htruthful hrun => ?_⟩
  · exact (safe_along (safe_run rfl ⟨rfl, .refl⟩) htruthful hrun).gone
  obtain ⟨hreturned, hkept, hflatten⟩ := main_reached hrun htruthful
  refine ⟨fun hfile => ?_, fun hreturn => (hreturned hreturn).1, fun hnot => ?_,
    fun child hcall => ?_, fun hnames hw hfrees hfile => ?_⟩
  · by_cases hreturn : Returned p
    · exact (hreturned hreturn).1
    · rw [(hkept hreturn).jobFile] at hfile
      cases hfile
  · have hcollects := (hkept hnot).collects
    exact ⟨(hkept hnot).jobFile, hcollects, spares_of_collects hcollects⟩
  · obtain ⟨info, hmem, hfreeing⟩ := hflatten child hcall
    obtain hnone | ⟨n, between, at', htake, hinfo⟩ := inspected_before hrun hmem
    · cases hnone
    · exact ⟨n, between, at', info, htake, hinfo, hfreeing⟩
  · have hattempts := hprior.tail ⟨choices, p, st, hrun, htruthful, hfile, rfl⟩
    obtain ⟨hshrinks, hwell⟩ := attempts_shrink hattempts
    exact exec_main hnames (hwell hw)
      fun child hchild => hshrinks.frees (hfrees child (hshrinks.jobScope hchild))

/-- A trashed image with a protected snapshot and a clone of that. -/
def trashed : Graph where
  images := (AList.insert (⟨"rbd", "", "xcp-trash-1"⟩ : Spec)
      { id := 0, size := 1, snapshots :=
        [{ id := 1, name := "xcp-clonebase-1", size := 1, isProtected := true
           content := fun _ => 0 }] } ∅).insert ⟨"rbd", "", "clone"⟩
      { id := 2, size := 1, parent := some ⟨0, 1⟩ }
  nextId := 3

/-- The two images of it. -/
theorem trashed_lookup {spec : Spec} {img : Image} (h : trashed.images.lookup spec = some img) :
    spec.image ≠ "" ∧ ((img.snapshots = [] ∧ img.parent ≠ none) ∨
      (img.deep = false ∧ (img.snapshots.map Snap.name).Nodup ∧ spec.image = "xcp-trash-1")) := by
  by_cases hclone : spec = ⟨"rbd", "", "clone"⟩
  · subst hclone
    cases (AList.lookup_insert _).symm.trans h
    simp
  · rw [trashed, AList.lookup_insert_ne hclone] at h
    by_cases htrash : spec = ⟨"rbd", "", "xcp-trash-1"⟩
    · subst htrash
      cases (AList.lookup_insert _).symm.trans h
      simp [Image.deep]
    · rw [AList.lookup_insert_ne htrash, AList.lookup_empty] at h
      cases h

/-- It is well formed. -/
theorem trashed_wellFormed : trashed.WellFormed := by
  refine ⟨fun spec hspec => ?_, fun spec img himg => ?_, fun spec img himg hdeep hparent => ?_⟩
  · obtain ⟨img, himg⟩ := Option.isSome_iff_exists.mp (AList.lookup_isSome.mpr hspec)
    exact (trashed_lookup himg).1
  · obtain ⟨hempty, -⟩ | ⟨-, hnodup, -⟩ := (trashed_lookup himg).2
    · rw [hempty]
      exact List.nodup_nil
    · exact hnodup
  · obtain ⟨-, hclone⟩ | ⟨hnot, -⟩ := (trashed_lookup himg).2
    · exact absurd hparent hclone
    · rw [hnot] at hdeep
      cases hdeep

/-- A worker that dies before it removes the snapshot, and the next one, which finishes. -/
theorem collect_exact_trashed :
    ∃ start, Attempt "rbd" "" { kind := "image", image := "xcp-trash-1" } trashed start ∧
      ∃ final, (main "rbd" "" (some { kind := "image", image := "xcp-trash-1" })).exec
      (answer .rest)
          { graph := start } = some (.ok 0, final) ∧
        final.graph.Gone "rbd" "" { kind := "image", image := "xcp-trash-1" } ∧
        final.jobFile = false := by
  have hreached :
      ((Run.run workerStep (main "rbd" "" (some { kind := "image", image := "xcp-trash-1" }),
      { graph := trashed }) (List.replicate 5 .ok)).any fun w => w.2.jobFile) = true := by
    decide +kernel
  obtain ⟨⟨p, st⟩, hrun, hfile⟩ := (Option.any_eq_true _ _).mp hreached
  have htruthful : Run.Along workerStep truthfully
      (main "rbd" "" (some { kind := "image", image := "xcp-trash-1" }), { graph := trashed })
      (List.replicate 5 .ok) := by
    have hok : ∀ choice ∈ List.replicate 5 Choice.ok, choice = .ok :=
      fun choice hchoice => List.eq_of_mem_replicate hchoice
    refine (Run.along_of_forall hok).mono fun w choice hchoice c _ error herror => ?_
    cases hchoice.symm.trans herror
  have hclone : trashed.jobScope "rbd" "" { kind := "image", image := "xcp-trash-1" } =
      [⟨"rbd", "", "clone"⟩] := by
    decide +kernel
  refine ⟨st.graph, ⟨_, p, st, hrun, htruthful, hfile, rfl⟩, ?_⟩
  refine ((collect_exact "rbd" "" _ .refl).2 _ p st htruthful hrun).2.2.2.2 (.inr rfl)
    trashed_wellFormed (fun child hchild img himg => ?_) hfile
  rw [hclone, List.mem_singleton] at hchild
  subst hchild
  obtain ⟨hempty, -⟩ | ⟨-, -, hname⟩ := (trashed_lookup himg).2
  · exact .inr hempty
  · exact absurd hname (by decide)

/-- The clone was flattened without `deep-flatten` when it had a snapshot: it is flat, and its
snapshot still refers to the trashed image. -/
def pinned : Graph where
  images := trashed.images.insert ⟨"rbd", "", "clone"⟩
    { id := 2, size := 1, snapshots :=
        [{ id := 3, name := "daily", size := 1, content := fun _ => 0, parent := some ⟨0, 1⟩ }] }
  nextId := 5

/-- No clone of the trashed image is unflattened, no call fails but what Ceph refuses, and the
worker gives up with everything as it was: it passes the flat clone over, and its snapshot keeps
Ceph from removing the parent. So does every later worker. -/
theorem flat_clone_pins :
    pinned.WellFormed ∧ Names { kind := "image", image := "xcp-trash-1" } ∧
      (∀ child ∈ pinned.jobScope "rbd" "" { kind := "image", image := "xcp-trash-1" },
        ∀ img, pinned.images.lookup child = some img → img.parent ≠ none →
          img.deep = true ∨ img.snapshots = []) ∧
      ∃ final, (main "rbd" "" (some { kind := "image", image := "xcp-trash-1" })).exec
      (answer .rest)
          { graph := pinned } = some (.ok 1, final) ∧ final.graph = pinned ∧
        ¬final.graph.Gone "rbd" "" { kind := "image", image := "xcp-trash-1" } := by
  refine ⟨trashed_wellFormed.insert (by simp) (by simp) (by simp [Image.deep]), .inr rfl, ?_, ?_⟩
  · intro child hchild img himg hparent
    have hscope : pinned.jobScope "rbd" "" { kind := "image", image := "xcp-trash-1" } =
        [⟨"rbd", "", "clone"⟩] := by
      decide +kernel
    rw [hscope, List.mem_singleton] at hchild
    subst hchild
    cases (AList.lookup_insert _).symm.trans himg
    exact absurd rfl hparent
  · obtain ⟨final, hexec, hgraph⟩ : ∃ final,
        (main "rbd" "" (some { kind := "image", image := "xcp-trash-1" })).exec (answer .rest)
          { graph := pinned } = some (.ok 1, final) ∧ final.graph = pinned := ⟨_, rfl, rfl⟩
    refine ⟨final, hexec, hgraph, fun hgone => ?_⟩
    have htrash : (⟨"rbd", "", "xcp-trash-1"⟩ : Spec) ∈ pinned.images := by decide
    rw [hgraph] at hgone
    exact hgone htrash

end Attempts

end XcpCephRbd.Gc
