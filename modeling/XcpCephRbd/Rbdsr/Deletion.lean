import XcpCephRbd.Gc.Undo
import XcpCephRbd.Rbdsr.Inventory

/-!
# What a deletion leaves for a scan

`CephRBDVDI.delete` where Ceph grants what it can. A snapshot is removed, or renamed into the trash
where it has clones; so is an image. Where `delete` returns, the VDI is out of the inventory and its
size out of the sum, on either way: the errors that its handler swallows say that something does not
exist, and what it works on does.
-/

namespace XcpCephRbd.Rbdsr

open Fault Prog
open Gc (Graph Image Req Snap Spec)
open Volume (BackendError Exc uuidMatch trashPrefix)

/-- The host makes these UUIDs, and does what else it is asked. -/
def hostOf (uuids : Nat → String) (time : Nat) (_ : Gc.Cluster) : Gc.OpCall → Gc.OpChoice
  | .call .uuid4 => .fresh (uuids time)
  | _ => .ok

/-- The error does not say that something does not exist. -/
def Present (e : Exc) : Prop := ∀ b, e = .backend b → b.notFound = false

theorem present_backend {b : BackendError} (h : b.notFound = false) : Present (.backend b) := by
  intro b' heq
  cases heq
  exact h

/-- A snapshot of an image is gone. -/
structure Dropped (sr : Gc.Sr) (base snap : String) (img : Image) (g g' : Graph) : Prop where
  inventory : inventory sr g' =
    Function.update (inventory sr g) base (some ((entryOf img).drop snap))
  total : total sr g' + (entryOf img).weight = total sr g + ((entryOf img).drop snap).weight
  wellFormed : g.WellFormed → g'.WellFormed

/-- An image is gone. -/
structure Deleted (sr : Gc.Sr) (uuid : String) (img : Image) (g g' : Graph) : Prop where
  inventory : inventory sr g' = Function.update (inventory sr g) uuid none
  total : total sr g' + (entryOf img).weight = total sr g
  wellFormed : g.WellFormed → g'.WellFormed

section Inventories

variable {sr : Gc.Sr} {base snap : String} {img : Image} {g g' g'' : Graph}

/-- A snapshot that was dropped from what is the same to a scan. -/
theorem Dropped.after {img' : Image} (h : SameToScan sr g g') (hentry : entryOf img' = entryOf img)
    (h' : Dropped sr base snap img' g' g'') : Dropped sr base snap img g g'' := by
  obtain ⟨hinventory, htotal, hw⟩ := h'
  rw [hentry, h.inventory] at hinventory
  rw [hentry, h.total] at htotal
  exact ⟨hinventory, htotal, hw ∘ h.wellFormed⟩

/-- A snapshot that is no VDI is dropped without a trace. -/
theorem Dropped.sameToScan (h : Dropped sr base snap img g g') (huuid : uuidMatch base = true)
    (himg : g.images.lookup (sr.spec base) = some img) (hsnap : uuidMatch snap = false) :
    SameToScan sr g g' := by
  obtain ⟨hinventory, htotal, hw⟩ := h
  rw [drop_other hsnap] at hinventory htotal
  refine ⟨?_, by omega, hw⟩
  rw [hinventory, ← inventory_of_lookup himg huuid, Function.update_eq_self]

/-- An image that was deleted from what is the same to a scan. -/
theorem Deleted.after {img' : Image} (h : SameToScan sr g g') (hentry : entryOf img' = entryOf img)
    (h' : Deleted sr base img' g' g'') : Deleted sr base img g g'' := by
  obtain ⟨hinventory, htotal, hw⟩ := h'
  rw [h.inventory] at hinventory
  rw [hentry, h.total] at htotal
  exact ⟨hinventory, htotal, hw ∘ h.wellFormed⟩

/-- An image that is set to one without the snapshot. -/
theorem dropped_insert {img' : Image} (huuid : uuidMatch base = true)
    (himg : g.images.lookup (sr.spec base) = some img)
    (hentry : entryOf img' = (entryOf img).drop snap) {nextId : Nat}
    (hw : g.WellFormed →
      Graph.WellFormed { images := g.images.insert (sr.spec base) img', nextId := nextId }) :
    Dropped sr base snap img g
      { images := g.images.insert (sr.spec base) img', nextId := nextId } := by
  refine ⟨?_, ?_, hw⟩
  · rw [inventory_insert, if_pos huuid, hentry]
  · have hsum := total_insert himg img' nextId
    rwa [if_pos huuid, if_pos huuid, hentry] at hsum

/-- An image that is removed. -/
theorem deleted_of_remove (huuid : uuidMatch base = true)
    (himg : g.images.lookup (sr.spec base) = some img)
    (h : g.apply (.remove (sr.spec base)) = some g') : Deleted sr base img g g' := by
  have hchange := Gc.change_of_apply h
  refine ⟨?_, ?_, hchange.wellFormed trivial⟩
  · cases hchange with
    | edit _ hedit => cases hedit
    | remove _ _ => exact inventory_erase g base g.nextId
  · cases hchange with
    | edit _ hedit => cases hedit
    | remove _ _ =>
        have hsum := total_erase himg g.nextId
        rwa [if_pos huuid] at hsum

/-- An image that is renamed into the trash. -/
theorem deleted_of_rename {trash : String} (huuid : uuidMatch base = true)
    (himg : g.images.lookup (sr.spec base) = some img)
    (h : g.apply (.imageRename (sr.spec base) (trashPrefix ++ trash)) = some g') :
    Deleted sr base img g g' := by
  have hchange := Gc.change_of_apply h
  have hnamed : Req.Named (.imageRename (sr.spec base) (trashPrefix ++ trash)) := by
    intro hempty
    have hlength := congrArg String.length hempty
    simp [trashPrefix] at hlength
  have htrash : uuidMatch (trashPrefix ++ trash) = false :=
    Gc.uuidMatch_of_trash (Gc.isTrash_append trash)
  have hrenamed : ∃ gone : Graph, gone = { g with images := g.images.erase (sr.spec base) } ∧
      sr.spec (trashPrefix ++ trash) ∉ gone.images ∧
      g' = { gone with images := gone.images.insert (sr.spec (trashPrefix ++ trash)) img } := by
    cases hchange with
    | edit _ hedit => cases hedit
    | @rename _ _ img' himg' hnew =>
        cases himg.symm.trans himg'
        exact ⟨_, rfl, fun hmem => hnew (AList.mem_erase.mp hmem).2, rfl⟩
  obtain ⟨gone, hgone, hnew, rfl⟩ := hrenamed
  have hunseen : Function.update (inventory sr gone) (trashPrefix ++ trash) none =
      inventory sr gone := by
    rw [Function.update_eq_self_iff, inventory, htrash]
    rfl
  refine ⟨?_, ?_, hchange.wellFormed hnamed⟩
  · rw [inventory_insert, htrash, if_neg Bool.false_ne_true, hunseen, hgone]
    exact inventory_erase g base g.nextId
  · have hsum := total_new hnew img gone.nextId
    have herase := total_erase himg g.nextId
    rw [htrash, if_neg Bool.false_ne_true, Nat.add_zero] at hsum
    rw [if_pos huuid] at herase
    rw [hsum, hgone]
    exact herase

end Inventories

/-! ## The calls -/

section Calls

variable {shape : Gc.Shape} {sr : Gc.Sr} {uuids : Nat → String} {error : Exc}
  {n t : Nat} {w : Gc.Cluster} {s : Armed Gc.Cluster}

/-- A request about what exists is granted, or Ceph does not say that it does not exist. -/
theorem of_request {c : Gc.OpCall} {r : Req} {out : Except Exc c.Result}
    (h : (Gc.perform c).exec (Gc.faulty shape sr (hostOf uuids) error n) ⟨w, t, false⟩ =
      some (out, s)) (hc : Gc.isBackend c = true) (hreq : Gc.reqOf sr c = some r)
    (hfound : w.graph.found r = true) :
    (∃ result w', out = .ok result ∧ w.graph.apply r = some w'.graph ∧
      s = ⟨w', t + 1, false⟩) ∨
    ∃ b, out = .error (.backend b) ∧ b.notFound = false ∧ s = ⟨w, t + 1, false⟩ := by
  cases heffect : Gc.opEffect shape sr w c with
  | some pair =>
      obtain ⟨result, w'⟩ := pair
      cases (Gc.run_grant hc (.inl rfl) heffect).symm.trans h
      rcases Gc.opEffect_graph heffect with ⟨r', hreq', happly⟩ | ⟨hnone, -⟩
      · cases hreq.symm.trans hreq'
        exact .inl ⟨result, w', rfl, happly, rfl⟩
      · cases hreq.symm.trans hnone
  | none =>
      cases (Gc.run_refuse hc (.inl rfl) heffect).symm.trans h
      refine .inr ⟨_, rfl, ?_, rfl⟩
      have hop : Gc.opFound sr w c = w.graph.found r := by
        cases c with
        | call c => cases c <;> cases hreq <;> rfl
        | imageRename image newName =>
            cases hreq
            rfl
        | clone image snap dst features =>
            cases hreq
            rfl
      rw [Gc.refused, hop, hfound]
      rfl

/-- A new UUID leaves the cluster as it is. -/
theorem of_uuid4 {out : Except Exc String}
    (h : Gc.uuid4.exec (Gc.faulty shape sr (hostOf uuids) error n) ⟨w, t, false⟩ =
      some (out, s)) :
    s = ⟨w, t + 1, false⟩ ∧ ((∃ uuid, out = .ok uuid) ∨ ∃ e, out = .error e ∧ Present e) := by
  have hanswer : Gc.granted shape sr (hostOf uuids) t w (.call .uuid4) =
      if Volume.isUuid (uuids t).toList then some (.ok (uuids t), w)
      else some (.error (.backend { message := "refused", notFound := false }), w) := by
    rw [Gc.granted, Gc.opAnswer, if_neg (by decide)]
    by_cases huuid : Volume.isUuid (uuids t).toList = true
    · simp only [hostOf, Gc.opHandle, huuid, if_true]
    · simp only [hostOf, Gc.opHandle, huuid, Gc.opFound, Gc.reqOf]
      rfl
  have hreply := of_exec_perform h
  by_cases huuid : Volume.isUuid (uuids t).toList = true
  · rw [if_pos huuid] at hanswer
    cases (strike_miss (.inl rfl) hanswer).symm.trans hreply
    exact ⟨rfl, .inl ⟨_, rfl⟩⟩
  · rw [if_neg huuid] at hanswer
    cases (strike_miss (.inl rfl) hanswer).symm.trans hreply
    refine ⟨rfl, .inr ⟨_, rfl, fun b hb => ?_⟩⟩
    cases hb
    rfl

/-- A job that is queued leaves the images as they are. -/
theorem of_gcSpawn {job : Volume.Job} {out : Except Exc Unit}
    (h : (Gc.perform (.call (.gcSpawn job))).exec (Gc.faulty shape sr (hostOf uuids) error n)
      ⟨w, t, false⟩ = some (out, s)) :
    out = .ok () ∧ s.state.graph = w.graph := by
  have hanswer : Gc.granted shape sr (hostOf uuids) t w (.call (.gcSpawn job)) =
      some (.ok (), { w with jobs := w.jobs ++ [job] }) := by
    rw [Gc.granted, Gc.opAnswer, if_neg (by simp [Gc.isBackend])]
    rfl
  cases (strike_miss (.inl rfl) hanswer).symm.trans (of_exec_perform h)
  exact ⟨rfl, rfl⟩

/-- The report on an image that exists. -/
theorem run_imageInfo {image : String} {img : Image}
    (himg : w.graph.images.lookup (sr.spec image) = some img) :
    (Gc.perform (.call (.imageInfo image))).exec (Gc.faulty shape sr (hostOf uuids) error n)
      ⟨w, t, false⟩ = some (.ok (w.graph.volumeInfo shape image img), ⟨w, t + 1, false⟩) := by
  refine Gc.run_grant rfl (.inl rfl) ?_
  rw [Gc.opEffect, himg]
  rfl

/-- Where the body of a deletion raises nothing that its handler swallows, the body returned. -/
theorem of_swallowed {body : Gc.Op Unit} {st : Armed Gc.Cluster}
    (h : (Gc.catchBackend body fun error =>
      if error.notFound then pure () else throw (.other (Gc.deleteError error.message))).exec
        (Gc.faulty shape sr (hostOf uuids) error n) st = some (.ok (), s))
    (hpresent : ∀ e s', body.exec (Gc.faulty shape sr (hostOf uuids) error n) st =
      some (.error e, s') → Present e) :
    body.exec (Gc.faulty shape sr (hostOf uuids) error n) st = some (.ok (), s) := by
  rcases of_exec_tryCatch h with ⟨value, hok, -⟩ | ⟨e, between, hraised, hhandler⟩
  · exact hok
  · have he := hpresent e between hraised
    cases e with
    | backend b =>
        dsimp only at hhandler
        rw [he b rfl] at hhandler
        cases hhandler
    | unimplemented | calledProcess | other => cases hhandler

end Calls

/-! ## Snapshots -/

section Snapshots

variable {shape : Gc.Shape} {sr : Gc.Sr} {uuids : Nat → String} {error : Exc}
  {n t : Nat} {w : Gc.Cluster} {s : Armed Gc.Cluster} {base snap : String} {img : Image}

/-- Unprotecting a snapshot, whether Ceph grants it or not, leaves the image with its snapshots. -/
theorem of_unprotect {rest : Gc.Op Unit} {out : Except Exc Unit}
    (h : (do
      Gc.catchBackend (Gc.perform (.call (.snapSetProtected base snap false))) fun _ => pure ()
      rest : Gc.Op Unit).exec (Gc.faulty shape sr (hostOf uuids) error n) ⟨w, t, false⟩ =
        some (out, s))
    (himg : w.graph.images.lookup (sr.spec base) = some img) (hnamed : img.named snap ≠ []) :
    ∃ w' img', rest.exec (Gc.faulty shape sr (hostOf uuids) error n) ⟨w', t + 1, false⟩ =
        some (out, s) ∧
      w'.graph.images.lookup (sr.spec base) = some img' ∧ entryOf img' = entryOf img ∧
      img'.snapshots.map Snap.name = img.snapshots.map Snap.name ∧
      SameToScan sr w.graph w'.graph := by
  have hfound : w.graph.found (.snapSetProtected (sr.spec base) snap false) = true := by
    simpa [Graph.found, himg, List.isEmpty_iff] using hnamed
  have hkept : ∀ after, (Gc.perform (.call (.snapSetProtected base snap false))).exec
      (Gc.faulty shape sr (hostOf uuids) error n) ⟨w, t, false⟩ = some (.ok (), after) →
      ∃ w' img', after = ⟨w', t + 1, false⟩ ∧
        w'.graph.images.lookup (sr.spec base) = some img' ∧ entryOf img' = entryOf img ∧
        img'.snapshots.map Snap.name = img.snapshots.map Snap.name ∧
        SameToScan sr w.graph w'.graph := by
    intro after hrun
    rcases of_request hrun rfl rfl hfound with ⟨_, w', -, happly, rfl⟩ | ⟨b, hb, -⟩
    · obtain ⟨img₀, img', himg₀, hedit, hgraph⟩ := of_edit _ happly
      cases himg.symm.trans himg₀
      obtain ⟨-, -, rfl⟩ := Gc.edit_snapSetProtected hedit
      have hentry : entryOf (img.mapSnap snap fun s => { s with isProtected := false }) =
          entryOf img := entryOf_mapSnap (fun _ => rfl) fun _ => rfl
      refine ⟨w', _, rfl, ?_, hentry, ?_, ?_⟩
      · rw [hgraph]
        exact AList.lookup_insert _
      · simp only [Image.mapSnap, List.map_map]
        refine List.map_congr_left fun s _ => ?_
        dsimp only [Function.comp_apply]
        split <;> rfl
      · have hw := (Gc.change_of_apply happly).wellFormed trivial
        rw [hgraph] at hw ⊢
        exact sameToScan_insert himg hentry hw
    · cases hb
  rcases of_exec_bind h with ⟨_, between, hfirst, hrest⟩ | ⟨e, hfirst, -⟩
  · rcases of_exec_tryCatch hfirst with ⟨_, hok, -⟩ | ⟨e, after, hraised, hhandler⟩
    · obtain ⟨w', img', rfl, himg', hentry, hnames, hsame⟩ := hkept between hok
      exact ⟨w', img', hrest, himg', hentry, hnames, hsame⟩
    · rcases of_request hraised rfl rfl hfound with ⟨_, _, hok, -⟩ | ⟨b, hb, -, rfl⟩
      · cases hok
      · cases hb
        cases hhandler
        exact ⟨w, img, hrest, himg, rfl, rfl, .refl sr w.graph⟩
  · rcases of_exec_tryCatch hfirst with ⟨_, -, hok⟩ | ⟨e', after, hraised, hhandler⟩
    · cases hok
    · rcases of_request hraised rfl rfl hfound with ⟨_, _, hok, -⟩ | ⟨b, hb, -, -⟩
      · cases hok
      · cases hb
        cases hhandler

/-- The names of the snapshots of an image tell whether it has one of a name. -/
theorem named_iff {snap : String} : img.named snap ≠ [] ↔ snap ∈ img.snapshots.map Snap.name := by
  simp only [Image.named, ne_eq, List.filter_eq_nil_iff, beq_iff_eq, List.mem_map]
  push Not
  exact Iff.rfl

/-- A snapshot that exists is removed, or the error does not say that it does not exist. -/
theorem of_removeSnap {out : Except Exc Unit}
    (h : (Gc.lift (Volume.removeSnap base snap)).exec (Gc.faulty shape sr (hostOf uuids) error n)
      ⟨w, t, false⟩ = some (out, s)) (huuid : uuidMatch base = true)
    (himg : w.graph.images.lookup (sr.spec base) = some img)
    (hnamed : snap ∈ img.snapshots.map Snap.name) :
    (out = .ok () ∧ ∃ w' t' img', s = ⟨w', t', false⟩ ∧
      w'.graph.images.lookup (sr.spec base) = some img' ∧
      img'.snapshots.map Snap.name = (img.snapshots.map Snap.name).filter (· != snap) ∧
      entryOf img' = (entryOf img).drop snap ∧ Dropped sr base snap img w.graph w'.graph) ∨
    ∃ e, out = .error e ∧ Present e := by
  rw [Volume.removeSnap, Gc.lift_bind, Gc.lift_exceptBackend, Gc.lift_perform] at h
  obtain ⟨w₁, img₁, hrest, himg₁, hentry₁, hnames₁, hsame⟩ :=
    of_unprotect h himg (named_iff.mpr hnamed)
  rw [Gc.lift_perform] at hrest
  have hfound : w₁.graph.found (.snapRemove (sr.spec base) snap) = true := by
    have hnamed₁ : img₁.named snap ≠ [] := named_iff.mpr (hnames₁ ▸ hnamed)
    simpa [Graph.found, himg₁, List.isEmpty_iff] using hnamed₁
  rcases of_request hrest rfl rfl hfound with ⟨_, w₂, rfl, happly, rfl⟩ | ⟨b, rfl, hb, -⟩
  · obtain ⟨img₀, img₂, himg₀, hedit, hgraph⟩ := of_edit _ happly
    cases himg₁.symm.trans himg₀
    obtain ⟨-, -, rfl⟩ := Gc.edit_snapRemove hedit
    have hentry := entryOf_filter img₁ snap
    refine .inl ⟨rfl, w₂, t + 1 + 1, _, rfl, ?_, ?_, hentry.trans (by rw [hentry₁]), ?_⟩
    · rw [hgraph]
      exact AList.lookup_insert _
    · rw [← hnames₁, List.filter_map]
      rfl
    · have hw := (Gc.change_of_apply happly).wellFormed trivial
      rw [hgraph] at hw ⊢
      exact (dropped_insert huuid himg₁ hentry hw).after hsame hentry₁
  · exact .inr ⟨_, rfl, present_backend hb⟩

/-- The question whether a snapshot has clones changes nothing. -/
theorem run_snapHasChildren (shape : Gc.Shape) (uuids : Nat → String) (error : Exc)
    (n t : Nat) (snap : String) (himg : w.graph.images.lookup (sr.spec base) = some img) :
    ∃ children, (Gc.lift (Volume.snapHasChildren base snap)).exec
      (Gc.faulty shape sr (hostOf uuids) error n) ⟨w, t, false⟩ =
        some (.ok children, ⟨w, t + 1, false⟩) := by
  have hread : (Gc.lift (Volume.imageInfo base)).exec (Gc.faulty shape sr (hostOf uuids) error n)
      ⟨w, t, false⟩ = some (.ok (w.graph.volumeInfo shape base img), ⟨w, t + 1, false⟩) := by
    rw [Volume.imageInfo, Gc.lift_perform]
    exact run_imageInfo himg
  rw [Volume.snapHasChildren, Gc.lift_exceptBackend, Gc.lift_bind]
  cases hfind : (w.graph.volumeInfo shape base img).snapshots.find? fun s => s.name == snap with
  | none =>
      refine ⟨false, exec_tryCatch ((exec_bind hread).trans ?_)⟩
      rw [hfind]
      rfl
  | some found =>
      refine ⟨!found.children.isEmpty, exec_tryCatch ((exec_bind hread).trans ?_)⟩
      rw [hfind]
      rfl

/-- The renaming of a snapshot into the trash, with its job. -/
def trashSnap (base snap : String) : Gc.Op Unit := do
  let uuid ← Gc.uuid4
  Gc.perform (.call (.snapRename base snap (trashPrefix ++ uuid)))
  Gc.perform (.call (.gcSpawn
    { kind := "snap", image := base, snap := some (trashPrefix ++ uuid) }))

/-- A snapshot is renamed into the trash or removed, as it has clones or not. -/
theorem lift_releaseSnap (base snap : String) :
    Gc.lift (Volume.releaseSnap base snap) =
      Gc.lift (Volume.snapHasChildren base snap) >>= fun children =>
        if children then trashSnap base snap else Gc.lift (Volume.removeSnap base snap) := by
  rw [Volume.releaseSnap, Gc.lift_bind]
  refine congrArg _ (funext fun children => ?_)
  cases children with
  | true =>
      show Gc.lift (_ >>= _) = trashSnap base snap
      rw [Gc.lift_bind, Gc.lift_perform]
      refine congrArg _ (funext fun uuid => ?_)
      rw [Gc.lift_bind, Gc.lift_perform, Gc.lift_perform]
  | false => rfl

/-- A snapshot that has clones is renamed into the trash, or the error does not say that it does not
exist. -/
theorem of_trashSnap {out : Except Exc Unit}
    (h : (trashSnap base snap).exec (Gc.faulty shape sr (hostOf uuids) error n) ⟨w, t, false⟩ =
      some (out, s))
    (huuid : uuidMatch base = true)
    (himg : w.graph.images.lookup (sr.spec base) = some img)
    (hnamed : snap ∈ img.snapshots.map Snap.name) :
    (out = .ok () ∧ Dropped sr base snap img w.graph s.state.graph) ∨
      ∃ e, out = .error e ∧ Present e := by
  rcases of_exec_bind h with ⟨uuid, after, hnew, hrest⟩ | ⟨e, hnew, rfl⟩
  · obtain ⟨rfl, -⟩ := of_uuid4 hnew
    have hfound : w.graph.found (.snapRename (sr.spec base) snap (trashPrefix ++ uuid)) = true := by
      have hmem : img.named snap ≠ [] := named_iff.mpr hnamed
      simpa [Graph.found, himg, List.isEmpty_iff] using hmem
    rcases of_exec_bind hrest with ⟨_, after, hrename, hspawn⟩ | ⟨e, hrename, rfl⟩
    · rcases of_request hrename rfl rfl hfound with ⟨_, w', -, happly, rfl⟩ | ⟨b, hb, -⟩
      · obtain ⟨rfl, hsame⟩ := of_gcSpawn hspawn
        obtain ⟨img₀, img', himg₀, hedit, hgraph⟩ := of_edit _ happly
        cases himg.symm.trans himg₀
        obtain ⟨-, -, rfl⟩ := Gc.edit_snapRename hedit
        have htrash : uuidMatch (trashPrefix ++ uuid) = false :=
          Gc.uuidMatch_of_trash (Gc.isTrash_append uuid)
        have hw := (Gc.change_of_apply happly).wellFormed trivial
        rw [hgraph] at hw
        refine .inl ⟨rfl, ?_⟩
        rw [hsame, hgraph]
        exact dropped_insert huuid himg (entryOf_rename htrash) hw
      · cases hb
    · rcases of_request hrename rfl rfl hfound with ⟨_, _, hok, -⟩ | ⟨b, hb, hpresent, -⟩
      · cases hok
      · cases hb
        exact .inr ⟨_, rfl, present_backend hpresent⟩
  · rcases (of_uuid4 hnew).2 with ⟨uuid, hok⟩ | ⟨e', he', hpresent⟩
    · cases hok
    · cases he'
      exact .inr ⟨_, rfl, hpresent⟩

/-- A deletion of a snapshot that exists: where it returns, the snapshot is gone. -/
theorem of_delete_snap
    (h : (Gc.delete base (some snap)).exec (Gc.faulty shape sr (hostOf uuids) error n)
      ⟨w, t, false⟩ = some (.ok (), s)) (huuid : uuidMatch base = true)
    (himg : w.graph.images.lookup (sr.spec base) = some img)
    (hnamed : snap ∈ img.snapshots.map Snap.name) :
    Dropped sr base snap img w.graph s.state.graph := by
  have hbody : ∀ out after, (Gc.deleteSnap base snap).exec
      (Gc.faulty shape sr (hostOf uuids) error n) ⟨w, t, false⟩ = some (out, after) →
      (out = .ok () ∧ Dropped sr base snap img w.graph after.state.graph) ∨
        ∃ e, out = .error e ∧ Present e := by
    intro out after hrun
    obtain ⟨children, hchildren⟩ := run_snapHasChildren shape uuids error n t snap himg
    rw [Gc.deleteSnap, lift_releaseSnap, exec_bind hchildren] at hrun
    cases children with
    | true => exact of_trashSnap hrun huuid himg hnamed
    | false =>
        rcases of_removeSnap hrun huuid himg hnamed with
          ⟨rfl, w', t', img', rfl, -, -, -, h'⟩ | herror
        · exact .inl ⟨rfl, h'⟩
        · exact .inr herror
  have hreturned := of_swallowed h fun e after hrun => by
    rcases hbody _ _ hrun with ⟨hok, -⟩ | ⟨e', he', hpresent⟩
    · cases hok
    · cases he'
      exact hpresent
  rcases hbody _ _ hreturned with ⟨-, hdropped⟩ | ⟨e, he, -⟩
  · exact hdropped
  · cases he

end Snapshots

/-! ## Images -/

section Images

variable {shape : Gc.Shape} {sr : Gc.Sr} {uuids : Nat → String} {error : Exc}
  {n t : Nat} {w : Gc.Cluster} {s : Armed Gc.Cluster} {base : String} {img : Image}

/-- The removal of snapshots that are no VDIs: each exists when its turn comes. -/
theorem of_removeSnaps {snaps : List String} {out : Except Exc Unit}
    (h : (Gc.removeSnaps base snaps).exec (Gc.faulty shape sr (hostOf uuids) error n)
      ⟨w, t, false⟩ = some (out, s)) (huuid : uuidMatch base = true)
    (himg : w.graph.images.lookup (sr.spec base) = some img) (hunique : snaps.Nodup)
    (hnamed : ∀ snap ∈ snaps, snap ∈ img.snapshots.map Snap.name ∧ uuidMatch snap = false) :
    (out = .ok () ∧ ∃ w' t' img', s = ⟨w', t', false⟩ ∧
      w'.graph.images.lookup (sr.spec base) = some img' ∧ entryOf img' = entryOf img ∧
      SameToScan sr w.graph w'.graph) ∨
    ∃ e, out = .error e ∧ Present e := by
  induction snaps generalizing w t img with
  | nil =>
      cases h
      exact .inl ⟨rfl, w, t, img, rfl, himg, rfl, .refl sr w.graph⟩
  | cons snap rest ih =>
      obtain ⟨hfresh, hrest⟩ := List.nodup_cons.mp hunique
      obtain ⟨hmem, hother⟩ := hnamed snap List.mem_cons_self
      rcases of_exec_bind h with ⟨_, after, hfirst, hthen⟩ | ⟨e, hfirst, rfl⟩
      · rcases of_removeSnap hfirst huuid himg hmem with
          ⟨-, w', t', img', rfl, himg', hnames, hentry, hdropped⟩ | ⟨e, he, -⟩
        · have hstill : ∀ name ∈ rest,
              name ∈ img'.snapshots.map Snap.name ∧ uuidMatch name = false := by
            intro name hname
            obtain ⟨hin, hno⟩ := hnamed name (List.mem_cons_of_mem _ hname)
            refine ⟨?_, hno⟩
            rw [hnames, List.mem_filter]
            refine ⟨hin, bne_iff_ne.mpr ?_⟩
            rintro rfl
            exact hfresh hname
          have hsame := hdropped.sameToScan huuid himg hother
          rcases ih hthen himg' hrest hstill with
            ⟨rfl, w₂, t₂, img₂, rfl, himg₂, hentry₂, hsame₂⟩ | herror
          · rw [drop_other hother] at hentry
            exact .inl ⟨rfl, w₂, t₂, img₂, rfl, himg₂, hentry₂.trans hentry, hsame.trans hsame₂⟩
          · exact .inr herror
        · cases he
      · rcases of_removeSnap hfirst huuid himg hmem with ⟨hok, -⟩ | herror
        · cases hok
        · exact .inr herror

/-- An image that has clones is renamed into the trash. -/
theorem of_trashImage {out : Except Exc Unit}
    (h : (Gc.trashImage base).exec (Gc.faulty shape sr (hostOf uuids) error n) ⟨w, t, false⟩ =
      some (out, s)) (huuid : uuidMatch base = true)
    (himg : w.graph.images.lookup (sr.spec base) = some img) :
    (out = .ok () ∧ Deleted sr base img w.graph s.state.graph) ∨
      ∃ e, out = .error e ∧ Present e := by
  rcases of_exec_bind h with ⟨uuid, after, hnew, hrest⟩ | ⟨e, hnew, rfl⟩
  · obtain ⟨rfl, -⟩ := of_uuid4 hnew
    have hfound : w.graph.found (.imageRename (sr.spec base) (trashPrefix ++ uuid)) = true :=
      decide_eq_true (AList.lookup_isSome.mp (Option.isSome_of_eq_some himg))
    rcases of_exec_bind hrest with ⟨_, after, hrename, hspawn⟩ | ⟨e, hrename, rfl⟩
    · rcases of_request hrename rfl rfl hfound with ⟨_, w', -, happly, rfl⟩ | ⟨b, hb, -⟩
      · obtain ⟨rfl, hsame⟩ := of_gcSpawn hspawn
        refine .inl ⟨rfl, ?_⟩
        rw [hsame]
        exact deleted_of_rename huuid himg happly
      · cases hb
    · rcases of_request hrename rfl rfl hfound with ⟨_, _, hok, -⟩ | ⟨b, hb, hpresent, -⟩
      · cases hok
      · cases hb
        exact .inr ⟨_, rfl, present_backend hpresent⟩
  · rcases (of_uuid4 hnew).2 with ⟨uuid, hok⟩ | ⟨e', he', hpresent⟩
    · cases hok
    · cases he'
      exact .inr ⟨_, rfl, hpresent⟩

/-- The snapshots that belong to the user are those of the inventory. -/
theorem realSnaps_nil_iff {g : Graph} {name : String} :
    Gc.realSnaps (g.volumeInfo shape name img) = [] ↔
      ∀ s ∈ img.snapshots, uuidMatch s.name = false := by
  simp [Gc.realSnaps, Graph.volumeInfo, List.filter_eq_nil_iff]

/-- The body of the deletion of an image that exists: it is gone and had no snapshots, or the error
does not say that it does not exist. -/
theorem of_deleteImage {out : Except Exc Unit}
    (h : (Gc.deleteImage base).exec (Gc.faulty shape sr (hostOf uuids) error n) ⟨w, t, false⟩ =
      some (out, s)) (huuid : uuidMatch base = true)
    (himg : w.graph.images.lookup (sr.spec base) = some img)
    (hunique : (img.snapshots.map Snap.name).Nodup) :
    (out = .ok () ∧ (entryOf img).snaps = [] ∧ Deleted sr base img w.graph s.state.graph) ∨
      ∃ e, out = .error e ∧ Present e := by
  have hread : (Gc.infoOrGone base).exec (Gc.faulty shape sr (hostOf uuids) error n)
      ⟨w, t, false⟩ = some (.ok (some (w.graph.volumeInfo shape base img)), ⟨w, t + 1, false⟩) :=
    exec_tryCatch ((exec_bind (run_imageInfo himg)).trans rfl)
  rw [Gc.deleteImage, exec_bind hread] at h
  dsimp only at h
  split at h
  · cases h
    exact .inr ⟨_, rfl, nofun⟩
  next hreal =>
      simp only [Bool.not_eq_true', Bool.not_eq_false, List.isEmpty_iff] at hreal
      have hnone := realSnaps_nil_iff.mp hreal
      have hbare : (entryOf img).snaps = [] := by
        rw [entryOf, List.filter_eq_nil_iff.mpr fun s hs => by simp [hnone s hs]]
        rfl
      split at h
      · rcases of_trashImage h huuid himg with ⟨hok, hdeleted⟩ | herror
        · exact .inl ⟨hok, hbare, hdeleted⟩
        · exact .inr herror
      · have hnames : (w.graph.volumeInfo shape base img).snapshots.map Volume.SnapInfo.name =
            img.snapshots.map Snap.name := by
          simp only [Graph.volumeInfo, List.map_map]
          rfl
        rw [hnames] at h
        have hnamed : ∀ snap ∈ img.snapshots.map Snap.name,
            snap ∈ img.snapshots.map Snap.name ∧ uuidMatch snap = false := by
          intro snap hsnap
          obtain ⟨s, hs, rfl⟩ := List.mem_map.mp hsnap
          exact ⟨hsnap, hnone s hs⟩
        rcases of_exec_bind h with ⟨_, after, hsnaps, hremove⟩ | ⟨e, hsnaps, rfl⟩
        · rcases of_removeSnaps hsnaps huuid himg hunique hnamed with
            ⟨-, w', t', img', rfl, himg', hentry, hsame⟩ | ⟨e, he, -⟩
          · have hfound : w'.graph.found (.remove (sr.spec base)) = true :=
              decide_eq_true (AList.lookup_isSome.mp (Option.isSome_of_eq_some himg'))
            rcases of_request hremove rfl rfl hfound with
              ⟨_, w₂, rfl, happly, rfl⟩ | ⟨b, rfl, hpresent, -⟩
            · exact .inl ⟨rfl, hbare, (deleted_of_remove huuid himg' happly).after hsame hentry⟩
            · exact .inr ⟨_, rfl, present_backend hpresent⟩
          · cases he
        · rcases of_removeSnaps hsnaps huuid himg hunique hnamed with ⟨hok, -⟩ | ⟨e', he', hpresent⟩
          · cases hok
          · cases he'
            exact .inr ⟨_, rfl, hpresent⟩

/-- A deletion of an image that exists: where it returns, the image is gone, and it had no
snapshots. -/
theorem of_delete_image
    (h : (Gc.delete base none).exec (Gc.faulty shape sr (hostOf uuids) error n) ⟨w, t, false⟩ =
      some (.ok (), s)) (huuid : uuidMatch base = true)
    (himg : w.graph.images.lookup (sr.spec base) = some img)
    (hunique : (img.snapshots.map Snap.name).Nodup) :
    (entryOf img).snaps = [] ∧ Deleted sr base img w.graph s.state.graph := by
  have hreturned := of_swallowed h fun e after hrun => by
    rcases of_deleteImage hrun huuid himg hunique with ⟨hok, -⟩ | ⟨e', he', hpresent⟩
    · cases hok
    · cases he'
      exact hpresent
  rcases of_deleteImage hreturned huuid himg hunique with ⟨-, hdone⟩ | ⟨e, he, -⟩
  · exact hdone
  · cases he

end Images

end XcpCephRbd.Rbdsr
