import XcpCephRbd.Gc.Ops
import XcpCephRbd.Lib.Fault
import XcpCephRbd.Lib.Run

/-!
# What a failed snapshot or clone leaves behind

`Volume.snapshot` and `Volume.clone` with one failing call of the backend. Their handlers unprotect
the snapshot they made and remove it, both in one `try`: a snapshot that was made and could not be
protected cannot be unprotected, and stays. They handle `RbdBackendError` only: another exception of
a call, such as a timeout, skips them and leaves what was made until then. `failed_leaves_base_iff`
says that nothing else is left behind.
-/

namespace XcpCephRbd.Gc

open Fault Prog
open Volume (BackendError VolumeDict)
open Datapath (SrMeta splitKey)
open Text (truthy)

/-! ## Identifiers -/

/-- Every identifier in use was given out before the next one. -/
def Graph.Numbered (g : Graph) : Prop :=
  ∀ spec img, g.images.lookup spec = some img →
    (∀ s ∈ img.snapshots, s.id < g.nextId) ∧ ∀ link, img.linksTo link = true → link.snap < g.nextId

/-- A snapshot after an edit was there before it, or it is the new one. -/
theorem edit_ids {g : Graph} {r : Req} {img img' : Image} (h : g.edit r img = some img') {s' : Snap}
    (hs' : s' ∈ img'.snapshots) : (∃ s ∈ img.snapshots, s'.id = s.id) ∨ s'.id = g.nextId := by
  have hmap : ∀ (snap : String) (f : Snap → Snap), (∀ s, (f s).id = s.id) →
      s' ∈ (img.mapSnap snap f).snapshots → ∃ s ∈ img.snapshots, s'.id = s.id := by
    intro snap f hid hmem
    obtain ⟨s, hs, rfl⟩ := List.mem_map.mp hmem
    refine ⟨s, hs, ?_⟩
    split
    · exact hid s
    · rfl
  cases r with
  | put spec body =>
      cases h
      rw [put_snapshots] at hs'
      exact .inl ⟨s', hs', rfl⟩
  | snapCreate spec snap =>
      obtain ⟨-, rfl⟩ := edit_snapCreate h
      rcases List.mem_append.mp hs' with hold | hnew
      · exact .inl ⟨s', hold, rfl⟩
      · obtain rfl := List.mem_singleton.mp hnew
        exact .inr rfl
  | snapRemove spec snap =>
      obtain ⟨-, -, rfl⟩ := edit_snapRemove h
      exact .inl ⟨s', (List.mem_filter.mp hs').1, rfl⟩
  | snapSetProtected spec snap on =>
      obtain ⟨-, -, rfl⟩ := edit_snapSetProtected h
      exact .inl (hmap snap (fun s => { s with isProtected := on }) (fun _ => rfl) hs')
  | snapRollback spec snap =>
      obtain ⟨s, -, rfl⟩ := edit_snapRollback h
      exact .inl ⟨s', hs', rfl⟩
  | snapRename spec snap newSnap =>
      obtain ⟨-, -, rfl⟩ := edit_snapRename h
      exact .inl (hmap snap (fun s => { s with name := newSnap }) (fun _ => rfl) hs')
  | flatten spec =>
      obtain ⟨-, rfl⟩ := edit_flatten h
      dsimp only [Image.flatten] at hs'
      split at hs'
      · obtain ⟨s, hs, rfl⟩ := List.mem_map.mp hs'
        exact .inl ⟨s, hs, rfl⟩
      · exact .inl ⟨s', hs', rfl⟩
  | create spec size features => cases h
  | remove spec => cases h
  | imageRename spec newName => cases h
  | clone spec snap dst features => cases h

/-- Every request that Ceph grants keeps the identifiers below the next one. -/
theorem Change.numbered {g g' : Graph} {r : Req} (h : Change g r g') (hn : g.Numbered) :
    g'.Numbered := by
  intro spec img himg
  cases h with
  | @edit r eimg eimg' heimg hedit =>
      by_cases hother : spec = r.spec
      · subst hother
        rw [AList.lookup_insert] at himg
        cases himg
        obtain ⟨hids, hlinks⟩ := hn _ _ heimg
        constructor
        · intro s' hs'
          rcases edit_ids hedit hs' with ⟨s, hs, hid⟩ | hid
          · have hlt := hids s hs
            show s'.id < g.nextId + 1
            omega
          · show s'.id < g.nextId + 1
            omega
        · intro link hlink
          exact Nat.lt_succ_of_lt (hlinks link ((edit_links hedit).2.1 link hlink))
      · rw [AList.lookup_insert_ne hother] at himg
        obtain ⟨hids, hlinks⟩ := hn _ _ himg
        exact ⟨fun s hs => Nat.lt_succ_of_lt (hids s hs),
          fun link hlink => Nat.lt_succ_of_lt (hlinks link hlink)⟩
  | @create new size features hnew =>
      by_cases hother : spec = new
      · subst hother
        rw [AList.lookup_insert] at himg
        cases himg
        simp [linksTo_iff]
      · rw [AList.lookup_insert_ne hother] at himg
        obtain ⟨hids, hlinks⟩ := hn _ _ himg
        exact ⟨fun s hs => Nat.lt_succ_of_lt (hids s hs),
          fun link hlink => Nat.lt_succ_of_lt (hlinks link hlink)⟩
  | @remove gone rimg hrimg hempty =>
      by_cases hother : spec = gone
      · subst hother
        rw [AList.lookup_erase] at himg
        cases himg
      · rw [AList.lookup_erase_ne hother] at himg
        exact hn _ _ himg
  | @rename old newName rimg hrimg hnew =>
      by_cases hsame : spec = { old with image := newName }
      · subst hsame
        rw [AList.lookup_insert] at himg
        cases himg
        exact hn _ _ hrimg
      · rw [AList.lookup_insert_ne hsame] at himg
        by_cases hother : spec = old
        · subst hother
          rw [AList.lookup_erase] at himg
          cases himg
        · rw [AList.lookup_erase_ne hother] at himg
          exact hn _ _ himg
  | @clone src dst snap features cimg cs hcimg hcs hnew hprotected =>
      by_cases hother : spec = dst
      · subst hother
        rw [AList.lookup_insert] at himg
        cases himg
        -- the clone's only link is to a snapshot of its source, which is numbered already
        have hmem : cs ∈ cimg.snapshots := (List.mem_filter.mp (List.mem_of_head? hcs)).1
        have hlt := (hn _ _ hcimg).1 cs hmem
        refine ⟨fun s hs => absurd hs List.not_mem_nil, ?_⟩
        intro link hlink
        rcases linksTo_iff.mp hlink with hparent | ⟨s, hs, -⟩
        · cases hparent
          exact Nat.lt_succ_of_lt hlt
        · cases hs
      · rw [AList.lookup_insert_ne hother] at himg
        obtain ⟨hids, hlinks⟩ := hn _ _ himg
        exact ⟨fun s hs => Nat.lt_succ_of_lt (hids s hs),
          fun link hlink => Nat.lt_succ_of_lt (hlinks link hlink)⟩

/-- Every cluster that requests lead to from an empty one has its identifiers in order. -/
theorem numbered_of_run {g : Graph} {reqs : List Req}
    (h : Run.run Graph.apply { images := ∅ } reqs = some g) : g.Numbered := by
  refine Run.run_invariant (fun s r s' hs _ hstep => (change_of_apply hstep).numbered hs) ?_
    (Run.along_true _ _) h
  intro spec img himg
  cases himg

/-! ## A snapshot that is made and undone -/

/-- The image with one snapshot more. -/
def Image.withSnap (img : Image) (s : Snap) : Image :=
    { img with snapshots := img.snapshots ++ [s] }

/-- The snapshot that `snap_create` makes. -/
def Graph.newSnap (g : Graph) (img : Image) (snap : String) : Snap :=
  { id := g.nextId, name := snap, size := img.size, content := img.content, parent := img.parent }

/-- The images are the same. -/
def SameImages (g g' : Graph) : Prop := ∀ spec, g'.images.lookup spec = g.images.lookup spec

/-- The images of `g` are those of `g₀`, with the snapshot `s` more on the image `spec`. -/
structure Extra (g₀ g : Graph) (spec : Spec) (img : Image) (s : Snap) : Prop where
  base : g₀.images.lookup spec = some img
  unnamed : img.named s.name = []
  here : g.images.lookup spec = some (img.withSnap s)
  others : ∀ other, other ≠ spec → g.images.lookup other = g₀.images.lookup other
  unlinked : ∀ other oimg, g.images.lookup other = some oimg → ∀ link,
    oimg.linksTo link = true → link.snap ≠ s.id

section Undo

variable {g₀ g : Graph} {spec : Spec} {img : Image} {s : Snap} {snap : String}

/-- The snapshot is the only one with its name. -/
theorem named_withSnap (h : img.named s.name = []) : (img.withSnap s).named s.name = [s] := by
  rw [Image.named] at h
  rw [Image.named, Image.withSnap, List.filter_append, h]
  simp

/-- The other snapshots are left by what is done to this one. -/
theorem mapSnap_withSnap (f : Snap → Snap) (h : img.named s.name = []) :
    (img.withSnap s).mapSnap s.name f = img.withSnap (f s) := by
  have hothers : ∀ t ∈ img.snapshots, (if (t.name == s.name) = true then f t else t) = t := by
    intro t ht
    rw [Image.named, List.filter_eq_nil_iff] at h
    exact if_neg (h t ht)
  simp only [Image.mapSnap, Image.withSnap, List.map_append, List.map_cons, List.map_nil,
    beq_self_eq_true, if_true]
  rw [List.map_congr_left hothers, List.map_id']

/-- Without this one, the snapshots are those of the image. -/
theorem filter_withSnap (h : img.named s.name = []) :
    (img.withSnap s).snapshots.filter (fun t => t.name != s.name) = img.snapshots := by
  rw [Image.named, List.filter_eq_nil_iff] at h
  have hothers : img.snapshots.filter (fun t => t.name != s.name) = img.snapshots := by
    rw [List.filter_eq_self]
    intro t ht
    simpa using h t ht
  rw [Image.withSnap, List.filter_append, hothers]
  simp

/-- No image is a clone of the snapshot. -/
theorem Extra.childless (h : Extra g₀ g spec img s) (owner : Image) :
    g.hasChildren owner s = false := by
  rw [Graph.hasChildren, Bool.not_eq_false', List.isEmpty_iff, List.eq_nil_iff_forall_not_mem]
  intro child hchild
  obtain ⟨cimg, hcimg, hlink⟩ := mem_children_iff.mp hchild
  exact h.unlinked child cimg hcimg _ hlink rfl

/-- An edit of the snapshot that keeps its name, its identifier and its links. -/
theorem Extra.edited (h : Extra g₀ g spec img s) {s' : Snap} (hname : s'.name = s.name)
    (hid : s'.id = s.id) (hparent : s'.parent = s.parent) :
    Extra g₀ { images := g.images.insert spec (img.withSnap s'), nextId := g.nextId + 1 } spec img
      s' := by
  refine ⟨h.base, hname ▸ h.unnamed, AList.lookup_insert _, ?_, ?_⟩
  · intro other hother
    rw [AList.lookup_insert_ne hother]
    exact h.others other hother
  · intro other oimg hoimg link hlink
    rw [hid]
    by_cases hother : other = spec
    · subst hother
      rw [AList.lookup_insert] at hoimg
      cases hoimg
      refine h.unlinked other (img.withSnap s) h.here link ?_
      rw [linksTo_iff] at hlink ⊢
      rcases hlink with hhead | ⟨t, ht, htlink⟩
      · exact .inl hhead
      · rcases List.mem_append.mp ht with ht | ht
        · exact .inr ⟨t, List.mem_append_left _ ht, htlink⟩
        · obtain rfl := List.mem_singleton.mp ht
          exact .inr ⟨s, List.mem_append_right _ (List.mem_singleton.mpr rfl), hparent ▸ htlink⟩
    · rw [AList.lookup_insert_ne hother] at hoimg
      exact h.unlinked other oimg hoimg link hlink

/-- `snap_create` of a name that is not in use. -/
theorem Extra.of_snapCreate (hn : g.Numbered) (himg : g.images.lookup spec = some img)
    (hnamed : img.named snap = []) :
    ∃ g' s, g.apply (.snapCreate spec snap) = some g' ∧ s.name = snap ∧ s.isProtected = false ∧
      Extra g g' spec img s := by
  refine ⟨{ images := g.images.insert spec (img.withSnap (g.newSnap img snap))
            nextId := g.nextId + 1 }, g.newSnap img snap, ?_, rfl, rfl, himg, hnamed,
    AList.lookup_insert _, ?_, ?_⟩
  · simp only [Graph.apply, Req.spec, himg, Option.bind_some, Graph.edit, hnamed,
      List.isEmpty_nil, if_true, Option.map_some]
    rfl
  · intro other hother
    exact AList.lookup_insert_ne hother
  · intro other oimg hoimg link hlink
    have hlt : link.snap < g.nextId := by
      by_cases hother : other = spec
      · subst hother
        rw [AList.lookup_insert] at hoimg
        cases hoimg
        refine (hn other img himg).2 link ?_
        rw [linksTo_iff] at hlink ⊢
        rcases hlink with hhead | ⟨t, ht, htlink⟩
        · exact .inl hhead
        · rcases List.mem_append.mp ht with ht | ht
          · exact .inr ⟨t, ht, htlink⟩
          · obtain rfl := List.mem_singleton.mp ht
            exact .inl htlink
      · rw [AList.lookup_insert_ne hother] at hoimg
        exact (hn other oimg hoimg).2 link hlink
    exact Nat.ne_of_lt hlt

/-- A change of the snapshot's protection. -/
theorem Extra.setProtected (h : Extra g₀ g spec img s) {on : Bool} (hs : s.isProtected = !on) :
    ∃ g', g.apply (.snapSetProtected spec s.name on) = some g' ∧
      Extra g₀ g' spec img { s with isProtected := on } := by
  refine ⟨{ images := g.images.insert spec (img.withSnap { s with isProtected := on })
            nextId := g.nextId + 1 }, ?_, h.edited rfl rfl rfl⟩
  have hedit : g.edit (.snapSetProtected spec s.name on) (img.withSnap s) =
      some (img.withSnap { s with isProtected := on }) := by
    rw [Graph.edit, named_withSnap h.unnamed, mapSnap_withSnap _ h.unnamed, if_neg]
    have hchild := h.childless (img.withSnap s)
    cases on <;> simp [hs, hchild]
  simp only [Graph.apply, Req.spec, h.here, Option.bind_some, hedit, Option.map_some]

/-- Unprotecting the snapshot is refused while it is not protected. -/
theorem Extra.unprotect_refused (h : Extra g₀ g spec img s) (hs : s.isProtected = false) :
    g.apply (.snapSetProtected spec s.name false) = none := by
  simp only [Graph.apply, Req.spec, h.here, Option.bind_some, Graph.edit,
    named_withSnap h.unnamed]
  simp [hs]

/-- Removing the snapshot, unprotected, leaves the images as they were. -/
theorem Extra.snapRemove (h : Extra g₀ g spec img s) (hs : s.isProtected = false) :
    ∃ g', g.apply (.snapRemove spec s.name) = some g' ∧ SameImages g₀ g' := by
  have hedit : g.edit (.snapRemove spec s.name) (img.withSnap s) = some img := by
    rw [Graph.edit, named_withSnap h.unnamed, filter_withSnap h.unnamed, if_neg]
    · rfl
    · simp [hs, h.childless]
  refine ⟨{ images := g.images.insert spec img, nextId := g.nextId + 1 }, ?_, ?_⟩
  · simp only [Graph.apply, Req.spec, h.here, Option.bind_some, hedit, Option.map_some]
  · intro other
    by_cases hother : other = spec
    · subst hother
      exact (AList.lookup_insert _).trans h.base.symm
    · exact (AList.lookup_insert_ne hother).trans (h.others other hother)

/-- The same images have the same snapshot more. -/
theorem Extra.congr {g' : Graph} (h : Extra g₀ g spec img s) (hsame : SameImages g g') :
    Extra g₀ g' spec img s := by
  refine ⟨h.base, h.unnamed, (hsame spec).trans h.here, ?_, ?_⟩
  · intro other hother
    exact (hsame other).trans (h.others other hother)
  · intro other oimg hoimg
    exact h.unlinked other oimg ((hsame other).symm.trans hoimg)

/-- A new image without snapshots can be removed, and leaves the images as they were. -/
theorem remove_new {dst : Spec} {new : Image} (nextId : Nat) (hdst : dst ∉ g.images)
    (hnew : new.snapshots = []) :
    ∃ g', Graph.apply { images := g.images.insert dst new, nextId := nextId } (.remove dst) =
      some g' ∧ SameImages g g' := by
  refine ⟨{ images := (g.images.insert dst new).erase dst, nextId := nextId }, ?_, ?_⟩
  · simp only [Graph.apply, AList.lookup_insert, Option.bind_some, hnew, List.isEmpty_nil, if_true]
  · intro other
    by_cases hother : other = dst
    · subst hother
      exact (AList.lookup_erase _ _).trans (AList.lookup_eq_none.mpr hdst).symm
    · exact (AList.lookup_erase_ne hother).trans (AList.lookup_insert_ne hother)

/-- A clone of the snapshot, once it is protected. -/
theorem Extra.clone (h : Extra g₀ g spec img s) (hs : s.isProtected = true) {dst : Spec}
    (hdst : dst ∉ g.images) (features : List String) :
    ∃ new nextId, new.snapshots = [] ∧
      g.apply (.clone spec s.name dst features) =
        some { images := g.images.insert dst new, nextId := nextId } := by
  refine ⟨{ id := g.nextId, size := s.size, features := features, content := s.content
            parent := some ⟨img.id, s.id⟩ }, g.nextId + 1, rfl, ?_⟩
  simp only [Graph.apply, h.here, Option.bind_some, named_withSnap h.unnamed, List.head?_cons]
  rw [if_neg (by simp [hdst, hs])]
  rfl

end Undo

/-! ## One failing call -/

/-- The calls that the backend makes of Ceph. -/
def isBackend : OpCall → Bool
  | .imageRename _ _ | .clone _ _ _ _ => true
  | .call (.imageInfo _) | .call (.metaRead _) | .call .listImages | .call (.putImage _ _)
  | .call (.create _ _ _) | .call (.remove _) | .call (.snapCreate _ _) | .call (.snapRemove _ _)
  | .call (.snapSetProtected _ _ _) | .call (.snapRollback _ _) | .call (.snapRename _ _ _)
  | .call (.imageDiff _ _ _ _ _ _) => true
  | _ => false

section Faulty

variable (shape : Shape) (sr : Sr) (host : Nat → Cluster → OpCall → OpChoice)
  (error : Volume.Exc) (n : Nat)

/-- Ceph grants what it can of the backend's calls, and the host answers the others. -/
def granted (time : Nat) (w : Cluster) (c : OpCall) :
    Option (Except Volume.Exc c.Result × Cluster) :=
  opAnswer shape sr (fun w c => if isBackend c then .ok else host time w c) w c

/-- Call number `n` fails, if it is one of the backend. -/
def faulty : Armed Cluster → (c : OpCall) → Option (Except Volume.Exc c.Result × Armed Cluster) :=
  strike (granted shape sr host) isBackend (fun _ => error) n

/-- The exception is an `RbdBackendError`. -/
def raisesRbd : Volume.Exc → Bool
  | .backend _ => true
  | _ => false

variable {shape sr host error n} {w w' : Cluster} {t : Nat} {armed : Bool} {c : OpCall}

/-- A call of the backend that fails. -/
theorem run_hit (hc : isBackend c = true) (ht : t = n) :
    (perform c).exec (faulty shape sr host error n) ⟨w, t, true⟩ =
      some (.error error, ⟨w, t + 1, false⟩) :=
  exec_perform (strike_hit rfl ht hc)

/-- A call of the backend that Ceph grants. -/
theorem run_grant {result : c.Result} (hc : isBackend c = true) (hmiss : armed = false ∨ t ≠ n)
    (heffect : opEffect shape sr w c = some (result, w')) :
    (perform c).exec (faulty shape sr host error n) ⟨w, t, armed⟩ =
      some (.ok result, ⟨w', t + 1, armed⟩) := by
  have hanswer : granted shape sr host t w c = some (.ok result, w') := by
    rw [granted, opAnswer, if_pos hc, opHandle_granted, heffect]
    rfl
  exact exec_perform (strike_ok hmiss hanswer)

/-- What Ceph says to a request that it refuses. -/
def refused (sr : Sr) (w : Cluster) (c : OpCall) : BackendError :=
  { message := "refused", notFound := !opFound sr w c }

/-- A call of the backend that Ceph refuses. -/
theorem run_refuse (hc : isBackend c = true) (hmiss : armed = false ∨ t ≠ n)
    (heffect : opEffect shape sr w c = none) :
    (perform c).exec (faulty shape sr host error n) ⟨w, t, armed⟩ =
      some (.error (.backend (refused sr w c)), ⟨w, t + 1, false⟩) := by
  have hanswer : granted shape sr host t w c = some (.error (.backend (refused sr w c)), w) := by
    rw [granted, opAnswer, if_pos hc, opHandle_granted, heffect]
    rfl
  exact exec_perform (strike_refused hc hmiss hanswer)

variable (shape sr host error n w t) in
/-- A call of the backend fails as it is made to, or it is granted or refused. -/
theorem run_cases (hc : isBackend c = true) :
    (t = n ∧ (perform c).exec (faulty shape sr host error n) ⟨w, t, true⟩ =
      some (.error error, ⟨w, t + 1, false⟩)) ∨
    (∃ result w', (perform c).exec (faulty shape sr host error n) ⟨w, t, true⟩ =
      some (.ok result, ⟨w', t + 1, true⟩)) ∨
    ∃ b, (perform c).exec (faulty shape sr host error n) ⟨w, t, true⟩ =
      some (.error (.backend b), ⟨w, t + 1, false⟩) := by
  by_cases ht : t = n
  · exact .inl ⟨ht, run_hit hc ht⟩
  · cases heffect : opEffect shape sr w c with
    | some pair => exact .inr (.inl ⟨pair.1, pair.2, run_grant hc (.inr ht) heffect⟩)
    | none => exact .inr (.inr ⟨_, run_refuse hc (.inr ht) heffect⟩)

/-- No call fails any more with an exception other than `RbdBackendError`. -/
def Mild (error : Volume.Exc) (n : Nat) (s : Armed Cluster) : Prop :=
  raisesRbd error = true ∨ s.armed = false ∨ n < s.time

theorem Mild.exec {α : Type} {p : Op α} {s s' : Armed Cluster} {outcome : Except Volume.Exc α}
    (hmild : Mild error n s) (h : p.exec (faulty shape sr host error n) s = some (outcome, s')) :
    Mild error n s' :=
  hmild.imp id (Or.imp (exec_unarmed h) fun htime => Nat.lt_of_lt_of_le htime (exec_time h))

/-- Then the calls of the backend raise `RbdBackendError` only. -/
theorem faulty_error (hc : isBackend c = true) {s s' : Armed Cluster} {e : Volume.Exc}
    (hmild : Mild error n s) (h : faulty shape sr host error n s c = some (.error e, s')) :
    ∃ b, e = .backend b := by
  unfold faulty strike at h
  split at h
  next hhit =>
    cases h
    simp only [Bool.and_eq_true, beq_iff_eq] at hhit
    obtain hrbd | harmed | htime := hmild
    · cases error with
      | backend b => exact ⟨b, rfl⟩
      | unimplemented | calledProcess | other => cases hrbd
    · rw [harmed] at hhit
      cases hhit.1.1
    · omega
  next =>
    obtain ⟨⟨reply, after⟩, hanswer, heq⟩ := Option.map_eq_some_iff.mp h
    cases heq
    rw [granted, opAnswer, if_pos hc, opHandle_granted] at hanswer
    cases heffect : opEffect shape sr s.state c with
    | some pair =>
        rw [heffect] at hanswer
        cases hanswer
    | none =>
        rw [heffect] at hanswer
        cases hanswer
        exact ⟨_, rfl⟩

/-- An exception other than `RbdBackendError` is not handled. -/
theorem exec_catch_other {α : Type} {p : Op α} {handler : BackendError → Op α} {e : Volume.Exc}
    {s s' : Armed Cluster} (he : raisesRbd e = false)
    (h : p.exec (faulty shape sr host error n) s = some (.error e, s')) :
    (catchBackend p handler).exec (faulty shape sr host error n) s = some (.error e, s') := by
  refine (exec_tryCatch_error h).trans ?_
  cases e with
  | backend b => cases he
  | unimplemented | calledProcess | other => rfl

/-- An `RbdBackendError` is. -/
theorem exec_catch_backend {α : Type} {p : Op α} {handler : BackendError → Op α} {b : BackendError}
    {s between : Armed Cluster} {reply : Option (Except Volume.Exc α × Armed Cluster)}
    (h : p.exec (faulty shape sr host error n) s = some (.error (.backend b), between))
    (hhandler : (handler b).exec (faulty shape sr host error n) between = reply) :
    (catchBackend p handler).exec (faulty shape sr host error n) s = reply :=
  (exec_tryCatch_error h).trans hhandler

end Faulty

/-! ## The two operations -/

/-- What `snapshot` and `clone` of a live image share: a protected snapshot is made, `rest` works on
it, and a backend error undoes the snapshot. -/
def makeSnap (base snap : String) (rest : Op Unit) (message : String) : Op Unit :=
  catchBackend (do
    perform (.call (.snapCreate base snap))
    perform (.call (.snapSetProtected base snap true))
    rest) fun error => do
      dropTransient base snap
      throw (.other (message ++ error.message))

/-- What follows a lifted part is lifted with it. -/
theorem lift_bind {α β : Type} (p : Volume.Op α) (f : α → Volume.Op β) :
    lift (p >>= f) = lift p >>= fun value => lift (f value) := by
  induction p with
  | ret value => rfl
  | raise error => rfl
  | call c resume ih => exact congrArg (Prog.call (OpCall.call c)) (funext ih)

theorem lift_perform (c : Volume.Call) : lift (Volume.perform c) = perform (.call c) := by
  refine congrArg (Prog.call (OpCall.call c)) (funext fun reply => ?_)
  cases reply <;> rfl

theorem lift_tryCatch {α : Type} (p : Volume.Op α) (handler : Volume.Exc → Volume.Op α) :
    lift (MonadExcept.tryCatch p handler) =
      MonadExcept.tryCatch (lift p) fun error => lift (handler error) := by
  induction p with
  | ret value => rfl
  | raise error => rfl
  | call c resume ih => exact congrArg (Prog.call (OpCall.call c)) (funext ih)

theorem lift_exceptBackend {α : Type} (p : Volume.Op α) (handler : BackendError → Volume.Op α) :
    lift (Volume.exceptBackend p handler) =
      catchBackend (lift p) fun error => lift (handler error) := by
  rw [Volume.exceptBackend, lift_tryCatch, catchBackend]
  refine congrArg _ (funext fun e => ?_)
  cases e <;> rfl

/-- `snapshot` makes its snapshot in this way. -/
theorem lift_takeSnap (base snap : String) :
    lift (Volume.takeSnap base snap) = makeSnap base snap (pure ()) "VDI snapshot failed: " := by
  have hprotect : (do perform (.call (.snapSetProtected base snap true)); pure () : Op Unit) =
      perform (.call (.snapSetProtected base snap true)) := Prog.map_id _
  rw [Volume.takeSnap, lift_exceptBackend, makeSnap, lift_bind, lift_perform, lift_perform,
    hprotect]
  refine congrArg _ (funext fun b => ?_)
  rw [lift_bind, lift_exceptBackend, lift_bind, lift_perform, lift_perform, dropTransient]
  rfl

section MakeSnap

variable {shape : Shape} {sr : Sr} {host : Nat → Cluster → OpCall → OpChoice}
  {error : Volume.Exc} {n t : Nat} {w w' : Cluster} {base snap message : String} {rest : Op Unit}

/-- A snapshot that cannot be unprotected is left as it is by the handler. -/
theorem dropTransient_refused
    (h : w.graph.apply (.snapSetProtected (sr.spec base) snap false) = none) :
    (dropTransient base snap).exec (faulty shape sr host error n) ⟨w, t, false⟩ =
      some (.ok (), ⟨w, t + 1, false⟩) := by
  have hunprotect :
      (perform (.call (.snapSetProtected base snap false))).exec (faulty shape sr host error n)
        ⟨w, t, false⟩ = some (.error (.backend _), ⟨w, t + 1, false⟩) :=
    run_refuse rfl (.inl rfl) (by rw [opEffect, h]; rfl)
  exact exec_tryCatch_error (exec_bind_error hunprotect)

/-- The handler removes a snapshot that was protected. -/
theorem dropTransient_done {g₀ : Graph} {img : Image} {s : Snap}
    (h : Extra g₀ w.graph (sr.spec base) img s) (hs : s.isProtected = true) :
    ∃ w', (dropTransient base s.name).exec (faulty shape sr host error n) ⟨w, t, false⟩ =
      some (.ok (), ⟨w', t + 2, false⟩) ∧ SameImages g₀ w'.graph := by
  obtain ⟨g₁, happly, hextra⟩ := h.setProtected (show s.isProtected = !false from hs)
  obtain ⟨g₂, hremove, hsame⟩ := hextra.snapRemove rfl
  have hunprotect :
      (perform (.call (.snapSetProtected base s.name false))).exec (faulty shape sr host error n)
        ⟨w, t, false⟩ = some (.ok (), ⟨{ w with graph := g₁ }, t + 1, false⟩) :=
    run_grant rfl (.inl rfl) (by rw [opEffect, happly]; rfl)
  have hgone :
      (perform (.call (.snapRemove base s.name))).exec (faulty shape sr host error n)
        ⟨{ w with graph := g₁ }, t + 1, false⟩ =
          some (.ok (), ⟨{ w with graph := g₂ }, t + 1 + 1, false⟩) :=
    run_grant rfl (.inl rfl) (by rw [opEffect]; exact congrArg _ hremove)
  exact ⟨{ w with graph := g₂ }, exec_tryCatch ((exec_bind hunprotect).trans hgone), hsame⟩

/-- Where the snapshot cannot be made, the handler leaves the images as they are. -/
theorem makeSnap_raised {e : Volume.Exc}
    (hcreate : (perform (.call (.snapCreate base snap))).exec (faulty shape sr host error n)
      ⟨w, t, true⟩ = some (.error e, ⟨w, t + 1, false⟩))
    (hrefused : w.graph.apply (.snapSetProtected (sr.spec base) snap false) = none) :
    ∃ e' t', (makeSnap base snap rest message).exec (faulty shape sr host error n) ⟨w, t, true⟩ =
      some (.error e', ⟨w, t', false⟩) := by
  cases e with
  | backend b =>
      exact ⟨_, _, exec_catch_backend (exec_bind_error hcreate)
        ((exec_bind (dropTransient_refused hrefused)).trans rfl)⟩
  | unimplemented | calledProcess | other =>
      exact ⟨_, _, exec_catch_other rfl (exec_bind_error hcreate)⟩

/-- A snapshot of an image that does not exist. -/
theorem makeSnap_absent (h : sr.spec base ∉ w.graph.images) :
    ∃ e t', (makeSnap base snap rest message).exec (faulty shape sr host error n) ⟨w, t, true⟩ =
      some (.error e, ⟨w, t', false⟩) := by
  have hlookup : w.graph.images.lookup (sr.spec base) = none := AList.lookup_eq_none.mpr h
  have hcreate : ∃ e,
      (perform (.call (.snapCreate base snap))).exec (faulty shape sr host error n) ⟨w, t, true⟩ =
        some (.error e, ⟨w, t + 1, false⟩) := by
    by_cases ht : t = n
    · exact ⟨error, run_hit rfl ht⟩
    · refine ⟨_, run_refuse rfl (.inr ht) ?_⟩
      rw [opEffect, Graph.apply, Req.spec, hlookup]
      · rfl
      all_goals simp
  obtain ⟨e, hcreate⟩ := hcreate
  exact makeSnap_raised hcreate (by simp [Graph.apply, Req.spec, hlookup])

section Present

variable {img : Image} (hn : w.graph.Numbered)
  (himg : w.graph.images.lookup (sr.spec base) = some img) (hnamed : img.named snap = [])

include himg hnamed in
/-- Where the snapshot cannot be made, nothing is left. -/
theorem makeSnap_create_fails (ht : t = n) :
    ∃ e t', (makeSnap base snap rest message).exec (faulty shape sr host error n) ⟨w, t, true⟩ =
      some (.error e, ⟨w, t', false⟩) :=
  makeSnap_raised (run_hit rfl ht) (by simp [Graph.apply, Req.spec, himg, Graph.edit, hnamed])

include hn himg hnamed

variable (shape host error) in
/-- The snapshot is made, unless this call is the one that fails. -/
theorem snapCreate_done (ht : t ≠ n) :
    ∃ w' s, s.name = snap ∧ s.isProtected = false ∧ Extra w.graph w'.graph (sr.spec base) img s ∧
      (perform (.call (.snapCreate base snap))).exec (faulty shape sr host error n) ⟨w, t, true⟩ =
        some (.ok (), ⟨w', t + 1, true⟩) := by
  obtain ⟨g₁, s, happly, hname, hs, hextra⟩ := Extra.of_snapCreate hn himg hnamed
  exact ⟨{ w with graph := g₁ }, s, hname, hs, hextra,
    run_grant rfl (.inr ht) (by rw [opEffect, happly]; rfl)⟩

/-- Where the snapshot cannot be protected, it stays: it is not protected, so that the handler
cannot unprotect it and does not come to removing it, and another exception skips the handler. -/
theorem makeSnap_protect_fails (ht : t + 1 = n) :
    ∃ e w' t' s, (makeSnap base snap rest message).exec (faulty shape sr host error n)
      ⟨w, t, true⟩ = some (.error e, ⟨w', t', false⟩) ∧
        Extra w.graph w'.graph (sr.spec base) img s := by
  obtain ⟨w', s, rfl, hs, hextra, hcreate⟩ := snapCreate_done shape host error hn himg
    hnamed (show t ≠ n by omega)
  have hprotect :
      (perform (.call (.snapSetProtected base s.name true))).exec (faulty shape sr host error n)
        ⟨w', t + 1, true⟩ = some (.error error, ⟨w', t + 1 + 1, false⟩) :=
    run_hit rfl ht
  have hraised : (do
        perform (.call (.snapCreate base s.name))
        perform (.call (.snapSetProtected base s.name true))
        rest : Op Unit).exec (faulty shape sr host error n) ⟨w, t, true⟩ =
          some (.error error, ⟨w', t + 1 + 1, false⟩) :=
    (exec_bind hcreate).trans (exec_bind_error hprotect)
  cases error with
  | backend b =>
      refine ⟨.other (message ++ b.message), w', t + 1 + 1 + 1, s, ?_, hextra⟩
      exact exec_catch_backend hraised
        ((exec_bind (dropTransient_refused (hextra.unprotect_refused hs))).trans rfl)
  | unimplemented | calledProcess | other =>
      exact ⟨_, w', t + 1 + 1, s, exec_catch_other rfl hraised, hextra⟩

/-- Where neither of these calls fails, `rest` runs on a protected snapshot. -/
theorem makeSnap_ready (ht : t ≠ n) (ht' : t + 1 ≠ n) :
    ∃ w' s, s.name = snap ∧ s.isProtected = true ∧ Extra w.graph w'.graph (sr.spec base) img s ∧
      (do
        perform (.call (.snapCreate base snap))
        perform (.call (.snapSetProtected base snap true))
        rest : Op Unit).exec (faulty shape sr host error n) ⟨w, t, true⟩ =
          rest.exec (faulty shape sr host error n) ⟨w', t + 2, true⟩ := by
  obtain ⟨w₁, s, rfl, hs, hextra, hcreate⟩ := snapCreate_done shape host error hn himg
    hnamed ht
  obtain ⟨g₂, happly, hextra'⟩ := hextra.setProtected (show s.isProtected = !true from hs)
  have hprotect :
      (perform (.call (.snapSetProtected base s.name true))).exec (faulty shape sr host error n)
        ⟨w₁, t + 1, true⟩ = some (.ok (), ⟨{ w₁ with graph := g₂ }, t + 1 + 1, true⟩) :=
    run_grant rfl (.inr ht') (by rw [opEffect, happly]; rfl)
  exact ⟨{ w₁ with graph := g₂ }, { s with isProtected := true }, rfl, rfl, hextra',
    (exec_bind hcreate).trans (exec_bind hprotect)⟩

end Present

end MakeSnap

/-! ## What is left -/

/-- The snapshots of an image and their protection. -/
def Image.snapView (img : Image) : List (String × Bool) :=
  img.snapshots.map fun s => (s.name, s.isProtected)

/-- The same images exist, with the same snapshots and the same protection of them. -/
def Untouched (g g' : Graph) : Prop :=
  ∀ spec, (g'.images.lookup spec).map Image.snapView = (g.images.lookup spec).map Image.snapView

theorem SameImages.untouched {g g' : Graph} (h : SameImages g g') : Untouched g g' :=
  fun spec => by rw [h spec]

/-- A snapshot more is not untouched. -/
theorem Extra.not_untouched {g₀ g : Graph} {spec : Spec} {img : Image} {s : Snap}
    (h : Extra g₀ g spec img s) : ¬Untouched g₀ g := by
  intro hsame
  have hview := hsame spec
  rw [h.here, h.base, Option.map_some, Option.map_some, Option.some.injEq] at hview
  have hlen := congrArg List.length hview
  simp [Image.snapView, Image.withSnap] at hlen

/-- The operations that make a snapshot of a base. -/
inductive Maker where
  | snapshot
  | clone
  deriving DecidableEq, Repr

/-- The operation on a key. -/
def Maker.op (maker : Maker) (srMeta : SrMeta) (features : List String) (key : String) :
    Op VolumeDict :=
  match maker with
  | .snapshot => lift (Volume.snapshot srMeta key)
  | .clone => Gc.clone srMeta features key

/-- The operation makes a snapshot: `snapshot` refuses a snapshot's key, and `clone` of a snapshot
needs none. -/
def Maker.makes (maker : Maker) (key : String) : Bool :=
  match maker with
  | .snapshot => !truthy (splitKey key).2
  | .clone => (splitKey key).2.isNone

/-- The number of the call that protects the snapshot, after the UUIDs and `snap_create`. -/
def Maker.protectTime : Maker → Nat
  | .snapshot => 2
  | .clone => 3

/-- The base has a name or a description, which `snapshot` seeds to the snapshot. -/
def Image.seeds (img : Image) : Bool :=
  truthy (img.metadata.lookup (Volume.metaNames none).1) ||
    truthy (img.metadata.lookup (Volume.metaNames none).2.1)

/-- The calls on the way from a snapshot or a clone that was made to the end of the operation where
no handler is in place for an exception other than `RbdBackendError`: those with which `snapshot`
reads the base and seeds the name, and for `clone` that of the clone itself, after a transient
snapshot, and that of `_size_of`. -/
def Maker.exposed (maker : Maker) (sr : Sr) (w : Cluster) (key : String) (n : Nat) : Bool :=
  (w.graph.images.lookup (sr.spec (splitKey key).1)).any fun img =>
    match maker, (splitKey key).2 with
    | .snapshot, snap => !truthy snap && (n == 3 || (img.seeds && decide (4 ≤ n ∧ n ≤ 6)))
    | .clone, none => n == 4 || n == 5
    | .clone, some snap => (img.named snap).head?.any Snap.isProtected && n == 2

/-- The host gives UUIDs that name no image and no snapshot of the base. -/
def FreshUuids (host : Nat → Cluster → OpCall → OpChoice) (sr : Sr) (w : Cluster) (base : String) :
    Prop :=
  ∀ t, ∃ uuid, host t w (.call .uuid4) = .fresh uuid ∧ Volume.isUuid uuid.toList = true ∧
    sr.spec uuid ∉ w.graph.images ∧ ∀ img, w.graph.images.lookup (sr.spec base) = some img →
      img.named uuid = [] ∧ img.named (cloneSnapPrefix ++ uuid) = []

section Leaves

variable (shape : Shape) (sr : Sr) (host : Nat → Cluster → OpCall → OpChoice)
  (error : Volume.Exc) (n : Nat) (srMeta : SrMeta) (features : List String) (key : String)
  (w : Cluster)

/-- Where the operation raises, the base and the other images are as they were before it. -/
def LeavesBase (maker : Maker) : Prop :=
  ∀ e s, (maker.op srMeta features key).exec (faulty shape sr host error n) { state := w } =
    some (.error e, s) → Untouched w.graph s.state.graph

variable {shape sr host error n srMeta features key w}

/-- A new UUID. -/
theorem run_uuid4 {uuid : String} {t : Nat} {armed : Bool}
    (hhost : host t w (.call .uuid4) = .fresh uuid) (huuid : Volume.isUuid uuid.toList = true) :
    uuid4.exec (faulty shape sr host error n) ⟨w, t, armed⟩ =
      some (.ok uuid, ⟨w, t + 1, armed⟩) := by
  have hanswer : granted shape sr host t w (.call .uuid4) = some (.ok uuid, w) := by
    rw [granted, opAnswer, if_neg (by decide), hhost, opHandle, if_pos huuid]
  refine exec_perform ((strike_miss (.inr (.inr rfl)) hanswer).trans ?_)
  simp [Except.isOk, Except.toBool]

variable (shape sr host error n) in
/-- Once the calls fail with `RbdBackendError` only, the program never raises. -/
def Quiet {α : Type} (p : Op α) : Prop :=
  ∀ s e s', Mild error n s → p.exec (faulty shape sr host error n) s ≠ some (.error e, s')

variable (shape sr host error n) in
/-- Once the calls fail with `RbdBackendError` only, the program raises nothing else. -/
def RaisesBackend {α : Type} (p : Op α) : Prop :=
  ∀ s e s', Mild error n s → p.exec (faulty shape sr host error n) s = some (.error e, s') →
    ∃ b, e = .backend b

theorem quiet_pure {α : Type} (value : α) : Quiet shape sr host error n (pure value : Op α) := by
  intro s e s' _ h
  cases h

theorem Quiet.bind {α β : Type} {p : Op α} {f : α → Op β} (hp : Quiet shape sr host error n p)
    (hf : ∀ value, Quiet shape sr host error n (f value)) :
    Quiet shape sr host error n (p >>= f) := by
  intro s e s' hmild h
  rcases of_exec_bind h with ⟨value, between, hfirst, hrest⟩ | ⟨e', herror, -⟩
  · exact hf value _ _ _ (hmild.exec hfirst) hrest
  · exact hp _ _ _ hmild herror

/-- A program whose backend errors are handled. -/
theorem RaisesBackend.quiet {α : Type} {p : Op α} {handler : BackendError → Op α}
    (hp : RaisesBackend shape sr host error n p)
    (hhandler : ∀ b, Quiet shape sr host error n (handler b)) :
    Quiet shape sr host error n (catchBackend p handler) := by
  intro s e s' hmild h
  rcases of_exec_tryCatch h with ⟨value, -, hok⟩ | ⟨e', between, herror, hrest⟩
  · cases hok
  · obtain ⟨b, rfl⟩ := hp _ _ _ hmild herror
    exact hhandler b _ _ _ (hmild.exec herror) hrest

theorem raisesBackend_perform {c : OpCall} (hc : isBackend c = true) :
    RaisesBackend shape sr host error n (perform c) := by
  intro s e s' hmild h
  exact faulty_error hc hmild (of_exec_perform h)

theorem RaisesBackend.bind {α β : Type} {p : Op α} {f : α → Op β}
    (hp : RaisesBackend shape sr host error n p)
    (hf : ∀ value, RaisesBackend shape sr host error n (f value)) :
    RaisesBackend shape sr host error n (p >>= f) := by
  intro s e s' hmild h
  rcases of_exec_bind h with ⟨value, between, hfirst, hrest⟩ | ⟨e', herror, heq⟩
  · exact hf value _ _ _ (hmild.exec hfirst) hrest
  · cases heq
    exact hp _ _ _ hmild herror

theorem Quiet.raisesBackend {α : Type} {p : Op α} (hp : Quiet shape sr host error n p) :
    RaisesBackend shape sr host error n p := fun s e s' hmild h => absurd h (hp s e s' hmild)

/-- `_rmw` raises `RbdBackendError` only. -/
theorem raisesBackend_rmw (base : String) (mutate : Volume.Desired → Volume.Desired) :
    RaisesBackend shape sr host error n (lift (Volume.rmw base mutate)) := by
  rw [Volume.rmw, lift_bind, Volume.imageInfo, lift_perform]
  refine (raisesBackend_perform rfl).bind fun info => ?_
  rw [Volume.RestBackend.imageMetaSet, lift_bind, lift_exceptBackend]
  have hread : Quiet shape sr host error n
      (catchBackend (lift (Volume.Info.metadata <$> Volume.perform (.metaRead base)))
        fun _ => lift (pure ∅)) := by
    refine RaisesBackend.quiet ?_ fun _ => quiet_pure _
    rw [map_eq_pure_bind, lift_bind, lift_perform]
    exact (raisesBackend_perform rfl).bind fun _ => (quiet_pure _).raisesBackend
  refine hread.raisesBackend.bind fun current => ?_
  rw [lift_perform]
  exact raisesBackend_perform rfl

/-- Whatever a rotation raises is passed over. -/
theorem rotateLog_returns (base snap : String) (metadata : Volume.Dict) (size : Nat)
    (s : Armed Cluster) (e : Volume.Exc) (s' : Armed Cluster) :
    (lift (Volume.rotateLog base snap metadata size)).exec (faulty shape sr host error n) s ≠
      some (.error e, s') := by
  intro h
  rw [Volume.rotateLog] at h
  split at h
  · rw [Volume.exceptAny, lift_tryCatch] at h
    rcases of_exec_tryCatch h with ⟨value, -, hok⟩ | ⟨e', between, -, hrest⟩
    · cases hok
    · cases hrest
  · cases h

/-- What `snapshot` does once the snapshot is made. -/
def afterSnap (srMeta : SrMeta) (base snap : String) : Volume.Op VolumeDict := do
  let (size, metadata) ← Volume.readBase base
  Volume.seedNames base snap metadata
  Volume.rotateLog base snap metadata size
  return Volume.snapRecord srMeta base snap metadata size

/-- Its second part, after the base was read. -/
theorem lift_afterSnap (base snap : String) :
    lift (afterSnap srMeta base snap) = lift (Volume.readBase base) >>= fun read =>
      lift (Volume.seedNames base snap read.2) >>= fun _ =>
        lift (Volume.rotateLog base snap read.2 read.1) >>= fun _ =>
          pure (Volume.snapRecord srMeta base snap read.2 read.1) := by
  rw [afterSnap, lift_bind]
  refine congrArg _ (funext fun read => ?_)
  show lift (Volume.seedNames base snap read.2 >>= fun _ => _) = _
  rw [lift_bind]
  refine congrArg _ (funext fun _ => ?_)
  show lift (Volume.rotateLog base snap read.2 read.1 >>= fun _ => _) = _
  rw [lift_bind]
  rfl

/-- Where the names are seeded, what follows does not raise. -/
theorem rotate_returns (base snap : String) (metadata : Volume.Dict) (size : Nat)
    (record : VolumeDict) (s : Armed Cluster) (e : Volume.Exc) (s' : Armed Cluster) :
    (lift (Volume.rotateLog base snap metadata size) >>= fun _ =>
      (pure record : Op VolumeDict)).exec
      (faulty shape sr host error n) s ≠ some (.error e, s') := by
  intro h
  rcases of_exec_bind h with ⟨value, between, -, hrest⟩ | ⟨e', herror, -⟩
  · cases hrest
  · exact rotateLog_returns _ _ _ _ _ _ _ herror

/-- Once the snapshot is made, `snapshot` raises nothing but what is no `RbdBackendError`. -/
theorem quiet_after (base snap : String) :
    Quiet shape sr host error n (lift (afterSnap srMeta base snap)) := by
  rw [lift_afterSnap]
  refine Quiet.bind ?_ fun read => ?_
  · rw [Volume.readBase, lift_exceptBackend, lift_bind, Volume.imageInfo, lift_perform]
    refine RaisesBackend.quiet ?_ fun _ => quiet_pure _
    exact (raisesBackend_perform rfl).bind fun _ => (quiet_pure _).raisesBackend
  refine Quiet.bind ?_ fun _ => ?_
  · rw [Volume.seedNames]
    split
    · rw [lift_exceptBackend]
      exact (raisesBackend_rmw _ _).quiet fun _ => quiet_pure _
    · exact quiet_pure _
  exact fun s e s' _ => rotate_returns base snap _ _ _ s e s'

/-! ## An exception other than `RbdBackendError` -/

section Other

variable {base snap : String} {img : Image} {t : Nat}

/-- A report of an image that exists. -/
theorem run_report {armed : Bool} (himg : w.graph.images.lookup (sr.spec base) = some img)
    (hmiss : armed = false ∨ t ≠ n) :
    (perform (.call (.imageInfo base))).exec (faulty shape sr host error n) ⟨w, t, armed⟩ =
      some (.ok (w.graph.volumeInfo shape base img), ⟨w, t + 1, armed⟩) :=
  run_grant rfl hmiss (by rw [opEffect, himg]; rfl)

/-- The base is read, if this call is not the one that fails. -/
theorem readBase_ok (himg : w.graph.images.lookup (sr.spec base) = some img) (ht : t ≠ n) :
    (lift (Volume.readBase base)).exec (faulty shape sr host error n) ⟨w, t, true⟩ =
      some (.ok (img.size, img.metadata), ⟨w, t + 1, true⟩) := by
  rw [Volume.readBase, lift_exceptBackend, lift_bind, Volume.imageInfo, lift_perform]
  exact exec_tryCatch ((exec_bind (run_report himg (.inr ht))).trans rfl)

/-- What `image_meta_set` reads, if this call is not the one that fails. -/
theorem metaRead_ok (himg : w.graph.images.lookup (sr.spec base) = some img) (ht : t ≠ n) :
    (lift (Volume.exceptBackend (Volume.Info.metadata <$> Volume.perform (.metaRead base))
      fun _ => pure ∅)).exec (faulty shape sr host error n) ⟨w, t, true⟩ =
        some (.ok img.metadata, ⟨w, t + 1, true⟩) := by
  have hcurrent : (perform (.call (.metaRead base))).exec (faulty shape sr host error n)
      ⟨w, t, true⟩ = some (.ok (w.graph.volumeInfo shape base img), ⟨w, t + 1, true⟩) :=
    run_grant rfl (.inr ht) (by rw [opEffect, himg]; rfl)
  rw [lift_exceptBackend, map_eq_pure_bind, lift_bind, lift_perform]
  exact exec_tryCatch ((exec_bind hcurrent).trans rfl)

/-- The exception of one of its three calls goes through the seeding of the names. -/
theorem seedNames_raises (himg : w.graph.images.lookup (sr.spec base) = some img)
    (hseeds : img.seeds = true) (hother : raisesRbd error = false) (ht : t ≤ n ∧ n ≤ t + 2) :
    ∃ t', (lift (Volume.seedNames base snap img.metadata)).exec (faulty shape sr host error n)
      ⟨w, t, true⟩ = some (.error error, ⟨w, t', false⟩) := by
  rw [Image.seeds] at hseeds
  rw [Volume.seedNames, if_pos hseeds, lift_exceptBackend]
  suffices h : ∀ mutate, ∃ t', (lift (Volume.rmw base mutate)).exec (faulty shape sr host error n)
      ⟨w, t, true⟩ = some (.error error, ⟨w, t', false⟩) by
    obtain ⟨t', h⟩ := h _
    exact ⟨t', exec_catch_other hother h⟩
  intro mutate
  rw [Volume.rmw, lift_bind, Volume.imageInfo, lift_perform]
  by_cases hinfo : t = n
  · exact ⟨_, exec_bind_error (run_hit rfl hinfo)⟩
  rw [exec_bind (run_report himg (.inr hinfo)), Volume.RestBackend.imageMetaSet, lift_bind]
  by_cases hread : t + 1 = n
  · have hraised : (lift (Volume.exceptBackend (Volume.Info.metadata <$>
        Volume.perform (.metaRead base)) fun _ => pure ∅)).exec (faulty shape sr host error n)
          ⟨w, t + 1, true⟩ = some (.error error, ⟨w, t + 1 + 1, false⟩) := by
      rw [lift_exceptBackend, map_eq_pure_bind, lift_bind, lift_perform]
      exact exec_catch_other hother (exec_bind_error (run_hit rfl hread))
    exact ⟨_, exec_bind_error hraised⟩
  · rw [exec_bind (metaRead_ok himg hread), lift_perform]
    exact ⟨_, run_hit rfl (by omega)⟩

/-- After them, the names are seeded. -/
theorem seedNames_returns (himg : w.graph.images.lookup (sr.spec base) = some img)
    (ht : img.seeds = true → n < t ∨ t + 2 < n) :
    ∃ s', (lift (Volume.seedNames base snap img.metadata)).exec (faulty shape sr host error n)
      ⟨w, t, true⟩ = some (.ok (), s') := by
  rw [Volume.seedNames]
  split
  next hseeds =>
    have ht := ht hseeds
    rw [lift_exceptBackend]
    suffices h : ∀ mutate, ∃ s', (lift (Volume.rmw base mutate)).exec
        (faulty shape sr host error n) ⟨w, t, true⟩ = some (.ok (), s') by
      obtain ⟨s', h⟩ := h _
      exact ⟨s', exec_tryCatch h⟩
    intro mutate
    rw [Volume.rmw, lift_bind, Volume.imageInfo, lift_perform,
      exec_bind (run_report himg (.inr (by omega))), Volume.RestBackend.imageMetaSet, lift_bind,
      exec_bind (metaRead_ok himg (by omega)), lift_perform]
    have hput : ∀ body, ∃ w', (perform (.call (.putImage base body))).exec
        (faulty shape sr host error n) ⟨w, t + 1 + 1, true⟩ =
          some (.ok (), ⟨w', t + 1 + 1 + 1, true⟩) := fun body =>
      ⟨{ w with graph := { images := w.graph.images.insert (sr.spec base) (img.put body)
                           nextId := w.graph.nextId + 1 } },
        run_grant rfl (.inr (by omega)) (by
          simp only [opEffect, Graph.apply, Req.spec, himg, Option.bind_some, Graph.edit,
            Option.map_some])⟩
    obtain ⟨w', hput⟩ := hput _
    exact ⟨_, hput⟩
  next => exact ⟨_, rfl⟩

/-- The exception of an exposed call of `snapshot` goes through, and nothing is undone. -/
theorem afterSnap_raises (himg : w.graph.images.lookup (sr.spec base) = some img)
    (hother : raisesRbd error = false)
    (ht : t = n ∨ (img.seeds = true ∧ t + 1 ≤ n ∧ n ≤ t + 3)) :
    ∃ t', (lift (afterSnap srMeta base snap)).exec (faulty shape sr host error n) ⟨w, t, true⟩ =
      some (.error error, ⟨w, t', false⟩) := by
  rw [lift_afterSnap]
  by_cases hread : t = n
  · have hinfo : (lift (Volume.readBase base)).exec (faulty shape sr host error n) ⟨w, t, true⟩ =
        some (.error error, ⟨w, t + 1, false⟩) := by
      rw [Volume.readBase, lift_exceptBackend, lift_bind, Volume.imageInfo, lift_perform]
      exact exec_catch_other hother (exec_bind_error (run_hit rfl hread))
    exact ⟨_, exec_bind_error hinfo⟩
  · obtain ⟨hseeds, hlow, hhigh⟩ := ht.resolve_left hread
    rw [exec_bind (readBase_ok himg hread)]
    have hseed : ∃ t', (lift (Volume.seedNames base snap img.metadata)).exec
        (faulty shape sr host error n) ⟨w, t + 1, true⟩ = some (.error error, ⟨w, t', false⟩) :=
      seedNames_raises himg hseeds hother (by omega)
    obtain ⟨t', hseed⟩ := hseed
    exact ⟨t', exec_bind_error hseed⟩

/-- Any other call of `snapshot` after the snapshot was made does not make it raise. -/
theorem afterSnap_returns (himg : w.graph.images.lookup (sr.spec base) = some img) (hlate : t < n)
    (ht : img.seeds = true → t + 3 < n) (e : Volume.Exc) (s' : Armed Cluster) :
    (lift (afterSnap srMeta base snap)).exec (faulty shape sr host error n) ⟨w, t, true⟩ ≠
      some (.error e, s') := by
  rw [lift_afterSnap, exec_bind (readBase_ok himg (by omega))]
  have hseed : ∃ between, (lift (Volume.seedNames base snap img.metadata)).exec
      (faulty shape sr host error n) ⟨w, t + 1, true⟩ = some (.ok (), between) :=
    seedNames_returns himg fun hseeds => .inr (by have := ht hseeds; omega)
  obtain ⟨between, hseed⟩ := hseed
  rw [exec_bind hseed]
  exact rotate_returns _ _ _ _ _ _ _ _

end Other

section Main

variable {base : String} {snap : Option String}

/-- `snapshot` after its UUID. -/
theorem snapshot_exec {uuid : String} (hkey : splitKey key = (base, snap))
    (hsnap : truthy snap = false) (hhost : host 0 w (.call .uuid4) = .fresh uuid)
    (huuid : Volume.isUuid uuid.toList = true) :
    (Maker.snapshot.op srMeta features key).exec (faulty shape sr host error n) { state := w } =
      (do
        makeSnap base uuid (pure ()) "VDI snapshot failed: "
        lift (afterSnap srMeta base uuid) : Op VolumeDict).exec
        (faulty shape sr host error n) ⟨w, 1, true⟩ := by
  have hop : Maker.snapshot.op srMeta features key = (do
      let uuid ← uuid4
      lift (Volume.takeSnap base uuid >>= fun _ => afterSnap srMeta base uuid) :
        Op VolumeDict) := by
    rw [Maker.op, Volume.snapshot, hkey]
    show lift (if truthy snap = true then _ else _) = _
    rw [hsnap, if_neg (by decide), lift_bind, lift_perform]
    rfl
  rw [hop, exec_bind (run_uuid4 hhost huuid), lift_bind, lift_takeSnap]

/-- `clone` of a live image after its UUIDs. -/
theorem clone_exec {cloneUuid uuid : String} (hkey : splitKey key = (base, none))
    (hhost₀ : host 0 w (.call .uuid4) = .fresh cloneUuid)
    (huuid₀ : Volume.isUuid cloneUuid.toList = true)
    (hhost₁ : host 1 w (.call .uuid4) = .fresh uuid) (huuid₁ : Volume.isUuid uuid.toList = true) :
    (Maker.clone.op srMeta features key).exec (faulty shape sr host error n) { state := w } =
      (do
        makeSnap base (cloneSnapPrefix ++ uuid)
          (perform (.clone base (cloneSnapPrefix ++ uuid) cloneUuid features)) "VDI clone failed: "
        let size ← sizeOf base
        return Volume.volumeDict srMeta.srUuid cloneUuid cloneUuid cloneUuid "" size {} :
          Op VolumeDict).exec (faulty shape sr host error n) ⟨w, 2, true⟩ := by
  have hop : Maker.clone.op srMeta features key = (do
      let cloneUuid ← uuid4
      let uuid ← uuid4
      makeSnap base (cloneSnapPrefix ++ uuid)
        (perform (.clone base (cloneSnapPrefix ++ uuid) cloneUuid features)) "VDI clone failed: "
      let size ← sizeOf base
      return Volume.volumeDict srMeta.srUuid cloneUuid cloneUuid cloneUuid "" size {} :
        Op VolumeDict) := by
    rw [Maker.op, Gc.clone, hkey]
    refine bind_congr fun cloneUuid => ?_
    show (cloneLive base cloneUuid features >>= fun _ => _) = _
    rw [cloneLive, bind_assoc]
    rfl
  rw [hop, exec_bind (run_uuid4 hhost₀ huuid₀), exec_bind (run_uuid4 hhost₁ huuid₁)]

/-- `clone` of a snapshot after its UUID. -/
theorem cloneSnap_exec {cloneUuid source : String} (hkey : splitKey key = (base, some source))
    (hhost : host 0 w (.call .uuid4) = .fresh cloneUuid)
    (huuid : Volume.isUuid cloneUuid.toList = true) :
    (Maker.clone.op srMeta features key).exec (faulty shape sr host error n) { state := w } =
      (do
        cloneSnap base source cloneUuid features
        let size ← sizeOf base
        return Volume.volumeDict srMeta.srUuid cloneUuid cloneUuid cloneUuid "" size {} :
          Op VolumeDict).exec (faulty shape sr host error n) ⟨w, 1, true⟩ := by
  have hop : Maker.clone.op srMeta features key = (do
      let cloneUuid ← uuid4
      cloneSnap base source cloneUuid features
      let size ← sizeOf base
      return Volume.volumeDict srMeta.srUuid cloneUuid cloneUuid cloneUuid "" size {} :
        Op VolumeDict) := by
    rw [Maker.op, Gc.clone, hkey]
  rw [hop, exec_bind (run_uuid4 hhost huuid)]

/-- `_size_of` raises an exception other than `RbdBackendError` only. -/
theorem sizeOf_raises {α : Type} {t : Nat} {f : Nat → α} {e : Volume.Exc} {s' : Armed Cluster}
    (h : (do
      let size ← sizeOf base
      return f size : Op α).exec (faulty shape sr host error n) ⟨w, t, true⟩ =
      some (.error e, s')) :
    raisesRbd error = false ∧ t = n := by
  by_contra hnot
  have hreturns : ∃ size after, (sizeOf base).exec (faulty shape sr host error n) ⟨w, t, true⟩ =
      some (.ok size, after) := by
    rcases run_cases shape sr host error n w t (show isBackend (.call (.imageInfo base)) = true from
        rfl) with
      ⟨ht, hhit⟩ | ⟨info, w', hgrant⟩ | ⟨b, hrefuse⟩
    · cases error with
      | backend b => exact ⟨0, _, exec_catch_backend (exec_bind_error hhit) rfl⟩
      | unimplemented | calledProcess | other => exact absurd ⟨rfl, ht⟩ hnot
    · exact ⟨_, _, exec_tryCatch ((exec_bind hgrant).trans rfl)⟩
    · exact ⟨0, _, exec_catch_backend (exec_bind_error hrefuse) rfl⟩
  obtain ⟨size, after, hsize⟩ := hreturns
  rw [exec_bind hsize] at h
  cases h

/-- The exception of its call goes through `_size_of`. -/
theorem sizeOf_hit {α : Type} {f : Nat → α} (hother : raisesRbd error = false) :
    (do
      let size ← sizeOf base
      return f size : Op α).exec (faulty shape sr host error n) ⟨w, n, true⟩ =
        some (.error error, ⟨w, n + 1, false⟩) :=
  exec_bind_error (exec_catch_other hother (exec_bind_error (run_hit rfl rfl)))

/-- A new image is not untouched. -/
theorem not_untouched_of_new {g g' : Graph} {dst : Spec} (hdst : dst ∉ g.images)
    (hnew : dst ∈ g'.images) : ¬Untouched g g' := by
  intro hsame
  obtain ⟨new, hlookup⟩ := Option.isSome_iff_exists.mp (AList.lookup_isSome.mpr hnew)
  have hview := hsame dst
  rw [hlookup, AList.lookup_eq_none.mpr hdst] at hview
  cases hview

/-- A clone that was made has a protected snapshot as its parent. -/
theorem of_clone_ok {source dst : String} {t t' : Nat} {armed : Bool} {w' : Cluster} {value : Unit}
    (h : (perform (.clone base source dst features)).exec (faulty shape sr host error n)
      ⟨w, t, true⟩ = some (.ok value, ⟨w', t', armed⟩)) :
    ∃ img, w.graph.images.lookup (sr.spec base) = some img ∧
      (img.named source).head?.any Snap.isProtected = true := by
  have hreply := of_exec_perform h
  unfold faulty strike at hreply
  split at hreply
  · cases hreply
  · obtain ⟨⟨reply, after⟩, hanswer, heq⟩ := Option.map_eq_some_iff.mp hreply
    cases heq
    rw [granted, opAnswer,
      if_pos (show isBackend (.clone base source dst features) = true from rfl),
      opHandle_granted, opEffect] at hanswer
    cases himg : w.graph.images.lookup (sr.spec base) with
    | none =>
        simp only [Graph.apply, himg] at hanswer
        cases hanswer
    | some img =>
        refine ⟨img, rfl, ?_⟩
        simp only [Graph.apply, himg, Option.bind_some] at hanswer
        cases hhead : (img.named source).head? with
        | none =>
            rw [hhead] at hanswer
            cases hanswer
        | some s =>
            rw [hhead] at hanswer
            by_contra hnot
            simp [show s.isProtected = false by simpa using hnot] at hanswer

/-- A clone that Ceph grants. -/
theorem clone_granted {img : Image} {source : String} {dst : String} {armed : Bool} {t : Nat}
    (himg : w.graph.images.lookup (sr.spec base) = some img)
    (hprotected : (img.named source).head?.any Snap.isProtected = true)
    (hdst : sr.spec dst ∉ w.graph.images) (hmiss : armed = false ∨ t ≠ n) :
    ∃ w', sr.spec dst ∈ w'.graph.images ∧
      (perform (.clone base source dst features)).exec (faulty shape sr host error n)
        ⟨w, t, armed⟩ = some (.ok (), ⟨w', t + 1, armed⟩) := by
  obtain ⟨s, hs, hprotected⟩ := (Option.any_eq_true _ _).mp hprotected
  have happly : ∃ new nextId, w.graph.apply (.clone (sr.spec base) source (sr.spec dst) features) =
      some { images := w.graph.images.insert (sr.spec dst) new, nextId := nextId } := by
    simp only [Graph.apply, himg, Option.bind_some, hs]
    rw [if_neg (by simp [hdst, hprotected])]
    exact ⟨_, _, rfl⟩
  obtain ⟨new, nextId, happly⟩ := happly
  exact ⟨{ w with
      graph := { images := w.graph.images.insert (sr.spec dst) new, nextId := nextId } },
    (AList.mem_insert _).mpr (.inl rfl), run_grant rfl hmiss (by rw [opEffect, happly]; rfl)⟩

variable (hn : w.graph.Numbered) (hfresh : FreshUuids host sr w (splitKey key).1)

include hn hfresh

/-- A snapshot none of whose failing calls is its protection or an exposed one leaves nothing behind
when it raises. -/
theorem snapshot_leaves (h : ¬(Maker.snapshot.makes key = true ∧
    sr.spec (splitKey key).1 ∈ w.graph.images ∧ n = Maker.snapshot.protectTime))
    (hexposed : ¬(raisesRbd error = false ∧ Maker.snapshot.exposed sr w key n = true)) :
    LeavesBase shape sr host error n srMeta features key w .snapshot := by
  intro e s hexec
  rcases hkey : splitKey key with ⟨base, snap⟩
  simp only [hkey, Maker.makes, Maker.protectTime] at h hfresh
  rw [Maker.exposed, hkey] at hexposed
  by_cases hsnap : truthy snap = true
  · -- the key of a snapshot is refused at once
    simp only [Maker.op, Volume.snapshot, hkey, hsnap, if_true] at hexec
    cases hexec
    exact fun _ => rfl
  · rw [Bool.not_eq_true] at hsnap
    obtain ⟨uuid, hhost, huuid, -, hnew⟩ := hfresh 0
    rw [snapshot_exec hkey hsnap hhost huuid] at hexec
    by_cases hbase : sr.spec base ∈ w.graph.images
    · obtain ⟨img, himg⟩ := Option.isSome_iff_exists.mp (AList.lookup_isSome.mpr hbase)
      have hnamed := (hnew img himg).1
      by_cases ht : 1 = n
      · obtain ⟨e', t', hmake⟩ := makeSnap_create_fails himg hnamed ht
        rw [exec_bind_error hmake] at hexec
        cases hexec
        exact fun _ => rfl
      · have ht' : 1 + 1 ≠ n := by
          intro ht'
          exact h ⟨by rw [hsnap]; rfl, hbase, ht'.symm⟩
        obtain ⟨w', s', -, -, hextra, hready⟩ := makeSnap_ready hn himg hnamed ht ht'
        have hmake : (makeSnap base uuid (pure ()) "VDI snapshot failed: ").exec
            (faulty shape sr host error n) ⟨w, 1, true⟩ = some (.ok (), ⟨w', 3, true⟩) :=
          exec_tryCatch (hready.trans rfl)
        rw [exec_bind hmake] at hexec
        by_cases hmild : Mild error n ⟨w', 3, true⟩
        · exact absurd hexec (quiet_after base uuid _ _ _ hmild)
        · -- an exception that is no `RbdBackendError`, of a later call
          simp only [Mild, not_or, Bool.not_eq_true, Nat.not_lt] at hmild
          obtain ⟨hother, -, hlate⟩ := hmild
          have hcalls : n ≠ 3 ∧ (img.seeds = true → 6 < n) := by
            simp only [himg, Option.any_some, hsnap, hother, Bool.not_false, Bool.true_and,
              Bool.or_eq_true, beq_iff_eq, Bool.and_eq_true, decide_eq_true_eq, true_and,
              not_or, not_and] at hexposed
            exact ⟨hexposed.1, fun hseeds => by have := hexposed.2 hseeds; omega⟩
          exact absurd hexec (afterSnap_returns hextra.here (by omega) (fun hseeds => by
            have := hcalls.2 hseeds; omega) e s)
    · obtain ⟨e', t', hmake⟩ := makeSnap_absent hbase
      rw [exec_bind_error hmake] at hexec
      cases hexec
      exact fun _ => rfl

omit hn in
/-- `clone` of a snapshot. -/
theorem cloneSnap_leaves {source : String} (hkey : splitKey key = (base, some source))
    (hexposed : ¬(raisesRbd error = false ∧ Maker.clone.exposed sr w key n = true)) :
    LeavesBase shape sr host error n srMeta features key w .clone := by
  intro e s hexec
  rw [Maker.exposed, hkey] at hexposed
  rw [hkey] at hfresh
  obtain ⟨cloneUuid, hhost, huuid, -⟩ := hfresh 0
  rw [cloneSnap_exec hkey hhost huuid] at hexec
  have hfailed : ∀ e' s', s'.state = w → (perform (.clone base source cloneUuid features)).exec
      (faulty shape sr host error n) ⟨w, 1, true⟩ = some (.error e', s') →
        Untouched w.graph s.state.graph := by
    intro e' s' hstate hclone
    have hraised : ∃ e'', (cloneSnap base source cloneUuid features).exec
        (faulty shape sr host error n) ⟨w, 1, true⟩ = some (.error e'', s') := by
      cases e' with
      | backend b => exact ⟨_, exec_catch_backend hclone rfl⟩
      | unimplemented | calledProcess | other => exact ⟨_, exec_catch_other rfl hclone⟩
    obtain ⟨e'', hraised⟩ := hraised
    rw [exec_bind_error hraised] at hexec
    cases hexec
    rw [hstate]
    exact fun _ => rfl
  rcases run_cases shape sr host error n w 1
    (show isBackend (.clone base source cloneUuid features) = true from rfl) with
    ⟨-, hclone⟩ | ⟨_, w', hclone⟩ | ⟨b, hclone⟩
  · exact hfailed _ _ rfl hclone
  · have hok : (cloneSnap base source cloneUuid features).exec (faulty shape sr host error n)
        ⟨w, 1, true⟩ = some (.ok (), ⟨w', 2, true⟩) := exec_tryCatch hclone
    rw [exec_bind hok] at hexec
    obtain ⟨hother, ht⟩ := sizeOf_raises hexec
    refine absurd ⟨hother, ?_⟩ hexposed
    obtain ⟨img, himg, hprotected⟩ := of_clone_ok hclone
    simp [himg, hprotected, ← ht]
  · exact hfailed _ _ rfl hclone

/-- `clone` of a live image none of whose failing calls is a protection or an exposed one. -/
theorem cloneLive_leaves (hkey : splitKey key = (base, none))
    (hprotect : ¬(sr.spec base ∈ w.graph.images ∧ n = 3))
    (hexposed : ¬(raisesRbd error = false ∧ Maker.clone.exposed sr w key n = true)) :
    LeavesBase shape sr host error n srMeta features key w .clone := by
  intro e s hexec
  rw [Maker.exposed, hkey] at hexposed
  rw [hkey] at hfresh
  obtain ⟨cloneUuid, hhost₀, huuid₀, -⟩ := hfresh 0
  obtain ⟨uuid, hhost, huuid, -, hnew⟩ := hfresh 1
  rw [clone_exec hkey hhost₀ huuid₀ hhost huuid] at hexec
  by_cases hbase : sr.spec base ∈ w.graph.images
  · obtain ⟨img, himg⟩ := Option.isSome_iff_exists.mp (AList.lookup_isSome.mpr hbase)
    have hnamed := (hnew img himg).2
    by_cases ht : 2 = n
    · obtain ⟨e', t', hmake⟩ := makeSnap_create_fails himg hnamed ht
      rw [exec_bind_error hmake] at hexec
      cases hexec
      exact fun _ => rfl
    · have ht' : 2 + 1 ≠ n := fun ht' => hprotect ⟨hbase, ht'.symm⟩
      obtain ⟨w', s', hname, hprotected, hextra, hready⟩ := makeSnap_ready hn himg hnamed ht ht'
      have hundone : ∀ b, (perform (.clone base (cloneSnapPrefix ++ uuid) cloneUuid features)).exec
          (faulty shape sr host error n) ⟨w', 4, true⟩ =
            some (.error (.backend b), ⟨w', 5, false⟩) → Untouched w.graph s.state.graph := by
        intro b hclone
        -- the snapshot is protected, so that both calls of the handler are granted
        obtain ⟨w'', hdrop, hsame⟩ := dropTransient_done hextra hprotected
        rw [hname] at hdrop
        have hmake : (makeSnap base (cloneSnapPrefix ++ uuid)
            (perform (.clone base (cloneSnapPrefix ++ uuid) cloneUuid features))
            "VDI clone failed: ").exec (faulty shape sr host error n) ⟨w, 2, true⟩ =
              some (.error (.other ("VDI clone failed: " ++ b.message)), ⟨w'', 7, false⟩) :=
          exec_catch_backend (hready.trans hclone) ((exec_bind hdrop).trans rfl)
        rw [exec_bind_error hmake] at hexec
        cases hexec
        exact hsame.untouched
      rcases run_cases shape sr host error n w' 4 (show isBackend (.clone base
        (cloneSnapPrefix ++ uuid) cloneUuid features) = true from rfl) with ⟨htime, hclone⟩ |
          ⟨_, w'', hclone⟩ | ⟨b, hclone⟩
      · cases error with
        | backend b => exact hundone b hclone
        | unimplemented | calledProcess | other =>
            exact absurd ⟨rfl, by simp [himg, ← htime]⟩ hexposed
      · have hmake : (makeSnap base (cloneSnapPrefix ++ uuid)
            (perform (.clone base (cloneSnapPrefix ++ uuid) cloneUuid features))
            "VDI clone failed: ").exec (faulty shape sr host error n) ⟨w, 2, true⟩ =
              some (.ok (), ⟨w'', 5, true⟩) := exec_tryCatch (hready.trans hclone)
        rw [exec_bind hmake] at hexec
        obtain ⟨hother, htime⟩ := sizeOf_raises hexec
        exact absurd ⟨hother, by simp [himg, ← htime]⟩ hexposed
      · exact hundone b hclone
  · obtain ⟨e', t', hmake⟩ := makeSnap_absent hbase
    rw [exec_bind_error hmake] at hexec
    cases hexec
    exact fun _ => rfl

/-- A protection that fails leaves the snapshot behind. -/
theorem protect_fails (maker : Maker) (hmakes : maker.makes key = true)
    (hbase : sr.spec (splitKey key).1 ∈ w.graph.images) (ht : n = maker.protectTime) :
    ¬LeavesBase shape sr host error n srMeta features key w maker := by
  intro hleaves
  rcases hkey : splitKey key with ⟨base, snap⟩
  rw [hkey] at hfresh hbase
  obtain ⟨img, himg⟩ := Option.isSome_iff_exists.mp (AList.lookup_isSome.mpr hbase)
  cases maker with
  | snapshot =>
      have hsnap : truthy snap = false := by simpa [Maker.makes, hkey] using hmakes
      obtain ⟨uuid, hhost, huuid, -, hnew⟩ := hfresh 0
      obtain ⟨e, w', t', s, hmake, hextra⟩ := makeSnap_protect_fails hn himg (hnew img himg).1
        (show 1 + 1 = n from ht.symm)
      refine hextra.not_untouched (hleaves e ⟨w', t', false⟩ ?_)
      rw [snapshot_exec hkey hsnap hhost huuid]
      exact exec_bind_error hmake
  | clone =>
      have hsnap : snap = none := by simpa [Maker.makes, hkey] using hmakes
      subst hsnap
      obtain ⟨cloneUuid, hhost₀, huuid₀, -⟩ := hfresh 0
      obtain ⟨uuid, hhost, huuid, -, hnew⟩ := hfresh 1
      obtain ⟨e, w', t', s, hmake, hextra⟩ := makeSnap_protect_fails hn himg (hnew img himg).2
        (show 2 + 1 = n from ht.symm)
      refine hextra.not_untouched (hleaves e ⟨w', t', false⟩ ?_)
      rw [clone_exec hkey hhost₀ huuid₀ hhost huuid]
      exact exec_bind_error hmake

/-- An exposed call of `snapshot` that fails leaves the snapshot behind. -/
theorem snapshot_exposed (hother : raisesRbd error = false)
    (hexposed : Maker.snapshot.exposed sr w key n = true) :
    ¬LeavesBase shape sr host error n srMeta features key w .snapshot := by
  intro hleaves
  rcases hkey : splitKey key with ⟨base, snap⟩
  rw [Maker.exposed, hkey] at hexposed
  rw [hkey] at hfresh
  obtain ⟨img, himg, hcall⟩ := (Option.any_eq_true _ _).mp hexposed
  simp only [Bool.and_eq_true, Bool.not_eq_true', Bool.or_eq_true, beq_iff_eq,
    decide_eq_true_eq] at hcall
  obtain ⟨hsnap, hcall⟩ := hcall
  obtain ⟨uuid, hhost, huuid, -, hnew⟩ := hfresh 0
  obtain ⟨w', s', -, -, hextra, hready⟩ := makeSnap_ready hn himg (hnew img himg).1
    (show 1 ≠ n by omega) (show 1 + 1 ≠ n by omega)
  have hmake : (makeSnap base uuid (pure ()) "VDI snapshot failed: ").exec
      (faulty shape sr host error n) ⟨w, 1, true⟩ = some (.ok (), ⟨w', 3, true⟩) :=
    exec_tryCatch (hready.trans rfl)
  have hafter : ∃ t', (lift (afterSnap srMeta base uuid)).exec (faulty shape sr host error n)
      ⟨w', 3, true⟩ = some (.error error, ⟨w', t', false⟩) :=
    afterSnap_raises hextra.here hother (hcall.imp Eq.symm fun h => ⟨h.1, h.2⟩)
  obtain ⟨t', hafter⟩ := hafter
  refine hextra.not_untouched (hleaves error ⟨w', t', false⟩ ?_)
  rw [snapshot_exec hkey hsnap hhost huuid]
  exact (exec_bind hmake).trans hafter

/-- An exposed call of `clone` of a live image leaves the transient snapshot or the clone behind. -/
theorem cloneLive_exposed (hkey : splitKey key = (base, none)) (hother : raisesRbd error = false)
    (hexposed : Maker.clone.exposed sr w key n = true) :
    ¬LeavesBase shape sr host error n srMeta features key w .clone := by
  intro hleaves
  rw [Maker.exposed, hkey] at hexposed
  rw [hkey] at hfresh
  obtain ⟨img, himg, hcall⟩ := (Option.any_eq_true _ _).mp hexposed
  simp only [Bool.or_eq_true, beq_iff_eq] at hcall
  obtain ⟨cloneUuid, hhost₀, huuid₀, hdst, -⟩ := hfresh 0
  obtain ⟨uuid, hhost, huuid, -, hnew⟩ := hfresh 1
  obtain ⟨w', s', hname, hprotected, hextra, hready⟩ := makeSnap_ready hn himg
    (hnew img himg).2 (show 2 ≠ n by omega) (show 2 + 1 ≠ n by omega)
  -- call 4 is the clone, under the `try` for `RbdBackendError` only; call 5 reads the new size
  obtain rfl | rfl := hcall
  · have hmake : (makeSnap base (cloneSnapPrefix ++ uuid)
        (perform (.clone base (cloneSnapPrefix ++ uuid) cloneUuid features))
        "VDI clone failed: ").exec (faulty shape sr host error 4) ⟨w, 2, true⟩ =
          some (.error error, ⟨w', 5, false⟩) :=
      exec_catch_other hother (hready.trans (run_hit rfl rfl))
    refine hextra.not_untouched (hleaves error ⟨w', 5, false⟩ ?_)
    rw [clone_exec hkey hhost₀ huuid₀ hhost huuid]
    exact exec_bind_error hmake
  · have hdst' : sr.spec cloneUuid ∉ w'.graph.images := by
      have hne : sr.spec cloneUuid ≠ sr.spec base := by
        intro heq
        rw [heq] at hdst
        exact hdst (AList.lookup_isSome.mp (by rw [himg]; rfl))
      rw [← AList.lookup_eq_none, hextra.others _ hne]
      exact AList.lookup_eq_none.mpr hdst
    have hhead : ((img.withSnap s').named (cloneSnapPrefix ++ uuid)).head?.any
        Snap.isProtected = true := by
      rw [← hname, named_withSnap hextra.unnamed]
      exact hprotected
    obtain ⟨w'', hnew', hclone⟩ := clone_granted hextra.here hhead hdst'
      (.inr (show 4 ≠ 5 by decide))
    have hmake : (makeSnap base (cloneSnapPrefix ++ uuid)
        (perform (.clone base (cloneSnapPrefix ++ uuid) cloneUuid features))
        "VDI clone failed: ").exec (faulty shape sr host error 5) ⟨w, 2, true⟩ =
          some (.ok (), ⟨w'', 5, true⟩) := exec_tryCatch (hready.trans hclone)
    refine not_untouched_of_new hdst hnew' (hleaves error ⟨w'', 6, false⟩ ?_)
    rw [clone_exec hkey hhost₀ huuid₀ hhost huuid]
    exact (exec_bind hmake).trans (sizeOf_hit hother)

omit hn in
/-- The exposed call of `clone` of a snapshot leaves the clone behind. -/
theorem cloneSnap_exposed {source : String} (hkey : splitKey key = (base, some source))
    (hother : raisesRbd error = false) (hexposed : Maker.clone.exposed sr w key n = true) :
    ¬LeavesBase shape sr host error n srMeta features key w .clone := by
  intro hleaves
  rw [Maker.exposed, hkey] at hexposed
  rw [hkey] at hfresh
  obtain ⟨img, himg, hcall⟩ := (Option.any_eq_true _ _).mp hexposed
  simp only [Bool.and_eq_true, beq_iff_eq] at hcall
  obtain ⟨hhead, rfl⟩ := hcall
  obtain ⟨cloneUuid, hhost, huuid, hdst, -⟩ := hfresh 0
  obtain ⟨w', hnew, hclone⟩ := clone_granted himg hhead hdst (.inr (show 1 ≠ 2 by decide))
  have hok : (cloneSnap base source cloneUuid features).exec (faulty shape sr host error 2)
      ⟨w, 1, true⟩ = some (.ok (), ⟨w', 2, true⟩) := exec_tryCatch hclone
  refine not_untouched_of_new hdst hnew (hleaves error ⟨w', 3, false⟩ ?_)
  rw [cloneSnap_exec hkey hhost huuid]
  exact (exec_bind hok).trans (sizeOf_hit hother)

/-- An exception other than `RbdBackendError` of an exposed call leaves the snapshot or the clone
behind. -/
theorem exposed_fails (maker : Maker) (hother : raisesRbd error = false)
    (hexposed : maker.exposed sr w key n = true) :
    ¬LeavesBase shape sr host error n srMeta features key w maker := by
  cases maker with
  | snapshot => exact snapshot_exposed hn hfresh hother hexposed
  | clone =>
      rcases hkey : splitKey key with ⟨base, snap⟩
      cases snap with
      | some source => exact cloneSnap_exposed hfresh hkey hother hexposed
      | none => exact cloneLive_exposed hn hfresh hkey hother hexposed

/-- A `snapshot` or `clone` with one failing call that raises leaves every image, every snapshot
and its protection as they were, exactly where the failing call is neither the one that protects the
snapshot it made nor an exposed one that fails with an exception other than `RbdBackendError`. -/
theorem failed_leaves_base_iff (maker : Maker) :
    LeavesBase shape sr host error n srMeta features key w maker ↔
      ¬((maker.makes key = true ∧ sr.spec (splitKey key).1 ∈ w.graph.images ∧
          n = maker.protectTime) ∨
        (raisesRbd error = false ∧ maker.exposed sr w key n = true)) := by
  constructor
  · rintro hleaves (h | h)
    · exact protect_fails hn hfresh maker h.1 h.2.1 h.2.2 hleaves
    · exact exposed_fails hn hfresh maker h.1 h.2 hleaves
  · intro h
    obtain ⟨hprotect, hexposed⟩ := not_or.mp h
    cases maker with
    | snapshot => exact snapshot_leaves hn hfresh hprotect hexposed
    | clone =>
        rcases hkey : splitKey key with ⟨base, snap⟩
        cases snap with
        | some source => exact cloneSnap_leaves hfresh hkey hexposed
        | none =>
            refine cloneLive_leaves hn hfresh hkey (fun hcall => hprotect ?_) hexposed
            simpa [Maker.makes, Maker.protectTime, hkey] using hcall

end Main

end Leaves

/-- A cluster with one image. -/
def oneImage : Cluster where
  graph :=
    { images := AList.insert (⟨"rbd", "", "11111111-1111-1111-1111-111111111111"⟩ : Spec)
        { id := 0, size := 4194304 } ∅
      nextId := 1 }

/-- A host that gives one UUID. -/
def oneUuid : Nat → Cluster → OpCall → OpChoice :=
  fun _ _ _ => .fresh "22222222-2222-2222-2222-222222222222"

theorem oneImage_lookup {spec : Spec} {img : Image}
    (h : oneImage.graph.images.lookup spec = some img) : img = { id := 0, size := 4194304 } := by
  by_cases hspec : spec = ⟨"rbd", "", "11111111-1111-1111-1111-111111111111"⟩
  · subst hspec
    exact (Option.some.inj ((AList.lookup_insert _).symm.trans h)).symm
  · rw [oneImage, AList.lookup_insert_ne hspec, AList.lookup_empty] at h
    cases h

theorem oneImage_numbered : oneImage.graph.Numbered := by
  intro spec img himg
  rw [oneImage_lookup himg]
  simp [linksTo_iff]

theorem oneUuid_fresh (base : String) : FreshUuids oneUuid ⟨"rbd", ""⟩ oneImage base := by
  intro t
  refine ⟨_, rfl, by decide, by decide, ?_⟩
  intro img himg
  rw [oneImage_lookup himg]
  exact ⟨rfl, rfl⟩

/-- Where the clone itself fails with an `RbdBackendError`, the transient snapshot is undone. -/
theorem failed_leaves_base_clone :
    LeavesBase .rest ⟨"rbd", ""⟩ oneUuid (.backend { message := "no space" }) 4
      ⟨"sr", "rbd", none, none⟩ ["layering"] "11111111-1111-1111-1111-111111111111" oneImage
        .clone :=
  (failed_leaves_base_iff oneImage_numbered (oneUuid_fresh _) .clone).mpr (by decide)

/-- Where protecting the new snapshot fails, `snapshot` and `clone` leave it on the base; and where
the clone itself times out, `clone` does. -/
theorem failed_protect_leaves_snapshot :
    ¬LeavesBase .rest ⟨"rbd", ""⟩ oneUuid (.backend { message := "timeout" }) 2
        ⟨"sr", "rbd", none, none⟩ ["layering"] "11111111-1111-1111-1111-111111111111" oneImage
          .snapshot ∧
      ¬LeavesBase .rest ⟨"rbd", ""⟩ oneUuid (.backend { message := "timeout" }) 3
        ⟨"sr", "rbd", none, none⟩ ["layering"] "11111111-1111-1111-1111-111111111111" oneImage
          .clone ∧
      ¬LeavesBase .rest ⟨"rbd", ""⟩ oneUuid (.other "The read operation timed out") 4
        ⟨"sr", "rbd", none, none⟩ ["layering"] "11111111-1111-1111-1111-111111111111" oneImage
          .clone := by
  have hbase : (Sr.mk "rbd" "").spec (splitKey "11111111-1111-1111-1111-111111111111").1 ∈
      oneImage.graph.images := by decide
  exact ⟨protect_fails oneImage_numbered (oneUuid_fresh _) .snapshot rfl hbase rfl,
    protect_fails oneImage_numbered (oneUuid_fresh _) .clone rfl hbase rfl,
    exposed_fails oneImage_numbered (oneUuid_fresh _) .clone rfl (by decide)⟩

end XcpCephRbd.Gc
