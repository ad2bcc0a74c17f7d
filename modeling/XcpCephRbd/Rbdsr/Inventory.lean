import Mathlib.Logic.Function.Basic
import XcpCephRbd.Gc.Retention
import XcpCephRbd.Gc.Spares
import XcpCephRbd.Lib.Weigh

/-!
# What a scan counts

`scan` counts the sizes of the images that are named like a VDI and of their snapshots that are. The
inventory is the cluster as far as a scan sees it: for each VDI its size and its snapshots with
their sizes. `scanAllocation_listing` says that a scan's figure is the sum over the images of the
cluster, and the rest of the module what each request of Ceph's does to that sum and to the
inventory.
-/

namespace XcpCephRbd.Rbdsr

open Gc (Graph Image Req Snap Spec Sr)
open Volume (Info SnapInfo uuidMatch trashPrefix)
open Weigh (weigh weightAt)

/-- `scan`'s sum over the snapshots of an image. -/
def scanSnaps : List SnapInfo → Nat
  | [] => 0
  | snap :: rest =>
      if Text.startsWith snap.name trashPrefix then scanSnaps rest
      else if uuidMatch snap.name then snap.size + scanSnaps rest
      else scanSnaps rest

/-- The `va` of `scan`, from the images that `list_images` gives. -/
def scanAllocation : List Info → Nat
  | [] => 0
  | info :: rest =>
      if Text.startsWith info.name trashPrefix then scanAllocation rest
      else if uuidMatch info.name then info.size + scanSnaps info.snapshots + scanAllocation rest
      else scanAllocation rest

/-! ## The sum over the cluster -/

/-- An image as a scan sees it: its size, and its snapshots that are VDIs with theirs. -/
structure Entry where
  size : Nat
  snaps : List (String × Nat)
  deriving DecidableEq, Repr

/-- The size of an image and of its snapshots. -/
def Entry.weight (entry : Entry) : Nat := entry.size + (entry.snaps.map Prod.snd).sum

/-- What a scan sees of an image. -/
def entryOf (img : Image) : Entry :=
  ⟨img.size, (img.snapshots.filter fun s => uuidMatch s.name).map fun s => (s.name, s.size)⟩

/-- What a scan counts for an image. -/
def counted (sr : Sr) (spec : Spec) (img : Image) : Nat :=
  if spec.pool == sr.pool && spec.ns == sr.ns && uuidMatch spec.image
    then (entryOf img).weight else 0

/-- What a scan counts for the cluster. -/
def total (sr : Sr) (g : Graph) : Nat := weigh (counted sr) g.images

/-- The VDIs of the SR. -/
def inventory (sr : Sr) (g : Graph) (uuid : String) : Option Entry :=
  if uuidMatch uuid then (g.images.lookup (sr.spec uuid)).map entryOf else none

section Scan

variable {shape : Gc.Shape} {sr : Sr} {g : Graph}

/-- A snapshot in the trash is no VDI, so that the two tests of `scan` are one. -/
theorem scanSnaps_eq (snaps : List SnapInfo) :
    scanSnaps snaps =
      ((snaps.filter fun s => uuidMatch s.name).map SnapInfo.size).sum := by
  induction snaps with
  | nil => rfl
  | cons snap rest ih =>
      rw [scanSnaps, ih, List.filter_cons]
      by_cases huuid : uuidMatch snap.name = true
      · have htrash : Text.startsWith snap.name trashPrefix = false := Gc.isTrash_of_uuid huuid
        simp [htrash, huuid]
      · simp [huuid]

/-- What a scan counts for one image of the listing. -/
theorem scanAllocation_cons (spec : Spec) (img : Image) (rest : List Info)
    (hours : (spec.pool == sr.pool && spec.ns == sr.ns) = true) :
    scanAllocation (g.volumeInfo shape spec.image img :: rest) =
      counted sr spec img + scanAllocation rest := by
  have hsnaps : scanSnaps (g.volumeInfo shape spec.image img).snapshots =
      ((entryOf img).snaps.map Prod.snd).sum := by
    rw [scanSnaps_eq]
    simp only [Graph.volumeInfo, entryOf, List.filter_map, List.map_map]
    rfl
  rw [scanAllocation, hsnaps, counted, hours, Bool.true_and]
  by_cases huuid : uuidMatch spec.image = true
  · have htrash : Text.startsWith spec.image trashPrefix = false := Gc.isTrash_of_uuid huuid
    simp only [Graph.volumeInfo, htrash, huuid, if_true, Bool.false_eq_true, if_false]
    rfl
  · simp [Graph.volumeInfo, huuid]

/-- **The figure of a scan is the sum over the cluster.** -/
theorem scanAllocation_listing : scanAllocation (g.listing shape sr) = total sr g := by
  rw [Graph.listing, total, weigh]
  induction g.images.entries with
  | nil => rfl
  | cons entry rest ih =>
      obtain ⟨spec, img⟩ := entry
      rw [List.filter_cons]
      split
      next hours =>
          rw [List.map_cons, scanAllocation_cons spec img _ hours, ih]
          rfl
      next hours =>
          have hzero : counted sr spec img = 0 := by
            rw [counted, if_neg]
            intro hall
            exact hours (Bool.and_eq_true_iff.mp hall).1
          rw [ih, List.map_cons, List.sum_cons, hzero, Nat.zero_add]

end Scan

/-! ## What requests do to it -/

section Requests

variable {sr : Sr} {g g' : Graph} {name : String} {img img' : Image}

/-- The weight of an image of the SR. -/
theorem counted_spec (sr : Sr) (name : String) (img : Image) :
    counted sr (sr.spec name) img = if uuidMatch name then (entryOf img).weight else 0 := by
  simp [counted, Sr.spec]

/-- Images of the SR with different names are different images. -/
theorem spec_ne {other : String} (h : other ≠ name) : sr.spec other ≠ sr.spec name := by
  intro heq
  exact h (congrArg Spec.image heq)

/-- What an image that is set is in the inventory. -/
theorem inventory_insert (g : Graph) (name : String) (img : Image) (nextId : Nat) :
    inventory sr { images := g.images.insert (sr.spec name) img, nextId := nextId } =
      Function.update (inventory sr g) name
        (if uuidMatch name then some (entryOf img) else none) := by
  funext other
  by_cases hother : other = name
  · subst hother
    rw [Function.update_self, inventory, AList.lookup_insert]
    rfl
  · rw [Function.update_of_ne hother, inventory, inventory,
      AList.lookup_insert_ne (spec_ne hother)]

/-- An image that is taken out is not in the inventory. -/
theorem inventory_erase (g : Graph) (name : String) (nextId : Nat) :
    inventory sr { images := g.images.erase (sr.spec name), nextId := nextId } =
      Function.update (inventory sr g) name none := by
  funext other
  by_cases hother : other = name
  · subst hother
    rw [Function.update_self, inventory, AList.lookup_erase]
    exact ite_self none
  · rw [Function.update_of_ne hother, inventory, inventory, AList.lookup_erase_ne (spec_ne hother)]

/-- The sum with an image set. -/
theorem total_insert (himg : g.images.lookup (sr.spec name) = some img) (img' : Image)
    (nextId : Nat) :
    total sr { images := g.images.insert (sr.spec name) img', nextId := nextId } +
        (if uuidMatch name then (entryOf img).weight else 0) =
      total sr g + if uuidMatch name then (entryOf img').weight else 0 := by
  have hsum := Weigh.weigh_insert (counted sr) g.images (sr.spec name) img'
  rwa [Weigh.weightAt_of_lookup himg, counted_spec, counted_spec] at hsum

/-- The sum with a new image. -/
theorem total_new (hnew : sr.spec name ∉ g.images) (img : Image) (nextId : Nat) :
    total sr { images := g.images.insert (sr.spec name) img, nextId := nextId } =
      total sr g + if uuidMatch name then (entryOf img).weight else 0 := by
  have hsum := Weigh.weigh_insert (counted sr) g.images (sr.spec name) img
  rwa [Weigh.weightAt_of_notMem hnew, counted_spec, Nat.add_zero] at hsum

/-- The sum without an image. -/
theorem total_erase (himg : g.images.lookup (sr.spec name) = some img) (nextId : Nat) :
    total sr { images := g.images.erase (sr.spec name), nextId := nextId } +
      (if uuidMatch name then (entryOf img).weight else 0) = total sr g := by
  have hsum := Weigh.weigh_erase (counted sr) g.images (sr.spec name)
  rwa [Weigh.weightAt_of_lookup himg, counted_spec] at hsum

/-- To a scan the cluster is as it was; it is as well formed, and keeps its images. -/
structure SameToScan (sr : Sr) (g g' : Graph) : Prop where
  inventory : inventory sr g' = inventory sr g
  total : total sr g' = total sr g
  wellFormed : g.WellFormed → g'.WellFormed

@[refl] theorem SameToScan.refl (sr : Sr) (g : Graph) : SameToScan sr g g := ⟨rfl, rfl, id⟩

@[trans] theorem SameToScan.trans {g'' : Graph} (h : SameToScan sr g g')
    (h' : SameToScan sr g' g'') : SameToScan sr g g'' :=
  ⟨h'.inventory.trans h.inventory, h'.total.trans h.total, h'.wellFormed ∘ h.wellFormed⟩

/-- The inventory has an image of the SR that is named like a VDI. -/
theorem inventory_of_lookup (himg : g.images.lookup (sr.spec name) = some img)
    (huuid : uuidMatch name = true) : inventory sr g name = some (entryOf img) := by
  rw [inventory, if_pos huuid, himg]
  rfl

/-- What is in the inventory is an image of the SR. -/
theorem lookup_of_inventory {entry : Entry} (h : inventory sr g name = some entry) :
    uuidMatch name = true ∧ ∃ img, g.images.lookup (sr.spec name) = some img ∧
      entryOf img = entry := by
  rw [inventory, Option.ite_none_right_eq_some] at h
  obtain ⟨huuid, hmap⟩ := h
  obtain ⟨img, himg, hentry⟩ := Option.map_eq_some_iff.mp hmap
  exact ⟨huuid, img, himg, hentry⟩

/-- An edit that Ceph grants sets the image. -/
theorem of_edit {spec : Spec} (r : Req)
    (h : ((g.images.lookup spec).bind fun img => (g.edit r img).map fun img' =>
      ({ images := g.images.insert spec img', nextId := g.nextId + 1 } : Graph)) = some g') :
    ∃ img img', g.images.lookup spec = some img ∧ g.edit r img = some img' ∧
      g' = { images := g.images.insert spec img', nextId := g.nextId + 1 } := by
  obtain ⟨img, himg, hmap⟩ := Option.bind_eq_some_iff.mp h
  obtain ⟨img', hedit, rfl⟩ := Option.map_eq_some_iff.mp hmap
  exact ⟨img, img', himg, hedit, rfl⟩

/-- An image is set to one that is the same to a scan. -/
theorem sameToScan_insert (himg : g.images.lookup (sr.spec name) = some img)
    (hentry : entryOf img' = entryOf img) {nextId : Nat}
    (hw : g.WellFormed →
      Graph.WellFormed { images := g.images.insert (sr.spec name) img', nextId := nextId }) :
    SameToScan sr g { images := g.images.insert (sr.spec name) img', nextId := nextId } := by
  refine ⟨?_, ?_, hw⟩
  · have hold : inventory sr g name = if uuidMatch name then some (entryOf img) else none := by
      rw [inventory, himg]
      rfl
    rw [inventory_insert, hentry, ← hold, Function.update_eq_self]
  · have hsum := total_insert himg img' nextId
    rw [hentry] at hsum
    omega

end Requests

/-! ## What edits do to an entry -/

/-- The entry with a snapshot more, of the size of the image. -/
def Entry.add (entry : Entry) (snap : String) : Entry :=
  { entry with snaps := entry.snaps ++ [(snap, entry.size)] }

/-- The entry without a snapshot. -/
def Entry.drop (entry : Entry) (snap : String) : Entry :=
  { entry with snaps := entry.snaps.filter fun s => s.1 != snap }

/-- A new snapshot counts the size of its image again. -/
theorem Entry.weight_add (entry : Entry) (snap : String) :
    (entry.add snap).weight = entry.weight + entry.size := by
  simp only [Entry.weight, Entry.add, List.map_append, List.sum_append, List.map_cons,
    List.map_nil, List.sum_cons, List.sum_nil]
  omega

/-- A list without the entries of a key has the sum less its one value. -/
theorem sum_without {snap : String} {size : Nat} {snaps : List (String × Nat)}
    (hmem : (snap, size) ∈ snaps) (hunique : (snaps.map Prod.fst).Nodup) :
    ((snaps.filter fun s => s.1 != snap).map Prod.snd).sum + size = (snaps.map Prod.snd).sum := by
  induction snaps with
  | nil => cases hmem
  | cons s rest ih =>
      rw [List.map_cons, List.nodup_cons] at hunique
      obtain ⟨hfresh, hrest⟩ := hunique
      rcases List.mem_cons.mp hmem with hhead | htail
      · subst hhead
        have hothers : (rest.filter fun s => s.1 != snap) = rest := by
          rw [List.filter_eq_self]
          intro other hother
          simp only [bne_iff_ne, ne_eq]
          rintro rfl
          exact hfresh (List.mem_map.mpr ⟨other, hother, rfl⟩)
        rw [List.filter_cons_of_neg (by simp), hothers, List.map_cons, List.sum_cons]
        omega
      · have hne : s.1 ≠ snap := by
          rintro rfl
          exact hfresh (List.mem_map.mpr ⟨_, htail, rfl⟩)
        rw [List.filter_cons_of_pos (by simpa using hne), List.map_cons, List.map_cons,
          List.sum_cons, List.sum_cons, ← ih htail hrest]
        omega

/-- Without a snapshot its size is no longer counted. -/
theorem Entry.weight_drop {entry : Entry} {snap : String} {size : Nat}
    (hmem : (snap, size) ∈ entry.snaps) (hunique : (entry.snaps.map Prod.fst).Nodup) :
    (entry.drop snap).weight + size = entry.weight := by
  have hsum := sum_without hmem hunique
  show entry.size + ((entry.snaps.filter fun s => s.1 != snap).map Prod.snd).sum + size =
    entry.size + (entry.snaps.map Prod.snd).sum
  omega

section Edits

variable {img : Image} {snap : String}

/-- The names of an entry's snapshots are as unique as those of the image's. -/
theorem entryOf_nodup (h : (img.snapshots.map Snap.name).Nodup) :
    ((entryOf img).snaps.map Prod.fst).Nodup := by
  have hnames : (entryOf img).snaps.map Prod.fst =
      (img.snapshots.filter fun s => uuidMatch s.name).map Snap.name := by
    simp only [entryOf, List.map_map]
    rfl
  rw [hnames]
  exact h.sublist (List.filter_sublist.map _)

/-- A change of the snapshots of a name that keeps their name and size. -/
theorem entryOf_mapSnap {f : Snap → Snap} (hname : ∀ s, (f s).name = s.name)
    (hsize : ∀ s, (f s).size = s.size) : entryOf (img.mapSnap snap f) = entryOf img := by
  simp only [entryOf, Image.mapSnap, Entry.mk.injEq, true_and]
  induction img.snapshots with
  | nil => rfl
  | cons s rest ih =>
      have hs : ∀ t : Snap, t.name = s.name → t.size = s.size →
          ((t :: rest.map fun s => if s.name == snap then f s else s).filter fun s =>
            uuidMatch s.name).map (fun s => (s.name, s.size)) =
          ((s :: rest).filter fun s => uuidMatch s.name).map fun s => (s.name, s.size) := by
        intro t htname htsize
        rw [List.filter_cons, List.filter_cons, htname]
        split
        · rw [List.map_cons, List.map_cons, ih, htname, htsize]
        · exact ih
      rw [List.map_cons]
      split
      · exact hs (f s) (hname s) (hsize s)
      · exact hs s rfl rfl

/-- The snapshots of an entry without those of a name. -/
theorem entryOf_filter (img : Image) (snap : String) :
    entryOf { img with snapshots := img.snapshots.filter fun s => s.name != snap } =
      (entryOf img).drop snap := by
  simp only [entryOf, Entry.drop, Entry.mk.injEq, true_and, List.filter_map, List.filter_filter]
  refine congrArg _ (List.filter_congr fun s _ => ?_)
  exact Bool.and_comm _ _

/-- A name that is not of the inventory drops nothing. -/
theorem drop_other (h : uuidMatch snap = false) : (entryOf img).drop snap = entryOf img := by
  have hothers : ((entryOf img).snaps.filter fun s => s.1 != snap) = (entryOf img).snaps := by
    rw [List.filter_eq_self]
    intro s hs
    obtain ⟨t, ht, rfl⟩ := List.mem_map.mp hs
    have huuid := (List.mem_filter.mp ht).2
    simp only [bne_iff_ne, ne_eq]
    rintro rfl
    rw [h] at huuid
    cases huuid
  rw [Entry.drop, hothers]

/-- A snapshot that is renamed out of the UUID space is dropped. -/
theorem entryOf_rename {newSnap : String} (h : uuidMatch newSnap = false) :
    entryOf (img.mapSnap snap fun s => { s with name := newSnap }) = (entryOf img).drop snap := by
  simp only [entryOf, Image.mapSnap, Entry.drop, Entry.mk.injEq, true_and]
  induction img.snapshots with
  | nil => rfl
  | cons s rest ih =>
      rw [List.map_cons]
      by_cases hname : s.name = snap
      · subst hname
        rw [if_pos (beq_self_eq_true _), List.filter_cons_of_neg (by simp [h]), ih,
          List.filter_cons]
        split
        · rw [List.map_cons, List.filter_cons_of_neg (by simp)]
        · rfl
      · rw [if_neg (by simpa using hname), List.filter_cons, List.filter_cons]
        split
        · rw [List.map_cons, List.map_cons, List.filter_cons_of_pos (by simpa using hname), ih]
        · exact ih

/-- A new snapshot that is a VDI is added, one that is none is not seen. -/
theorem entryOf_snapCreate (img : Image) (s : Snap) (hsize : s.size = img.size) :
    entryOf { img with snapshots := img.snapshots ++ [s] } =
      if uuidMatch s.name then (entryOf img).add s.name else entryOf img := by
  simp only [entryOf, Entry.add, List.filter_append, List.map_append]
  split
  next huuid =>
      simp [huuid, hsize]
  next huuid =>
      simp [huuid]

/-- A PUT of a size sets the size. -/
theorem entryOf_resize (img : Image) (size : Nat) :
    entryOf (img.put { size := some size }) = { entryOf img with size := size } := by
  obtain ⟨content, hresize⟩ := @Gc.resize_eq img size
  show entryOf (img.resize size) = _
  rw [hresize]
  rfl

end Edits

end XcpCephRbd.Rbdsr
