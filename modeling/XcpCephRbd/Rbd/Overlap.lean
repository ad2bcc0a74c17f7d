import XcpCephRbd.Libceph.Striper

/-!
# What an object has of the parent image

A clone shares the bytes of its parent below the overlap. `rbd_obj_calc_img_extents` maps an extent
of an object back to the image and cuts off what is beyond the overlap; `parentData_getD` says that
what is read from the parent there is what the object has of it, byte by byte, with zeros after it.
-/

namespace XcpCephRbd.Rbd

open Striper

/-- `prune_extents`: extents beyond the overlap are dropped, the last one that is left is
trimmed. -/
def pruneExtents (exts : List FileExtent) (overlap : Nat) : List FileExtent :=
  match exts.reverse.dropWhile (fun fe => decide (overlap ≤ fe.off)) with
  | [] => []
  | fe :: rest =>
      ((if overlap < fe.off + fe.len then { fe with len := overlap - fe.off } else fe) ::
        rest).reverse

/-- `rbd_obj_calc_img_extents`, for the extent or for the entire object. -/
def calcImgExtents (l : Layout) (overlap : Nat) (ex : ObjectExtent) (entire : Bool) :
    List FileExtent :=
  if overlap = 0 then []
  else
    pruneExtents
      (if entire then l.extentToFile ex.objno 0 l.objectSize
      else l.extentToFile ex.objno ex.off ex.len) overlap

/-- What is read from the parent for image extents. -/
def parentData {α : Type} (parent : Nat → α) (exts : List FileExtent) : List α :=
  (exts.flatMap FileExtent.bytes).map parent

/-- `rbd_obj_img_extents_bytes`. -/
def imgExtentsBytes (exts : List FileExtent) : Nat := (exts.map FileExtent.len).sum

theorem length_parentData {α : Type} (parent : Nat → α) (exts : List FileExtent) :
    (parentData parent exts).length = imgExtentsBytes exts := by
  induction exts with
  | nil => rfl
  | cons fe exts ih =>
      simp only [parentData, imgExtentsBytes, List.length_map, List.flatMap_cons,
        List.length_append, List.map_cons, List.sum_cons] at ih ⊢
      rw [ih]
      simp [FileExtent.bytes]

/-- The bytes of a file extent. -/
theorem mem_bytes {fe : FileExtent} {b : Nat} : b ∈ fe.bytes ↔ fe.off ≤ b ∧
    b < fe.off + fe.len := by
  constructor
  · intro h
    obtain ⟨i, hi, rfl⟩ := List.mem_map.mp h
    have hlt := List.mem_range.mp hi
    omega
  · intro ⟨hle, hlt⟩
    exact List.mem_map.mpr ⟨b - fe.off, List.mem_range.mpr (by omega), by omega⟩

/-- The bytes of a trimmed extent. -/
theorem filter_bytes (fe : FileExtent) (overlap : Nat) :
    fe.bytes.filter (· < overlap) =
      (if overlap < fe.off + fe.len then { fe with len := overlap - fe.off } else fe).bytes := by
  split
  · rename_i hlt
    have hlen : fe.len = (overlap - fe.off) + (fe.len - (overlap - fe.off)) := by omega
    obtain ⟨off, len⟩ := fe
    dsimp only at hlt hlen ⊢
    rw [hlen, FileExtent.bytes_add, List.filter_append]
    have hfirst : (FileExtent.mk off (overlap - off)).bytes.filter (· < overlap) =
        (FileExtent.mk off (overlap - off)).bytes := by
      apply List.filter_eq_self.mpr
      intro b hb
      have hmem := mem_bytes.mp hb
      simp only [decide_eq_true_eq]
      dsimp only at hmem
      omega
    have hrest : (FileExtent.mk (off + (overlap - off)) (len - (overlap - off))).bytes.filter
        (· < overlap) = [] := by
      apply List.filter_eq_nil_iff.mpr
      intro b hb
      have hmem := mem_bytes.mp hb
      simp only [decide_eq_true_eq]
      dsimp only at hmem
      omega
    rw [hfirst, hrest, List.append_nil]
  · apply List.filter_eq_self.mpr
    intro b hb
    have hmem := mem_bytes.mp hb
    simp only [decide_eq_true_eq]
    omega

/-- Of successive extents, the bytes below the overlap are left. -/
theorem pruneExtents_bytes {exts : List FileExtent} (overlap : Nat)
    (h : exts.Pairwise fun a b => a.off + a.len ≤ b.off) :
    (pruneExtents exts overlap).flatMap FileExtent.bytes =
      (exts.flatMap FileExtent.bytes).filter (· < overlap) := by
  rw [pruneExtents]
  generalize hrev : exts.reverse = rev
  obtain rfl : exts = rev.reverse := by rw [← hrev, List.reverse_reverse]
  rw [List.pairwise_reverse] at h
  clear hrev
  induction rev with
  | nil => rfl
  | cons fe rest ih =>
      obtain ⟨hfe, hrest⟩ := List.pairwise_cons.mp h
      rw [List.reverse_cons, List.flatMap_append, List.filter_append, List.flatMap_singleton]
      by_cases hout : overlap ≤ fe.off
      · have hnone : fe.bytes.filter (· < overlap) = [] := by
          apply List.filter_eq_nil_iff.mpr
          intro b hb
          have hmem := mem_bytes.mp hb
          simp only [decide_eq_true_eq]
          omega
        rw [List.dropWhile_cons_of_pos (by simpa using hout), hnone, List.append_nil]
        exact ih hrest
      · have hall : (rest.reverse.flatMap FileExtent.bytes).filter (· < overlap) =
            rest.reverse.flatMap FileExtent.bytes := by
          apply List.filter_eq_self.mpr
          intro b hb
          obtain ⟨fe', hfe', hmem⟩ := List.mem_flatMap.mp hb
          have hbefore := hfe fe' (List.mem_reverse.mp hfe')
          have hin := mem_bytes.mp hmem
          simp only [decide_eq_true_eq]
          omega
        rw [List.dropWhile_cons_of_neg (by simpa using hout), hall, filter_bytes]
        show (List.reverse (_ :: rest)).flatMap FileExtent.bytes = _
        rw [List.reverse_cons, List.flatMap_append, List.flatMap_singleton]

/-- Of growing numbers, those below a bound come first. -/
theorem filter_lt_range {g : Nat → Nat} (hg : ∀ x y, x < y → g x < g y) (bound n : Nat) :
    ∃ m ≤ n, (∀ i < n, g i < bound ↔ i < m) ∧
      ((List.range n).map g).filter (· < bound) = (List.range m).map g := by
  induction n with
  | zero => exact ⟨0, Nat.le_refl _, by simp, rfl⟩
  | succ n ih =>
      obtain ⟨m, hm, hiff, hfilter⟩ := ih
      rw [List.range_succ, List.map_append, List.filter_append, hfilter]
      by_cases hn : g n < bound
      · -- all the numbers before are below the bound too
        have hall : m = n := by
          rcases Nat.lt_or_eq_of_le hm with hlt | heq
          · have := hg m n hlt
            have := (hiff m hlt).mp (by omega)
            omega
          · exact heq
        subst hall
        refine ⟨m + 1, Nat.le_refl _, ?_, ?_⟩
        · intro i hi
          rcases Nat.lt_or_eq_of_le (show i ≤ m by omega) with hlt | rfl
          · rw [hiff i hlt]
            omega
          · simp [hn]
        · rw [List.range_succ, List.map_append]
          simp [hn]
      · refine ⟨m, by omega, ?_, by simp [hn]⟩
        intro i hi
        rcases Nat.lt_or_eq_of_le (show i ≤ n by omega) with hlt | rfl
        · exact hiff i hlt
        · constructor
          · intro h
            exact absurd h hn
          · intro h
            omega

/-- The extents of the loop are not empty. -/
theorem extentLoop_len_pos (l : Layout) (objno objoff objlen blockoff : Nat)
    (hb : blockoff < l.stripeUnit) :
    ∀ fe ∈ l.extentLoop objno objoff objlen blockoff hb, 0 < fe.len := by
  induction objoff, objlen, blockoff, hb using Layout.extentLoop.induct l objno with
  | case1 objoff blockoff hb => simp [Layout.extentLoop]
  | case2 objoff objlen blockoff hb h len ih =>
      rw [Layout.extentLoop, dif_neg h]
      intro fe hfe
      rcases List.mem_cons.mp hfe with rfl | hrest
      · show 0 < min objlen (l.stripeUnit - blockoff)
        omega
      · exact ih fe hrest

/-- The file extents of an object extent come one after the other. -/
theorem extentToFile_sorted (l : Layout) (objno objoff objlen : Nat) :
    (l.extentToFile objno objoff objlen).Pairwise fun a b => a.off + a.len ≤ b.off := by
  have hbytes := l.extentLoop_bytes objno objoff objlen _ (Nat.mod_lt _ l.unit_pos) fun _ => rfl
  have hsorted : ((l.extentToFile objno objoff objlen).flatMap FileExtent.bytes).Pairwise
      (· < ·) := by
    rw [Layout.extentToFile, hbytes, ObjectExtent.bytes, List.map_map, List.pairwise_map]
    refine List.pairwise_lt_range.imp ?_
    intro i j hij
    exact l.fileByte_lt (show objoff + i < objoff + j by omega)
  rw [List.pairwise_flatMap] at hsorted
  refine hsorted.2.imp_of_mem ?_
  intro a b ha hb hlt
  have hapos := extentLoop_len_pos l _ _ _ _ _ a ha
  have hbpos := extentLoop_len_pos l _ _ _ _ _ b hb
  have := hlt (a.off + a.len - 1) (mem_bytes.mpr (by omega)) b.off (mem_bytes.mpr (by omega))
  omega

variable {α : Type} [Zero α]

/-- A byte of an object as the parent has it: zero beyond the overlap. -/
def parentByte (l : Layout) (overlap : Nat) (parent : Nat → α) (objno x : Nat) : α :=
  if l.fileByte objno x < overlap then parent (l.fileByte objno x) else 0

/-- What is read from the parent for an object extent is what the object has of it there. -/
theorem parentData_getD (l : Layout) (overlap : Nat) (parent : Nat → α) (objno off len : Nat) :
    (parentData parent (pruneExtents (l.extentToFile objno off len) overlap)).length ≤ len ∧
    ∀ i < len, (parentData parent
      (pruneExtents (l.extentToFile objno off len) overlap)).getD i 0 =
        parentByte l overlap parent objno (off + i) := by
  obtain ⟨m, hm, hiff, hfilter⟩ := filter_lt_range (g := fun i => l.fileByte objno (off + i))
    (fun x y hxy => l.fileByte_lt (by omega)) overlap len
  have hdata : parentData parent (pruneExtents (l.extentToFile objno off len) overlap) =
      (List.range m).map fun i => parent (l.fileByte objno (off + i)) := by
    rw [parentData, pruneExtents_bytes overlap (extentToFile_sorted l objno off len),
      Layout.extentToFile, l.extentLoop_bytes _ _ _ _ _ fun _ => rfl, ObjectExtent.bytes,
      List.map_map]
    show (((List.range len).map fun i => l.fileByte objno (off + i)).filter _).map parent = _
    rw [hfilter, List.map_map]
    rfl
  rw [hdata]
  refine ⟨by simpa using hm, ?_⟩
  intro i hi
  rw [parentByte, List.getD_eq_getElem?_getD, List.getElem?_map]
  by_cases hlt : i < m
  · rw [List.getElem?_range hlt, if_pos ((hiff i hi).mpr hlt)]
    rfl
  · rw [List.getElem?_eq_none (by simpa using hlt), if_neg fun h => hlt ((hiff i hi).mp h)]
    rfl

end XcpCephRbd.Rbd
