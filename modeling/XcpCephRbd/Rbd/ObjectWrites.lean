import XcpCephRbd.Rbd.ObjectOps

/-!
# What a write request has in flight

`Req.WriteOk` says, for each state of a request that changes the object, which OSD requests it has
in flight, whether it has already changed the object, and what the replies that have come say about
this. Every part of `rbd_obj_advance_write` and `rbd_obj_advance_copyup` leads from such a state to
one (`writeOk_advance`), and so does the execution of an OSD request (`WriteOk.exec`).
-/

namespace XcpCephRbd.Rbd

open Striper

variable {α : Type}

/-- What the reply of the modification says about it. -/
def ModsReply (applied : Prop) (deletion : Bool) : Option (Int × List α) → Prop
  | none => ¬applied
  | some (res, _) => (res = 0 → applied) ∧ (res = enoent → (applied ↔ deletion = true))

theorem length_stamp (t : Nat) (sents : List (Sent α)) : (stamp t sents).length = sents.length := by
  induction sents generalizing t with
  | nil => rfl
  | cons sent sents ih => rw [stamp, List.length_cons, List.length_cons, ih]

/-- What is stamped is one of the OSD requests of the call. -/
theorem mem_stamp {t : Nat} {sents : List (Sent α)} {f : Flight α} (h : f ∈ stamp t sents) :
    f.sent ∈ sents ∧ f.reply = none ∧ t ≤ f.ticket ∧ f.ticket < t + sents.length := by
  induction sents generalizing t with
  | nil => cases h
  | cons sent sents ih =>
      rcases List.mem_cons.mp h with rfl | hrest
      · exact ⟨List.mem_cons_self, rfl, Nat.le_refl _, by simp⟩
      · obtain ⟨hmem, hnone, hle, hlt⟩ := ih hrest
        refine ⟨List.mem_cons_of_mem _ hmem, hnone, by omega, ?_⟩
        rw [List.length_cons]
        omega

theorem length_restamp (t : Nat) (flight : List (Flight α)) :
    (restamp t flight).length = flight.length := by
  induction flight generalizing t with
  | nil => rfl
  | cons f flight ih => rw [restamp, List.length_cons, List.length_cons, ih]

/-- What is submitted is one of the OSD requests. -/
theorem mem_restamp {t : Nat} {flight : List (Flight α)} {f : Flight α} (h : f ∈ restamp t flight) :
    ∃ g ∈ flight, f.sent = g.sent ∧ f.reply = g.reply ∧ t ≤ f.ticket ∧
      f.ticket < t + flight.length := by
  induction flight generalizing t with
  | nil => cases h
  | cons g flight ih =>
      rcases List.mem_cons.mp h with rfl | hrest
      · exact ⟨g, List.mem_cons_self, rfl, rfl, Nat.le_refl _, by simp⟩
      · obtain ⟨g', hg', hsent, hreply, hle, hlt⟩ := ih hrest
        refine ⟨g', List.mem_cons_of_mem _ hg', hsent, hreply, by omega, ?_⟩
        rw [List.length_cons]
        omega

variable [Zero α]

/-- The data of a copyup is what is below the object. -/
def CopyupBytes (img : Image α) (data : List α) : Prop :=
  ∀ x < img.layout.objectSize, data.getD x 0 = img.below x

/-- The OSD requests of `rbd_obj_copyup_write_object` that are still in flight. -/
inductive CopyupFlight (img : Image α) (head : Option (List α)) (applied : Prop) (r : Req α) : Prop
  | single (t : Nat) (rep : Option (Int × List α)) (data : List α)
      (hflight : r.flight = [⟨.write r.seq (.copyup data :: r.writeOps img), t, rep⟩])
      (hdata : CopyupBytes img data) (hmods : ModsReply applied r.deletion rep)
      (hnum : r.numPending = 1)
  | both (t t' : Nat) (rep rep' : Option (Int × List α)) (data : List α)
      (hflight : r.flight = [⟨.copyup data, t, rep⟩, ⟨.write r.seq (r.writeOps img), t', rep'⟩])
      (hlt : t < t') (hdata : CopyupBytes img data) (hhead : rep ≠ none → head ≠ none)
      (hmods : ModsReply applied r.deletion rep') (hnum : r.numPending = 2)
      (hres : r.pendingResult = 0)
  | mods (t : Nat) (rep : Option (Int × List α))
      (hflight : r.flight = [⟨.write r.seq (r.writeOps img), t, rep⟩])
      (hhead : rep = none → head ≠ none) (hmods : ModsReply applied r.deletion rep)
      (hnum : r.numPending = 1)
  | copyup (t : Nat) (rep : Option (Int × List α)) (data : List α)
      (hflight : r.flight = [⟨.copyup data, t, rep⟩]) (hdata : CopyupBytes img data)
      (hnum : r.numPending = 1) (hres : r.pendingResult = 0 → applied)

/-- What a request that changes the object has in flight in each of its states. -/
def Req.WriteOk (img : Image α) (head : Option (List α)) (applied : Prop) (r : Req α) : Prop :=
  match r.control with
  | .readObject => False
  | .readParent => False
  | .preObjectMap => ¬applied ∧ ∃ t rep, r.flight = [⟨.mapUpdate none r.preState none, t, rep⟩]
  | .writeObject => ∃ t rep, r.flight =
      [⟨.write r.seq ((if r.copyupEnabled then [.stat] else []) ++ r.writeOps img), t, rep⟩] ∧
      ModsReply applied r.deletion rep
  | .copyup .readParent => ¬applied ∧ r.copyupEnabled = true ∧
      ∃ t rep, r.flight = [⟨.parentRead r.imgExtents, t, rep⟩] ∧
        ∀ d, rep = some (0, d) → d = img.copyData
  | .copyup .objectMaps => ¬applied ∧ r.copyupEnabled = true ∧ r.copyupData = img.copyData ∧
      (r.copyupZeros = true → ∀ d ∈ r.copyupData, d = 0) ∧ r.flight.length = r.numPending ∧
      ∀ f ∈ r.flight, ∃ s, f.sent.target = .map (some s)
  | .copyup .writeObject => r.copyupEnabled = true ∧ CopyupFlight img head applied r
  | .copyup .modsOnly => False
  | .postObjectMap => applied ∧ r.deletion = true ∧ ∃ t rep,
      r.flight = [⟨.mapUpdate none .objectNonexistent (some .objectPending), t, rep⟩]
  | .done res => r.flight = [] ∧ (res = 0 → applied)

/-- The request after a call of its state machine, with what the call is going to submit. -/
def launched (t : Nat) (out : Req α × List (Sent α)) : Req α :=
  { out.1 with flight := out.1.flight ++ stamp t out.2, submitted := out.2.isEmpty }

section Write

variable {img : Image α} {head : Option (List α)} {applied : Prop} {r : Req α} (t : Nat)

/-- A request that completes. -/
theorem writeOk_finish (hflight : r.flight = []) {result : Int} (h : result = 0 → applied) :
    (launched t (r.finish result)).WriteOk img head applied :=
  ⟨by simp [launched, Req.finish, stamp, hflight], h⟩

theorem errno_ne_zero (e : Errno) : (e : Int) ≠ 0 := by
  have hlt := e.2.1
  omega

/-- A request that waits, or completes with an error because nothing could be submitted. -/
theorem writeOk_submit (hflight : r.flight = []) (fault : Option Errno) (control : Control)
    (sents : List (Sent α))
    (h : (launched t ({ r with control := control }, sents)).WriteOk img head applied) :
    (launched t (r.submit fault control sents)).WriteOk img head applied := by
  cases fault with
  | none => exact h
  | some e => exact writeOk_finish t hflight fun hzero => absurd hzero (errno_ne_zero e)

/-- From `RBD_OBJ_WRITE_COPYUP` on. -/
theorem writeOk_written (hflight : r.flight = []) (mem : MapState) (alloc : Nat → Option Errno)
    {result : Int} (h : result = 0 → applied) :
    (launched t (r.advanceWritten img mem alloc result)).WriteOk img head applied := by
  rw [Req.advanceWritten]
  by_cases hres : result = 0
  · rw [if_neg (not_not.mpr hres)]
    split
    · exact writeOk_finish t hflight fun _ => h hres
    · split
      · rename_i hdel hupdate
        have hdel' : r.deletion = true := by
          rw [Bool.or_eq_true, not_or] at hdel
          simpa using hdel.2
        exact writeOk_submit t hflight _ _ _ ⟨h hres, hdel', t, none,
          by simp [launched, hflight, stamp]⟩
      · exact writeOk_finish t hflight fun _ => h hres
  · rw [if_pos hres]
    exact writeOk_finish t hflight fun hzero => absurd hzero hres

/-- What `rbd_obj_copyup_write_object` sends as the data of the copyup. -/
theorem copyupBytes_of (hdata : r.copyupData = img.copyData)
    (hzeros : r.copyupZeros = true → ∀ d ∈ r.copyupData, d = 0) :
    CopyupBytes img (if r.copyupZeros then [] else r.copyupData) := by
  intro x hx
  rw [← img.copyData_getD hx, ← hdata]
  cases hflag : r.copyupZeros with
  | false => rfl
  | true =>
      show (0 : α) = r.copyupData.getD x 0
      rw [List.getD_eq_getElem?_getD]
      cases hget : r.copyupData[x]? with
      | none => rfl
      | some d => exact (hzeros hflag d (List.mem_of_getElem? hget)).symm

/-- From `rbd_obj_copyup_write_object` on. -/
theorem writeOk_copyupWriteObject (hflight : r.flight = []) (alloc : Nat → Option Errno)
    (hfresh : ¬applied) (hcopy : r.copyupEnabled = true) (hdata : r.copyupData = img.copyData)
    (hzeros : r.copyupZeros = true → ∀ d ∈ r.copyupData, d = 0) :
    (launched t (r.copyupWriteObject img alloc)).WriteOk img head applied := by
  have hbytes := copyupBytes_of hdata hzeros
  rw [Req.copyupWriteObject]
  generalize hb : (if r.copyupZeros then [] else r.copyupData) = bytes at hbytes
  split
  · cases halloc : alloc 0 with
    | some e => exact writeOk_finish t hflight fun hzero => absurd hzero (errno_ne_zero e)
    | none =>
        cases halloc' : alloc 1 with
        | some e =>
            exact ⟨hcopy, .copyup t none bytes (by simp [launched, hflight, stamp]) hbytes rfl
              fun hzero => absurd hzero (errno_ne_zero e)⟩
        | none =>
            exact ⟨hcopy, .both t (t + 1) none none bytes
              (by simp [launched, hflight, stamp]; rfl) (Nat.lt_succ_self t) hbytes
              (fun hne => absurd rfl hne) hfresh rfl rfl⟩
  · refine writeOk_submit (r := { r with pendingResult := 0, numPending := 1 }) t hflight _ _ _ ?_
    exact ⟨hcopy, .single t none bytes (by simp [launched, hflight, stamp]; rfl) hbytes hfresh rfl⟩

/-- From `RBD_OBJ_COPYUP_OBJECT_MAPS` on. -/
theorem writeOk_copyupMapped (hflight : r.flight = []) (alloc : Nat → Option Errno) (result : Int)
    (hfresh : ¬applied) (hcopy : r.copyupEnabled = true) (hdata : r.copyupData = img.copyData)
    (hzeros : r.copyupZeros = true → ∀ d ∈ r.copyupData, d = 0) :
    (launched t (r.copyupMapped img alloc result)).WriteOk img head applied := by
  rw [Req.copyupMapped]
  split
  · rename_i hne
    exact writeOk_finish t hflight fun hzero => absurd hzero hne
  · exact writeOk_copyupWriteObject t hflight alloc hfresh hcopy hdata hzeros

omit [Zero α] in
/-- The updates of the snapshots' object maps. -/
theorem target_snapUpdates {fastDiff : Bool} {alloc : Nat → Option Errno} {i : Nat}
    {snaps : List Nat} {sent : Sent α}
    (h : sent ∈ (Req.snapUpdates fastDiff alloc i snaps : List (Sent α) × Int).1) :
    ∃ s, sent.target = .map (some s) := by
  induction snaps generalizing i with
  | nil => cases h
  | cons s rest ih =>
      rw [Req.snapUpdates] at h
      cases halloc : alloc i with
      | some e =>
          rw [halloc] at h
          cases h
      | none =>
          rw [halloc] at h
          rcases List.mem_cons.mp h with rfl | hrest
          · exact ⟨s, rfl⟩
          · exact ih hrest

omit [Zero α] in
theorem target_copyupObjectMaps {alloc : Nat → Option Errno} {sent : Sent α}
    (h : sent ∈ (r.copyupObjectMaps img alloc).1) : ∃ s, sent.target = .map (some s) := by
  rw [Req.copyupObjectMaps] at h
  split at h
  · exact target_snapUpdates h
  · cases h

/-- From `RBD_OBJ_COPYUP_READ_PARENT` on. -/
theorem writeOk_copyupRead [DecidableEq α] (hflight : r.flight = []) (alloc : Nat → Option Errno)
    (result : Int) (data : List α) (hfresh : ¬applied) (hcopy : r.copyupEnabled = true)
    (hdata : result = 0 → data = img.copyData) :
    (launched t (r.copyupRead img alloc result data)).WriteOk img head applied := by
  rw [Req.copyupRead]
  split
  · rename_i hne
    exact writeOk_finish t hflight fun hzero => absurd hzero hne
  · rename_i hres
    have hdata' := hdata (not_not.mp hres)
    have hzeros : (data.all fun d => decide (d = 0)) = true → ∀ d ∈ data, d = 0 := by
      intro hall d hd
      exact of_decide_eq_true (List.all_eq_true.mp hall d hd)
    generalize hr : ({ r with copyupData := data, copyupZeros := data.all (decide <| · = 0) } :
      Req α) = r'
    obtain ⟨hflight', hcopy', hdata'', hzeros'⟩ : r'.flight = [] ∧ r'.copyupEnabled = true ∧
        r'.copyupData = img.copyData ∧ (r'.copyupZeros = true → ∀ d ∈ r'.copyupData, d = 0) := by
      rw [← hr]
      exact ⟨hflight, hcopy, hdata', hzeros⟩
    dsimp only
    split
    · exact writeOk_copyupMapped t hflight' alloc _ hfresh hcopy' hdata'' hzeros'
    · refine ⟨hfresh, hcopy', hdata'', hzeros', ?_, ?_⟩
      · simp [launched, hflight', length_stamp]
      · intro f hf
        simp only [launched, hflight', List.nil_append] at hf
        exact target_copyupObjectMaps (mem_stamp hf).1

/-- From `RBD_OBJ_COPYUP_START` on. -/
theorem writeOk_copyupStart (hwf : r.Wf img) (hop : r.op ≠ .read) (hflight : r.flight = [])
    (alloc : Nat → Option Errno) (hfresh : ¬applied) (hcopy : r.copyupEnabled = true) :
    (launched t (r.copyupStart img alloc)).WriteOk img head applied := by
  have hprune : pruneExtents r.imgExtents img.overlap = img.extents := by
    rw [hwf.extents hop, img.prune_extents]
  have hne : img.extents.isEmpty = false := by
    rw [List.isEmpty_eq_false_iff]
    exact (hwf.copyup.mp hcopy).2.1
  rw [Req.copyupStart, hprune]
  dsimp only
  rw [hne, if_neg (by simp)]
  refine writeOk_submit (r := { r with imgExtents := img.extents }) t hflight _ _ _ ?_
  exact ⟨hfresh, hcopy, t, none, by simp [launched, hflight, stamp], fun d hd => by cases hd⟩

/-- From `RBD_OBJ_WRITE_PRE_OBJECT_MAP` on. -/
theorem writeOk_mapped (hflight : r.flight = []) (alloc : Nat → Option Errno) (result : Int)
    (hfresh : ¬applied) :
    (launched t (r.advanceMapped img alloc result)).WriteOk img head applied := by
  rw [Req.advanceMapped]
  split
  · rename_i hne
    exact writeOk_finish t hflight fun hzero => absurd hzero hne
  · refine writeOk_submit t hflight _ _ _ ⟨t, none, ?_, hfresh⟩
    simp [launched, hflight, stamp]
    rfl

omit [Zero α] in
/-- What cannot be submitted completes with an error. -/
theorem submit_ne_done {fault : Option Errno} {control : Control} {sents : List (Sent α)}
    (h : control ≠ .done 0) : (r.submit fault control sents).1.control ≠ .done 0 := by
  cases fault with
  | none => exact h
  | some e => exact fun hdone => errno_ne_zero e (Control.done.inj hdone)

omit [Zero α] in
/-- Only a request that is no operation completes without an error in its first call. -/
theorem writeStart_done {mem : MapState} {alloc : Nat → Option Errno}
    (h : (r.writeStart img mem alloc).1.control = .done 0) :
    Req.mapMayExist img mem = false ∧ r.noopForNonexistent = true := by
  rw [Req.writeStart] at h
  dsimp only at h
  split at h
  · rename_i hnoop
    simpa using hnoop
  · split at h
    · exact absurd h (submit_ne_done (by simp))
    · rw [Req.advanceMapped, if_neg (by simp)] at h
      exact absurd h (submit_ne_done (by simp))

/-- From `RBD_OBJ_WRITE_START` on. -/
theorem writeOk_start (hflight : r.flight = []) {mem : MapState} {alloc : Nat → Option Errno}
    (h : applied ↔ (r.writeStart img mem alloc).1.control = .done 0) :
    (launched t (r.writeStart img mem alloc)).WriteOk img head applied := by
  rw [Req.writeStart] at h ⊢
  generalize hr : ({ r with mayExist := Req.mapMayExist img mem } : Req α) = r' at h ⊢
  have hflight' : r'.flight = [] := by rw [← hr]; exact hflight
  split at h
  · rename_i hnoop
    rw [if_pos hnoop]
    exact writeOk_finish t hflight' fun _ => h.mpr rfl
  · rename_i hnoop
    rw [if_neg hnoop]
    split at h
    · rename_i hupdate
      rw [if_pos hupdate]
      have hfresh : ¬applied := fun happ => submit_ne_done (by simp) (h.mp happ)
      refine writeOk_submit t hflight' _ _ _ ⟨hfresh, t, none, ?_⟩
      simp [launched, hflight', stamp]
      rfl
    · rename_i hupdate
      rw [if_neg hupdate]
      refine writeOk_mapped t hflight' alloc 0 fun happ => ?_
      rw [Req.advanceMapped, if_neg (by simp)] at h
      exact submit_ne_done (by simp) (h.mp happ)

end Write

omit [Zero α] in
/-- A flight of one OSD request. -/
theorem eraseIdx_of_single {r : Req α} {j : Nat} {f g : Flight α} (hflight : r.flight = [g])
    (h : r.flight[j]? = some f) : f = g ∧ r.flight.eraseIdx j = [] := by
  rw [hflight] at h ⊢
  cases j with
  | zero =>
      cases h
      exact ⟨rfl, rfl⟩
  | succ j => cases h

omit [Zero α] in
/-- A part of the request's replies has come. -/
theorem pendingResultDec_eq (r : Req α) (result : Int) :
    r.pendingResultDec result =
      ({ r with
        pendingResult := if result ≠ 0 ∧ r.pendingResult = 0 then result else r.pendingResult
        numPending := r.numPending - 1 },
      if r.numPending - 1 = 0 then
        some (if result ≠ 0 ∧ r.pendingResult = 0 then result else r.pendingResult) else none) :=
        rfl

section Advance

variable [DecidableEq α] {img : Image α} {head : Option (List α)} {applied : Prop} {r : Req α}

/-- One reply of the updates of the snapshots' object maps. -/
theorem writeOk_objectMaps (t : Nat) {j : Nat} {f : Flight α} {result : Int} {data : List α}
    (mem : MapState) (alloc : Nat → Option Errno) (hctl : r.control = .copyup .objectMaps)
    (h : r.WriteOk img head applied) (hj : r.flight[j]? = some f) :
    (launched t (Req.advance img { r with flight := r.flight.eraseIdx j } mem alloc result
      data)).WriteOk img head applied := by
  simp only [Req.WriteOk, hctl] at h
  obtain ⟨hfresh, hcopy, hdata, hzeros, hnum, htargets⟩ := h
  have hlt := (List.getElem?_eq_some_iff.mp hj).1
  have hlen := List.length_eraseIdx_of_lt hlt
  simp only [Req.advance, hctl, pendingResultDec_eq]
  by_cases hlast : r.numPending - 1 = 0
  · have hnil : r.flight.eraseIdx j = [] := List.eq_nil_of_length_eq_zero (by omega)
    rw [hnil, if_pos hlast]
    exact writeOk_copyupMapped (r := _) t rfl alloc _ hfresh hcopy hdata hzeros
  · rw [if_neg hlast]
    refine ⟨hfresh, hcopy, hdata, hzeros, ?_, ?_⟩
    · show ((r.flight.eraseIdx j) ++ []).length = r.numPending - 1
      rw [List.append_nil]
      omega
    · intro f' hf'
      have hmem : f' ∈ r.flight.eraseIdx j := by simpa [launched, stamp] using hf'
      exact htargets f' (List.mem_of_mem_eraseIdx hmem)

/-- There is no error when neither this reply nor one before it has one. -/
theorem pending_eq_zero {result pending : Int}
    (h : (if result ≠ 0 ∧ pending = 0 then result else pending) = 0) :
    result = 0 ∧ pending = 0 := by
  split at h
  · omega
  · omega

/-- One reply of the OSD requests of `rbd_obj_copyup_write_object`. -/
theorem writeOk_copyupReply (t : Nat) {j : Nat} {f : Flight α} {result : Int} {data : List α}
    (mem : MapState) (alloc : Nat → Option Errno) (hctl : r.control = .copyup .writeObject)
    (h : r.WriteOk img head applied) (hj : r.flight[j]? = some f)
    (hreply : f.reply = some (result, data)) :
    (launched t (Req.advance img { r with flight := r.flight.eraseIdx j } mem alloc result
      data)).WriteOk img head applied := by
  simp only [Req.WriteOk, hctl] at h
  obtain ⟨hcopy, hcases⟩ := h
  simp only [Req.advance, hctl, pendingResultDec_eq]
  -- the last reply of the request
  have hlast : ∀ {g : Flight α}, r.flight = [g] → r.numPending = 1 →
      ((if result ≠ 0 ∧ r.pendingResult = 0 then result else r.pendingResult) = 0 → applied) →
      (launched t (Req.advanceWritten img
        { r with
          flight := r.flight.eraseIdx j
          pendingResult := if result ≠ 0 ∧ r.pendingResult = 0 then result else r.pendingResult
          numPending := r.numPending - 1 } mem alloc
        (if result ≠ 0 ∧ r.pendingResult = 0 then result else r.pendingResult))).WriteOk img head
          applied := by
    intro g hflight hnum happ
    exact writeOk_written t (eraseIdx_of_single hflight hj).2 mem alloc happ
  cases hcases with
  | single t₀ rep bytes hflight hdata hmods hnum =>
      obtain ⟨rfl, -⟩ := eraseIdx_of_single hflight hj
      obtain rfl : rep = some (result, data) := hreply
      rw [hnum, if_pos rfl]
      exact hnum ▸ hlast hflight hnum fun hzero => hmods.1 (pending_eq_zero hzero).1
  | mods t₀ rep hflight hhead hmods hnum =>
      obtain ⟨rfl, -⟩ := eraseIdx_of_single hflight hj
      obtain rfl : rep = some (result, data) := hreply
      rw [hnum, if_pos rfl]
      exact hnum ▸ hlast hflight hnum fun hzero => hmods.1 (pending_eq_zero hzero).1
  | copyup t₀ rep bytes hflight hdata hnum hres =>
      rw [hnum, if_pos rfl]
      exact hnum ▸ hlast hflight hnum fun hzero => hres (pending_eq_zero hzero).2
  | both t₀ t₁ rep rep' bytes hflight hlt hdata hhead hmods hnum hres =>
      rw [hnum, if_neg (by omega)]
      rw [hflight] at hj ⊢
      match j with
      | 0 =>
          cases hj
          refine ⟨hcopy, .mods t₁ rep' (by simp [launched, stamp]; rfl) (fun _ => ?_) hmods rfl⟩
          exact hhead (by rw [show rep = some (result, data) from hreply]; simp)
      | 1 =>
          cases hj
          obtain rfl : rep' = some (result, data) := hreply
          exact ⟨hcopy, .copyup t₀ rep bytes (by simp [launched, stamp]) hdata rfl fun hzero =>
            hmods.1 (pending_eq_zero hzero).1⟩

/-- One reply of a request that changes the object. -/
theorem writeOk_advance (t : Nat) {j : Nat} {f : Flight α} {result : Int} {data : List α}
    (mem : MapState) (alloc : Nat → Option Errno) (hwf : r.Wf img) (hop : r.op ≠ .read)
    (h : r.WriteOk img head applied) (hj : r.flight[j]? = some f)
    (hreply : f.reply = some (result, data)) :
    (launched t (Req.advance img { r with flight := r.flight.eraseIdx j } mem alloc result
      data)).WriteOk img head applied := by
  have hwf' : ∀ flight, ({ r with flight := flight } : Req α).Wf img := fun _ =>
    ⟨hwf.pos, hwf.inside, hwf.data, hwf.snaps_le, hwf.extents, hwf.deletion, hwf.copyup, hwf.noop⟩
  obtain ⟨control, hctl⟩ : ∃ control, r.control = control := ⟨_, rfl⟩
  cases control with
  | readObject => simp only [Req.WriteOk, hctl] at h
  | readParent => simp only [Req.WriteOk, hctl] at h
  | preObjectMap =>
      simp only [Req.WriteOk, hctl] at h
      obtain ⟨hfresh, t₀, rep, hflight⟩ := h
      simp only [Req.advance, hctl, (eraseIdx_of_single hflight hj).2]
      exact writeOk_mapped (r := { r with flight := [] }) t rfl alloc result hfresh
  | writeObject =>
      simp only [Req.WriteOk, hctl] at h
      obtain ⟨t₀, rep, hflight, hmods⟩ := h
      obtain ⟨rfl, hnil⟩ := eraseIdx_of_single hflight hj
      obtain rfl : rep = some (result, data) := hreply
      simp only [Req.advance, hctl, hnil]
      by_cases hguard : result = enoent ∧ r.copyupEnabled = true
      · rw [if_pos hguard]
        have hnodel : ¬r.deletion = true := fun hdel =>
          (hwf.copyup.mp hguard.2).2.1 (hwf.deletion.mp hdel).2.2
        exact writeOk_copyupStart (r := { r with flight := [] }) t (hwf' []) hop rfl alloc
          (fun happ => hnodel ((hmods.2 hguard.1).mp happ)) hguard.2
      · rw [if_neg hguard]
        by_cases hdel : result = enoent ∧ r.deletion = true
        · rw [if_pos hdel]
          exact writeOk_written (r := { r with flight := [] }) t rfl mem alloc fun _ =>
            (hmods.2 hdel.1).mpr hdel.2
        · rw [if_neg hdel]
          exact writeOk_written (r := { r with flight := [] }) t rfl mem alloc hmods.1
  | copyup state =>
      cases state with
      | readParent =>
          simp only [Req.WriteOk, hctl] at h
          obtain ⟨hfresh, hcopy, t₀, rep, hflight, hread⟩ := h
          obtain ⟨rfl, hnil⟩ := eraseIdx_of_single hflight hj
          obtain rfl : rep = some (result, data) := hreply
          simp only [Req.advance, hctl, hnil]
          exact writeOk_copyupRead (r := { r with flight := [] }) t rfl alloc result data
            hfresh hcopy fun hzero => hread data (by rw [hzero])
      | objectMaps => exact writeOk_objectMaps t mem alloc hctl h hj
      | writeObject => exact writeOk_copyupReply t mem alloc hctl h hj hreply
      | modsOnly =>
          simp only [Req.WriteOk, hctl] at h
  | postObjectMap =>
      simp only [Req.WriteOk, hctl] at h
      obtain ⟨happ, -, t₀, rep, hflight⟩ := h
      simp only [Req.advance, hctl, (eraseIdx_of_single hflight hj).2]
      exact writeOk_finish (r := { r with flight := [] }) t rfl fun _ => happ
  | done res =>
      simp only [Req.WriteOk, hctl] at h
      rw [h.1] at hj
      cases hj

end Advance

/-! ## The execution of an OSD request -/

/-- What the execution of an OSD request of a request says about the object. -/
def Answer (img : Image α) (head' : Option (List α)) (applied applied' : Prop) (deletion : Bool)
    (res : Int) (data : List α) : Sent α → Prop
  | .write _ _ => ModsReply applied' deletion (some (res, data))
  | .copyup _ => (applied' ↔ applied) ∧ head' ≠ none
  | .parentRead exts => (applied' ↔ applied) ∧ (res = 0 → data = parentData img.parent exts)
  | _ => applied' ↔ applied

section Exec

variable {img : Image α} {head head' : Option (List α)} {applied applied' : Prop} {r : Req α}

/-- Nothing but the copyup depends on the object, and for it the object only has to stay. -/
theorem Req.WriteOk.head_mono (h : r.WriteOk img head applied) (hwf : r.Wf img)
    (hmono : img.extents ≠ [] → head ≠ none → head' ≠ none) (happ : applied' ↔ applied) :
    r.WriteOk img head' applied' := by
  obtain rfl : applied' = applied := propext happ
  obtain ⟨control, hctl⟩ : ∃ control, r.control = control := ⟨_, rfl⟩
  rw [Req.WriteOk, hctl] at h ⊢
  cases control with
  | copyup state =>
      cases state with
      | writeObject =>
          have hkeep := hmono (hwf.copyup.mp h.1).2.1
          refine ⟨h.1, ?_⟩
          cases h.2 with
          | single t rep data hflight hdata hmods hnum =>
              exact .single t rep data hflight hdata hmods hnum
          | both t t' rep rep' data hflight hlt hdata hhead hmods hnum hres =>
              exact .both t t' rep rep' data hflight hlt hdata
                (fun hne => hkeep (hhead hne)) hmods hnum hres
          | mods t rep hflight hhead hmods hnum =>
              exact .mods t rep hflight (fun hnone => hkeep (hhead hnone)) hmods hnum
          | copyup t rep data hflight hdata hnum hres =>
              exact .copyup t rep data hflight hdata hnum hres
      | readParent => exact h
      | objectMaps => exact h
      | modsOnly => exact h
  | _ => exact h

omit [Zero α] in
/-- The reply of the one OSD request in flight. -/
theorem set_of_single {g f : Flight α} {j : Nat} (hflight : r.flight = [g])
    (hj : r.flight[j]? = some f) (rep : Option (Int × List α)) :
    f = g ∧ r.flight.set j { f with reply := rep } = [{ g with reply := rep }] := by
  rw [hflight] at hj ⊢
  cases j with
  | zero =>
      cases hj
      exact ⟨rfl, rfl⟩
  | succ j => cases hj

/-- The execution of an OSD request leads from a state of the request to one. -/
theorem Req.WriteOk.exec {j : Nat} {f : Flight α} {res : Int} {data : List α} (hwf : r.Wf img)
    (hop : r.op ≠ .read) (h : r.WriteOk img head applied) (hj : r.flight[j]? = some f)
    (hmono : img.extents ≠ [] → head ≠ none → head' ≠ none)
    (hans : Answer img head' applied applied' r.deletion res data f.sent) :
    ({ r with flight := r.flight.set j { f with reply := some (res, data) } } : Req α).WriteOk img
      head' applied' := by
  obtain ⟨control, hctl⟩ : ∃ control, r.control = control := ⟨_, rfl⟩
  -- the updates of object maps do not change the object
  have hmap : ∀ snap, f.sent.target = .map snap → (applied' ↔ applied) := by
    intro snap htarget
    cases hsent : f.sent with
    | mapUpdate s new current =>
        rw [hsent] at hans
        exact hans
    | read off len => simp [hsent, Sent.target] at htarget
    | parentRead exts => simp [hsent, Sent.target] at htarget
    | copyup bytes => simp [hsent, Sent.target] at htarget
    | write seq ops => simp [hsent, Sent.target] at htarget
  simp only [Req.WriteOk, hctl] at h ⊢
  cases control with
  | readObject => exact h
  | readParent => exact h
  | preObjectMap =>
      obtain ⟨hfresh, t, rep, hflight⟩ := h
      obtain ⟨rfl, hset⟩ := set_of_single hflight hj (some (res, data))
      exact ⟨fun happ => hfresh ((hmap none rfl).mp happ), t, some (res, data), hset⟩
  | writeObject =>
      obtain ⟨t, rep, hflight, -⟩ := h
      obtain ⟨rfl, hset⟩ := set_of_single hflight hj (some (res, data))
      exact ⟨t, some (res, data), hset, hans⟩
  | copyup state =>
      cases state with
      | readParent =>
          obtain ⟨hfresh, hcopy, t, rep, hflight, -⟩ := h
          obtain ⟨rfl, hset⟩ := set_of_single hflight hj (some (res, data))
          refine ⟨fun happ => hfresh (hans.1.mp happ), hcopy, t, some (res, data), hset, ?_⟩
          intro d hd
          cases hd
          rw [hans.2 rfl, hwf.extents hop]
          rfl
      | objectMaps =>
          obtain ⟨hfresh, hcopy, hdata, hzeros, hnum, htargets⟩ := h
          obtain ⟨s, htarget⟩ := htargets f (List.mem_of_getElem? hj)
          refine ⟨fun happ => hfresh ((hmap _ htarget).mp happ), hcopy, hdata, hzeros, ?_, ?_⟩
          · rw [List.length_set]
            exact hnum
          · intro f' hf'
            rcases List.mem_or_eq_of_mem_set hf' with hold | rfl
            · exact htargets f' hold
            · exact ⟨s, htarget⟩
      | writeObject =>
          obtain ⟨hcopy, hcases⟩ := h
          have hkeep := hmono (hwf.copyup.mp hcopy).2.1
          refine ⟨hcopy, ?_⟩
          cases hcases with
          | single t rep bytes hflight hdata hmods hnum =>
              obtain ⟨rfl, hset⟩ := set_of_single hflight hj (some (res, data))
              exact .single t (some (res, data)) bytes hset hdata hans hnum
          | mods t rep hflight hhead hmods hnum =>
              obtain ⟨rfl, hset⟩ := set_of_single hflight hj (some (res, data))
              exact .mods t (some (res, data)) hset (fun hcase => by cases hcase) hans hnum
          | copyup t rep bytes hflight hdata hnum hres =>
              obtain ⟨rfl, hset⟩ := set_of_single hflight hj (some (res, data))
              exact .copyup t (some (res, data)) bytes hset hdata hnum fun hzero =>
                hans.1.mpr (hres hzero)
          | both t t' rep rep' bytes hflight hlt hdata hhead hmods hnum hres =>
              rw [hflight] at hj ⊢
              match j with
              | 0 =>
                  cases hj
                  refine .both t t' (some (res, data)) rep' bytes rfl hlt hdata (fun _ => hans.2) ?_
                    hnum hres
                  rw [show applied' = applied from propext hans.1]
                  exact hmods
              | 1 =>
                  cases hj
                  exact .both t t' rep (some (res, data)) bytes rfl hlt hdata
                    (fun hne => hkeep (hhead hne)) hans hnum hres
      | modsOnly => exact h
  | postObjectMap =>
      obtain ⟨happ, hdel, t, rep, hflight⟩ := h
      obtain ⟨rfl, hset⟩ := set_of_single hflight hj (some (res, data))
      exact ⟨(hmap none rfl).mpr happ, hdel, t, some (res, data), hset⟩
  | done res' =>
      rw [h.1] at hj
      cases hj

/-- The submission changes the places in the order only. -/
theorem Req.WriteOk.restamp (h : r.WriteOk img head applied) (t : Nat) (submitted : Bool) :
    ({ r with flight := Rbd.restamp t r.flight, submitted := submitted } : Req α).WriteOk img head
      applied := by
  obtain ⟨control, hctl⟩ : ∃ control, r.control = control := ⟨_, rfl⟩
  simp only [Req.WriteOk, hctl] at h ⊢
  cases control with
  | readObject => exact h.elim
  | readParent => exact h.elim
  | preObjectMap =>
      obtain ⟨happ, t', rep, hflight⟩ := h
      exact ⟨happ, t, rep, by rw [hflight]; rfl⟩
  | writeObject =>
      obtain ⟨t', rep, hflight, hmods⟩ := h
      exact ⟨t, rep, by rw [hflight]; rfl, hmods⟩
  | copyup state =>
      cases state with
      | readParent =>
          obtain ⟨happ, hcopy, t', rep, hflight, hdata⟩ := h
          exact ⟨happ, hcopy, t, rep, by rw [hflight]; rfl, hdata⟩
      | objectMaps =>
          obtain ⟨happ, hcopy, hdata, hzeros, hlen, hmaps⟩ := h
          refine ⟨happ, hcopy, hdata, hzeros, (length_restamp t r.flight).trans hlen,
            fun f hf => ?_⟩
          obtain ⟨g, hg, hsent, -⟩ := mem_restamp hf
          rw [hsent]
          exact hmaps g hg
      | writeObject =>
          obtain ⟨hcopy, hcases⟩ := h
          refine ⟨hcopy, ?_⟩
          cases hcases with
          | single t' rep bytes hflight hdata hmods hnum =>
              exact .single t rep bytes (by rw [hflight]; rfl) hdata hmods hnum
          | both t' t'' rep rep' bytes hflight hlt hdata hhead hmods hnum hres =>
              exact .both t (t + 1) rep rep' bytes (by rw [hflight]; rfl) (Nat.lt_succ_self t) hdata
                hhead hmods hnum hres
          | mods t' rep hflight hhead hmods hnum =>
              exact .mods t rep (by rw [hflight]; rfl) hhead hmods hnum
          | copyup t' rep bytes hflight hdata hnum hres =>
              exact .copyup t rep bytes (by rw [hflight]; rfl) hdata hnum hres
      | modsOnly => exact h.elim
  | postObjectMap =>
      obtain ⟨happ, hdel, t', rep, hflight⟩ := h
      exact ⟨happ, hdel, t, rep, by rw [hflight]; rfl⟩
  | done res => exact ⟨by rw [h.1]; rfl, h.2⟩

/-- What the OSD request of a modification does, when it is executed. -/
theorem Req.WriteOk.write_cases {j : Nat} {f : Flight α} {seq : Nat} {ops : List (OsdOp α)}
    (hwf : r.Wf img) (hop : r.op ≠ .read) (h : r.WriteOk img head applied)
    (hj : r.flight[j]? = some f) (hnone : f.reply = none) (hsent : f.sent = .write seq ops)
    (hfirst : ∀ g ∈ r.flight, g.reply = none → g.sent.target = .object → f.ticket ≤ g.ticket) :
    seq = r.seq ∧ ¬applied ∧ (r.Modifies img head (runOps ops head) ∨
      head = none ∧ runOps ops head = .error enoent ∧ r.deletion = false) := by
  obtain ⟨control, hctl⟩ : ∃ control, r.control = control := ⟨_, rfl⟩
  -- only the states of the modification have such a request in flight
  have hother : ∀ {g : Flight α} {snap : Option Nat}, r.flight = [g] → g.sent.target = .map snap →
      False := by
    intro g snap hflight htarget
    obtain ⟨rfl, -⟩ := eraseIdx_of_single hflight hj
    rw [hsent] at htarget
    cases htarget
  simp only [Req.WriteOk, hctl] at h
  cases control with
  | readObject => exact h.elim
  | readParent => exact h.elim
  | preObjectMap =>
      obtain ⟨_, _, hflight⟩ := h.2
      exact (hother hflight rfl).elim
  | writeObject =>
      obtain ⟨t, rep, hflight, hmods⟩ := h
      obtain ⟨rfl, -⟩ := eraseIdx_of_single hflight hj
      obtain rfl : rep = none := hnone
      cases hsent
      refine ⟨rfl, hmods, ?_⟩
      cases hcopy : r.copyupEnabled with
      | false =>
          rw [if_neg (by simp), List.nil_append]
          exact .inl (modifies_writeOps hwf hop (.inr hcopy))
      | true =>
          rw [if_pos rfl]
          have hstat := @modifies_stat _ _ img r head hwf hop
          cases head with
          | none =>
              refine .inr ⟨rfl, hstat.1 rfl, ?_⟩
              have hnodel : ¬r.deletion = true := fun hdel =>
                (hwf.copyup.mp hcopy).2.1 (hwf.deletion.mp hdel).2.2
              simpa using hnodel
          | some c => exact .inl (hstat.2 (by simp))
  | copyup state =>
      cases state with
      | readParent =>
          obtain ⟨-, -, t, rep, hflight, -⟩ := h
          obtain ⟨rfl, -⟩ := eraseIdx_of_single hflight hj
          cases hsent
      | objectMaps =>
          obtain ⟨s, htarget⟩ := h.2.2.2.2.2 f (List.mem_of_getElem? hj)
          rw [hsent] at htarget
          cases htarget
      | writeObject =>
          obtain ⟨hcopy, hcases⟩ := h
          cases hcases with
          | single t rep bytes hflight hdata hmods hnum =>
              obtain ⟨rfl, -⟩ := eraseIdx_of_single hflight hj
              obtain rfl : rep = none := hnone
              cases hsent
              exact ⟨rfl, hmods, .inl (modifies_copyup hwf hop hcopy hdata)⟩
          | mods t rep hflight hhead hmods hnum =>
              obtain ⟨rfl, -⟩ := eraseIdx_of_single hflight hj
              obtain rfl : rep = none := hnone
              cases hsent
              exact ⟨rfl, hmods, .inl (modifies_writeOps hwf hop (.inl (hhead rfl)))⟩
          | copyup t rep bytes hflight hdata hnum hres =>
              obtain ⟨rfl, -⟩ := eraseIdx_of_single hflight hj
              cases hsent
          | both t t' rep rep' bytes hflight hlt hdata hhead hmods hnum hres =>
              rw [hflight] at hj hfirst
              match j with
              | 0 =>
                  cases hj
                  cases hsent
              | 1 =>
                  cases hj
                  cases hsent
                  obtain rfl : rep' = none := hnone
                  -- the copyup was submitted before it, so it has been executed
                  have hrep : rep ≠ none := by
                    intro hrep
                    have hle := hfirst ⟨.copyup bytes, t, rep⟩ (by simp) hrep rfl
                    have hle' : t' ≤ t := hle
                    omega
                  exact ⟨rfl, hmods, .inl (modifies_writeOps hwf hop (.inl (hhead hrep)))⟩
      | modsOnly => exact h.elim
  | postObjectMap =>
      obtain ⟨_, _, hflight⟩ := h.2.2
      exact (hother hflight rfl).elim
  | done res =>
      rw [h.1] at hj
      cases hj

/-- The data of a copyup that is in flight. -/
theorem Req.WriteOk.copyup_bytes {j : Nat} {f : Flight α} {bytes : List α}
    (h : r.WriteOk img head applied) (hj : r.flight[j]? = some f) (hsent : f.sent = .copyup bytes) :
    CopyupBytes img bytes := by
  obtain ⟨control, hctl⟩ : ∃ control, r.control = control := ⟨_, rfl⟩
  have hother : ∀ {g : Flight α}, r.flight = [g] → (∀ data, g.sent ≠ .copyup data) → False := by
    intro g hflight hne
    obtain ⟨rfl, -⟩ := eraseIdx_of_single hflight hj
    exact hne bytes hsent
  simp only [Req.WriteOk, hctl] at h
  cases control with
  | readObject => exact h.elim
  | readParent => exact h.elim
  | preObjectMap =>
      obtain ⟨_, _, hflight⟩ := h.2
      exact (hother hflight fun data hdata => by cases hdata).elim
  | writeObject =>
      obtain ⟨t, rep, hflight, -⟩ := h
      exact (hother hflight fun data hdata => by cases hdata).elim
  | copyup state =>
      cases state with
      | readParent =>
          obtain ⟨-, -, t, rep, hflight, -⟩ := h
          exact (hother hflight fun data hdata => by cases hdata).elim
      | objectMaps =>
          obtain ⟨s, htarget⟩ := h.2.2.2.2.2 f (List.mem_of_getElem? hj)
          rw [hsent] at htarget
          cases htarget
      | writeObject =>
          cases h.2 with
          | single t rep data hflight hdata hmods hnum =>
              exact (hother hflight fun data hdata => by cases hdata).elim
          | mods t rep hflight hhead hmods hnum =>
              exact (hother hflight fun data hdata => by cases hdata).elim
          | copyup t rep data hflight hdata hnum hres =>
              obtain ⟨rfl, -⟩ := eraseIdx_of_single hflight hj
              cases hsent
              exact hdata
          | both t t' rep rep' data hflight hlt hdata hhead hmods hnum hres =>
              rw [hflight] at hj
              match j with
              | 0 =>
                  cases hj
                  cases hsent
                  exact hdata
              | 1 =>
                  cases hj
                  cases hsent
      | modsOnly => exact h.elim
  | postObjectMap =>
      obtain ⟨_, _, hflight⟩ := h.2.2
      exact (hother hflight fun data hdata => by cases hdata).elim
  | done res =>
      rw [h.1] at hj
      cases hj

end Exec

end XcpCephRbd.Rbd
