import XcpCephRbd.Rbd.ObjectHistory

/-!
# The object map and the object

With the object map, `rbd.c` does not ask the OSDs for an object that the map calls nonexistent. The
map is set before an object is created, and cleared after it has been deleted, with updates that are
in flight beside the requests of others. `run_mapRight` says that it is right all the same: as long
as no deletion is started while another one is going on, and none marks the object while a write has
found it in the map and is still to be submitted, an object that the map in memory calls nonexistent
does not exist, and nothing that could create it is on its way.
-/

namespace XcpCephRbd.Rbd

open Run Striper

variable {α : Type}

/-- An OSD request that is going to change the object, of a request that is not a deletion. -/
def Req.Writes (r : Req α) (f : Flight α) : Prop :=
  r.op ≠ .read ∧ r.deletion = false ∧ f ∈ r.flight ∧ f.reply = none ∧ f.sent.target = .object

/-- The same, of any request. -/
def Sys.Writing (s : Sys α) (f : Flight α) : Prop := ∃ r ∈ s.reqs, r.Writes f

/-- The object does not exist, and nothing is on its way that could create it. -/
def Sys.Quiet (s : Sys α) : Prop := s.object.head = none ∧ ∀ f, ¬s.Writing f

/-- A deletion that has not completed. -/
def Req.Deleting (r : Req α) : Prop :=
  r.op ≠ .read ∧ r.deletion = true ∧ ∀ res, r.control ≠ .done res

/-- A request that has its state in the object map. -/
def Req.Mapped (r : Req α) : Prop := r.control = .writeObject ∨ ∃ state, r.control = .copyup state

variable [Zero α]

/-- What holds of the object map at any time. -/
structure MapInv (img : Image α) (s : Sys α) : Prop where
  tickets : ∀ r ∈ s.reqs, r.op ≠ .read → ∀ f ∈ r.flight, f.ticket < s.ticket
  settled : s.mem ≠ .objectExists → ∀ r ∈ s.reqs, ∀ f, r.Writes f → r.submitted = true
  absent : s.mem = .objectNonexistent → s.Quiet
  single : ∀ (i k : Nat) (r q : Req α), s.reqs[i]? = some r → s.reqs[k]? = some q → r.Deleting →
    q.Deleting → i = k
  waiting : s.mem = .objectPending → ∀ r ∈ s.reqs, r.op ≠ .read → r.deletion = true →
    r.control = .writeObject → ∀ g ∈ r.flight, (∀ f, s.Writing f → f.ticket < g.ticket) ∧
      ∀ res data, g.reply = some (res, data) → res = 0 ∨ res = enoent → s.Quiet
  cleared : s.mem = .objectPending → ∀ r ∈ s.reqs, r.op ≠ .read → r.control = .postObjectMap →
    s.Quiet
  busy : img.extents ≠ [] → ∀ r ∈ s.reqs, r.op ≠ .read → r.Mapped → s.mem = .objectExists

/-- No deletion is started while another one is going on. -/
def Sys.OneDeletion (img : Image α) (s : Sys α) : Event α → Prop
  | .start op off len snaps seq _ => ∀ r, s.initial img op off len snaps seq = some r →
      r.deletion = true → ∀ q ∈ s.reqs, ¬q.Deleting
  | _ => True

/-- No deletion marks the object in the map while a write that has found it there is still to be
submitted. -/
def Sys.Settled (s : Sys α) : Event α → Prop
  | .deliver i j _ => ∀ r f, s.reqs[i]? = some r → r.flight[j]? = some f →
      f.sent = .mapUpdate none .objectPending none →
        ∀ q ∈ s.reqs, ∀ g, q.Writes g → q.submitted = true
  | _ => True

/-! ## What a call leaves in flight -/

section Calls

variable {img : Image α} {r : Req α} {mem : MapState} {alloc : Nat → Option Errno} {result : Int}
  {data : List α}

omit [Zero α] in
theorem flight_submit (fault : Option Errno) (control : Control) (sents : List (Sent α)) :
    (r.submit fault control sents).1.flight = r.flight := by
  cases fault with
  | none => rfl
  | some e => rfl

omit [Zero α] in
theorem flight_written :
    (r.advanceWritten img mem alloc result).1.flight = r.flight := by
  rw [Req.advanceWritten]
  split
  · rfl
  · split
    · rfl
    · split
      · exact flight_submit _ _ _
      · rfl

omit [Zero α] in
theorem flight_copyupWriteObject : (r.copyupWriteObject img alloc).1.flight = r.flight := by
  rw [Req.copyupWriteObject]
  generalize (if r.copyupZeros then [] else r.copyupData) = bytes
  split
  · cases alloc 0 with
    | some e => rfl
    | none =>
        cases alloc 1 with
        | some e => rfl
        | none => rfl
  · exact flight_submit _ _ _

omit [Zero α] in
theorem flight_copyupMapped : (r.copyupMapped img alloc result).1.flight = r.flight := by
  rw [Req.copyupMapped]
  split
  · rfl
  · exact flight_copyupWriteObject

theorem flight_copyupRead [DecidableEq α] :
    (r.copyupRead img alloc result data).1.flight = r.flight := by
  rw [Req.copyupRead]
  split
  · rfl
  · dsimp only
    split
    · exact flight_copyupMapped
    · rfl

omit [Zero α] in
theorem flight_copyupStart : (r.copyupStart img alloc).1.flight = r.flight := by
  rw [Req.copyupStart]
  dsimp only
  split
  · exact flight_submit _ _ _
  · exact flight_submit _ _ _

omit [Zero α] in
theorem flight_mapped : (r.advanceMapped img alloc result).1.flight = r.flight := by
  rw [Req.advanceMapped]
  split
  · rfl
  · exact flight_submit _ _ _

omit [Zero α] in
theorem flight_writeStart : (r.writeStart img mem alloc).1.flight = r.flight := by
  rw [Req.writeStart]
  dsimp only
  split
  · rfl
  · split
    · exact flight_submit _ _ _
    · exact flight_mapped

/-- A call for a reply of a request that changes the object takes nothing from its flight. -/
theorem flight_advance [DecidableEq α] (hcontrol : r.control ≠ .readObject) :
    (Req.advance img r mem alloc result data).1.flight = r.flight := by
  rw [Req.advance]
  split
  · exact absurd (by assumption) hcontrol
  · split
    · rfl
    · rfl
  · exact flight_mapped
  · split
    · exact flight_copyupStart
    · split
      · exact flight_written
      · exact flight_written
  · exact flight_copyupRead
  · rw [pendingResultDec_eq]
    dsimp only
    split
    · rfl
    · exact flight_copyupMapped
  · rw [pendingResultDec_eq]
    dsimp only
    split
    · rfl
    · exact flight_written
  · exact flight_written
  · rfl
  · rfl

omit [Zero α] in
/-- The control of a request that waits, or that could not submit. -/
theorem control_submit (fault : Option Errno) (control : Control) (sents : List (Sent α)) :
    (r.submit fault control sents).1.control = control ∨
      ∃ e, (r.submit fault control sents).1.control = .done e := by
  cases fault with
  | none => exact .inl rfl
  | some e => exact .inr ⟨e, rfl⟩

omit [Zero α] in
/-- From `RBD_OBJ_WRITE_COPYUP` on, the object map is updated after a deletion that has marked
it. -/
theorem control_written :
    (∃ e, (r.advanceWritten img mem alloc result).1.control = .done e) ∨
      (r.advanceWritten img mem alloc result).1.control = .postObjectMap ∧ r.deletion = true ∧
        result = 0 := by
  rw [Req.advanceWritten]
  split
  · exact .inl ⟨result, rfl⟩
  · rename_i hres
    split
    · exact .inl ⟨0, rfl⟩
    · rename_i hdel
      split
      · rcases control_submit (alloc 0) .postObjectMap
          [Sent.mapUpdate none .objectNonexistent (some .objectPending)] with hpost | hdone
        · refine .inr ⟨hpost, ?_, not_not.mp hres⟩
          rw [Bool.or_eq_true, not_or] at hdel
          simpa using hdel.2
        · exact .inl hdone
      · exact .inl ⟨0, rfl⟩

omit [Zero α] in
/-- From `RBD_OBJ_WRITE_PRE_OBJECT_MAP` on. -/
theorem control_mapped :
    (∃ e, (r.advanceMapped img alloc result).1.control = .done e) ∨
      (r.advanceMapped img alloc result).1.control = .writeObject ∧ result = 0 := by
  rw [Req.advanceMapped]
  split
  · exact .inl ⟨result, rfl⟩
  · rename_i hres
    rcases control_submit (alloc 0) .writeObject
      [Sent.write r.seq ((if r.copyupEnabled then [.stat] else []) ++ r.writeOps img)] with
        hpost | hdone
    · exact .inr ⟨hpost, not_not.mp hres⟩
    · exact .inl hdone

omit [Zero α] in
/-- From `RBD_OBJ_WRITE_START` on, a request writes the object only with its state in the map. -/
theorem control_writeStart (hmap : img.objectMap = true) :
    (∃ e, (r.writeStart img mem alloc).1.control = .done e) ∨
      (r.writeStart img mem alloc).1.control = .preObjectMap ∨
      (r.writeStart img mem alloc).1.control = .writeObject ∧
        updateNeeded mem r.preState = false := by
  rw [Req.writeStart]
  dsimp only
  split
  · exact .inl ⟨0, rfl⟩
  · split
    · rcases control_submit (alloc 0) .preObjectMap
        [(Sent.mapUpdate none r.preState none : Sent α)] with hpre | hdone
      · exact .inr (.inl hpre)
      · exact .inl hdone
    · rename_i hneed
      rcases @control_mapped α img { r with mayExist := Req.mapMayExist img mem } alloc 0 with
        hdone | hwrite
      · exact .inl hdone
      · refine .inr (.inr ⟨hwrite.1, ?_⟩)
        rw [hmap, Bool.true_and] at hneed
        exact Bool.eq_false_iff.mpr hneed

end Calls

/-! ## Steps -/

section Steps

variable {img : Image α} {init : Nat → α} {s s' : Sys α} {i j : Nat} {r r' : Req α} {f : Flight α}

omit [Zero α] in
/-- A request of the new list is the new one or an old one. -/
theorem getElem_set {reqs : List (Req α)} {k : Nat} {q : Req α} (h : (reqs.set i r')[k]? = some q) :
    i = k ∧ q = r' ∨ i ≠ k ∧ reqs[k]? = some q := by
  rw [List.getElem?_set] at h
  by_cases heq : i = k
  · rw [if_pos heq] at h
    split at h
    · exact .inl ⟨heq, (Option.some.inj h).symm⟩
    · cases h
  · rw [if_neg heq] at h
    exact .inr ⟨heq, h⟩

omit [Zero α] in
/-- One request takes a step: its tickets are new, and it does not become a deletion. -/
theorem MapInv.set (h : MapInv img s) (hi : s.reqs[i]? = some r) (hreqs : s'.reqs = s.reqs.set i r')
    (hticket : s.ticket ≤ s'.ticket)
    (htickets : r'.op ≠ .read → ∀ f ∈ r'.flight, f.ticket < s'.ticket)
    (hsettled : s'.mem ≠ .objectExists → ∀ q ∈ s'.reqs, ∀ f, q.Writes f → q.submitted = true)
    (hdel : r'.Deleting → r.Deleting) (habsent : s'.mem = .objectNonexistent → s'.Quiet)
    (hwaiting : s'.mem = .objectPending → ∀ q ∈ s'.reqs, q.op ≠ .read → q.deletion = true →
      q.control = .writeObject → ∀ g ∈ q.flight, (∀ f, s'.Writing f → f.ticket < g.ticket) ∧
        ∀ res data, g.reply = some (res, data) → res = 0 ∨ res = enoent → s'.Quiet)
    (hcleared : s'.mem = .objectPending → ∀ q ∈ s'.reqs, q.op ≠ .read →
      q.control = .postObjectMap → s'.Quiet)
    (hbusy : img.extents ≠ [] → ∀ q ∈ s'.reqs, q.op ≠ .read → q.Mapped →
      s'.mem = .objectExists) : MapInv img s' := by
  refine ⟨?_, hsettled, habsent, ?_, hwaiting, hcleared, hbusy⟩
  · intro q hq hop g hg
    rw [hreqs] at hq
    rcases List.mem_or_eq_of_mem_set hq with hold | rfl
    · exact Nat.lt_of_lt_of_le (h.tickets q hold hop g hg) hticket
    · exact htickets hop g hg
  · intro a b p q ha hb hp hq
    rw [hreqs] at ha hb
    rcases getElem_set ha with ⟨rfl, rfl⟩ | ⟨hne, ha'⟩
    · rcases getElem_set hb with ⟨hab, -⟩ | ⟨hne, hb'⟩
      · exact hab
      · exact h.single _ _ r q hi hb' (hdel hp) hq
    · rcases getElem_set hb with ⟨rfl, rfl⟩ | ⟨hne', hb'⟩
      · exact h.single _ _ p r ha' hi hp (hdel hq)
      · exact h.single _ _ p q ha' hb' hp hq

omit [Zero α] in
/-- What is going to change the object is what was, or belongs to the request that took the step. -/
theorem writing_set (hreqs : s'.reqs = s.reqs.set i r') {g : Flight α} (hg : s'.Writing g) :
    s.Writing g ∨ r'.Writes g := by
  obtain ⟨q, hq, hwrites⟩ := hg
  rw [hreqs] at hq
  rcases List.mem_or_eq_of_mem_set hq with hold | rfl
  · exact .inl ⟨q, hold, hwrites⟩
  · exact .inr hwrites

omit [Zero α] in
/-- One request takes a step, and the object and its state in the map stay. -/
theorem MapInv.same (h : MapInv img s) (hi : s.reqs[i]? = some r)
    (hreqs : s'.reqs = s.reqs.set i r') (hmem : s'.mem = s.mem) (hobject : s'.object = s.object)
    (hticket : s.ticket ≤ s'.ticket)
    (htickets : r'.op ≠ .read → ∀ f ∈ r'.flight, f.ticket < s'.ticket)
    (hdel : r'.Deleting → r.Deleting)
    (hwrites : ∀ g, r'.Writes g → s.mem = .objectExists)
    (hwait : r'.op ≠ .read → r'.deletion = true → r'.control ≠ .writeObject)
    (hpost : r'.op ≠ .read → r'.control = .postObjectMap → s.mem = .objectPending → s.Quiet)
    (hbusy : img.extents ≠ [] → r'.op ≠ .read → r'.Mapped → s.mem = .objectExists) :
    MapInv img s' := by
  -- only in the state EXISTS may the step put a new write in flight
  have hwriting : s.mem ≠ .objectExists → ∀ g, s'.Writing g → s.Writing g := by
    intro hne g hg
    rcases writing_set hreqs hg with hold | hnew
    · exact hold
    · exact absurd (hwrites g hnew) hne
  have hquiet : s.mem ≠ .objectExists → s.Quiet → s'.Quiet := by
    intro hne hq
    refine ⟨by rw [hobject]; exact hq.1, fun g hg => hq.2 g (hwriting hne g hg)⟩
  refine h.set hi hreqs hticket htickets ?_ hdel ?_ ?_ ?_ ?_
  · intro hne q hq g hg
    rw [hmem] at hne
    rw [hreqs] at hq
    rcases List.mem_or_eq_of_mem_set hq with hold | rfl
    · exact h.settled hne q hold g hg
    · exact absurd (hwrites g hg) hne
  · intro hm
    rw [hmem] at hm
    exact hquiet (by rw [hm]; simp) (h.absent hm)
  · intro hm q hq hop hqdel hctl g hg
    rw [hmem] at hm
    have hne : s.mem ≠ .objectExists := by
      rw [hm]
      simp
    rw [hreqs] at hq
    rcases List.mem_or_eq_of_mem_set hq with hold | rfl
    · obtain ⟨hlt, hrep⟩ := h.waiting hm q hold hop hqdel hctl g hg
      exact ⟨fun f hf => hlt f (hwriting hne f hf), fun res data hres hz =>
        hquiet hne (hrep res data hres hz)⟩
    · exact absurd hctl (hwait hop hqdel)
  · intro hm q hq hop hctl
    rw [hmem] at hm
    have hne : s.mem ≠ .objectExists := by
      rw [hm]
      simp
    rw [hreqs] at hq
    rcases List.mem_or_eq_of_mem_set hq with hold | rfl
    · exact hquiet hne (h.cleared hm q hold hop hctl)
    · exact hquiet hne (hpost hop hctl hm)
  · intro hext q hq hop hmapped
    rw [hmem]
    rw [hreqs] at hq
    rcases List.mem_or_eq_of_mem_set hq with hold | rfl
    · exact h.busy hext q hold hop hmapped
    · exact hbusy hext hop hmapped

/-! ## The execution of an OSD request -/

omit [Zero α] in
/-- The OSD request of a deletion. -/
theorem writeOps_deletion (hwf : r.Wf img) (hdel : r.deletion = true) :
    r.writeOps img = [.delete] := by
  obtain ⟨hop, hentire, hext⟩ := hwf.deletion.mp hdel
  have hnil : r.imgExtents = [] := by
    rw [hwf.extents (by rcases hop with hop | hop <;> simp [hop]), hext]
  rcases hop with hop | hop
  · simp [Req.writeOps, hop, hentire, hnil]
  · simp [Req.writeOps, hop, hentire, hnil]

omit [Zero α] in
/-- A deletion has no copyup. -/
theorem copyup_deletion (hwf : r.Wf img) (hdel : r.deletion = true) : r.copyupEnabled = false := by
  by_contra hcopy
  have hcopy' : r.copyupEnabled = true := by simpa using hcopy
  exact (hwf.copyup.mp hcopy').2.1 (hwf.deletion.mp hdel).2.2

/-- The execution of an OSD request that is not for the object leaves it. -/
theorem execute_other (htarget : f.sent.target ≠ .object) (fault : Option (Errno × Bool)) :
    (s.execute img i j r f fault).object = s.object := by
  rw [Sys.execute]
  split
  · rfl
  · split
    · split
      · rfl
      · rfl
    · rfl
    · rfl
    · rename_i hsent
      exact absurd (by rw [hsent]; rfl) htarget
    · rename_i hsent
      exact absurd (by rw [hsent]; rfl) htarget

/-- An execution leaves the map in memory, and submits nothing. -/
theorem execute_mem (fault : Option (Errno × Bool)) :
    (s.execute img i j r f fault).mem = s.mem ∧
      (s.execute img i j r f fault).ticket = s.ticket := by
  rw [Sys.execute]
  split
  · exact ⟨rfl, rfl⟩
  · split
    · split
      · exact ⟨rfl, rfl⟩
      · exact ⟨rfl, rfl⟩
    · exact ⟨rfl, rfl⟩
    · exact ⟨rfl, rfl⟩
    · split
      · exact ⟨rfl, rfl⟩
      · exact ⟨rfl, rfl⟩
    · split
      · exact ⟨rfl, rfl⟩
      · exact ⟨rfl, rfl⟩

/-- The execution of a deletion: the object does not exist any more when it is reported done. -/
theorem execute_deletion {seq : Nat} (hsent : f.sent = .write seq [.delete])
    (fault : Option (Errno × Bool)) :
    ∃ res data, (s.execute img i j r f fault).reqs = s.replied i j r f res data ∧
      (res = 0 ∨ res = enoent → (s.execute img i j r f fault).object.head = none) ∧
      (s.object.head = none → (s.execute img i j r f fault).object.head = none) := by
  cases hfault : Sys.skipped fault with
  | true =>
      have hneg : Sys.reported fault 0 < 0 ∧ Sys.reported fault 0 ≠ enoent := by
        cases fault with
        | none => cases hfault
        | some fault => exact fault.1.2
      have hrun : s.execute img i j r f fault =
          { s with reqs := s.replied i j r f (Sys.reported fault 0) [] } := by
        simp only [Sys.execute, hfault, if_true]
      rw [hrun]
      refine ⟨_, _, rfl, fun hres => ?_, fun hnone => hnone⟩
      rcases hres with hres | hres
      · omega
      · exact absurd hres hneg.2
  | false =>
      cases hhead : s.object.head with
      | none =>
          have hres : runOps [.delete] s.object.head = .error enoent := by
            rw [hhead]
            rfl
          rw [execute_error hsent hfault (write_error hres)]
          exact ⟨_, _, rfl, fun _ => hhead, fun _ => hhead⟩
      | some c =>
          have hres : runOps [.delete] s.object.head = .ok none := by
            rw [hhead]
            rfl
          rw [execute_ok hsent hfault (write_ok hres)]
          exact ⟨_, _, rfl, fun _ => rfl, fun _ => rfl⟩

/-- What a deletion has in flight for the object. -/
theorem sent_deletion {head : Option (List α)} {applied : Prop} (hwf : r.Wf img)
    (hok : r.WriteOk img head applied) (hdel : r.deletion = true) (hj : r.flight[j]? = some f)
    (htarget : f.sent.target = .object) :
    r.control = .writeObject ∧ r.flight = [f] ∧ f.sent = .write r.seq [.delete] := by
  obtain ⟨control, hctl⟩ : ∃ control, r.control = control := ⟨_, rfl⟩
  have hnocopy := copyup_deletion hwf hdel
  simp only [Req.WriteOk, hctl] at hok
  cases control with
  | preObjectMap =>
      obtain ⟨-, t, rep, hflight⟩ := hok
      rw [(eraseIdx_of_single hflight hj).1] at htarget
      cases htarget
  | writeObject =>
      obtain ⟨t, rep, hflight, -⟩ := hok
      obtain ⟨rfl, -⟩ := eraseIdx_of_single hflight hj
      refine ⟨hctl, hflight, ?_⟩
      rw [hnocopy, writeOps_deletion hwf hdel]
      rfl
  | copyup state =>
      cases state with
      | readParent =>
          rw [hnocopy] at hok
          cases hok.2.1
      | objectMaps =>
          rw [hnocopy] at hok
          cases hok.2.1
      | writeObject =>
          rw [hnocopy] at hok
          cases hok.1
      | modsOnly => exact hok.elim
  | postObjectMap =>
      obtain ⟨-, -, t, rep, hflight⟩ := hok
      rw [(eraseIdx_of_single hflight hj).1] at htarget
      cases htarget
  | done res =>
      rw [hok.1] at hj
      cases hj
  | readObject => exact hok.elim
  | readParent => exact hok.elim

/-- The execution of an OSD request keeps what holds of the object map. -/
theorem MapInv.exec (h : MapInv img s) (hinv : Inv img init s) (hi : s.reqs[i]? = some r)
    (hj : r.flight[j]? = some f) (hnone : f.reply = none)
    (hfirst : f.sent.target = .unordered ∨ s.first f (·.reply.isNone) = true)
    (fault : Option (Errno × Bool)) : MapInv img (s.execute img i j r f fault) := by
  have hok := hinv.known i r hi
  have hmemr := List.mem_of_getElem? hi
  have hmemf := List.mem_of_getElem? hj
  obtain ⟨hmem, hticket⟩ := @execute_mem _ _ img s i j r f fault
  obtain ⟨res, data, hreqs, hdone⟩ : ∃ res data,
      (s.execute img i j r f fault).reqs = s.replied i j r f res data ∧
        (r.deletion = true → f.sent.target = .object → res = 0 ∨ res = enoent →
          (s.execute img i j r f fault).object.head = none) := by
    by_cases hboth : r.deletion = true ∧ f.sent.target = .object
    · have hop := hinv.op_ne_read hi hj (by rw [hboth.2]; simp)
      obtain ⟨-, -, hsent⟩ := sent_deletion hok.wf (hok.write hop) hboth.1 hj hboth.2
      obtain ⟨res, data, hreqs, hdone, -⟩ := @execute_deletion _ _ img s i j r f _ hsent fault
      exact ⟨res, data, hreqs, fun _ _ => hdone⟩
    · obtain ⟨res, data, hreqs⟩ := @execute_reqs _ _ img s i j r f fault
      exact ⟨res, data, hreqs, fun hdel htarget => absurd ⟨hdel, htarget⟩ hboth⟩
  -- a reply leaves nothing new to be executed
  have hold : ∀ g ∈ r.flight.set j { f with reply := some (res, data) }, g ∈ r.flight ∨
      g = { f with reply := some (res, data) } := fun g hg => List.mem_or_eq_of_mem_set hg
  have hwriting : ∀ g, (s.execute img i j r f fault).Writing g → s.Writing g := by
    intro g hg
    rcases writing_set hreqs hg with hg | ⟨hop, hdel, hmemg, hreply, htarget⟩
    · exact hg
    · rcases hold g hmemg with hg | rfl
      · exact ⟨r, hmemr, hop, hdel, hg, hreply, htarget⟩
      · cases hreply
  have hhead : s.Quiet → (s.execute img i j r f fault).object.head = none := by
    intro hquiet
    by_cases htarget : f.sent.target = .object
    · have hop := hinv.op_ne_read hi hj (by rw [htarget]; simp)
      by_cases hdel : r.deletion = true
      · obtain ⟨-, -, hsent⟩ := sent_deletion hok.wf (hok.write hop) hdel hj htarget
        obtain ⟨_, _, -, -, hkeep⟩ := @execute_deletion _ _ img s i j r f _ hsent fault
        exact hkeep hquiet.1
      · exact absurd ⟨r, hmemr, hop, by simpa using hdel, hmemf, hnone, htarget⟩ (hquiet.2 f)
    · rw [execute_other htarget]
      exact hquiet.1
  have hquiet : s.Quiet → (s.execute img i j r f fault).Quiet := fun hq =>
    ⟨hhead hq, fun g hg => hq.2 g (hwriting g hg)⟩
  refine h.set hi hreqs (by rw [hticket]) ?_ ?_ (fun hdel => hdel) ?_ ?_ ?_ ?_
  · intro hop g hg
    rw [hticket]
    rcases hold g hg with hg | rfl
    · exact h.tickets r hmemr hop g hg
    · exact h.tickets r hmemr hop f hmemf
  · intro hne q hq g hg
    have hne' : s.mem ≠ .objectExists := hmem ▸ hne
    rw [hreqs] at hq
    rcases List.mem_or_eq_of_mem_set hq with hq | rfl
    · exact h.settled hne' q hq g hg
    · obtain ⟨hop, hdel, hmemg, hreply, htarget⟩ := hg
      rcases hold g hmemg with hin | rfl
      · exact h.settled hne' r hmemr g ⟨hop, hdel, hin, hreply, htarget⟩
      · cases hreply
  · intro hm
    exact hquiet (h.absent (hmem ▸ hm))
  · intro hm q hq hop hdel hctl g hg
    have hm' : s.mem = .objectPending := hmem ▸ hm
    rw [hreqs] at hq
    rcases List.mem_or_eq_of_mem_set hq with hq | rfl
    · obtain ⟨hlt, hrep⟩ := h.waiting hm' q hq hop hdel hctl g hg
      exact ⟨fun f' hf' => hlt f' (hwriting f' hf'),
        fun res' d hres hz => hquiet (hrep res' d hres hz)⟩
    · -- the deletion itself: nothing that was submitted before it is left
      have hwrite := hok.write hop
      have hctl' : r.control = .writeObject := hctl
      simp only [Req.WriteOk, hctl'] at hwrite
      obtain ⟨t, rep, hflight, -⟩ := hwrite
      obtain ⟨hf, hset⟩ := set_of_single hflight hj (some (res, data))
      have htarget : f.sent.target = .object := by
        rw [hf]
        rfl
      have hlt := (h.waiting hm' r hmemr hop hdel hctl' f hmemf).1
      have hg' : g = { f with reply := some (res, data) } := by
        rcases hold g hg with hin | heq
        · have hg'' : g ∈ r.flight.set j { f with reply := some (res, data) } := hg
          rw [hset] at hg''
          rw [List.mem_singleton.mp hg'', hf]
        · exact heq
      rw [hg']
      refine ⟨fun f' hf' => hlt f' (hwriting f' hf'), fun res' d hres hz => ?_⟩
      obtain ⟨rfl, rfl⟩ : res = res' ∧ data = d := by simpa using hres
      refine ⟨hdone hdel htarget hz, fun g' hw' => ?_⟩
      obtain ⟨q, hq, hqw⟩ := hwriting g' hw'
      have hsub := h.settled (by rw [hm']; simp) q hq g' hqw
      obtain ⟨-, -, hgq, hrep, htg⟩ := hqw
      obtain ⟨k, hk⟩ := List.mem_iff_getElem?.mp hq
      rcases hfirst with hun | hfirst
      · rw [htarget] at hun
        cases hun
      · have hle := first_le hk hsub hfirst htarget g' hgq hrep htg
        have hlt' := hlt g' (hwriting g' hw')
        omega
  · intro hm q hq hop hctl
    rw [hreqs] at hq
    rcases List.mem_or_eq_of_mem_set hq with hq | rfl
    · exact hquiet (h.cleared (hmem ▸ hm) q hq hop hctl)
    · exact hquiet (h.cleared (hmem ▸ hm) r hmemr hop hctl)
  · intro hext q hq hop hmapped
    rw [hmem]
    rw [hreqs] at hq
    rcases List.mem_or_eq_of_mem_set hq with hq | rfl
    · exact h.busy hext q hq hop hmapped
    · exact h.busy hext r hmemr hop hmapped

/-! ## The start of a request -/

/-- A request that needs no update finds the object in the map. -/
theorem updateNeeded_exists {mem : MapState} (h : updateNeeded mem .objectExists = false) :
    mem = .objectExists := by
  cases mem with
  | objectExists => rfl
  | objectNonexistent => exact absurd h (by decide)
  | objectPending => exact absurd h (by decide)
  | objectExistsClean => exact absurd h (by decide)

/-- The start of a request keeps what holds of the object map. -/
theorem MapInv.start (h : MapInv img s) (hmap : img.objectMap = true) {op : OpType α}
    (hstarted : Started img s op r) (alloc : Nat → Option Errno)
    (hinv' : Inv img init (s.begin img r alloc))
    (hone : r.deletion = true → ∀ q ∈ s.reqs, ¬q.Deleting) : MapInv img (s.begin img r alloc) := by
  have hticket : s.ticket ≤ (s.begin img r alloc).ticket := Nat.le_add_right _ _
  -- what the first call leaves of a request that changes the object
  obtain ⟨q, hreqs, hq⟩ : ∃ q, (s.begin img r alloc).reqs = s.reqs ++ [q] ∧ (q.op ≠ .read →
      q.deletion = r.deletion ∧
      (∀ f ∈ q.flight, s.ticket ≤ f.ticket ∧ f.ticket < (s.begin img r alloc).ticket ∧
        f.reply = none) ∧
      ((∃ e, q.control = .done e) ∨ q.control = .preObjectMap ∨
        q.control = .writeObject ∧ updateNeeded s.mem r.preState = false)) := by
    obtain ⟨kind, hop⟩ : ∃ kind, r.op = kind := ⟨_, rfl⟩
    cases kind with
    | read =>
        have hkept : Kept img r (launched s.ticket (r.readStart img s.mem alloc)) :=
          kept_launched (kept_readStart hop s.mem alloc)
        refine ⟨launched s.ticket (r.readStart img s.mem alloc), ?_, fun hne => ?_⟩
        · simp only [Sys.begin, hop]
          rfl
        · exact absurd (hkept.op.trans hop) hne
    | _ =>
        have hkept : Kept img r (launched s.ticket (r.writeStart img s.mem alloc)) :=
          kept_launched (kept_writeStart s.mem alloc)
        refine ⟨launched s.ticket (r.writeStart img s.mem alloc), ?_, fun _ =>
          ⟨hkept.deletion, fun f hf => ?_, control_writeStart hmap⟩⟩
        · simp only [Sys.begin, hop]
          rfl
        · simp only [launched, flight_writeStart, hstarted.flight, List.nil_append] at hf
          obtain ⟨-, hnone, hle, hlt⟩ := mem_stamp hf
          refine ⟨hle, ?_, hnone⟩
          simp only [Sys.begin, hop]
          exact hlt
  have hok : q.op ≠ .read → q.WriteOk img (s.begin img r alloc).object.head
      (s.reqs.length ∈ changed (s.begin img r alloc).log) := by
    refine (hinv'.known s.reqs.length q ?_).write
    rw [hreqs]
    exact List.getElem?_concat_length
  have hwrites : ∀ g, q.Writes g → s.mem = .objectExists := by
    rintro g ⟨hop, hdel, hg, -, htarget⟩
    obtain ⟨hsame, -, ⟨e, hctl⟩ | hctl | ⟨hctl, hneed⟩⟩ := hq hop
    · have hok' := hok hop
      simp only [Req.WriteOk, hctl] at hok'
      rw [hok'.1] at hg
      cases hg
    · have hok' := hok hop
      simp only [Req.WriteOk, hctl] at hok'
      obtain ⟨-, t, rep, hflight⟩ := hok'
      rw [hflight, List.mem_singleton] at hg
      rw [hg] at htarget
      cases htarget
    · rw [Req.preState, ← hsame, hdel] at hneed
      exact updateNeeded_exists hneed
  have hwriting : s.mem ≠ .objectExists → ∀ g, (s.begin img r alloc).Writing g → s.Writing g := by
    rintro hne g ⟨p, hp, hpw⟩
    rw [hreqs] at hp
    rcases List.mem_append.mp hp with hold | hnew
    · exact ⟨p, hold, hpw⟩
    · obtain rfl := List.mem_singleton.mp hnew
      exact absurd (hwrites g hpw) hne
  have hquiet : s.mem ≠ .objectExists → s.Quiet → (s.begin img r alloc).Quiet := fun hne hquiet =>
    ⟨hquiet.1, fun g hg => hquiet.2 g (hwriting hne g hg)⟩
  have hcases : ∀ p ∈ (s.begin img r alloc).reqs, p ∈ s.reqs ∨ p = q := by
    intro p hp
    rw [hreqs] at hp
    rcases List.mem_append.mp hp with hold | hnew
    · exact .inl hold
    · exact .inr (List.mem_singleton.mp hnew)
  refine ⟨?_, ?_, ?_, ?_, ?_, ?_, ?_⟩
  · intro p hp hop g hg
    rcases hcases p hp with hold | rfl
    · exact Nat.lt_of_lt_of_le (h.tickets p hold hop g hg) hticket
    · exact ((hq hop).2.1 g hg).2.1
  · intro hne p hp g hg
    rcases hcases p hp with hold | rfl
    · exact h.settled hne p hold g hg
    · exact absurd (hwrites g hg) hne
  · intro hm
    have hm' : s.mem = .objectNonexistent := hm
    exact hquiet (by rw [hm']; simp) (h.absent hm')
  · intro a b p p' ha hb hp hp'
    have hindex : ∀ {k : Nat} {x : Req α}, (s.begin img r alloc).reqs[k]? = some x →
        s.reqs[k]? = some x ∨ k = s.reqs.length ∧ x = q := by
      intro k x hk
      rw [hreqs] at hk
      by_cases hlt : k < s.reqs.length
      · rw [List.getElem?_append_left hlt] at hk
        exact .inl hk
      · rw [List.getElem?_append_right (by omega)] at hk
        have hlt' := (List.getElem?_eq_some_iff.mp hk).1
        have hone : k - s.reqs.length < 1 := hlt'
        exact .inr ⟨by omega, List.mem_singleton.mp (List.mem_of_getElem? hk)⟩
    have hnew : ∀ {x : Req α}, q.Deleting → x ∈ s.reqs → ¬x.Deleting := by
      intro x hqd hx
      exact hone ((hq hqd.1).1 ▸ hqd.2.1) x hx
    rcases hindex ha with ha' | ⟨rfl, rfl⟩
    · rcases hindex hb with hb' | ⟨rfl, rfl⟩
      · exact h.single a b p p' ha' hb' hp hp'
      · exact absurd hp (hnew hp' (List.mem_of_getElem? ha'))
    · rcases hindex hb with hb' | ⟨rfl, rfl⟩
      · exact absurd hp' (hnew hp (List.mem_of_getElem? hb'))
      · rfl
  · intro hm p hp hop hdel hctl g hg
    have hm' : s.mem = .objectPending := hm
    have hne : s.mem ≠ .objectExists := by
      rw [hm']
      simp
    rcases hcases p hp with hold | rfl
    · obtain ⟨hlt, hrep⟩ := h.waiting hm' p hold hop hdel hctl g hg
      exact ⟨fun f hf => hlt f (hwriting hne f hf), fun res data hres hz =>
        hquiet hne (hrep res data hres hz)⟩
    · obtain ⟨hle, -, hnone⟩ := (hq hop).2.1 g hg
      refine ⟨fun f hf => ?_, fun res data hres => ?_⟩
      · obtain ⟨x, hx, hxop, -, hfx, -⟩ := hwriting hne f hf
        have hlt := h.tickets x hx hxop f hfx
        omega
      · rw [hnone] at hres
        cases hres
  · intro hm p hp hop hctl
    have hm' : s.mem = .objectPending := hm
    have hne : s.mem ≠ .objectExists := by
      rw [hm']
      simp
    rcases hcases p hp with hold | rfl
    · exact hquiet hne (h.cleared hm' p hold hop hctl)
    · rcases (hq hop).2.2 with ⟨e, he⟩ | he | ⟨he, -⟩
      · rw [he] at hctl
        cases hctl
      · rw [he] at hctl
        cases hctl
      · rw [he] at hctl
        cases hctl
  · intro hext p hp hop hmapped
    rcases hcases p hp with hold | rfl
    · exact h.busy hext p hold hop hmapped
    · have hnodel : r.deletion = false := by
        by_contra hdel
        exact hext (hstarted.wf.deletion.mp (by simpa using hdel)).2.2
      rcases (hq hop).2.2 with ⟨e, he⟩ | he | ⟨he, hneed⟩
      · rcases hmapped with hw | ⟨state, hw⟩
        · rw [he] at hw
          cases hw
        · rw [he] at hw
          cases hw
      · rcases hmapped with hw | ⟨state, hw⟩
        · rw [he] at hw
          cases hw
        · rw [he] at hw
          cases hw
      · rw [Req.preState, hnodel] at hneed
        exact updateNeeded_exists hneed

/-! ## The submission of OSD requests -/

omit [Zero α] in
/-- What a request is going to change is what it was going to change before the submission. -/
theorem writes_restamp {t : Nat} (hf : ({ r with
    flight := restamp t r.flight
    submitted := true } : Req α).Writes f) : ∃ g, r.Writes g := by
  obtain ⟨hop, hdel, hmem, hreply, htarget⟩ := hf
  obtain ⟨g, hg, hsent, hrep, -⟩ := mem_restamp hmem
  exact ⟨g, hop, hdel, hg, hrep ▸ hreply, hsent ▸ htarget⟩

omit [Zero α] in
/-- The submission keeps what holds of the object map: a deletion gets behind all that is in flight,
and a write is submitted only while the map says that the object exists. -/
theorem MapInv.post (h : MapInv img s) (hi : s.reqs[i]? = some r) (hwaits : ¬r.submitted = true) :
    MapInv img (s.post i r) := by
  have hmemr := List.mem_of_getElem? hi
  have hnew : ∀ f ∈ restamp s.ticket r.flight, ∃ g ∈ r.flight, f.sent = g.sent ∧
      f.reply = g.reply ∧ s.ticket ≤ f.ticket ∧ f.ticket < s.ticket + r.flight.length :=
    fun f hf => mem_restamp hf
  -- the request writes nothing unless the map says that the object exists
  have hwrites : s.mem ≠ .objectExists → ∀ g, ({ r with
      flight := restamp s.ticket r.flight
      submitted := true } : Req α).Writes g → False := by
    intro hne g hg
    obtain ⟨g', hg'⟩ := writes_restamp hg
    exact hwaits (h.settled hne r hmemr g' hg')
  have hwriting : s.mem ≠ .objectExists → ∀ g, (s.post i r).Writing g → s.Writing g := by
    intro hne g hg
    rcases writing_set rfl hg with hold | hown
    · exact hold
    · exact (hwrites hne g hown).elim
  have hquiet : s.mem ≠ .objectExists → s.Quiet → (s.post i r).Quiet := fun hne hq =>
    ⟨hq.1, fun g hg => hq.2 g (hwriting hne g hg)⟩
  refine h.set hi rfl (Nat.le_add_right _ _) (fun _ f hf => ?_) (fun hne q hq g hg => ?_)
    (fun hdel => hdel) (fun hm => ?_) (fun hm q hq hop hdel hctl g hg => ?_)
    (fun hm q hq hop hctl => ?_) (fun hext q hq hop hmapped => ?_)
  · obtain ⟨-, -, -, -, -, hlt⟩ := hnew f hf
    exact hlt
  · rcases List.mem_or_eq_of_mem_set hq with hold | rfl
    · exact h.settled hne q hold g hg
    · rfl
  · have hm' : s.mem = .objectNonexistent := hm
    exact hquiet (by rw [hm']; simp) (h.absent hm')
  · have hm' : s.mem = .objectPending := hm
    have hne : s.mem ≠ .objectExists := by
      rw [hm']
      simp
    rcases List.mem_or_eq_of_mem_set hq with hold | rfl
    · obtain ⟨hlt, hrep⟩ := h.waiting hm' q hold hop hdel hctl g hg
      exact ⟨fun f hf => hlt f (hwriting hne f hf), fun res data hres hz =>
        hquiet hne (hrep res data hres hz)⟩
    · obtain ⟨g', hg', -, hreply, hle, -⟩ := hnew g hg
      obtain ⟨-, hrep⟩ := h.waiting hm' r hmemr hop hdel hctl g' hg'
      refine ⟨fun f hf => ?_, fun res data hres hz => hquiet hne (hrep res data (hreply ▸ hres) hz)⟩
      obtain ⟨x, hx, hxop, -, hfx, -⟩ := hwriting hne f hf
      exact Nat.lt_of_lt_of_le (h.tickets x hx hxop f hfx) hle
  · have hm' : s.mem = .objectPending := hm
    have hne : s.mem ≠ .objectExists := by
      rw [hm']
      simp
    rcases List.mem_or_eq_of_mem_set hq with hold | rfl
    · exact hquiet hne (h.cleared hm' q hold hop hctl)
    · exact hquiet hne (h.cleared hm' r hmemr hop hctl)
  · rcases List.mem_or_eq_of_mem_set hq with hold | rfl
    · exact h.busy hext q hold hop hmapped
    · exact h.busy hext r hmemr hop hmapped

/-! ## The reply of an OSD request -/

section Deliver

variable [DecidableEq α] {result : Int} {data : List α} {alloc : Nat → Option Errno}

/-- A reply that is not of an update of the object's state leaves the map in memory. -/
theorem callback_mem (htarget : f.sent.target ≠ .map none) :
    (s.callback img i j r f result data alloc).mem = s.mem := by
  simp only [Sys.callback]
  split
  · rename_i hsent
    exact absurd (by rw [hsent]; rfl) htarget
  · rfl

/-- The reply of an update of the object's state. -/
theorem callback_update {new : MapState} {current : Option MapState}
    (hsent : f.sent = .mapUpdate none new current) :
    (s.callback img i j r f result data alloc).mem =
      if result = 0 then s.mem.update new current else s.mem := by
  simp only [Sys.callback, hsent]

/-- What a call for a reply has left of a request that changes the object. -/
structure Delivered (img : Image α) (s s' : Sys α) (i : Nat) (r q : Req α) : Prop where
  old : s.reqs[i]? = some r
  op : r.op ≠ .read
  running : ∀ e, r.control ≠ .done e
  reqs : s'.reqs = s.reqs.set i q
  object : s'.object = s.object
  ticket : s.ticket ≤ s'.ticket
  tickets : ∀ g ∈ q.flight, g.ticket < s'.ticket
  kept : Kept img r q
  wf : q.Wf img
  ok : ∃ applied, q.WriteOk img s'.object.head applied

omit [DecidableEq α] in
/-- The call does not make the request a deletion. -/
theorem Delivered.deleting {q : Req α} (d : Delivered img s s' i r q) (hq : q.Deleting) :
    r.Deleting :=
  ⟨d.op, d.kept.deletion ▸ hq.2.1, d.running⟩

omit [DecidableEq α] in
/-- A request that has completed, or waits for the last update, changes nothing any more. -/
theorem Delivered.writes_nil {q : Req α} (d : Delivered img s s' i r q)
    (hctl : (∃ e, q.control = .done e) ∨ q.control = .postObjectMap) (g : Flight α) :
    ¬q.Writes g := by
  obtain ⟨applied, hok⟩ := d.ok
  rintro ⟨-, -, hg, -, htarget⟩
  rcases hctl with ⟨e, hctl⟩ | hctl
  · simp only [Req.WriteOk, hctl] at hok
    rw [hok.1] at hg
    cases hg
  · simp only [Req.WriteOk, hctl] at hok
    obtain ⟨-, -, t, rep, hflight⟩ := hok
    rw [hflight, List.mem_singleton] at hg
    rw [hg] at htarget
    cases htarget

omit [DecidableEq α] in
/-- A request that writes nothing more, and waits for the last update only when this is due. -/
theorem MapInv.ended {q : Req α} (h : MapInv img s) (d : Delivered img s s' i r q)
    (hmem : s'.mem = s.mem)
    (hends : (∃ e, q.control = .done e) ∨
      q.control = .postObjectMap ∧ (s.mem = .objectPending → s.Quiet)) : MapInv img s' := by
  have hctl : (∃ e, q.control = .done e) ∨ q.control = .postObjectMap :=
    hends.imp_right fun hpost => hpost.1
  refine h.same d.old d.reqs hmem d.object d.ticket (fun _ => d.tickets) d.deleting
    (fun g hg => absurd hg (d.writes_nil hctl g)) ?_ ?_ ?_
  · intro _ _ hc
    rcases hctl with ⟨e, he⟩ | he
    · rw [he] at hc
      cases hc
    · rw [he] at hc
      cases hc
  · intro _ hc hm
    rcases hends with ⟨e, he⟩ | ⟨-, hquiet⟩
    · rw [he] at hc
      cases hc
    · exact hquiet hm
  · intro _ _ hmapped
    rcases hmapped with hc | ⟨state, hc⟩
    · rcases hctl with ⟨e, he⟩ | he
      · rw [he] at hc
        cases hc
      · rw [he] at hc
        cases hc
    · rcases hctl with ⟨e, he⟩ | he
      · rw [he] at hc
        cases hc
      · rw [he] at hc
        cases hc

omit [DecidableEq α] in
/-- A request with the parent's data below it has its state in the map for good. -/
theorem MapInv.parented {q : Req α} (h : MapInv img s) (d : Delivered img s s' i r q)
    (hmem : s'.mem = s.mem) (hext : img.extents ≠ []) (hmapped : r.Mapped) : MapInv img s' := by
  have hexists := h.busy hext r (List.mem_of_getElem? d.old) d.op hmapped
  have hnodel : q.deletion = true → False := fun hqd => hext (d.wf.deletion.mp hqd).2.2
  exact h.same d.old d.reqs hmem d.object d.ticket (fun _ => d.tickets) d.deleting
    (fun _ _ => hexists) (fun _ hqd => (hnodel hqd).elim)
    (fun _ _ hm => by rw [hexists] at hm; cases hm) (fun _ _ _ => hexists)

omit [DecidableEq α] in
/-- The map says that the object may exist. -/
theorem MapInv.existing {q : Req α} (h : MapInv img s) (d : Delivered img s s' i r q)
    (hexists : s'.mem = .objectExists) : MapInv img s' := by
  refine h.set d.old d.reqs d.ticket (fun _ => d.tickets) (fun hne => absurd hexists hne) d.deleting
    (fun hm => ?_) (fun hm => ?_) (fun hm => ?_) (fun _ _ _ _ _ => hexists)
  · rw [hexists] at hm
    cases hm
  · rw [hexists] at hm
    cases hm
  · rw [hexists] at hm
    cases hm

omit [DecidableEq α] in
/-- The map has been set to pending, and the deletion is submitted behind all that is in flight. -/
theorem MapInv.marked {q : Req α} (h : MapInv img s) (hinv : Inv img init s)
    (d : Delivered img s s' i r q) (hctl : r.control = .preObjectMap) (hd : r.deletion = true)
    (hpending : s'.mem = .objectPending)
    (hsettled : ∀ x ∈ s.reqs, ∀ g, x.Writes g → x.submitted = true)
    (hflight : ∀ g ∈ q.flight, s.ticket ≤ g.ticket ∧ g.reply = none)
    (hpost : q.control ≠ .postObjectMap) : MapInv img s' := by
  have hqd : q.deletion = true := d.kept.deletion.trans hd
  -- there is no other deletion
  have hone : ∀ x ∈ s.reqs, x.op ≠ .read → x.deletion = true → (∀ e, x.control ≠ .done e) →
      x = r := by
    intro x hx hxop hxd hxc
    obtain ⟨k, hk⟩ := List.mem_iff_getElem?.mp hx
    obtain rfl := h.single k i x r hk d.old ⟨hxop, hxd, hxc⟩ ⟨d.op, hd, d.running⟩
    exact Option.some.inj (hk.symm.trans d.old)
  refine h.set d.old d.reqs d.ticket (fun _ => d.tickets) (fun _ x hx g hg => ?_) d.deleting
    (fun hm => ?_) (fun _ x hx hxop hxd hxc g hg => ?_) (fun _ x hx hxop hxc => ?_) (fun hext => ?_)
  · rw [d.reqs] at hx
    rcases List.mem_or_eq_of_mem_set hx with hold | rfl
    · exact hsettled x hold g hg
    · rw [hg.2.1] at hqd
      cases hqd
  · rw [hpending] at hm
    cases hm
  · have hxq : x = q := by
      rw [d.reqs] at hx
      rcases List.mem_or_eq_of_mem_set hx with hold | heq
      · obtain rfl := hone x hold hxop hxd (by rw [hxc]; simp)
        rw [hctl] at hxc
        cases hxc
      · exact heq
    subst hxq
    obtain ⟨hge, hnone⟩ := hflight g hg
    refine ⟨fun f' hf' => ?_, fun res data hrep => ?_⟩
    · rcases writing_set d.reqs hf' with ⟨y, hy, hyop, -, hfy, -⟩ | hnew
      · have hlt := h.tickets y hy hyop f' hfy
        omega
      · rw [hnew.2.1] at hqd
        cases hqd
    · rw [hnone] at hrep
      cases hrep
  · exfalso
    rw [d.reqs] at hx
    rcases List.mem_or_eq_of_mem_set hx with hold | rfl
    · obtain ⟨k, hk⟩ := List.mem_iff_getElem?.mp hold
      have hxw := (hinv.known k x hk).write hxop
      simp only [Req.WriteOk, hxc] at hxw
      obtain rfl := hone x hold hxop hxw.2.1 (by rw [hxc]; simp)
      rw [hctl] at hxc
      cases hxc
    · exact hpost hxc
  · exact absurd (d.wf.deletion.mp hqd).2.2 hext

omit [DecidableEq α] in
/-- The map has been set to nonexistent after the deletion. -/
theorem MapInv.unmapped {q : Req α} (h : MapInv img s) (d : Delivered img s s' i r q)
    (hd : r.deletion = true) (hquiet : s.Quiet) (hdone : ∃ e, q.control = .done e)
    (hnonexistent : s'.mem = .objectNonexistent) : MapInv img s' := by
  have hwriting : ∀ g, ¬s'.Writing g := by
    intro g hg
    rcases writing_set d.reqs hg with hold | hnew
    · exact hquiet.2 g hold
    · exact d.writes_nil (.inl hdone) g hnew
  refine h.set d.old d.reqs d.ticket (fun _ => d.tickets)
    (fun _ x hx g hg => absurd ⟨x, hx, hg⟩ (hwriting g)) d.deleting (fun _ => ⟨?_, hwriting⟩)
    (fun hm => ?_) (fun hm => ?_) (fun hext => ?_)
  · rw [d.object]
    exact hquiet.1
  · rw [hnonexistent] at hm
    cases hm
  · rw [hnonexistent] at hm
    cases hm
  · exact absurd (d.wf.deletion.mp (d.kept.deletion.trans hd)).2.2 hext

/-- The handling of a reply of a read has no part in this. -/
theorem MapInv.deliver_read (h : MapInv img s) (hinv : Inv img init s)
    (hi : s.reqs[i]? = some r) (hj : r.flight[j]? = some f) (hop : r.op = .read) :
    MapInv img (s.callback img i j r f result data alloc) := by
  have htarget : f.sent.target ≠ .map none := by
    rcases ((hinv.known i r hi).read hop).sent_cases hj with hsent | hsent
    · rw [hsent]
      simp [Sent.target]
    · rw [hsent]
      simp [Sent.target]
  have hkept :=
    hinv.kept_callback hi j (s.callback img i j r f result data alloc).mem alloc result data
  have hread := hkept.op.trans hop
  exact h.same hi rfl (callback_mem htarget) rfl (Nat.le_add_right _ _)
    (fun hne => absurd hread hne) (fun hdel => absurd hread hdel.1) (fun g hg => absurd hread hg.1)
    (fun hne => absurd hread hne) (fun hne => absurd hread hne) (fun _ hne => absurd hread hne)

/-- The call for the reply of a request that changes the object. -/
theorem delivered (h : MapInv img s) (hinv : Inv img init s) (hi : s.reqs[i]? = some r)
    (hj : r.flight[j]? = some f) (hop : r.op ≠ .read)
    (hinv' : Inv img init (s.callback img i j r f result data alloc)) {mem : MapState}
    (hmem : (s.callback img i j r f result data alloc).mem = mem) {out : Req α × List (Sent α)}
    (hout : Req.advance img { r with flight := r.flight.eraseIdx j } mem alloc result data = out) :
    Delivered img s (s.callback img i j r f result data alloc) i r (launched s.ticket out) ∧
      (launched s.ticket out).flight = r.flight.eraseIdx j ++ stamp s.ticket out.2 := by
  subst hmem
  subst hout
  have hok := hinv.known i r hi
  have hwrite := hok.write hop
  have hkept :=
    hinv.kept_callback hi j (s.callback img i j r f result data alloc).mem alloc result data
  have hflight : (launched s.ticket (Req.advance img { r with flight := r.flight.eraseIdx j }
      (s.callback img i j r f result data alloc).mem alloc result data)).flight =
      r.flight.eraseIdx j ++
        stamp s.ticket (Req.advance img { r with flight := r.flight.eraseIdx j }
        (s.callback img i j r f result data alloc).mem alloc result data).2 := by
    have hcontrol : ({ r with flight := r.flight.eraseIdx j } : Req α).control ≠ .readObject :=
      hwrite.control_ne
    simp only [launched, flight_advance hcontrol]
  have hok' := hinv'.known i _ (List.getElem?_set_self (List.getElem?_eq_some_iff.mp hi).1)
  have hop' := hop
  rw [← hkept.op] at hop'
  refine ⟨⟨hi, hop, ?_, rfl, rfl, Nat.le_add_right _ _, ?_, hkept, hok'.wf, _, hok'.write hop'⟩,
    hflight⟩
  · intro e he
    simp only [Req.WriteOk, he] at hwrite
    rw [hwrite.1] at hj
    cases hj
  · intro g hg
    rw [hflight] at hg
    rcases List.mem_append.mp hg with hold | hnew
    · exact Nat.lt_of_lt_of_le
        (h.tickets r (List.mem_of_getElem? hi) hop g (List.mem_of_mem_eraseIdx hold))
        (Nat.le_add_right _ _)
    · exact (mem_stamp hnew).2.2.2

omit [DecidableEq α] in
/-- A copyup has the parent's data below it, and does not wait for the object's state in the map. -/
theorem copyup_target {head : Option (List α)} {applied : Prop} {state : CopyupState}
    (hok : r.WriteOk img head applied) (hctl : r.control = .copyup state) (hf : f ∈ r.flight) :
    r.copyupEnabled = true ∧ f.sent.target ≠ .map none := by
  have hsingle : ∀ {g : Flight α}, r.flight = [g] → g.sent.target ≠ .map none →
      f.sent.target ≠ .map none := by
    intro g hflight htarget
    rw [hflight] at hf
    rw [List.mem_singleton.mp hf]
    exact htarget
  simp only [Req.WriteOk, hctl] at hok
  cases state with
  | readParent =>
      obtain ⟨-, hcopy, t, rep, hflight, -⟩ := hok
      exact ⟨hcopy, hsingle hflight (by simp [Sent.target])⟩
  | objectMaps =>
      obtain ⟨snap, hsnap⟩ := hok.2.2.2.2.2 f hf
      refine ⟨hok.2.1, ?_⟩
      rw [hsnap]
      simp
  | writeObject =>
      refine ⟨hok.1, ?_⟩
      cases hok.2 with
      | single t rep bytes hflight => exact hsingle hflight (by simp [Sent.target])
      | mods t rep hflight => exact hsingle hflight (by simp [Sent.target])
      | copyup t rep bytes hflight => exact hsingle hflight (by simp [Sent.target])
      | both t t' rep rep' bytes hflight =>
          rw [hflight] at hf
          rcases List.mem_cons.mp hf with hf | hrest
          · rw [hf]
            simp [Sent.target]
          · rw [List.mem_singleton.mp hrest]
            simp [Sent.target]
  | modsOnly => exact hok.elim

/-- The handling of a reply keeps what holds of the object map. -/
theorem MapInv.deliver (h : MapInv img s) (hinv : Inv img init s) (hi : s.reqs[i]? = some r)
    (hj : r.flight[j]? = some f) (hreply : f.reply = some (result, data))
    (hsettled : f.sent = .mapUpdate none .objectPending none →
      ∀ q ∈ s.reqs, ∀ g, q.Writes g → q.submitted = true)
    (hinv' : Inv img init (s.callback img i j r f result data alloc)) :
    MapInv img (s.callback img i j r f result data alloc) := by
  by_cases hop : r.op = .read
  · exact h.deliver_read hinv hi hj hop
  have hok := hinv.known i r hi
  have hmemr := List.mem_of_getElem? hi
  have hmemf := List.mem_of_getElem? hj
  have hwrite := hok.write hop
  obtain ⟨mem, hmem⟩ : ∃ mem, (s.callback img i j r f result data alloc).mem = mem := ⟨_, rfl⟩
  obtain ⟨out, hout⟩ : ∃ out, Req.advance img { r with flight := r.flight.eraseIdx j } mem alloc
    result data = out := ⟨_, rfl⟩
  obtain ⟨hd, hflight'⟩ := delivered h hinv hi hj hop hinv' hmem hout
  obtain ⟨control, hctl⟩ : ∃ control, r.control = control := ⟨_, rfl⟩
  cases control with
  | readObject => exact absurd hctl hwrite.control_ne
  | readParent =>
      simp only [Req.WriteOk, hctl] at hwrite
  | done e => exact absurd hctl (hd.running e)
  | preObjectMap =>
      simp only [Req.WriteOk, hctl] at hwrite
      obtain ⟨-, t, rep, hflight⟩ := hwrite
      obtain ⟨hf, hnil⟩ := eraseIdx_of_single hflight hj
      have hsent : f.sent = .mapUpdate none r.preState none := by rw [hf]
      have hcases : (∃ e, out.1.control = .done e) ∨
          out.1.control = .writeObject ∧ result = 0 := by
        rw [← hout]
        simp only [Req.advance, hctl]
        exact control_mapped
      have hupdate := @callback_update _ _ img s i j r f _ result data alloc _ _ hsent
      by_cases hres : result = 0
      · rw [if_pos hres] at hupdate
        cases hdel : r.deletion with
        | false =>
            -- the object may exist from now on
            exact h.existing hd (by rw [hupdate, Req.preState, hdel]; rfl)
        | true =>
            refine h.marked hinv hd hctl hdel (by rw [hupdate, Req.preState, hdel]; rfl)
              (hsettled (by rw [hsent, Req.preState, hdel]; rfl)) (fun g hg => ?_) ?_
            · rw [hflight', hnil, List.nil_append] at hg
              exact ⟨(mem_stamp hg).2.2.1, (mem_stamp hg).2.1⟩
            · show out.1.control ≠ .postObjectMap
              rcases hcases with ⟨e, he⟩ | ⟨he, -⟩
              · rw [he]
                simp
              · rw [he]
                simp
      · rw [if_neg hres] at hupdate
        rcases hcases with hdone | ⟨-, hzero⟩
        · exact h.ended hd hupdate (.inl hdone)
        · exact absurd hzero hres
  | writeObject =>
      simp only [Req.WriteOk, hctl] at hwrite
      obtain ⟨t, rep, hflight, -⟩ := hwrite
      have htarget : f.sent.target ≠ .map none := by
        rw [(eraseIdx_of_single hflight hj).1]
        simp [Sent.target]
      by_cases hext : img.extents = []
      · have hnocopy : r.copyupEnabled = false := by
          by_contra hcopy
          exact (hok.wf.copyup.mp (by simpa using hcopy)).2.1 hext
        have hcases : (∃ e, out.1.control = .done e) ∨
            out.1.control = .postObjectMap ∧ (result = 0 ∨ result = enoent) ∧
              r.deletion = true := by
          rw [← hout]
          simp only [Req.advance, hctl, hnocopy]
          rw [if_neg (by simp)]
          split
          · rename_i habsent
            exact control_written.imp_right fun hpost => ⟨hpost.1, .inr habsent.1, hpost.2.1⟩
          · exact control_written.imp_right fun hpost => ⟨hpost.1, .inl hpost.2.2, hpost.2.1⟩
        refine h.ended hd (callback_mem htarget)
          (hcases.imp_right fun hpost => ⟨hpost.1, fun hm => ?_⟩)
        exact (h.waiting hm r hmemr hop hpost.2.2 hctl f hmemf).2 result data hreply hpost.2.1
      · exact h.parented hd (callback_mem htarget) hext (.inl hctl)
  | copyup state =>
      obtain ⟨hcopy, htarget⟩ := copyup_target hwrite hctl hmemf
      exact h.parented hd (callback_mem htarget) (hok.wf.copyup.mp hcopy).2.1 (.inr ⟨state, hctl⟩)
  | postObjectMap =>
      simp only [Req.WriteOk, hctl] at hwrite
      obtain ⟨-, hdel, t, rep, hflight⟩ := hwrite
      have hsent : f.sent = .mapUpdate none .objectNonexistent (some .objectPending) := by
        rw [(eraseIdx_of_single hflight hj).1]
      have hdone : ∃ e, out.1.control = .done e := by
        rw [← hout]
        simp only [Req.advance, hctl]
        exact ⟨result, rfl⟩
      have hupdate := @callback_update _ _ img s i j r f _ result data alloc _ _ hsent
      by_cases hcleared : result = 0 ∧ s.mem = .objectPending
      · exact h.unmapped hd hdel (h.cleared hcleared.2 r hmemr hop hctl) hdone
          (by rw [hupdate, if_pos hcleared.1, hcleared.2]; rfl)
      · -- the state has been changed by another request, or the update has failed
        have hsame : (s.callback img i j r f result data alloc).mem = s.mem := by
          rw [hupdate]
          by_cases hres : result = 0
          · rw [if_pos hres]
            cases hm : s.mem with
            | objectPending => exact absurd ⟨hres, hm⟩ hcleared
            | objectNonexistent => rfl
            | objectExists => rfl
            | objectExistsClean => rfl
          · rw [if_neg hres]
        exact h.ended hd hsame (.inl hdone)

end Deliver

end Steps

/-! ## Runs -/

/-- What is asked of every step of a run with the object map. -/
def Sys.Orderly (img : Image α) (s : Sys α) (e : Event α) : Prop :=
  s.CopyupsRun e ∧ s.OneDeletion img e ∧ s.Settled e

section Runs

variable [DecidableEq α] {img : Image α} {init : Nat → α} {s s' : Sys α} {e : Event α}

omit [Zero α] [DecidableEq α] in
/-- The invariant of the object map says that the map is right. -/
theorem MapInv.right (h : MapInv img s) : s.MapRight img := fun _ hm => (h.absent hm).1

/-- Every step keeps what holds of the object and of the object map. -/
theorem MapInv.step (h : MapInv img s) (hinv : Inv img init s) (hmap : img.objectMap = true)
    (hguard : s.Orderly img e) (hstep : s.step img e = some s') :
    MapInv img s' ∧ Inv img init s' := by
  have hinv' := hinv.step h.right hguard.1 hstep
  refine ⟨?_, hinv'⟩
  cases e with
  | start op off len snaps seq alloc =>
      simp only [Sys.step] at hstep
      split at hstep
      · rename_i hvalid
        obtain ⟨r, hr, rfl⟩ := Option.map_eq_some_iff.mp hstep
        exact h.start hmap (started_initial hvalid hr) alloc hinv' (hguard.2.1 r hr)
      · cases hstep
  | submit i =>
      simp only [Sys.step, Option.bind_eq_bind, Option.bind_eq_some_iff] at hstep
      obtain ⟨r, hi, hrest⟩ := hstep
      split at hrest
      · cases hrest
      · rename_i hwaits
        cases hrest
        exact h.post hi hwaits
  | exec i j fault =>
      simp only [Sys.step, Option.bind_eq_bind, Option.bind_eq_some_iff] at hstep
      obtain ⟨r, hi, f, hj, hrest⟩ := hstep
      split at hrest
      · rename_i hready
        cases hrest
        obtain ⟨-, hnone, hfirst⟩ := hready
        exact h.exec hinv hi hj (Option.isNone_iff_eq_none.mp hnone) hfirst fault
      · cases hrest
  | deliver i j alloc =>
      simp only [Sys.step, Option.bind_eq_bind, Option.bind_eq_some_iff] at hstep
      obtain ⟨r, hi, f, hj, reply, hreply, hrest⟩ := hstep
      split at hrest
      · cases hrest
        exact h.deliver hinv hi hj hreply (hguard.2.2 r f hi hj) hinv'
      · cases hrest

omit [Zero α] [DecidableEq α] in
/-- What holds before the first request, when the map is right. -/
theorem mapInv_idle (img : Image α) {head : Option (List α)} (clone : Nat → Option (List α))
    (seq : Nat) {map : MapState} (h : map = .objectNonexistent → head = none) :
    MapInv img (Sys.idle head clone seq map) :=
  ⟨fun r hr => (by cases hr), fun _ r hr => (by cases hr),
    fun hm => ⟨h hm, fun g hg => (by obtain ⟨r, hr, -⟩ := hg; cases hr)⟩,
    fun i k r q hi => (by cases hi), fun _ r hr => (by cases hr), fun _ r hr => (by cases hr),
    fun _ r hr => (by cases hr)⟩

/-- The conditions of the histories hold along such a run. -/
theorem careful_of_orderly (hmap : img.objectMap = true) {es : List (Event α)} (h : MapInv img s)
    (hinv : Inv img init s) (hguard : Along (Sys.step img) (Sys.Orderly img) s es) :
    Along (Sys.step img) (Sys.Careful img) s es := by
  induction es generalizing s with
  | nil => trivial
  | cons e es ih =>
      refine ⟨⟨h.right, hguard.1.1⟩, fun next hnext => ?_⟩
      obtain ⟨h', hinv'⟩ := h.step hinv hmap hguard.1 hnext
      exact ih h' hinv' (hguard.2 next hnext)

/-- With an object map that is right at first, as long as no deletion is started while another one
is going on, and none marks the object while a write that has found it in the map is still to be
submitted: an object that the map in memory calls nonexistent does not exist, and nothing is on its
way that could create it. So the conditions of `run_content`, `run_read` and `run_snap` hold at
every step. -/
theorem run_mapRight (img : Image α) (head : Option (List α)) (clone : Nat → Option (List α))
    (seq : Nat) (map : MapState) (es : List (Event α)) (s : Sys α) (hmap : img.objectMap = true)
    (hright : map = .objectNonexistent → head = none)
    (hguard : Along (Sys.step img) (Sys.Orderly img) (Sys.idle head clone seq map) es)
    (hrun : run (Sys.step img) (Sys.idle head clone seq map) es = some s) :
    (s.mem = .objectNonexistent → s.Quiet) ∧
      Along (Sys.step img) (Sys.Careful img) (Sys.idle head clone seq map) es := by
  have hidle := mapInv_idle img clone seq hright
  have hinit := inv_idle img head clone seq map
  have hinv : MapInv img s ∧ Inv img (img.view head) s :=
    run_invariant (fun _ _ _ hinv hg hstep => MapInv.step hinv.1 hinv.2 hmap hg hstep)
      ⟨hidle, hinit⟩ hguard hrun
  exact ⟨hinv.1.absent, careful_of_orderly hmap hidle hinit hguard⟩

end Runs

/-! ## A run -/

/-- The operation is a read. -/
def OpType.isRead : OpType α → Bool
  | .read => true
  | _ => false

omit [Zero α] in
theorem isRead_iff {op : OpType α} : op.isRead = true ↔ op = .read := by
  cases op with
  | read => exact ⟨fun _ => rfl, fun _ => rfl⟩
  | _ => exact ⟨fun h => (by cases h), fun h => (by cases h)⟩

instance (op : OpType α) : Decidable (op = .read) := decidable_of_iff _ isRead_iff

/-- The state machine has ended. -/
def Control.ended : Control → Bool
  | .done _ => true
  | _ => false

theorem ended_eq_false_iff {control : Control} :
    control.ended = false ↔ ∀ res, control ≠ .done res := by
  cases control with
  | done res => exact ⟨fun h => (by cases h), fun h => absurd rfl (h res)⟩
  | _ => exact ⟨fun _ _ h => (by cases h), fun _ => rfl⟩

instance (control : Control) : Decidable (∀ res, control ≠ .done res) :=
  decidable_of_iff _ ended_eq_false_iff

instance (r : Req α) : Decidable r.Deleting := inferInstanceAs (Decidable (_ ∧ _ ∧ _))

instance (img : Image α) (s : Sys α) (e : Event α) : Decidable (s.OneDeletion img e) :=
  match e with
  | .start op off len snaps seq _ =>
      decidable_of_iff (∀ r ∈ s.initial img op off len snaps seq, r.deletion = true →
        ∀ q ∈ s.reqs, ¬q.Deleting) Iff.rfl
  | .submit _ => .isTrue trivial
  | .exec _ _ _ => .isTrue trivial
  | .deliver _ _ _ => .isTrue trivial

/-- The OSD request marks the object in the map. -/
def Sent.isMark : Sent α → Bool
  | .mapUpdate none .objectPending none => true
  | _ => false

omit [Zero α] in
theorem isMark_iff {sent : Sent α} :
    sent.isMark = true ↔ sent = .mapUpdate none .objectPending none := by
  constructor
  · intro h
    unfold Sent.isMark at h
    split at h
    · rfl
    · cases h
  · rintro rfl
    rfl

instance (r : Req α) : Decidable (∀ f, r.Writes f → r.submitted = true) :=
  decidable_of_iff (∀ f ∈ r.flight, r.op ≠ .read ∧ r.deletion = false ∧ f.reply = none ∧
      f.sent.target = .object → r.submitted = true) <| by
    constructor
    · rintro h f ⟨hop, hdel, hf, hreply, htarget⟩
      exact h f hf ⟨hop, hdel, hreply, htarget⟩
    · rintro h f hf ⟨hop, hdel, hreply, htarget⟩
      exact h f ⟨hop, hdel, hf, hreply, htarget⟩

omit [Zero α] in
theorem settled_deliver_iff {s : Sys α} {i j : Nat} {alloc : Nat → Option Errno} :
    s.Settled (.deliver i j alloc) ↔
      (((s.reqs[i]?.bind fun r => r.flight[j]?).any fun f => f.sent.isMark) = true →
        ∀ q ∈ s.reqs, ∀ g, q.Writes g → q.submitted = true) := by
  simp only [Sys.Settled, Option.any_eq_true, Option.bind_eq_some_iff, isMark_iff]
  constructor
  · rintro h ⟨f, ⟨r, hi, hj⟩, hsent⟩
    exact h r f hi hj hsent
  · intro h r f hi hj hsent
    exact h ⟨f, ⟨r, hi, hj⟩, hsent⟩

instance (s : Sys α) (e : Event α) : Decidable (s.Settled e) :=
  match e with
  | .start _ _ _ _ _ _ => .isTrue trivial
  | .submit _ => .isTrue trivial
  | .exec _ _ _ => .isTrue trivial
  | .deliver _ _ _ => decidable_of_iff _ settled_deliver_iff.symm

instance (img : Image α) (s : Sys α) (e : Event α) : Decidable (s.Orderly img e) :=
  inferInstanceAs (Decidable (_ ∧ _ ∧ _))

/-- The image with its object map. -/
def mappedImage : Image Nat := { exampleImage with objectMap := true }

/-- The object is written, discarded, written while it is discarded, and discarded again. -/
def deletionRun : List (Event Nat) :=
  let ok : Nat → Option Errno := fun _ => none
  -- the write finds the object in the map, and is in flight when the discard marks it
  [.start (.write [1, 2]) 4 2 [] 0 ok, .start .discard 0 32 [] 0 ok, .submit 1, .submit 0,
    .exec 1 0 none, .deliver 1 0 ok, .submit 1, .exec 0 0 none, .exec 1 0 none,
    -- the second write finds the mark, and updates the map before the discard would clear it
    .start (.write [3]) 0 1 [] 0 ok, .deliver 1 0 ok, .submit 2, .submit 1, .deliver 0 0 ok,
    .exec 2 0 none, .exec 1 0 none, .deliver 2 0 ok, .deliver 1 0 ok, .submit 2, .exec 2 0 none,
    .deliver 2 0 ok,
    -- the second discard is alone
    .start .discard 0 32 [] 0 ok, .submit 3, .exec 3 0 none, .deliver 3 0 ok, .submit 3,
    .exec 3 0 none, .deliver 3 0 ok, .submit 3, .exec 3 0 none, .deliver 3 0 ok]

theorem run_mapRight_deletion :
    mappedImage.objectMap = true ∧
      ∃ s, run (Sys.step mappedImage) (Sys.idle (some [1, 2]) (fun _ => none) 0 .objectExists)
          deletionRun = some s ∧
        (s.reqs.map Req.control = [.done 0, .done 0, .done 0, .done 0] ∧
          s.mem = .objectNonexistent ∧ s.map = .objectNonexistent) ∧
        (s.mem = .objectNonexistent → s.Quiet) ∧
        Along (Sys.step mappedImage) (Sys.Careful mappedImage)
          (Sys.idle (some [1, 2]) (fun _ => none) 0 .objectExists) deletionRun := by
  have hchecked : (checked (Sys.step mappedImage) (Sys.Orderly mappedImage)
      (Sys.idle (some [1, 2]) (fun _ => none) 0 .objectExists) deletionRun).any (fun s =>
        decide (s.reqs.map Req.control = [.done 0, .done 0, .done 0, .done 0] ∧
          s.mem = .objectNonexistent ∧ s.map = .objectNonexistent)) = true := by
    decide +kernel
  obtain ⟨s, hrun, hguard, hend⟩ := exists_of_checked hchecked
  exact ⟨rfl, s, hrun, of_decide_eq_true hend,
    run_mapRight mappedImage (some [1, 2]) (fun _ => none) 0
    .objectExists deletionRun s rfl (fun h => by cases h) hguard hrun⟩

/-- A write that has found the object in the map is submitted after the whole discard: the object
exists, and the map says that it does not. -/
example : (run (Sys.step mappedImage) (Sys.idle (some [1, 2]) (fun _ => none) 0 .objectExists)
    [.start (.write [1, 2]) 4 2 [] 0 fun _ => none, .start .discard 0 32 [] 0 fun _ => none,
      .submit 1, .exec 1 0 none, .deliver 1 0 fun _ => none, .submit 1, .exec 1 0 none,
      .deliver 1 0 fun _ => none, .submit 1, .exec 1 0 none, .deliver 1 0 fun _ => none, .submit 0,
      .exec 0 0 none]).any (fun s => decide (s.mem = .objectNonexistent) && s.object.head.isSome) =
    true := by
  decide +kernel

end XcpCephRbd.Rbd
