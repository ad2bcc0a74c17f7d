import XcpCephRbd.Libceph.Striper

/-!
# The object requests of an image request

`rbd_img_fill_request` maps the image extents of a request to object requests and gives each of them
its part of the data buffer. A layout whose stripe unit is not its object takes two passes: the
first one counts the bio_vecs of each object request, the second one copies them into an array of
that size. `fillRequest_data` says that every array is filled exactly, and that each byte of the
image goes with its byte of the buffer; `nocopy_eq` that the path without copies gives the same
bytes when no image extent starts where the one before it ends.
-/

namespace XcpCephRbd.Rbd

open Striper

variable {α : Type}

/-- A data buffer, from the position of its iterator on: bio_vecs, each with its bytes. -/
abbrev Buffer (α : Type) := List (List α)

/-- `ceph_bio_iter_advance_step` and `ceph_bvec_iter_advance_step`: the bio_vecs of the next bytes
and the rest of the buffer. Nothing is returned where a `BUG_ON` fires. -/
def advanceStep : Nat → Buffer α → Option (Buffer α × Buffer α)
  | 0, it => some ([], it)
  | _ + 1, [] => none
  | n + 1, bv :: it =>
      if n + 1 < bv.length then some ([bv.take (n + 1)], bv.drop (n + 1) :: it)
      else do
        let rest ← advanceStep (n + 1 - bv.length) it
        return (bv :: rest.1, rest.2)

/-- The bytes of a step and the bytes that are left. -/
theorem advanceStep_eq {n : Nat} {it : Buffer α} (h : n ≤ it.flatten.length) :
    ∃ bvs rest, advanceStep n it = some (bvs, rest) ∧ bvs.flatten = it.flatten.take n ∧
      rest.flatten = it.flatten.drop n := by
  induction it generalizing n with
  | nil =>
      obtain rfl : n = 0 := by simpa using h
      exact ⟨[], [], rfl, rfl, rfl⟩
  | cons bv it ih =>
      cases n with
      | zero => exact ⟨[], bv :: it, rfl, by simp, by simp⟩
      | succ n =>
          by_cases hlt : n + 1 < bv.length
          · refine ⟨[bv.take (n + 1)], bv.drop (n + 1) :: it, ?_, ?_, ?_⟩
            · rw [advanceStep, if_pos hlt]
            · simp [List.take_append_of_le_length (Nat.le_of_lt hlt)]
            · simp [List.drop_append_of_le_length (Nat.le_of_lt hlt)]
          · have hle : n + 1 - bv.length ≤ it.flatten.length := by
              rw [List.flatten_cons, List.length_append] at h
              omega
            obtain ⟨bvs, rest, heq, hbvs, hrest⟩ := ih hle
            refine ⟨bv :: bvs, rest, ?_, ?_, ?_⟩
            · rw [advanceStep, if_neg hlt, heq]
              rfl
            · rw [List.flatten_cons, List.flatten_cons, hbvs, List.take_append,
                List.take_of_length_le (show bv.length ≤ n + 1 by omega)]
            · rw [List.flatten_cons, List.drop_append, List.drop_of_length_le (by omega), hrest]
              rfl

/-- An object request with what the fill functions set in it. -/
structure ObjRequest (α : Type) where
  ex : ObjectExtent
  bvecCount : Nat := 0
  bvecs : Buffer α := []
  pos : Buffer α := []

/-- The action is called with this object extent. -/
def Names (a : Action) (ex : ObjectExtent) : Prop := ex.objno = a.objno ∧ ex.off = a.off

instance (a : Action) (ex : ObjectExtent) : Decidable (Names a ex) :=
  inferInstanceAs (Decidable (_ ∧ _))

/-- A pass over the buffer: each action takes its bytes from it. -/
def pass (fn : Action → Buffer α → Buffer α → List (ObjRequest α) → Option (List (ObjRequest α))) :
    List Action → Buffer α → List (ObjRequest α) → Option (List (ObjRequest α))
  | [], _, reqs => some reqs
  | a :: acts, it, reqs => do
      let next ← advanceStep a.bytes it
      let reqs ← fn a it next.1 reqs
      pass fn acts next.2 reqs

/-- `count_bio_bvecs` and `count_bvecs`. -/
def countBvecs (a : Action) (_ : Buffer α) (bvs : Buffer α) (reqs : List (ObjRequest α)) :
    Option (List (ObjRequest α)) :=
  some (reqs.map fun r =>
    if Names a r.ex then { r with bvecCount := r.bvecCount + bvs.length } else r)

/-- `copy_bio_bvecs` and `copy_bvecs`; nothing is returned where they write beyond the array that
`rbd_img_fill_request` has allocated. -/
def copyBvecs (a : Action) (_ : Buffer α) (bvs : Buffer α) (reqs : List (ObjRequest α)) :
    Option (List (ObjRequest α)) :=
  if ∀ r ∈ reqs, Names a r.ex → r.bvecs.length + bvs.length ≤ r.bvecCount then
    some (reqs.map fun r => if Names a r.ex then { r with bvecs := r.bvecs ++ bvs } else r)
  else none

/-- `set_bio_pos` and `set_bvec_pos`. -/
def setPos (a : Action) (it : Buffer α) (_ : Buffer α) (reqs : List (ObjRequest α)) :
    Option (List (ObjRequest α)) :=
  some (reqs.map fun r => if Names a r.ex then { r with pos := it } else r)

/-- The path with copies of `rbd_img_fill_request`. -/
def fillRequest (l : Layout) (fes : List FileExtent) (data : Buffer α) :
    Option (List (ObjRequest α)) := do
  let mapped ← mapExtents l fes []
  let counted ← pass countBvecs mapped.1 data (mapped.2.reverse.map fun ex => { ex := ex })
  let acts ← iteratePass l mapped.2.reverse fes
  pass copyBvecs acts data counted

/-- `rbd_img_fill_request_nocopy`. -/
def fillRequestNocopy (l : Layout) (fes : List FileExtent) (data : Buffer α) :
    Option (List (ObjRequest α)) := do
  let mapped ← mapExtents l fes []
  pass setPos mapped.1 data (mapped.2.reverse.map fun ex => { ex := ex })

/-- `rbd_layout_is_fancy`. -/
def layoutIsFancy (l : Layout) : Bool := decide (l.stripeUnit ≠ l.objectSize)

/-! ## What the passes collect -/

/-- The buffer in pieces: the bio_vecs of each action. -/
def pieces : List Action → Buffer α → Option (List (Action × Buffer α))
  | [], _ => some []
  | a :: acts, it => do
      let next ← advanceStep a.bytes it
      let rest ← pieces acts next.2
      return (a, next.1) :: rest

/-- The bio_vecs of the actions that are called with an extent. -/
def collected (ps : List (Action × Buffer α)) (ex : ObjectExtent) : Buffer α :=
  ps.flatMap fun p => if Names p.1 ex then p.2 else []

theorem collected_cons (a : Action) (bvs : Buffer α) (ps : List (Action × Buffer α))
    (ex : ObjectExtent) :
    collected ((a, bvs) :: ps) ex = (if Names a ex then bvs else []) ++ collected ps ex :=
  List.flatMap_cons

/-- A buffer that is long enough is cut into pieces. -/
theorem exists_pieces (acts : List Action) {it : Buffer α}
    (h : (acts.map Action.bytes).sum ≤ it.flatten.length) :
    ∃ ps, pieces acts it = some ps ∧ ps.map Prod.fst = acts ∧
      (∀ p ∈ ps, p.2.flatten.length = p.1.bytes) ∧
      ps.flatMap (fun p => p.2.flatten) = it.flatten.take (acts.map Action.bytes).sum := by
  induction acts generalizing it with
  | nil => exact ⟨[], rfl, rfl, by simp, by simp⟩
  | cons a acts ih =>
      rw [List.map_cons, List.sum_cons] at h ⊢
      obtain ⟨bvs, rest, hstep, hbvs, hrest⟩ :=
        advanceStep_eq (show a.bytes ≤ it.flatten.length by omega)
      have hshort : (acts.map Action.bytes).sum ≤ rest.flatten.length := by
        rw [hrest, List.length_drop]
        omega
      obtain ⟨ps, hps, hacts, hlen, hflat⟩ := ih hshort
      refine ⟨(a, bvs) :: ps, ?_, by rw [List.map_cons, hacts], ?_, ?_⟩
      · rw [pieces, hstep, Option.bind_eq_bind, Option.bind_some, hps]
        rfl
      · intro p hp
        rcases List.mem_cons.mp hp with rfl | hmem
        · show bvs.flatten.length = a.bytes
          rw [hbvs, List.length_take]
          omega
        · exact hlen p hmem
      · rw [List.flatMap_cons, hflat, hbvs, hrest, List.take_add]

/-- The pieces one after the other. -/
theorem of_pieces_cons {a : Action} {acts : List Action} {it : Buffer α}
    {ps : List (Action × Buffer α)} (h : pieces (a :: acts) it = some ps) :
    ∃ next rest, advanceStep a.bytes it = some next ∧ pieces acts next.2 = some rest ∧
      ps = (a, next.1) :: rest := by
  rw [pieces, Option.bind_eq_bind, Option.bind_eq_some_iff] at h
  obtain ⟨next, hnext, h⟩ := h
  rw [Option.bind_eq_bind, Option.bind_eq_some_iff] at h
  obtain ⟨rest, hrest, h⟩ := h
  cases h
  exact ⟨next, rest, hnext, hrest, rfl⟩

/-- The counting pass counts what is collected. -/
theorem pass_countBvecs {acts : List Action} {it : Buffer α} {ps : List (Action × Buffer α)}
    (h : pieces acts it = some ps) (reqs : List (ObjRequest α)) :
    pass countBvecs acts it reqs = some (reqs.map fun r =>
      { r with bvecCount := r.bvecCount + (collected ps r.ex).length }) := by
  induction acts generalizing it ps reqs with
  | nil =>
      cases h
      simp [pass, collected]
  | cons a acts ih =>
      obtain ⟨next, rest, hnext, hrest, rfl⟩ := of_pieces_cons h
      rw [pass, hnext, Option.bind_eq_bind, Option.bind_some, countBvecs, Option.bind_eq_bind,
        Option.bind_some, ih hrest, List.map_map]
      congr 1
      apply List.map_congr_left
      intro r _
      by_cases hname : Names a r.ex
      · simp [hname, collected_cons, Nat.add_assoc]
      · simp [hname, collected_cons]

/-- The copying pass copies what is collected, into arrays that have room for it. -/
theorem pass_copyBvecs {acts : List Action} {it : Buffer α} {ps : List (Action × Buffer α)}
    (h : pieces acts it = some ps) {reqs : List (ObjRequest α)}
    (hroom : ∀ r ∈ reqs, r.bvecs.length + (collected ps r.ex).length ≤ r.bvecCount) :
    pass copyBvecs acts it reqs = some (reqs.map fun r =>
      { r with bvecs := r.bvecs ++ collected ps r.ex }) := by
  induction acts generalizing it ps reqs with
  | nil =>
      cases h
      simp [pass, collected]
  | cons a acts ih =>
      obtain ⟨next, rest, hnext, hrest, rfl⟩ := of_pieces_cons h
      have hfits : ∀ r ∈ reqs, Names a r.ex → r.bvecs.length + next.1.length ≤ r.bvecCount := by
        intro r hr hname
        have hle := hroom r hr
        rw [collected_cons, if_pos hname, List.length_append] at hle
        omega
      rw [pass, hnext, Option.bind_eq_bind, Option.bind_some, copyBvecs, if_pos hfits,
        Option.bind_eq_bind, Option.bind_some, ih hrest, List.map_map]
      · congr 1
        apply List.map_congr_left
        intro r _
        by_cases hname : Names a r.ex
        · simp [hname, collected_cons]
        · simp [hname, collected_cons]
      · intro r' hr'
        obtain ⟨r, hr, rfl⟩ := List.mem_map.mp hr'
        have hle := hroom r hr
        rw [collected_cons, List.length_append] at hle
        split at hle
        · rename_i hname
          rw [if_pos hname]
          show (r.bvecs ++ next.1).length + (collected rest r.ex).length ≤ r.bvecCount
          rw [List.length_append]
          omega
        · rename_i hname
          rw [if_neg hname]
          simpa using hle

/-- Both passes together: each object request gets what is collected for its extent, in an array of
exactly that size. -/
theorem fillRequest_eq {l : Layout} {fes : List FileExtent} {data : Buffer α} {acts : List Action}
    {rev : List ObjectExtent} {ps : List (Action × Buffer α)}
    (hmap : mapExtents l fes [] = some (acts, rev))
    (hsecond : iteratePass l rev.reverse fes = some acts) (hps : pieces acts data = some ps) :
    fillRequest l fes data = some (rev.reverse.map fun ex =>
      { ex := ex, bvecCount := (collected ps ex).length, bvecs := collected ps ex }) := by
  rw [fillRequest, hmap, Option.bind_eq_bind, Option.bind_some, pass_countBvecs hps,
    Option.bind_eq_bind, Option.bind_some, hsecond, Option.bind_eq_bind, Option.bind_some,
    pass_copyBvecs hps, List.map_map, List.map_map]
  · simp [Function.comp_def]
  · intro r hr
    obtain ⟨r', hr', rfl⟩ := List.mem_map.mp hr
    obtain ⟨ex, -, rfl⟩ := List.mem_map.mp hr'
    show 0 + (collected ps ex).length ≤ 0 + (collected ps ex).length
    exact Nat.le_refl _

/-! ## The data of an extent -/

/-- The bytes of an extent in the image, each with its data. -/
def withData (l : Layout) (ex : ObjectExtent) (data : List α) : List (Nat × α) :=
  (ex.bytes.map fun b => l.fileByte b.1 b.2).zip data

/-- An extent that has grown has its old bytes with their data and the new ones with theirs. -/
theorem withData_grow (l : Layout) (ex : ObjectExtent) (n : Nat) {data : List α} (more : List α)
    (h : data.length = ex.len) :
    withData l { ex with len := ex.len + n } (data ++ more) =
      withData l ex data ++ withData l ⟨ex.objno, ex.off + ex.len, n⟩ more := by
  rw [withData, ObjectExtent.bytes_grow, List.map_append]
  exact List.zip_append (by simp [ObjectExtent.bytes, h])

/-- What the units so far have collected, by object number and offset of the extent. -/
structure Filled (l : Layout) (got : Nat → Nat → List α) (rev : List ObjectExtent)
    (pairs : List (Nat × α)) : Prop where
  length_eq : ∀ ex ∈ rev, (got ex.objno ex.off).length = ex.len
  fresh : ∀ objno off, (∀ ex ∈ rev, ¬(ex.objno = objno ∧ ex.off = off)) → got objno off = []
  perm : (rev.flatMap fun ex => withData l ex (got ex.objno ex.off)).Perm pairs

/-- The data of an action goes to its extent. -/
def give (got : Nat → Nat → List α) (a : Action) (piece : List α) (objno off : Nat) : List α :=
  got objno off ++ if objno = a.objno ∧ off = a.off then piece else []

theorem give_other {got : Nat → Nat → List α} {a : Action} {piece : List α} {objno off : Nat}
    (h : ¬(objno = a.objno ∧ off = a.off)) : give got a piece objno off = got objno off := by
  rw [give, if_neg h, List.append_nil]

theorem give_self {got : Nat → Nat → List α} {a : Action} {piece : List α} {objno off : Nat}
    (h : objno = a.objno ∧ off = a.off) : give got a piece objno off = got objno off ++ piece := by
  rw [give, if_pos h]

/-- The extents of a sorted list are told apart by their objects and offsets. -/
theorem follows_ne {a b : ObjectExtent} (h : Follows a b) (hpos : 0 < b.len) :
    ¬(a.objno = b.objno ∧ a.off = b.off) := by
  simp only [Follows] at h
  omega

/-- The other extents keep their data. -/
theorem flatMap_give {l : Layout} {got : Nat → Nat → List α} {a : Action} {piece : List α}
    {exts : List ObjectExtent} (h : ∀ ex ∈ exts, ¬(ex.objno = a.objno ∧ ex.off = a.off)) :
    (exts.flatMap fun ex => withData l ex (give got a piece ex.objno ex.off)) =
      exts.flatMap fun ex => withData l ex (got ex.objno ex.off) := by
  apply List.flatMap_congr
  intro ex hex
  rw [give_other (h ex hex)]

section Unit

variable {l : Layout} {bound off : Nat} {u old : ObjectExtent} {rev pre post : List ObjectExtent}
  {got : Nat → Nat → List α} {pairs : List (Nat × α)} {piece : List α}

/-- A unit that grows an extent gives its data to this one. -/
theorem Filled.grow (h : Filled l got (pre ++ old :: post) pairs)
    (hsorted : (pre ++ old :: post).Pairwise Follows)
    (hpos : ∀ ex ∈ pre ++ old :: post, 0 < ex.len) (hobj : old.objno = u.objno)
    (hend : old.off + old.len = u.off) (hpiece : piece.length = u.len) :
    Filled l (give got ⟨u.objno, old.off, u.len⟩ piece)
      (pre ++ { old with len := old.len + u.len } :: post) (pairs ++ withData l u piece) := by
  obtain ⟨-, hold, hpre⟩ := List.pairwise_append.mp hsorted
  have hbefore : ∀ ex ∈ pre, ¬(ex.objno = u.objno ∧ ex.off = old.off) := by
    intro ex hex
    rw [← hobj]
    exact follows_ne (hpre ex hex old List.mem_cons_self) (hpos old (by simp))
  have hafter : ∀ ex ∈ post, ¬(ex.objno = u.objno ∧ ex.off = old.off) := by
    intro ex hex hsame
    rw [← hobj] at hsame
    exact follows_ne ((List.pairwise_cons.mp hold).1 ex hex) (hpos ex (by simp [hex]))
      ⟨hsame.1.symm, hsame.2.symm⟩
  have hself : give got ⟨u.objno, old.off, u.len⟩ piece old.objno old.off =
      got old.objno old.off ++ piece := give_self ⟨hobj, rfl⟩
  have hlen := h.length_eq old (by simp)
  refine ⟨?_, ?_, ?_⟩
  · intro ex hex
    rw [List.mem_append, List.mem_cons] at hex
    rcases hex with hex | rfl | hex
    · rw [give_other (hbefore ex hex)]
      exact h.length_eq ex (by simp [hex])
    · show (give got _ piece old.objno old.off).length = old.len + u.len
      rw [hself, List.length_append, hlen, hpiece]
    · rw [give_other (hafter ex hex)]
      exact h.length_eq ex (by simp [hex])
  · intro objno off' hnone
    have hgrown := hnone { old with len := old.len + u.len } (by simp)
    have hother : ¬(objno = u.objno ∧ off' = old.off) := by
      rw [← hobj]
      exact fun hsame => hgrown ⟨hsame.1.symm, hsame.2.symm⟩
    rw [give_other hother]
    apply h.fresh
    intro ex hex
    rw [List.mem_append, List.mem_cons] at hex
    rcases hex with hex | rfl | hex
    · exact hnone ex (by simp [hex])
    · exact hgrown
    · exact hnone ex (by simp [hex])
  · have hu : u = ⟨old.objno, old.off + old.len, u.len⟩ := by rw [hobj, hend]
    have hperm := h.perm
    rw [List.flatMap_append, List.flatMap_cons] at hperm
    rw [List.flatMap_append, List.flatMap_cons, hself, flatMap_give hbefore, flatMap_give hafter,
      withData_grow l old u.len piece hlen, ← hu]
    refine List.Perm.trans ?_ (hperm.append_right _)
    simp only [List.append_assoc]
    exact ((List.perm_append_comm).append_left _).append_left _

/-- A unit that is a new extent has its data to itself. -/
theorem Filled.start (h : Filled l got (pre ++ post) pairs)
    (hnone : ∀ ex ∈ pre ++ post, ¬(ex.objno = u.objno ∧ ex.off = u.off))
    (hpiece : piece.length = u.len) :
    Filled l (give got ⟨u.objno, u.off, u.len⟩ piece) (pre ++ u :: post)
      (pairs ++ withData l u piece) := by
  have hself : give got ⟨u.objno, u.off, u.len⟩ piece u.objno u.off = piece := by
    rw [give_self ⟨rfl, rfl⟩, h.fresh u.objno u.off hnone, List.nil_append]
  refine ⟨?_, ?_, ?_⟩
  · intro ex hex
    rw [List.mem_append, List.mem_cons, or_left_comm, ← List.mem_append] at hex
    rcases hex with rfl | hex
    · rw [hself, hpiece]
    · rw [give_other (hnone ex hex)]
      exact h.length_eq ex hex
  · intro objno off' hfree
    have hother : ¬(objno = u.objno ∧ off' = u.off) :=
      fun hsame => hfree u (by simp) ⟨hsame.1.symm, hsame.2.symm⟩
    rw [give_other hother]
    apply h.fresh
    intro ex hex
    rw [List.mem_append] at hex
    apply hfree ex
    rcases hex with hex | hex <;> simp [hex]
  · have hperm := h.perm
    rw [List.flatMap_append] at hperm
    rw [List.flatMap_append, List.flatMap_cons, hself,
      flatMap_give fun ex hex => hnone ex (by simp [hex]),
      flatMap_give fun ex hex => hnone ex (by simp [hex])]
    refine List.Perm.trans ?_ (hperm.append_right _)
    rw [List.append_assoc]
    exact (List.perm_append_comm).append_left _

/-- One unit of the passes. -/
theorem Filled.addUnit (h : Filled l got rev pairs) (hplaced : Placed l bound rev)
    (hu : Starts l off u) (hle : bound ≤ off) (hpiece : piece.length = u.len) :
    Filled l (give got (unitAction u rev) piece) (addUnit u rev)
      (pairs ++ withData l u piece) := by
  rcases addUnit_cases u rev with ⟨pre, old, post, rfl, hobj, hend, hadd, hact⟩ |
    ⟨pre, post, rfl, hadd, hact⟩
  · rw [hadd, hact]
    exact h.grow hplaced.sorted hplaced.len_pos hobj hend hpiece
  · rw [hadd, hact]
    refine h.start ?_ hpiece
    intro ex hex hsame
    have hend := hplaced.end_le hu hle hex hsame.1
    have hpos := hplaced.len_pos ex hex
    omega

/-- The data of all units of the passes. -/
theorem Filled.addUnits {us : List ObjectExtent} {final : Nat} {ps : List (Action × Buffer α)}
    (h : Filled l got rev pairs) (hplaced : Placed l bound rev) (hus : Chained l bound us final)
    (hps : ps.map Prod.fst = (addUnits us rev).1)
    (hlen : ∀ p ∈ ps, p.2.flatten.length = p.1.bytes) :
    ∃ got', Filled l got' (addUnits us rev).2
        (pairs ++ ((us.flatMap ObjectExtent.bytes).map fun b => l.fileByte b.1 b.2).zip
          (ps.flatMap fun p => p.2.flatten)) ∧
      ∀ ex : ObjectExtent, got' ex.objno ex.off =
        got ex.objno ex.off ++ (collected ps ex).flatten := by
  induction us generalizing bound rev got pairs ps with
  | nil =>
      cases ps with
      | nil =>
          refine ⟨got, by simpa [Striper.addUnits] using h, ?_⟩
          intro ex
          simp [collected]
      | cons p ps => cases hps
  | cons u us ih =>
      obtain ⟨off, hle, hu, hrest⟩ := hus
      cases ps with
      | nil => cases hps
      | cons p ps =>
          obtain ⟨a, bvs⟩ := p
          obtain ⟨rfl, hrestps⟩ := List.cons.inj hps
          have hpiece : bvs.flatten.length = u.len := by
            have hbytes := hlen _ List.mem_cons_self
            exact hbytes.trans (unitAction_eq u rev).2
          obtain ⟨got', hfilled, hgot⟩ := ih (h.addUnit hplaced hu hle hpiece)
            (hplaced.addUnit hu hle) hrest hrestps fun p hp => hlen p (List.mem_cons_of_mem _ hp)
          refine ⟨got', ?_, ?_⟩
          · rw [List.flatMap_cons, List.flatMap_cons, List.map_append, List.zip_append,
              ← List.append_assoc]
            · exact hfilled
            · simp [ObjectExtent.bytes, hpiece]
          · intro ex
            rw [hgot, collected_cons, List.flatten_append]
            by_cases hname : Names (unitAction u rev) ex
            · rw [if_pos hname, give_self hname, List.append_assoc]
            · rw [if_neg hname, give_other hname, List.flatten_nil, List.nil_append]

end Unit

/-- The actions of a pass take as many bytes as the file extents have. -/
theorem sum_actions (us rev : List ObjectExtent) :
    ((addUnits us rev).1.map Action.bytes).sum = (us.flatMap ObjectExtent.bytes).length := by
  induction us generalizing rev with
  | nil => rfl
  | cons u us ih =>
      rw [Striper.addUnits, List.map_cons, List.sum_cons, ih, (unitAction_eq u rev).2,
        List.flatMap_cons, List.length_append]
      simp [ObjectExtent.bytes]

/-- The units of file extents, mapped back, are their bytes. -/
theorem units_back (l : Layout) (fes : List FileExtent) :
    ((fes.flatMap fun fe => l.units fe.off fe.len).flatMap ObjectExtent.bytes).map
      (fun b => l.fileByte b.1 b.2) = fes.flatMap FileExtent.bytes := by
  have hsame : (fun b : Nat × Nat => l.fileByte b.1 b.2) ∘ l.locate = id :=
    funext l.fileByte_locate
  rw [units_flatMap, List.map_map, hsame, List.map_id]

/-- The two passes over the units of successive image extents, with a buffer that is long enough. -/
theorem exists_filled (l : Layout) {fes : List FileExtent} {data : Buffer α}
    {us : List ObjectExtent} (hus : us = fes.flatMap fun fe => l.units fe.off fe.len)
    (hfes : fes.Pairwise fun a b => a.off + a.len ≤ b.off)
    (hdata : (fes.flatMap FileExtent.bytes).length ≤ data.flatten.length) :
    ∃ final ps, Chained l 0 us final ∧ mapExtents l fes [] = some (addUnits us []) ∧
      pieces (addUnits us []).1 data = some ps ∧ ps.map Prod.fst = (addUnits us []).1 ∧
      (∀ p ∈ ps, p.2.flatten.length = p.1.bytes) ∧
      ps.flatMap (fun p => p.2.flatten) =
        data.flatten.take (fes.flatMap FileExtent.bytes).length ∧
      ((addUnits us []).1.map Action.bytes).sum ≤ data.flatten.length ∧
      fillRequest l fes data = some ((addUnits us []).2.reverse.map fun ex =>
        { ex := ex, bvecCount := (collected ps ex).length, bvecs := collected ps ex }) := by
  obtain ⟨final, hchain⟩ := chained_flatMap (l := l) hfes fun fe _ => Nat.zero_le fe.off
  have hmap := mapExtents_eq (placed_nil l) hfes fun fe _ => Nat.zero_le fe.off
  rw [← hus] at hchain hmap
  have hsecond := iteratePass_eq (l := l) (addUnits us []).2.reverse fes
  rw [← hus, iterateUnits_eq hchain (grows_self _) ((placed_nil l).addUnits hchain).sorted]
    at hsecond
  have htotal : ((addUnits us []).1.map Action.bytes).sum =
      (fes.flatMap FileExtent.bytes).length := by
    rw [sum_actions, hus, units_flatMap, List.length_map]
  have hshort : ((addUnits us []).1.map Action.bytes).sum ≤ data.flatten.length := by omega
  obtain ⟨ps, hps, hacts, hlen, hflat⟩ := exists_pieces (addUnits us []).1 hshort
  rw [htotal] at hflat
  exact ⟨final, ps, hchain, hmap, hps, hacts, hlen, hflat, by omega,
    fillRequest_eq hmap hsecond hps⟩

/-- Successive image extents with a buffer that is long enough are filled without running over an
array or beyond the buffer. Each object request's array is full and as long as its extent, and each
byte of the image extents is with its byte of the buffer in exactly one object request. -/
theorem fillRequest_data (l : Layout) (fes : List FileExtent) (data : Buffer α)
    (hfes : fes.Pairwise fun a b => a.off + a.len ≤ b.off)
    (hdata : (fes.flatMap FileExtent.bytes).length ≤ data.flatten.length) :
    ∃ reqs, fillRequest l fes data = some reqs ∧
      (∀ r ∈ reqs, r.bvecs.length = r.bvecCount ∧ r.bvecs.flatten.length = r.ex.len) ∧
      (reqs.flatMap fun r => withData l r.ex r.bvecs.flatten).Perm
        ((fes.flatMap FileExtent.bytes).zip data.flatten) := by
  obtain ⟨final, ps, hchain, -, -, hacts, hlen, hflat, -, hfill⟩ := exists_filled l rfl hfes hdata
  have hempty : Filled l (fun _ _ => ([] : List α)) [] [] :=
    ⟨by simp, fun _ _ _ => rfl, List.Perm.refl _⟩
  obtain ⟨got, hfilled, hgot⟩ := hempty.addUnits (placed_nil l) hchain hacts hlen
  refine ⟨_, hfill, ?_, ?_⟩
  · intro r hr
    obtain ⟨ex, hex, rfl⟩ := List.mem_map.mp hr
    refine ⟨rfl, ?_⟩
    show (collected ps ex).flatten.length = ex.len
    have hex' := hgot ex
    rw [List.nil_append] at hex'
    rw [← hex']
    exact hfilled.length_eq ex (List.mem_reverse.mp hex)
  · rw [List.flatMap_map]
    have hperm := hfilled.perm
    have hzip := @List.zip_eq_zip_take_min _ _ (fes.flatMap FileExtent.bytes) data.flatten
    rw [Nat.min_eq_left hdata, List.take_length] at hzip
    rw [List.nil_append, units_back, hflat, ← hzip] at hperm
    refine List.Perm.trans ?_ hperm
    refine ((List.reverse_perm _).flatMap_right _).trans (List.Perm.of_eq ?_)
    apply List.flatMap_congr
    intro ex _
    rw [hgot, List.nil_append]

theorem fillRequest_data_example :
    ∃ reqs, fillRequest exampleLayout [⟨5, 6⟩, ⟨60, 3⟩] [[1, 2, 3, 4], [5, 6, 7, 8, 9]] =
    some reqs ∧
      (∀ r ∈ reqs, r.bvecs.length = r.bvecCount ∧ r.bvecs.flatten.length = r.ex.len) ∧
      (reqs.flatMap fun r => withData exampleLayout r.ex r.bvecs.flatten).Perm
        (([⟨5, 6⟩, ⟨60, 3⟩].flatMap FileExtent.bytes).zip [1, 2, 3, 4, 5, 6, 7, 8, 9]) :=
  fillRequest_data exampleLayout [⟨5, 6⟩, ⟨60, 3⟩] [[1, 2, 3, 4], [5, 6, 7, 8, 9]] (by simp)
    (by decide)

/-! ## The path without copies -/

/-- The position that an object request is left with. -/
def posOf : List Action → Buffer α → ObjectExtent → Buffer α → Buffer α
  | [], _, _, pos => pos
  | a :: acts, it, ex, pos =>
      posOf acts (((advanceStep a.bytes it).map Prod.snd).getD []) ex
        (if Names a ex then it else pos)

/-- The pass of `rbd_img_fill_request_nocopy` sets these positions. -/
theorem pass_setPos {acts : List Action} {it : Buffer α} {ps : List (Action × Buffer α)}
    (h : pieces acts it = some ps) (reqs : List (ObjRequest α)) :
    pass setPos acts it reqs = some (reqs.map fun r =>
      { r with pos := posOf acts it r.ex r.pos }) := by
  induction acts generalizing it ps reqs with
  | nil => simp [pass, posOf]
  | cons a acts ih =>
      obtain ⟨next, rest, hnext, hrest, rfl⟩ := of_pieces_cons h
      rw [pass, hnext, Option.bind_eq_bind, Option.bind_some, setPos, Option.bind_eq_bind,
        Option.bind_some, ih hrest, List.map_map]
      congr 1
      apply List.map_congr_left
      intro r _
      by_cases hname : Names a r.ex
      · simp [hname, posOf, hnext]
      · simp [hname, posOf, hnext]

/-- No action of the pass is called with the extent. -/
theorem posOf_eq_self {acts : List Action} {ex : ObjectExtent} (it pos : Buffer α)
    (h : ∀ a ∈ acts, ¬Names a ex) : posOf acts it ex pos = pos := by
  induction acts generalizing it with
  | nil => rfl
  | cons a acts ih =>
      rw [posOf, if_neg (h a List.mem_cons_self)]
      exact ih _ fun b hb => h b (List.mem_cons_of_mem _ hb)

theorem collected_eq_nil {ps : List (Action × Buffer α)} {ex : ObjectExtent}
    (h : ∀ a ∈ ps.map Prod.fst, ¬Names a ex) : collected ps ex = [] := by
  apply List.flatMap_eq_nil_iff.mpr
  intro p hp
  exact if_neg (h p.1 (List.mem_map_of_mem hp))

/-- When one action is called with an extent, for all of its bytes, then these bytes are the next
ones from the position that it sets. -/
theorem posOf_data {acts : List Action} {it : Buffer α} {ps : List (Action × Buffer α)}
    {ex : ObjectExtent} (hps : pieces acts it = some ps) (hacts : ps.map Prod.fst = acts)
    (hlong : (acts.map Action.bytes).sum ≤ it.flatten.length)
    (honce : acts.Pairwise fun a b => ¬(a.objno = b.objno ∧ a.off = b.off))
    (hmem : ⟨ex.objno, ex.off, ex.len⟩ ∈ acts) (pos : Buffer α) :
    (posOf acts it ex pos).flatten.take ex.len = (collected ps ex).flatten := by
  induction acts generalizing it ps pos with
  | nil => cases hmem
  | cons a acts ih =>
      obtain ⟨next, rest, hnext, hrest, rfl⟩ := of_pieces_cons hps
      have hshort : a.bytes ≤ it.flatten.length := by
        rw [List.map_cons, List.sum_cons] at hlong
        omega
      obtain ⟨bvs, left, hstep, hbvs, hleft⟩ := advanceStep_eq hshort
      cases hnext.symm.trans hstep
      obtain ⟨hne, honce⟩ := List.pairwise_cons.mp honce
      have hacts' := (List.cons.inj hacts).2
      rw [posOf, hstep, collected_cons]
      rcases List.mem_cons.mp hmem with rfl | hmem
      · -- no later action is called with the extent
        have hlater : ∀ b ∈ acts, ¬Names b ex := fun b hb hname => hne b hb ⟨hname.1, hname.2⟩
        rw [if_pos ⟨rfl, rfl⟩, if_pos ⟨rfl, rfl⟩, posOf_eq_self _ _ hlater,
          collected_eq_nil (by rw [hacts']; exact hlater), List.append_nil, hbvs]
      · have hother : ¬Names a ex := fun hname => hne _ hmem ⟨hname.1.symm, hname.2.symm⟩
        rw [if_neg hother, if_neg hother, List.nil_append]
        refine ih hrest hacts' ?_ honce hmem pos
        rw [hleft, List.length_drop]
        rw [List.map_cons, List.sum_cons] at hlong
        omega

/-- Units none of which starts at the end of a unit before it in its object. -/
def Separate (l : Layout) : Nat → List ObjectExtent → Prop
  | _, [] => True
  | bound, u :: us => ∃ off, bound ≤ off ∧ (u.off = 0 ∨ bound < off) ∧ u.off < l.objectSize ∧
      Starts l off u ∧ Separate l (off + u.len) us

section Plain

variable {l : Layout} (hplain : l.stripeUnit = l.objectSize)

include hplain

/-- With one stripe unit in an object, the place of a byte in its object is its remainder. -/
theorem locate_plain (b : Nat) : (l.locate b).2 = b % l.stripeUnit := by
  have hone : l.stripesPerObject = 1 := by
    rw [Layout.stripesPerObject, ← hplain, Nat.div_self l.unit_pos]
  simp [Layout.locate, Layout.calcFileObjectMapping, hone, Nat.mod_one]

/-- The units of a range, after a gap. -/
theorem separate_units {bound : Nat} (off len : Nat) {us : List ObjectExtent}
    (hle : bound ≤ off) (hgap : (l.locate off).2 = 0 ∨ bound < off)
    (hus : Separate l (off + len) us) : Separate l bound (l.units off len ++ us) := by
  induction off, len using Layout.units.induct l generalizing bound with
  | case1 off =>
      rw [Layout.units, dif_pos rfl, List.nil_append]
      cases us with
      | nil => trivial
      | cons u us =>
          obtain ⟨next, hnext, hstart, hin, hu, hrest⟩ := hus
          refine ⟨next, by omega, ?_, hin, hu, hrest⟩
          rcases hstart with hzero | hlt
          · exact .inl hzero
          · exact .inr (by omega)
  | case2 off len h ih =>
      rw [Layout.units, dif_neg h, List.cons_append]
      have hlen : (l.calcFileObjectMapping off len).len ≤ len := by
        rw [Layout.calc_len]
        omega
      have hmod := Nat.mod_lt off l.unit_pos
      have hdiv := Nat.div_add_mod' off l.stripeUnit
      refine ⟨off, hle, hgap, l.locate_lt off, starts_calc l off h, ?_⟩
      by_cases hlast : len ≤ l.stripeUnit - off % l.stripeUnit
      · -- nothing of the range is left
        have hall : (l.calcFileObjectMapping off len).len = len := by
          rw [Layout.calc_len]
          omega
        rw [hall, Nat.sub_self, Layout.units, dif_pos rfl, List.nil_append]
        exact hus
      · -- the next unit is at the start of its object
        have hfull : (l.calcFileObjectMapping off len).len = l.stripeUnit - off % l.stripeUnit := by
          rw [Layout.calc_len]
          omega
        apply ih (Nat.le_refl _)
        · left
          rw [locate_plain hplain, hfull]
          have hnext : off + (l.stripeUnit - off % l.stripeUnit) =
              (off / l.stripeUnit + 1) * l.stripeUnit := by
            rw [Nat.add_mul, Nat.one_mul]
            omega
          rw [hnext, Nat.mul_mod_left]
        · rw [Nat.add_assoc, Nat.add_sub_cancel' hlen]
          exact hus

/-- The units of file extents with gaps between them. -/
theorem separate_flatMap {bound : Nat} {fes : List FileExtent}
    (h : fes.Pairwise fun a b => a.off + a.len < b.off)
    (hbound : ∀ fe ∈ fes, fe.off = 0 ∧ bound = 0 ∨ bound < fe.off) :
    Separate l bound (fes.flatMap fun fe => l.units fe.off fe.len) := by
  induction fes generalizing bound with
  | nil => trivial
  | cons fe fes ih =>
      obtain ⟨hfe, hfes⟩ := List.pairwise_cons.mp h
      rw [List.flatMap_cons]
      rcases hbound fe List.mem_cons_self with ⟨hzero, rfl⟩ | hlt
      · refine separate_units hplain _ _ (Nat.zero_le _) (.inl ?_)
          (ih hfes fun b hb => .inr (hfe b hb))
        rw [locate_plain hplain, hzero, Nat.zero_mod]
      · exact separate_units hplain _ _ (Nat.le_of_lt hlt) (.inr hlt)
          (ih hfes fun b hb => .inr (hfe b hb))

/-- A unit that is separate from the list is a new extent. -/
theorem addUnit_separate {bound off : Nat} {u : ObjectExtent} {rev : List ObjectExtent}
    (hplaced : Placed l bound rev) (hu : Starts l off u) (hin : u.off < l.objectSize)
    (hgap : u.off = 0 ∨ bound < off) :
    unitAction u rev = ⟨u.objno, u.off, u.len⟩ ∧ (addUnit u rev).Perm (u :: rev) := by
  rcases addUnit_cases u rev with ⟨pre, old, post, rfl, hobj, hend, -, -⟩ |
    ⟨pre, post, rfl, hadd, hact⟩
  · -- the extent that it would grow ends at the byte before it in the image
    exfalso
    have hpos := hplaced.len_pos old (by simp)
    have hbefore := hplaced.before old (by simp)
    have hmod : (u.off - 1) % l.stripeUnit = u.off - 1 := Nat.mod_eq_of_lt (by omega)
    have hnext : l.fileByte u.objno (u.off - 1 + 1) = l.fileByte u.objno (u.off - 1) + 1 :=
      l.fileByte_add (by omega)
    rw [Nat.sub_add_cancel (by omega), hu.first] at hnext
    rw [hobj, hend] at hbefore
    omega
  · rw [hadd]
    exact ⟨hact, List.perm_middle⟩

/-- Separate units are the extents, and each of them is one action's. -/
theorem addUnits_separate {bound : Nat} {us rev : List ObjectExtent}
    (hplaced : Placed l bound rev) (hus : Separate l bound us) :
    (addUnits us rev).1 = us.map (fun u => ⟨u.objno, u.off, u.len⟩) ∧
      (addUnits us rev).2.Perm (rev ++ us) := by
  induction us generalizing bound rev with
  | nil => exact ⟨rfl, by simp [addUnits]⟩
  | cons u us ih =>
      obtain ⟨off, hle, hgap, hin, hu, hrest⟩ := hus
      obtain ⟨hact, hadd⟩ := addUnit_separate hplain hplaced hu hin hgap
      obtain ⟨hacts, hperm⟩ := ih (hplaced.addUnit hu hle) hrest
      refine ⟨by rw [addUnits, hacts, hact, List.map_cons], ?_⟩
      refine hperm.trans ((hadd.append_right us).trans ?_)
      exact List.perm_middle.symm

end Plain

/-- The path without copies gives each object request the bytes that the path with copies gives it,
when no image extent starts where the one before it ends. -/
theorem nocopy_eq (l : Layout) (fes : List FileExtent) (data : Buffer α)
    (hplain : layoutIsFancy l = false) (hfes : fes.Pairwise fun a b => a.off + a.len < b.off)
    (hdata : (fes.flatMap FileExtent.bytes).length ≤ data.flatten.length) :
    ∃ reqs copied, fillRequestNocopy l fes data = some reqs ∧
      fillRequest l fes data = some copied ∧
      (reqs.map fun r => (r.ex, r.pos.flatten.take r.ex.len)) =
        copied.map fun r => (r.ex, r.bvecs.flatten) := by
  have hplain' : l.stripeUnit = l.objectSize := by simpa [layoutIsFancy] using hplain
  have hsucc : fes.Pairwise fun a b => a.off + a.len ≤ b.off :=
    hfes.imp fun hlt => Nat.le_of_lt hlt
  obtain ⟨final, ps, hchain, hmap, hps, hacts, -, -, hlong, hfill⟩ :=
    exists_filled l rfl hsucc hdata
  generalize hus : (fes.flatMap fun fe => l.units fe.off fe.len) = us at *
  have hsep : Separate l 0 us := by
    rw [← hus]
    exact separate_flatMap hplain' hfes fun fe _ => by omega
  obtain ⟨hunits, hperm⟩ := addUnits_separate hplain' (placed_nil l) hsep
  rw [List.nil_append] at hperm
  have hplaced := (placed_nil l).addUnits hchain
  -- the extents have different names, and so have the units
  have hnames : (addUnits us []).2.Pairwise fun a b => ¬(a.objno = b.objno ∧ a.off = b.off) :=
    hplaced.sorted.imp_of_mem fun _ hb hfollows => follows_ne hfollows (hplaced.len_pos _ hb)
  have honce : (addUnits us []).1.Pairwise fun a b => ¬(a.objno = b.objno ∧ a.off = b.off) := by
    rw [hunits, List.pairwise_map]
    refine (hperm.pairwise_iff ?_).mp hnames
    exact fun hne hsame => hne ⟨hsame.1.symm, hsame.2.symm⟩
  have hnocopy : fillRequestNocopy l fes data =
      pass setPos (addUnits us []).1 data
        ((addUnits us []).2.reverse.map fun ex => { ex := ex }) := by
    rw [fillRequestNocopy, hmap, Option.bind_eq_bind, Option.bind_some]
  refine ⟨_, _, hnocopy.trans (pass_setPos hps _), hfill, ?_⟩
  rw [List.map_map, List.map_map, List.map_map]
  apply List.map_congr_left
  intro ex hex
  have hmem : (⟨ex.objno, ex.off, ex.len⟩ : Action) ∈ (addUnits us []).1 := by
    rw [hunits]
    exact List.mem_map.mpr ⟨ex, hperm.mem_iff.mp (List.mem_reverse.mp hex), rfl⟩
  show (ex, (posOf (addUnits us []).1 data ex []).flatten.take ex.len) =
    (ex, (collected ps ex).flatten)
  rw [posOf_data hps hacts hlong honce hmem]

/-- A layout with one stripe unit in an object. -/
def plainLayout : Layout where
  stripeUnit := 24
  stripeCount := 5
  objectSize := 24
  unit_pos := by decide
  count_pos := by decide
  size_pos := by decide
  unit_dvd := ⟨1, rfl⟩

theorem nocopy_eq_plain :
    layoutIsFancy plainLayout = false ∧
    ∃ reqs copied, fillRequestNocopy plainLayout [⟨5, 6⟩, ⟨12, 3⟩] [[1, 2, 3, 4], [5, 6, 7, 8, 9]] =
        some reqs ∧
      fillRequest plainLayout [⟨5, 6⟩, ⟨12, 3⟩] [[1, 2, 3, 4], [5, 6, 7, 8, 9]] = some copied ∧
      (reqs.map fun r => (r.ex, r.pos.flatten.take r.ex.len)) =
        copied.map fun r => (r.ex, r.bvecs.flatten) :=
  ⟨rfl, nocopy_eq plainLayout [⟨5, 6⟩, ⟨12, 3⟩] [[1, 2, 3, 4], [5, 6, 7, 8, 9]] rfl (by simp)
    (by decide)⟩

end XcpCephRbd.Rbd
