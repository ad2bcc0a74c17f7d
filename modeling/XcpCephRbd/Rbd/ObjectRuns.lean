import XcpCephRbd.Rbd.ObjectReads

/-!
# What holds of the object and its requests at any time

The invariant of the requests to one object (`Inv`): the bytes of the object are what the
modifications so far make of the first ones, every request is in a state of `Req.WriteOk` or
`Req.ReadOk`, and no request has modified the object twice or before it started. Every step keeps it
(`Inv.step`), as long as the object map does not say that an object that exists does not exist.
-/

namespace XcpCephRbd.Rbd

open Striper

variable {α : Type}

/-- The requests that have changed the object. -/
def changed (log : List (Nat × Effect α)) : List Nat := log.map Prod.fst

theorem changed_append (log more : List (Nat × Effect α)) :
    changed (log ++ more) = changed log ++ changed more :=
  List.map_append

variable [Zero α]

/-- What holds of a request at any time. -/
structure ReqOk (img : Image α) (init : Nat → α) (head : Option (List α))
    (log : List (Nat × Effect α)) (i : Nat) (r : Req α) : Prop where
  wf : r.Wf img
  since : r.since ≤ log.length
  read : r.op = .read → r.ReadOk img init log
  write : r.op ≠ .read → r.WriteOk img head (i ∈ changed log)

/-- What holds of the system at any time. -/
structure Inv (img : Image α) (init : Nat → α) (s : Sys α) : Prop where
  agree : ∀ x < img.layout.objectSize, img.view s.object.head x = content init s.log x
  known : ∀ i r, s.reqs[i]? = some r → ReqOk img init s.object.head s.log i r
  once : (changed s.log).Nodup
  logged : ∀ (n : Nat) (e : Nat × Effect α), s.log[n]? = some e →
    ∃ r : Req α, s.reqs[e.1]? = some r ∧ r.op ≠ .read ∧ r.since ≤ n ∧ ∃ b, e.2 = r.effect b

/-- The object map in memory is right about an object that does not exist. -/
def Sys.MapRight (img : Image α) (s : Sys α) : Prop :=
  img.useObjectMap = true → s.mem = .objectNonexistent → s.object.head = none

/-- The copyup with the empty snapshot context is executed, also when it fails: the modification is
sent right behind it, and would create the object without the parent's data. -/
def Sys.CopyupsRun (s : Sys α) : Event α → Prop
  | .exec i j fault => Sys.skipped fault = true →
      ∀ r f data, s.reqs[i]? = some r → r.flight[j]? = some f → f.sent ≠ .copyup data
  | _ => True

section Inv

variable {img : Image α} {init : Nat → α} {s s' : Sys α} {i j : Nat} {r r' : Req α} {f : Flight α}

/-- What is done to the object by one request leaves the others as they are. -/
theorem ReqOk.mono {head head' : Option (List α)} {log more : List (Nat × Effect α)}
    (h : ReqOk img init head log i r) (hmono : img.extents ≠ [] → head ≠ none → head' ≠ none)
    (hmore : i ∉ changed more) : ReqOk img init head' (log ++ more) i r := by
  refine ⟨h.wf, ?_, fun hop => (h.read hop).append more, fun hop => ?_⟩
  · have hlen := h.since
    rw [List.length_append]
    omega
  · refine (h.write hop).head_mono h.wf hmono ?_
    rw [changed_append, List.mem_append]
    exact or_iff_left hmore

/-- What a request is does not change, so neither does its effect. -/
theorem Kept.effect (h : Kept img r r') (b : Bool) : r'.effect b = r.effect b := by
  rw [Req.effect, Req.effect, h.op, h.off, h.len]

/-- A request that has changed the object is one of the requests. -/
theorem Inv.lt_of_changed (h : Inv img init s) (hi : i ∈ changed s.log) : i < s.reqs.length := by
  obtain ⟨e, he, rfl⟩ := List.mem_map.mp hi
  obtain ⟨n, hn⟩ := List.mem_iff_getElem?.mp he
  obtain ⟨r, hr, -⟩ := h.logged n e hn
  exact (List.getElem?_eq_some_iff.mp hr).1

/-- One request takes a step, and with it the object. -/
theorem Inv.update (h : Inv img init s) (hi : s.reqs[i]? = some r) (more : List (Nat × Effect α))
    (hkept : Kept img r r')
    (hagree : ∀ x < img.layout.objectSize,
      img.view s'.object.head x = content init (s.log ++ more) x)
    (hmono : img.extents ≠ [] → s.object.head ≠ none → s'.object.head ≠ none)
    (hmore : more = [] ∨ r.op ≠ .read ∧ i ∉ changed s.log ∧ ∃ b, more = [(i, r.effect b)])
    (hread : r.op = .read → r'.ReadOk img init (s.log ++ more))
    (hwrite : r.op ≠ .read → r'.WriteOk img s'.object.head (i ∈ changed (s.log ++ more)))
    (hreqs : s'.reqs = s.reqs.set i r') (hlog : s'.log = s.log ++ more) : Inv img init s' := by
  have hlt := (List.getElem?_eq_some_iff.mp hi).1
  have hok := h.known i r hi
  -- a request of the new list is the one that took the step or one of the others
  have hget : ∀ k, s'.reqs[k]? = if i = k then some r' else s.reqs[k]? := by
    intro k
    rw [hreqs, List.getElem?_set]
    by_cases heq : i = k
    · rw [if_pos heq, if_pos heq, if_pos (heq ▸ hlt)]
    · rw [if_neg heq, if_neg heq]
  have hsame : ∀ {k : Nat} {q : Req α}, s.reqs[k]? = some q → ∃ q' : Req α, s'.reqs[k]? = some q' ∧
      q'.op = q.op ∧ q'.since = q.since ∧ ∀ b, q'.effect b = q.effect b := by
    intro k q hk
    rw [hget]
    by_cases heq : i = k
    · subst heq
      obtain rfl : r = q := Option.some.inj (hi.symm.trans hk)
      exact ⟨r', if_pos rfl, hkept.op, hkept.since, hkept.effect⟩
    · exact ⟨q, by rw [if_neg heq, hk], rfl, rfl, fun b => rfl⟩
  refine ⟨?_, ?_, ?_, ?_⟩
  · rw [hlog]
    exact hagree
  · intro k q hk
    rw [hlog]
    rw [hget] at hk
    by_cases heq : i = k
    · subst heq
      rw [if_pos rfl] at hk
      cases hk
      refine ⟨hkept.wf hok.wf, ?_, fun hop => hread (hkept.op ▸ hop), fun hop =>
        hwrite (hkept.op ▸ hop)⟩
      have hsince := hok.since
      rw [hkept.since, List.length_append]
      omega
    · rw [if_neg heq] at hk
      refine (h.known k q hk).mono hmono ?_
      rcases hmore with rfl | ⟨-, -, b, rfl⟩
      · exact List.not_mem_nil
      · exact fun hmem => heq (List.mem_singleton.mp hmem).symm
  · rw [hlog, changed_append]
    rcases hmore with rfl | ⟨-, hnew, b, rfl⟩
    · exact (List.append_nil (changed s.log)).symm ▸ h.once
    · refine List.nodup_append.mpr ⟨h.once, List.pairwise_singleton _ i, ?_⟩
      intro a ha c hc heq
      obtain rfl : c = i := List.mem_singleton.mp hc
      exact hnew (heq ▸ ha)
  · intro n e he
    rw [hlog] at he
    by_cases hn : n < s.log.length
    · rw [List.getElem?_append_left hn] at he
      obtain ⟨q, hq, hop, hsince, b, heff⟩ := h.logged n e he
      obtain ⟨q', hq', hop', hsince', heff'⟩ := hsame hq
      exact ⟨q', hq', hop' ▸ hop, hsince' ▸ hsince, b, by rw [heff, heff']⟩
    · rw [List.getElem?_append_right (by omega)] at he
      rcases hmore with rfl | ⟨hop, -, b, rfl⟩
      · cases he
      · obtain rfl : (i, r.effect b) = e := by
          have hmem := List.mem_of_getElem? he
          exact (List.mem_singleton.mp hmem).symm
        obtain ⟨q', hq', hop', hsince', heff'⟩ := hsame hi
        have hle := hok.since
        exact ⟨q', hq', hop' ▸ hop, by omega, b, (heff' b).symm⟩

/-- One request is started. -/
theorem Inv.add (h : Inv img init s) (more : List (Nat × Effect α)) (hwf : r.Wf img)
    (hsince : r.since = s.log.length)
    (hagree : ∀ x < img.layout.objectSize,
      img.view s.object.head x = content init (s.log ++ more) x)
    (hmore : more = [] ∨ r.op ≠ .read ∧ ∃ b, more = [(s.reqs.length, r.effect b)])
    (hread : r.op = .read → r.ReadOk img init (s.log ++ more))
    (hwrite : r.op ≠ .read →
      r.WriteOk img s.object.head (s.reqs.length ∈ changed (s.log ++ more)))
    (hobject : s'.object = s.object) (hreqs : s'.reqs = s.reqs ++ [r])
    (hlog : s'.log = s.log ++ more) : Inv img init s' := by
  have hold : ∀ {k : Nat} {q : Req α}, s.reqs[k]? = some q → s'.reqs[k]? = some q := by
    intro k q hk
    rw [hreqs, List.getElem?_append_left (List.getElem?_eq_some_iff.mp hk).1, hk]
  refine ⟨?_, ?_, ?_, ?_⟩
  · rw [hobject, hlog]
    exact hagree
  · intro k q hk
    rw [hobject, hlog]
    rw [hreqs] at hk
    by_cases hlt : k < s.reqs.length
    · rw [List.getElem?_append_left hlt] at hk
      refine (h.known k q hk).mono (fun _ hne => hne) ?_
      rcases hmore with rfl | ⟨-, b, rfl⟩
      · exact List.not_mem_nil
      · intro hmem
        obtain rfl : k = s.reqs.length := List.mem_singleton.mp hmem
        exact Nat.lt_irrefl _ hlt
    · rw [List.getElem?_append_right (by omega)] at hk
      obtain ⟨hlt', hq⟩ := List.getElem?_eq_some_iff.mp hk
      obtain rfl : k = s.reqs.length := by
        have hone : k - s.reqs.length < 1 := hlt'
        omega
      obtain rfl : r = q := by simpa using hk
      exact ⟨hwf, by rw [hsince, List.length_append]; omega, hread, hwrite⟩
  · rw [hlog, changed_append]
    rcases hmore with rfl | ⟨-, b, rfl⟩
    · exact (List.append_nil (changed s.log)).symm ▸ h.once
    · refine List.nodup_append.mpr ⟨h.once, List.pairwise_singleton _ _, ?_⟩
      intro a ha c hc heq
      obtain rfl : c = s.reqs.length := List.mem_singleton.mp hc
      exact Nat.lt_irrefl _ (h.lt_of_changed (heq ▸ ha))
  · intro n e he
    rw [hlog] at he
    by_cases hn : n < s.log.length
    · rw [List.getElem?_append_left hn] at he
      obtain ⟨q, hq, hrest⟩ := h.logged n e he
      exact ⟨q, hold hq, hrest⟩
    · rw [List.getElem?_append_right (by omega)] at he
      rcases hmore with rfl | ⟨hop, b, rfl⟩
      · cases he
      · obtain rfl : (s.reqs.length, r.effect b) = e :=
          (List.mem_singleton.mp (List.mem_of_getElem? he)).symm
        refine ⟨r, ?_, hop, by omega, b, rfl⟩
        rw [hreqs]
        exact List.getElem?_concat_length

/-! ## The start of a request -/

/-- What a request is when it is started. -/
structure Started (img : Image α) (s : Sys α) (op : OpType α) (r : Req α) : Prop where
  wf : r.Wf img
  op : r.op = op
  since : r.since = s.log.length
  flight : r.flight = []

/-- `rbd_obj_init_discard`, for the part of the extent that is discarded. -/
theorem started_discard (off len : Nat) {snaps : List Nat} {seq : Nat} (hpos : 0 < len)
    (hinside : off + len ≤ img.layout.objectSize) (hsnaps : ∀ s ∈ snaps, s ≤ seq) :
    Started img s .discard ({
      op := .discard
      off := off
      len := len
      snaps := snaps
      seq := seq
      since := s.log.length
      control := .preObjectMap
      noopForNonexistent := true
      deletion := decide (off = 0 ∧ len = img.layout.objectSize) && img.extents.isEmpty
      imgExtents := img.extents } : Req α) := by
  refine ⟨⟨hpos, hinside, fun data hdata => (by cases hdata), hsnaps, fun _ => rfl, ?_, ?_,
    fun _ => .inl rfl⟩, rfl, rfl, rfl⟩
  · simp [Req.isEntire]
  · simp

omit [Zero α] in
/-- `rbd_obj_copyup_enabled`. -/
theorem copyupWanted_iff (hop : (∃ data, r.op = .write data) ∨ r.op = .zeroout)
    (hext : r.imgExtents = img.extents) : r.copyupWanted img = true ↔
      ((∃ data, r.op = .write data) ∨ r.op = .zeroout) ∧ img.extents ≠ [] ∧
        ¬(r.isEntire img = true ∧ r.snaps = []) := by
  simp only [Req.copyupWanted, hext, Bool.not_eq_true', Bool.or_eq_false_iff,
    List.isEmpty_eq_false_iff, ← List.isEmpty_iff, ← Bool.and_eq_true, Bool.not_eq_true, hop,
    true_and]

/-- A request that is started is well formed. -/
theorem started_initial {op : OpType α} {off len : Nat} {snaps : List Nat} {seq : Nat}
    (hvalid : OpType.Valid img op off len snaps seq = true)
    (h : s.initial img op off len snaps seq = some r) : Started img s op r := by
  unfold OpType.Valid at hvalid
  rw [Bool.and_eq_true, decide_eq_true_iff] at hvalid
  obtain ⟨⟨hpos, hinside, hsnaps⟩, hdata⟩ := hvalid
  cases op with
  | read =>
      cases h
      refine ⟨⟨hpos, hinside, fun data hd => (by cases hd), hsnaps,
        fun hne => absurd rfl hne, ?_, ?_, fun hno => (by cases hno)⟩, rfl, rfl, rfl⟩
      · simp
      · simp
  | write bytes =>
      cases h
      refine ⟨⟨hpos, hinside, fun data hd => ?_, hsnaps, fun _ => rfl, ?_, ?_,
        fun hno => (by cases hno)⟩, rfl, rfl, rfl⟩
      · cases hd
        exact of_decide_eq_true hdata
      · simp [Req.initWrite, Req.withExtents]
      · exact copyupWanted_iff (.inl ⟨bytes, rfl⟩) rfl
  | discard =>
      simp only [Sys.initial, Req.initDiscard] at h
      split at h
      · split at h
        · cases h
        · rename_i hlt
          have hle := Nat.div_mul_le_self (off + len) img.allocSize
          generalize (off + img.allocSize - 1) / img.allocSize * img.allocSize = lo at h hlt
          generalize (off + len) / img.allocSize * img.allocSize = hi at h hlt hle
          cases h
          exact started_discard lo (hi - lo) (by omega) (by omega) hsnaps
      · cases h
        exact started_discard off len hpos hinside hsnaps
  | zeroout =>
      cases h
      refine ⟨⟨hpos, hinside, fun data hd => (by cases hd), hsnaps, fun _ => rfl, ?_, ?_, ?_⟩, rfl,
        rfl, rfl⟩
      · show (img.extents.isEmpty && Req.isEntire img _) = true ↔ _
        rw [Bool.and_eq_true, List.isEmpty_iff]
        exact ⟨fun hdel => ⟨.inr rfl, hdel.2, hdel.1⟩, fun hdel => ⟨hdel.2.2, hdel.2.1⟩⟩
      · exact copyupWanted_iff (.inr rfl) rfl
      · intro hno
        exact .inr ⟨rfl, List.isEmpty_iff.mp hno⟩

/-- What a call submits is kept with the request. -/
theorem kept_launched {t : Nat} {out : Req α × List (Sent α)} (h : Kept img r out.1) :
    Kept img r (launched t out) :=
  h.trans (kept_flight _ _)

/-- A request that is no operation has nothing to do. -/
theorem noop_agree (hwf : r.Wf img) (hnoop : r.noopForNonexistent = true)
    {f : Nat → α} (hagree : ∀ x < img.layout.objectSize, img.below x = f x) {x : Nat}
    (hx : x < img.layout.objectSize) : img.below x = (r.effect false).apply f x := by
  rcases hwf.noop hnoop with hkind | ⟨hkind, hext⟩
  · rw [Req.effect, hkind]
    exact hagree x hx
  · rw [Req.effect, hkind]
    show img.below x = if _ then 0 else f x
    rw [← hagree x hx, img.below_of_extents hext hx]
    split
    · rfl
    · rfl

/-- What a read would see of an object that does not exist. -/
theorem Inv.absent (h : Inv img init s) (hnone : s.object.head = none) (hwf : r.Wf img)
    (hsince : r.since ≤ s.log.length) : Seen init s.log r.since (r.Reads
      ((List.range r.len).map fun i => img.below (r.off + i))) := by
  refine seen_now hsince fun i hi => ?_
  have hin := hwf.inside
  rw [getD_tabulated _ _ hi, ← h.agree (r.off + i) (by omega), hnone]
  rfl

/-- The start of a request. -/
theorem Inv.start (h : Inv img init s) (hmap : s.MapRight img) {op : OpType α}
    (hstarted : Started img s op r) (alloc : Nat → Option Errno) :
    Inv img init (s.begin img r alloc) := by
  have hsince := hstarted.since
  obtain ⟨kind, hop⟩ : ∃ kind, r.op = kind := ⟨_, rfl⟩
  cases kind with
  | read =>
      have hkept : Kept img r (launched s.ticket (r.readStart img s.mem alloc)) :=
        kept_launched (kept_readStart hop s.mem alloc)
      refine h.add (r := launched s.ticket (r.readStart img s.mem alloc)) []
        (hkept.wf hstarted.wf) (hkept.since.trans hsince) ?_ (.inl rfl) (fun _ => ?_)
        (fun hne => absurd (hkept.op.trans hop) hne) rfl ?_ ?_
      -- a read changes nothing; where the map rules the object out, it is absent
      · rw [List.append_nil]
        exact h.agree
      · rw [List.append_nil]
        refine readOk_start s.ticket hstarted.flight s.mem alloc fun hmay => ?_
        simp only [Req.mapMayExist, Bool.or_eq_false_iff, Bool.not_eq_false',
          decide_eq_false_iff_not, not_not] at hmay
        exact h.absent (hmap hmay.1 hmay.2) hstarted.wf (by omega)
      · simp only [Sys.begin, hop]
        rfl
      · simp only [Sys.begin, hop, List.append_nil]
        rfl
  | _ =>
      have hne : r.op ≠ .read := by simp [hop]
      have hkept : Kept img r (launched s.ticket (r.writeStart img s.mem alloc)) :=
        kept_launched (kept_writeStart s.mem alloc)
      obtain ⟨next, hnext⟩ : ∃ next, r.writeStart img s.mem alloc = next := ⟨_, rfl⟩
      rw [hnext] at hkept
      obtain ⟨more, hmore⟩ : ∃ more, (if decide (next.1.control = .done 0) then
        [(s.reqs.length, r.effect false)] else []) = more := ⟨_, rfl⟩
      refine h.add (r := launched s.ticket next) more
        (hkept.wf hstarted.wf) (hkept.since.trans hsince) ?_ ?_
        (fun hread => absurd (hkept.op ▸ hread) hne) (fun _ => ?_) rfl ?_ ?_
      · intro x hx
        rw [← hmore]
        split
        · rename_i hdone
          -- a request that is over at once found no object in the map, and its effect is none
          have hdone' := writeStart_done (hnext ▸ of_decide_eq_true hdone)
          simp only [Req.mapMayExist, Bool.or_eq_false_iff, Bool.not_eq_false',
            decide_eq_false_iff_not, not_not] at hdone'
          have hnone := hmap hdone'.1.1 hdone'.1.2
          rw [content_append, hnone]
          refine noop_agree hstarted.wf hdone'.2 (fun x hx => ?_) hx
          rw [← h.agree x hx, hnone]
          rfl
        · rw [List.append_nil]
          exact h.agree x hx
      · rw [← hmore]
        split
        · exact .inr ⟨hkept.op ▸ hne, false, by rw [hkept.effect]⟩
        · exact .inl rfl
      · rw [← hnext]
        refine writeOk_start s.ticket hstarted.flight ?_
        rw [hnext, changed_append, List.mem_append, ← hmore]
        constructor
        · rintro (hold | hnew)
          · exact absurd (h.lt_of_changed hold) (Nat.lt_irrefl _)
          · split at hnew
            · rename_i hdone
              exact of_decide_eq_true hdone
            · cases hnew
        · intro hdone
          rw [if_pos (decide_eq_true hdone)]
          exact .inr (List.mem_singleton_self _)
      · simp only [Sys.begin, hop, hnext]
        rfl
      · simp only [Sys.begin, hop, hnext, ← hmore]
        split
        · rfl
        · rw [List.append_nil]

/-- What a request becomes when it is started. -/
theorem begin_reqs (alloc : Nat → Option Errno) :
    ∃ q, (s.begin img r alloc).reqs = s.reqs ++ [q] ∧ Kept img r q := by
  obtain ⟨kind, hop⟩ : ∃ kind, r.op = kind := ⟨_, rfl⟩
  cases kind with
  | read =>
      refine ⟨launched s.ticket (r.readStart img s.mem alloc), ?_,
        kept_launched (kept_readStart hop s.mem alloc)⟩
      simp only [Sys.begin, hop]
      rfl
  | _ =>
      refine ⟨launched s.ticket (r.writeStart img s.mem alloc), ?_,
        kept_launched (kept_writeStart s.mem alloc)⟩
      simp only [Sys.begin, hop]
      rfl

omit [Zero α] in
/-- The snapshot context of a request is that of its image request. -/
theorem initial_seq {op : OpType α} {off len : Nat} {snaps : List Nat} {seq : Nat}
    (h : s.initial img op off len snaps seq = some r) : r.seq = seq := by
  cases op with
  | discard =>
      simp only [Sys.initial, Req.initDiscard] at h
      split at h
      · split at h
        · cases h
        · cases h
          rfl
      · cases h
        rfl
  | _ =>
      cases h
      rfl

omit [Zero α] in
/-- One request of the list is replaced by one with the same operation and snapshot context. -/
theorem seq_of_set {reqs : List (Req α)} {q' : Req α} {k : Nat} (hi : reqs[i]? = some r)
    (hop : r'.op = r.op) (hseq : r'.seq = r.seq) (hk : (reqs.set i r')[k]? = some q') :
    ∃ q : Req α, reqs[k]? = some q ∧ q'.op = q.op ∧ q'.seq = q.seq := by
  rw [List.getElem?_set] at hk
  by_cases heq : i = k
  · subst heq
    rw [if_pos rfl, if_pos (List.getElem?_eq_some_iff.mp hi).1] at hk
    cases hk
    exact ⟨r, hi, hop, hseq⟩
  · rw [if_neg heq] at hk
    exact ⟨q', hk, rfl, rfl⟩

/-! ## The execution of an OSD request -/

omit [Zero α] in
/-- What a request that may have failed reports. -/
theorem reported_cases (fault : Option (Errno × Bool)) (result : Int) :
    Sys.reported fault result = result ∨
      Sys.reported fault result < 0 ∧ Sys.reported fault result ≠ enoent := by
  cases fault with
  | none => exact .inl rfl
  | some fault => exact .inr fault.1.2

omit [Zero α] in
/-- A reply of success is true. -/
theorem modsReply_done {applied : Prop} (deletion : Bool) (fault : Option (Errno × Bool))
    (h : applied) :
    ModsReply applied deletion (some (Sys.reported fault 0, ([] : List α))) := by
  refine ⟨fun _ => h, fun hres => ?_⟩
  rcases reported_cases fault 0 with hzero | ⟨-, hne⟩
  · rw [hzero] at hres
    exact absurd hres (by decide)
  · exact absurd hres hne

omit [Zero α] in
/-- A reply that the object does not exist says whether this was what the request wanted. -/
theorem modsReply_absent {applied : Prop} {deletion : Bool} (fault : Option (Errno × Bool))
    (h : applied ↔ deletion = true) :
    ModsReply applied deletion (some (Sys.reported fault enoent, ([] : List α))) := by
  refine ⟨fun hres => ?_, fun _ => h⟩
  rcases reported_cases fault enoent with hsame | ⟨hneg, -⟩
  · rw [hsame] at hres
    exact absurd hres (by decide)
  · omega

/-- What a write of the object does is known from its operations. -/
theorem write_ok {o : Object α} {seq : Nat} {ops : List (OsdOp α)} {head : Option (List α)}
    (h : runOps ops o.head = .ok head) : o.write seq ops = .ok {
      head := head
      seq := max o.seq seq
      clone := fun s => if o.seq < s ∧ s ≤ seq then o.head else o.clone s } := by
  rw [Object.write, h]
  rfl

theorem write_error {o : Object α} {seq : Nat} {ops : List (OsdOp α)} {e : Int}
    (h : runOps ops o.head = .error e) : o.write seq ops = .error e := by
  rw [Object.write, h]
  rfl

/-- The execution of a modification that fails. -/
theorem execute_error {seq : Nat} {ops : List (OsdOp α)} {fault : Option (Errno × Bool)} {e : Int}
    (hsent : f.sent = .write seq ops) (hfault : Sys.skipped fault = false)
    (hwrite : s.object.write seq ops = .error e) : s.execute img i j r f fault =
      { s with
        reqs := s.replied i j r f (Sys.reported fault e) []
        log := if e = enoent ∧ r.deletion then s.log ++ [(i, r.effect true)] else s.log } := by
  simp only [Sys.execute, hfault, hsent, hwrite, Bool.false_eq_true, if_false]

/-- The execution of a modification. -/
theorem execute_ok {seq : Nat} {ops : List (OsdOp α)} {fault : Option (Errno × Bool)} {o : Object α}
    (hsent : f.sent = .write seq ops) (hfault : Sys.skipped fault = false)
    (hwrite : s.object.write seq ops = .ok o) : s.execute img i j r f fault =
      { s with
        object := o
        reqs := s.replied i j r f (Sys.reported fault 0) []
        log := s.log ++ [(i, r.effect s.object.head.isSome)] } := by
  simp only [Sys.execute, hfault, hsent, hwrite, Bool.false_eq_true, if_false]

/-- A reply to a request that does not change the object. -/
theorem Inv.reply (h : Inv img init s) (hi : s.reqs[i]? = some r) (hj : r.flight[j]? = some f)
    (res : Int) (data : List α)
    (hread : f.sent = .read r.off r.len →
      (res = enoent → Seen init s.log r.since (r.Reads ((List.range r.len).map fun i =>
        img.below (r.off + i)))) ∧
      (0 ≤ res → res = data.length ∧ data.length ≤ r.len ∧ Seen init s.log r.since (r.Reads data)))
    (hparent : ∀ exts, f.sent = .parentRead exts → res = 0 → data = parentData img.parent exts)
    (hwrite : r.op ≠ .read → Answer img s.object.head (i ∈ changed s.log) (i ∈ changed s.log)
      r.deletion res data f.sent)
    (hobject : s'.object = s.object) (hreqs : s'.reqs = s.replied i j r f res data)
    (hlog : s'.log = s.log) : Inv img init s' := by
  have hok := h.known i r hi
  refine h.update hi [] (kept_flight _ _) ?_ (fun _ hne => hobject ▸ hne) (.inl rfl)
    (fun hop => ?_) (fun hop => ?_) hreqs ?_
  · rw [hobject, List.append_nil]
    exact h.agree
  · rw [List.append_nil]
    exact (hok.read hop).exec hj hread hparent
  · rw [hobject, List.append_nil]
    exact (hok.write hop).exec hok.wf hop hj (fun _ hne => hne) (hwrite hop)
  · rw [hlog, List.append_nil]

/-- What a read of the object returns. -/
theorem reads_content (h : Inv img init s) {c : List α} (hhead : s.object.head = some c)
    (hwf : r.Wf img) (hsince : r.since ≤ s.log.length) :
    ((c.drop r.off).take r.len).length ≤ r.len ∧
      Seen init s.log r.since (r.Reads ((c.drop r.off).take r.len)) := by
  refine ⟨List.length_take_le _ _, seen_now hsince fun i hi => ?_⟩
  have hin := hwf.inside
  rw [← h.agree (r.off + i) (by omega), hhead, Image.view_some, List.getD_eq_getElem?_getD,
    List.getElem?_take_of_lt hi, List.getElem?_drop, List.getD_eq_getElem?_getD]

omit [Zero α] in
/-- Nothing of the request that changes the object is waiting before the OSD request. -/
theorem first_le (hi : s.reqs[i]? = some r) (hsub : r.submitted = true)
    (hfirst : s.first f (·.reply.isNone) = true) (hobject : f.sent.target = .object) :
    ∀ g ∈ r.flight, g.reply = none → g.sent.target = .object → f.ticket ≤ g.ticket := by
  intro g hg hreply htarget
  have hall := List.all_eq_true.mp hfirst r (List.mem_of_getElem? hi)
  rw [hsub, Bool.not_true, Bool.false_or] at hall
  simpa [hreply, htarget, hobject] using List.all_eq_true.mp hall g hg

/-- A read only has reads in flight. -/
theorem Inv.op_ne_read (h : Inv img init s) (hi : s.reqs[i]? = some r) (hj : r.flight[j]? = some f)
    (htarget : f.sent.target ≠ .unordered) : r.op ≠ .read := by
  intro hread
  rcases ((h.known i r hi).read hread).sent_cases hj with hsent | hsent
  · exact htarget (by rw [hsent]; rfl)
  · exact htarget (by rw [hsent]; rfl)

/-- The execution of a modification. -/
theorem Inv.modify (h : Inv img init s) (hi : s.reqs[i]? = some r) (hj : r.flight[j]? = some f)
    (hop : r.op ≠ .read) {seq : Nat} {ops : List (OsdOp α)} (hsent : f.sent = .write seq ops)
    (hsub : r.submitted = true) (hnone : f.reply = none)
    (hfirst : s.first f (·.reply.isNone) = true)
    {fault : Option (Errno × Bool)} (hfault : Sys.skipped fault = false) :
    Inv img init (s.execute img i j r f fault) := by
  have hok := h.known i r hi
  have hpending := first_le hi hsub hfirst (by rw [hsent]; rfl)
  obtain ⟨-, hnew, hcases⟩ := (hok.write hop).write_cases hok.wf hop hj hnone hsent hpending
  have happ : ∀ eff : Effect α, i ∈ changed (s.log ++ [(i, eff)]) := by
    intro eff
    rw [changed_append]
    exact List.mem_append_right _ (List.mem_singleton_self i)
  rcases hcases with hmods | ⟨hhead, hrun, hnodel⟩
  · cases hres : runOps ops s.object.head with
    | error e =>
        -- the deletion of an object that does not exist
        rw [hres] at hmods
        obtain ⟨rfl, hhead, hdel⟩ := hmods
        rw [execute_error hsent hfault (write_error hres)]
        refine h.update hi [(i, r.effect true)] (kept_flight _ _) ?_ (fun _ hne => hne)
          (.inr ⟨hop, hnew, true, rfl⟩) (fun hread => absurd hread hop) (fun _ => ?_) rfl ?_
        · intro x hx
          obtain ⟨hkind, hentire, hext⟩ := hok.wf.deletion.mp hdel
          have hall : r.off = 0 ∧ r.len = img.layout.objectSize := by
            simpa [Req.isEntire] using hentire
          have heffect : r.effect true = .zero r.off r.len := by
            rcases hkind with hkind | hkind
            · rw [Req.effect, hkind]
              rfl
            · rw [Req.effect, hkind]
          rw [content_append, heffect, hhead, Image.view_none, img.below_of_extents hext hx]
          show (0 : α) = if r.off ≤ x ∧ x < r.off + r.len then 0 else _
          rw [if_pos (by omega)]
        · refine (hok.write hop).exec hok.wf hop hj (fun _ hne => hne) ?_
          rw [hsent]
          exact modsReply_absent (α := α) fault (iff_of_true (happ _) hdel)
        · exact if_pos ⟨rfl, hdel⟩
    | ok head' =>
        rw [hres] at hmods
        rw [execute_ok hsent hfault (write_ok hres)]
        have hkeep : img.extents ≠ [] → s.object.head ≠ none → head' ≠ none := by
          intro hext hne hnone'
          rcases hmods.2 hnone' with hnone' | hdel
          · exact hne hnone'
          · exact hext (hok.wf.deletion.mp hdel).2.2
        refine h.update hi [(i, r.effect s.object.head.isSome)] (kept_flight _ _) ?_ hkeep
          (.inr ⟨hop, hnew, _, rfl⟩) (fun hread => absurd hread hop) (fun _ => ?_) rfl rfl
        · intro x hx
          rw [content_append]
          exact (hmods.1 x hx).trans (apply_congr _ (h.agree x hx))
        · refine (hok.write hop).exec hok.wf hop hj hkeep ?_
          rw [hsent]
          exact modsReply_done (α := α) r.deletion fault (happ _)
  · -- the object is left to the copyup
    rw [execute_error hsent hfault (write_error hrun)]
    refine h.reply hi hj _ _ (fun hread => ?_) (fun exts hread => ?_) (fun _ => ?_) rfl rfl ?_
    · rw [hsent] at hread
      cases hread
    · rw [hsent] at hread
      cases hread
    · rw [hsent]
      refine modsReply_absent (α := α) fault (iff_of_false hnew ?_)
      rw [hnodel]
      simp
    · exact if_neg fun hboth => by
        rw [hnodel] at hboth
        cases hboth.2

/-- The execution of a copyup with the empty snapshot context. -/
theorem Inv.copyup (h : Inv img init s) (hi : s.reqs[i]? = some r) (hj : r.flight[j]? = some f)
    (hop : r.op ≠ .read) {bytes : List α} (hsent : f.sent = .copyup bytes)
    {o : Object α} (hwrite : s.object.write 0 [.copyup bytes] = .ok o) (res : Int)
    (hobject : s'.object = o) (hreqs : s'.reqs = s.replied i j r f res [])
    (hlog : s'.log = s.log) : Inv img init s' := by
  have hok := h.known i r hi
  have hbytes := (hok.write hop).copyup_bytes hj hsent
  have hhead : s'.object.head = some (s.object.head.getD bytes) := by
    rw [hobject]
    cases hwrite
    rfl
  refine h.update hi [] (kept_flight _ _) ?_ (fun _ _ => by simp [hhead]) (.inl rfl)
    (fun hread => absurd hread hop) (fun _ => ?_) hreqs ?_
  · intro x hx
    rw [hhead, List.append_nil, img.view_copyup hbytes _ hx]
    exact h.agree x hx
  · rw [List.append_nil]
    refine (hok.write hop).exec hok.wf hop hj (fun _ _ => by simp [hhead]) ?_
    rw [hsent]
    exact ⟨Iff.rfl, by simp [hhead]⟩
  · rw [hlog, List.append_nil]

/-- An OSD request that fails without being executed. -/
theorem Inv.skip (h : Inv img init s) (hi : s.reqs[i]? = some r) (hj : r.flight[j]? = some f)
    {fault : Option (Errno × Bool)} (hfault : Sys.skipped fault = true)
    (hcopy : ∀ bytes, f.sent ≠ .copyup bytes) :
    Inv img init { s with reqs := s.replied i j r f (Sys.reported fault 0) [] } := by
  have hneg : Sys.reported fault 0 < 0 ∧ Sys.reported fault 0 ≠ enoent := by
    cases fault with
    | none => cases hfault
    | some fault => exact fault.1.2
  refine h.reply hi hj _ _
    (fun _ => ⟨fun hres => absurd hres hneg.2, fun hle => absurd hle (by omega)⟩)
      (fun exts _ hzero => absurd hzero (by omega)) (fun _ => ?_) rfl rfl rfl
  cases hsent : f.sent with
  | write seq ops => exact ⟨fun hres => absurd hres (by omega), fun hres => absurd hres hneg.2⟩
  | copyup bytes => exact absurd hsent (hcopy bytes)
  | parentRead exts => exact ⟨Iff.rfl, fun hres => absurd hres (by omega)⟩
  | read off len => exact Iff.rfl
  | mapUpdate snap new current => exact Iff.rfl

/-- The execution of a read of the object. -/
theorem Inv.read (h : Inv img init s) (hi : s.reqs[i]? = some r) (hj : r.flight[j]? = some f)
    {off len : Nat} (hsent : f.sent = .read off len) {fault : Option (Errno × Bool)}
    (hfault : Sys.skipped fault = false) : Inv img init (s.execute img i j r f fault) := by
  have hok := h.known i r hi
  have hother : ∀ exts, f.sent ≠ .parentRead exts := by
    intro exts hexts
    rw [hsent] at hexts
    cases hexts
  cases hhead : s.object.head with
  | none =>
      have hrun : s.execute img i j r f fault =
          { s with reqs := s.replied i j r f (Sys.reported fault enoent) [] } := by
        simp only [Sys.execute, hfault, hsent, hhead, Bool.false_eq_true, if_false]
      rw [hrun]
      refine h.reply hi hj _ _ (fun _ => ⟨fun _ => h.absent hhead hok.wf hok.since, fun hle => ?_⟩)
        (fun exts hexts => absurd hexts (hother exts)) (fun _ => hsent ▸ Iff.rfl) rfl rfl rfl
      rcases reported_cases fault enoent with hres | ⟨hneg, -⟩
      · rw [hres] at hle
        exact absurd hle (by decide)
      · omega
  | some c =>
      obtain ⟨data, hdata⟩ : ∃ data, (c.drop off).take len = data := ⟨_, rfl⟩
      have hrun : s.execute img i j r f fault =
          { s with reqs := s.replied i j r f (Sys.reported fault data.length) data } := by
        rw [← hdata]
        simp only [Sys.execute, hfault, hsent, hhead, Bool.false_eq_true, if_false]
      rw [hrun]
      refine h.reply hi hj _ _ (fun hread => ?_) (fun exts hexts => absurd hexts (hother exts))
        (fun _ => hsent ▸ Iff.rfl) rfl rfl rfl
      rw [hsent] at hread
      cases hread
      obtain ⟨hlen, hseen⟩ := reads_content h hhead hok.wf hok.since
      rw [hdata] at hlen hseen
      rcases reported_cases fault data.length with hres | ⟨hneg, hne⟩
      · rw [hres]
        refine ⟨fun habsent => ?_, fun _ => ⟨rfl, hlen, hseen⟩⟩
        rw [enoent] at habsent
        omega
      · exact ⟨fun habsent => absurd habsent hne, fun hle => absurd hle (by omega)⟩

/-- The execution of an OSD request. -/
theorem Inv.execute (h : Inv img init s) (hi : s.reqs[i]? = some r) (hj : r.flight[j]? = some f)
    (hnone : f.reply = none)
    (hsub : r.submitted = true)
    (hfirst : f.sent.target = .unordered ∨ s.first f (·.reply.isNone) = true)
    {fault : Option (Errno × Bool)} (hguard : s.CopyupsRun (.exec i j fault)) :
    Inv img init (s.execute img i j r f fault) := by
  cases hfault : Sys.skipped fault with
  | true =>
      have hskip := h.skip hi hj hfault fun bytes => hguard hfault r f bytes hi hj
      simpa only [Sys.execute, hfault, if_true] using hskip
  | false =>
      cases hsent : f.sent with
      | read off len => exact h.read hi hj hsent hfault
      | parentRead exts =>
          refine h.reply hi hj (Sys.reported fault 0) (parentData img.parent exts) (fun hread => ?_)
            (fun exts' hexts _ => ?_) (fun _ => ?_) ?_ ?_ ?_
          · rw [hsent] at hread
            cases hread
          · rw [hsent] at hexts
            cases hexts
            rfl
          · rw [hsent]
            exact ⟨Iff.rfl, fun _ => rfl⟩
          · simp only [Sys.execute, hfault, hsent, Bool.false_eq_true, if_false]
          · simp only [Sys.execute, hfault, hsent, Bool.false_eq_true, if_false]
          · simp only [Sys.execute, hfault, hsent, Bool.false_eq_true, if_false]
      | mapUpdate snap new current =>
          refine h.reply hi hj (Sys.reported fault 0) [] (fun hread => ?_) (fun exts hexts => ?_)
            (fun _ => hsent ▸ Iff.rfl) ?_ ?_ ?_
          · rw [hsent] at hread
            cases hread
          · rw [hsent] at hexts
            cases hexts
          · simp only [Sys.execute, hfault, hsent, Bool.false_eq_true, if_false]
          · simp only [Sys.execute, hfault, hsent, Bool.false_eq_true, if_false]
          · simp only [Sys.execute, hfault, hsent, Bool.false_eq_true, if_false]
      | copyup bytes =>
          have hop := h.op_ne_read hi hj (by rw [hsent]; simp [Sent.target])
          have hwrite := @write_ok _ _ s.object 0 [.copyup bytes] _ rfl
          refine h.copyup hi hj hop hsent hwrite (Sys.reported fault 0) ?_ ?_ ?_
          · simp only [Sys.execute, hfault, hsent, hwrite, Bool.false_eq_true, if_false]
          · simp only [Sys.execute, hfault, hsent, hwrite, Bool.false_eq_true, if_false]
          · simp only [Sys.execute, hfault, hsent, hwrite, Bool.false_eq_true, if_false]
      | write seq ops =>
          have htarget : f.sent.target = .object := by
            rw [hsent]
            rfl
          have hop := h.op_ne_read hi hj (by rw [htarget]; simp)
          rcases hfirst with hun | hfirst
          · rw [htarget] at hun
            cases hun
          · exact h.modify hi hj hop hsent hsub hnone hfirst hfault

/-- What the execution of an OSD request does to the object. -/
theorem Inv.execute_object (h : Inv img init s) (hi : s.reqs[i]? = some r)
    (hj : r.flight[j]? = some f) (hnone : f.reply = none)
    (hsub : r.submitted = true)
    (hfirst : f.sent.target = .unordered ∨ s.first f (·.reply.isNone) = true)
    (fault : Option (Errno × Bool)) :
    (s.execute img i j r f fault).object = s.object ∨
      (∃ (k : Nat) (q : Req α) (ops : List (OsdOp α)), s.reqs[k]? = some q ∧ q.op ≠ .read ∧
        s.object.write q.seq ops = .ok (s.execute img i j r f fault).object) ∨
      ∃ bytes, CopyupBytes img bytes ∧
        s.object.write 0 [.copyup bytes] = .ok (s.execute img i j r f fault).object := by
  have hok := h.known i r hi
  cases hfault : Sys.skipped fault with
  | true => exact .inl (by simp only [Sys.execute, hfault, if_true])
  | false =>
      cases hsent : f.sent with
      | read off len =>
          cases hhead : s.object.head with
          | none =>
              exact .inl (by
                simp only [Sys.execute, hfault, hsent, hhead, Bool.false_eq_true, if_false])
          | some c =>
              exact .inl (by
                simp only [Sys.execute, hfault, hsent, hhead, Bool.false_eq_true, if_false])
      | parentRead exts =>
          exact .inl (by simp only [Sys.execute, hfault, hsent, Bool.false_eq_true, if_false])
      | mapUpdate snap new current =>
          exact .inl (by simp only [Sys.execute, hfault, hsent, Bool.false_eq_true, if_false])
      | copyup bytes =>
          have hop := h.op_ne_read hi hj (by rw [hsent]; simp [Sent.target])
          have hwrite := @write_ok _ _ s.object 0 [.copyup bytes] _ rfl
          refine .inr (.inr ⟨bytes, (hok.write hop).copyup_bytes hj hsent, ?_⟩)
          simp only [Sys.execute, hfault, hsent, hwrite, Bool.false_eq_true, if_false]
      | write seq ops =>
          have htarget : f.sent.target = .object := by
            rw [hsent]
            rfl
          have hop := h.op_ne_read hi hj (by rw [htarget]; simp)
          rcases hfirst with hun | hfirst
          · rw [htarget] at hun
            cases hun
          · obtain ⟨rfl, -, -⟩ := (hok.write hop).write_cases hok.wf hop hj hnone hsent
              (first_le hi hsub hfirst htarget)
            cases hres : runOps ops s.object.head with
            | error e =>
                rw [execute_error hsent hfault (write_error hres)]
                exact .inl rfl
            | ok head =>
                rw [execute_ok hsent hfault (write_ok hres)]
                exact .inr (.inl ⟨i, r, ops, hi, hop, write_ok hres⟩)

/-- An execution gives the request a reply. -/
theorem execute_reqs (fault : Option (Errno × Bool)) :
    ∃ res data, (s.execute img i j r f fault).reqs = s.replied i j r f res data := by
  rw [Sys.execute]
  split
  · exact ⟨_, _, rfl⟩
  · split
    · split
      · exact ⟨_, _, rfl⟩
      · exact ⟨_, _, rfl⟩
    · exact ⟨_, _, rfl⟩
    · exact ⟨_, _, rfl⟩
    · split
      · exact ⟨_, _, rfl⟩
      · exact ⟨_, _, rfl⟩
    · split
      · exact ⟨_, _, rfl⟩
      · exact ⟨_, _, rfl⟩

/-! ## The submission of OSD requests -/

/-- What a call has decided to send is submitted. -/
theorem Inv.post (h : Inv img init s) (hi : s.reqs[i]? = some r) : Inv img init (s.post i r) := by
  have hok := h.known i r hi
  refine h.update hi [] (kept_flight (restamp s.ticket r.flight) true) ?_ (fun _ hne => hne)
    (.inl rfl) (fun hop => ?_) (fun hop => ?_) rfl ?_
  · rw [List.append_nil]
    exact h.agree
  · rw [List.append_nil]
    exact (hok.read hop).restamp s.ticket true
  · rw [List.append_nil]
    exact (hok.write hop).restamp s.ticket true
  · rw [List.append_nil]
    rfl

/-! ## The reply of an OSD request -/

/-- A request that changes the object is in none of the states of a read. -/
theorem Req.WriteOk.control_ne {head : Option (List α)} {applied : Prop}
    (h : r.WriteOk img head applied) : r.control ≠ .readObject := by
  intro hctl
  simp only [Req.WriteOk, hctl] at h

/-- What the call for a reply keeps of the request. -/
theorem Inv.kept_callback [DecidableEq α] (h : Inv img init s) (hi : s.reqs[i]? = some r) (j : Nat)
    (mem : MapState) (alloc : Nat → Option Errno) (result : Int) (data : List α) :
    Kept img r (launched s.ticket
      (Req.advance img { r with flight := r.flight.eraseIdx j } mem alloc result data)) := by
  have hok := h.known i r hi
  refine kept_launched ((kept_flight (r.flight.eraseIdx j) r.submitted).trans
    (kept_advance mem alloc result data ?_ ?_))
  · intro hctl
    by_contra hop
    exact (hok.write hop).control_ne hctl
  · intro hctl hop
    exact (hok.read hop).control_ne hctl

/-- A reply is handled. -/
theorem Inv.deliver [DecidableEq α] (h : Inv img init s) (hi : s.reqs[i]? = some r)
    (hj : r.flight[j]? = some f) {result : Int} {data : List α}
    (hreply : f.reply = some (result, data)) (alloc : Nat → Option Errno) :
    Inv img init (s.callback img i j r f result data alloc) := by
  have hok := h.known i r hi
  -- the state of the object map in memory does not matter here
  obtain ⟨mem, hmem⟩ : ∃ mem, (s.callback img i j r f result data alloc).mem = mem := ⟨_, rfl⟩
  have hkept := h.kept_callback hi j mem alloc result data
  refine h.update hi [] hkept ?_ (fun _ hne => hne) (.inl rfl) (fun hop => ?_) (fun hop => ?_) ?_ ?_
  · rw [List.append_nil]
    exact h.agree
  · rw [List.append_nil]
    exact readOk_advance s.ticket mem alloc (hok.read hop) hj hreply
  · rw [List.append_nil]
    exact writeOk_advance s.ticket mem alloc hok.wf hop (hok.write hop) hj hreply
  · rw [← hmem]
    rfl
  · rw [List.append_nil]
    rfl

/-- Every step keeps the invariant. -/
theorem Inv.step [DecidableEq α] (h : Inv img init s) (hmap : s.MapRight img) {e : Event α}
    (hguard : s.CopyupsRun e) (hstep : s.step img e = some s') : Inv img init s' := by
  cases e with
  | start op off len snaps seq alloc =>
      simp only [Sys.step] at hstep
      split at hstep
      · rename_i hvalid
        obtain ⟨r, hr, rfl⟩ := Option.map_eq_some_iff.mp hstep
        exact h.start hmap (started_initial hvalid hr) alloc
      · cases hstep
  | submit i =>
      simp only [Sys.step, Option.bind_eq_bind, Option.bind_eq_some_iff] at hstep
      obtain ⟨r, hi, hrest⟩ := hstep
      split at hrest
      · cases hrest
      · cases hrest
        exact h.post hi
  | exec i j fault =>
      simp only [Sys.step, Option.bind_eq_bind, Option.bind_eq_some_iff] at hstep
      obtain ⟨r, hi, f, hj, hrest⟩ := hstep
      split at hrest
      · rename_i hready
        cases hrest
        obtain ⟨hsub, hnone, hfirst⟩ := hready
        exact h.execute hi hj (Option.isNone_iff_eq_none.mp hnone) hsub hfirst hguard
      · cases hrest
  | deliver i j alloc =>
      simp only [Sys.step, Option.bind_eq_bind, Option.bind_eq_some_iff] at hstep
      obtain ⟨r, hi, f, hj, reply, hreply, hrest⟩ := hstep
      split at hrest
      · cases hrest
        exact h.deliver hi hj hreply alloc
      · cases hrest

/-- Nothing has been done. -/
def Sys.idle (head : Option (List α)) (clone : Nat → Option (List α)) (seq : Nat) (map : MapState) :
    Sys α where
  object := { head := head, seq := seq, clone := clone }
  mem := map
  map := map
  reqs := []
  ticket := 0
  log := []

/-- What holds before the first request. -/
theorem inv_idle (img : Image α) (head : Option (List α)) (clone : Nat → Option (List α))
    (seq : Nat) (map : MapState) : Inv img (img.view head) (Sys.idle head clone seq map) :=
  ⟨fun _ _ => rfl, fun i r hi => (by cases hi), List.nodup_nil, fun n e he => (by cases he)⟩

end Inv

end XcpCephRbd.Rbd
