import XcpCephRbd.Msgr2.Link

/-!
# Skips without a discarding iterator

The receiver of the kernels before 5.0 against the one that discards: `Refines` relates two
connections that differ in nothing but how a skip is carried, in chunks or at once. Every run of the
first is matched by a run of the second over the same events, the re-armed chunks left out, so that
the first too stays in step with its wire.
-/

namespace XcpCephRbd.Msgr2

open Wire

/-- A skip is under way. -/
def Con.skipping (c : Con) : Bool := c.state.inFrames && c.inState = .finishSkip

/-- The bytes still to be skipped. -/
def Con.toSkip (c : Con) : Nat := c.inIter + c.inSkipResid

/-- The connection with other values in the fields that only one receiver uses. -/
def Con.aside (c : Con) (bvec resid : Nat) : Con := { c with inBvec := bvec, inSkipResid := resid }

/-- The connection `c` of a receiver that skips in chunks does what the connection `d` of a receiver
that discards does. -/
structure Refines (c d : Con) : Prop where
  same : d = { c.aside d.inBvec d.inSkipResid with inIter := d.inIter }
  bvec : c.inState = .prepareReadDataCont → d.inBvec = c.inBvec
  iter : d.inIter = if c.skipping then c.toSkip else c.inIter

/-- The results of the two receivers agree: the same error, or connections that correspond and ask
for something in the one exactly where they do in the other. -/
inductive Agree : Except Errno Con → Except Errno Con → Prop where
  | error (e : Errno) : Agree (.error e) (.error e)
  | ok {c d : Con} : Refines c d → (c.inIter = 0 ↔ d.inIter = 0) → Agree (.ok c) (.ok d)

/-- Connections that differ in the unused fields only. -/
theorem refines_aside {c : Con} {bvec resid : Nat} (hskipping : c.skipping = false)
    (hbvec : c.inState = .prepareReadDataCont → bvec = c.inBvec) :
    Refines c (c.aside bvec resid) :=
  ⟨rfl, hbvec, by simp [hskipping, Con.aside]⟩

theorem agree_aside {c : Con} {bvec resid : Nat} (hstate : c.inState ≠ .finishSkip)
    (hbvec : c.inState = .prepareReadDataCont → bvec = c.inBvec) :
    Agree (.ok c) (.ok (c.aside bvec resid)) :=
  .ok (refines_aside (by simp [Con.skipping, hstate]) hbvec) Iff.rfl

/-- A skip of `len` bytes begun by both. -/
theorem refines_setInSkip {c : Con} {bvec resid len : Nat} (hframes : c.state.inFrames = true) :
    Refines { c.setInSkip .compat len with inState := .finishSkip }
      { (c.aside bvec resid).setInSkip .discard len with inState := .finishSkip } := by
  refine ⟨rfl, by simp, ?_⟩
  have hskipping : ({ c.setInSkip .compat len with inState := .finishSkip } : Con).skipping =
      true := by
    simp [Con.skipping, Con.setInSkip, Con.armSkipChunk, Con.setInBvec, hframes]
  rw [hskipping]
  show len = min len pageSize + (len - min len pageSize)
  omega

theorem agree_setInSkip {c : Con} {bvec resid len : Nat} (hframes : c.state.inFrames = true) :
    Agree (.ok { c.setInSkip .compat len with inState := .finishSkip })
      (.ok { (c.aside bvec resid).setInSkip .discard len with inState := .finishSkip }) := by
  refine .ok (refines_setInSkip hframes) ?_
  show min len pageSize = 0 ↔ len = 0
  unfold pageSize
  omega

theorem agree_check {f g : Except Errno Con} {input : Input} (h : Agree f g) :
    Agree (input.check >>= fun _ => f) (input.check >>= fun _ => g) := by
  cases hfails : input.fails with
  | none => simpa [Input.check, hfails, bind, Except.bind] using h
  | some e =>
      simp only [Input.check, hfails, bind, Except.bind]
      exact .error e

theorem Con.controlEffect_aside (c : Con) (input : Input) (bvec resid : Nat) :
    (c.aside bvec resid).controlEffect input =
      (c.controlEffect input).map fun c' => c'.aside bvec resid := by
  simp only [Con.controlEffect, Con.aside]
  split <;> simp_all only [Except.map]
  cases input.mode <;> rfl

/-- Both ask for the first piece of data alike. -/
theorem agree_prepareReadData {c : Con} {msg : Msg} {input : Input} {bvec resid : Nat} :
    Agree (c.prepareReadData msg input) ((c.aside bvec resid).prepareReadData msg input) := by
  refine agree_check ?_
  exact agree_aside (c := { c.setInBvec (Con.getBvecAt msg.dataLen input.piece) with
    inCursor := msg.dataLen, inState := .prepareReadDataCont }) (by simp) (fun _ => rfl)

/-- Both ask for the next page of ciphertext alike. -/
theorem agree_prepareReadEncPage {c : Con} {bvec resid : Nat} :
    Agree (.ok c.prepareReadEncPage) (.ok (c.aside bvec resid).prepareReadEncPage) := by
  refine agree_aside (c := c.prepareReadEncPage) ?_ ?_
  · unfold Con.prepareReadEncPage
    dsimp only
    split <;> simp
  · unfold Con.prepareReadEncPage
    dsimp only
    split <;> simp

/-- Both begin to read a message alike. -/
theorem agree_readMessage {c : Con} {msg : Msg} {input : Input} {bvec resid : Nat} :
    Agree
      (if msg.frontLen = 0 ∧ msg.middleLen = 0 ∧ msg.dataLen = 0 then
        ({ c with inMsg := some msg } : Con).processMessage input
      else if c.secure then .ok (({ c with inMsg := some msg } : Con).prepareReadTailSecure msg)
      else ({ c with inMsg := some msg } : Con).prepareReadTailPlain msg input)
      (if msg.frontLen = 0 ∧ msg.middleLen = 0 ∧ msg.dataLen = 0 then
        ({ c.aside bvec resid with inMsg := some msg } : Con).processMessage input
      else if c.secure then
        .ok (({ c.aside bvec resid with inMsg := some msg } : Con).prepareReadTailSecure msg)
      else ({ c.aside bvec resid with inMsg := some msg } : Con).prepareReadTailPlain msg
      input) := by
  split
  · unfold Con.processMessage
    split
    · exact .error _
    · exact agree_aside (by simp [Con.prepareReadPreamble]) (by simp [Con.prepareReadPreamble])
  · split
    · exact agree_prepareReadEncPage
    · unfold Con.prepareReadTailPlain
      split
      · exact agree_prepareReadData
      · split
        · exact agree_aside (by simp) (by simp)
        · exact agree_aside (by simp) (by simp)

/-- Both handle a control segment alike. -/
theorem agree_handleControlBody {c : Con} {input : Input} {bvec resid : Nat}
    (hframes : c.state.inFrames = true) :
    Agree (c.handleControlBody .compat input)
      ((c.aside bvec resid).handleControlBody .discard input) := by
  have hheader : (c.aside bvec resid).processMessageHeader input =
      c.processMessageHeader input := rfl
  unfold Con.handleControlBody
  by_cases htag : c.inDesc.tag = .message
  · have htag' : (c.aside bvec resid).inDesc.tag = .message := htag
    simp only [htag, htag', ne_eq, not_true_eq_false, if_false, hheader]
    cases hverdict : c.processMessageHeader input with
    | error e => exact .error e
    | ok verdict =>
        cases verdict with
        | none =>
            simp only [bind, Except.bind, pure, Except.pure, Con.prepareSkipMessage]
            by_cases hlen : c.inDesc.tailLen c.secure = 0
            · have hlen' : (c.aside bvec resid).inDesc.tailLen (c.aside bvec resid).secure = 0 :=
                hlen
              simp only [hlen, hlen', if_true]
              exact agree_aside (c := c.finishSkipped)
                (by simp [Con.finishSkipped, Con.prepareReadPreamble])
                (by simp [Con.finishSkipped, Con.prepareReadPreamble])
            · have hlen' : (c.aside bvec resid).inDesc.tailLen (c.aside bvec resid).secure ≠ 0 :=
                hlen
              simp only [hlen, hlen', if_false]
              exact agree_setInSkip hframes
        | some msg => exact agree_readMessage
  · have htag' : (c.aside bvec resid).inDesc.tag ≠ .message := htag
    simp only [htag, htag', ne_eq, not_false_eq_true, if_true, Con.processControl,
      Con.controlEffect_aside]
    cases c.controlEffect input with
    | error e => exact .error e
    | ok done =>
        exact agree_aside (c := done.prepareReadPreamble) (by simp [Con.prepareReadPreamble])
          (by simp [Con.prepareReadPreamble])

section

variable {crc32c : Bytes → UInt32}

/-- Both handle a preamble alike. -/
theorem agree_handlePreamble {c : Con} {input : Input} {bvec resid : Nat}
    (hframes : c.state.inFrames = true) :
    Agree (c.handlePreamble crc32c .compat input)
      ((c.aside bvec resid).handlePreamble crc32c .discard input) := by
  refine agree_check ?_
  cases hdecode : decodePreamble crc32c input.preamble with
  | error e => exact .error e
  | ok desc =>
      simp only [bind, Except.bind]
      have hsecure : (c.aside bvec resid).secure = c.secure := rfl
      rw [hsecure]
      cases hs : c.secure with
      | false =>
          have hmode : c.conMode ≠ .secure := by simpa [Con.secure] using hs
          have hmode' : (c.aside bvec resid).conMode ≠ .secure := hmode
          simp only [Bool.false_eq_true, if_false, Con.secure, hmode, hmode', decide_false,
            not_false_eq_true, if_true]
          exact agree_aside (c := ({ c with inDesc := desc } : Con).prepareReadControl)
            (by simp [Con.prepareReadControl]) (by simp [Con.prepareReadControl])
      | true =>
          have hmode : c.conMode = .secure := by simpa [Con.secure] using hs
          have hmode' : (c.aside bvec resid).conMode = .secure := hmode
          simp only [if_true, Con.secure, Con.gcmIncNonce, hmode, hmode', decide_true,
            not_true_eq_false, if_false]
          split
          · exact agree_aside
              (c := ({ c with inGcmNonce := c.inGcmNonce + 1, inDesc := desc, conMode := .secure } :
                Con).prepareReadControlRemainder)
              (by simp [Con.prepareReadControlRemainder])
              (by simp [Con.prepareReadControlRemainder])
          · exact agree_handleControlBody hframes

/-- A message that is over, in both. -/
theorem agree_processMessage {c : Con} {input : Input} {bvec resid : Nat} :
    Agree (c.processMessage input) ((c.aside bvec resid).processMessage input) := by
  unfold Con.processMessage
  split
  · exact .error _
  · exact agree_aside
      (c := ({ c with inMsg := none, inSeq := c.inSeq + 1 } : Con).prepareReadPreamble)
      (by simp [Con.prepareReadPreamble]) (by simp [Con.prepareReadPreamble])

/-- A skip that is over, in both. -/
theorem agree_finishSkip {c : Con} {bvec resid : Nat} (hresid : c.inSkipResid = 0) :
    Agree (.ok (c.finishSkip .compat)) (.ok ((c.aside bvec resid).finishSkip .discard)) := by
  have hsecure : (c.aside bvec resid).secure = c.secure := rfl
  simp only [Con.finishSkip, hresid, gt_iff_lt, Nat.lt_irrefl, and_false, if_false, reduceCtorEq,
    false_and, hsecure]
  cases c.secure with
  | false =>
      exact agree_aside (c := c.finishSkipped)
        (by simp [Con.finishSkipped, Con.prepareReadPreamble])
        (by simp [Con.finishSkipped, Con.prepareReadPreamble])
  | true =>
      exact agree_aside (c := c.gcmIncNonce.finishSkipped)
        (by simp [Con.finishSkipped, Con.prepareReadPreamble])
        (by simp [Con.finishSkipped, Con.prepareReadPreamble])

/-- Unless a chunk is to be armed again, both do the same with what was read. -/
theorem agree_handleFrame {c : Con} {input : Input} {bvec resid : Nat}
    (hframes : c.state.inFrames = true)
    (hbvec : c.inState = .prepareReadDataCont → bvec = c.inBvec)
    (hresid : c.inState = .finishSkip → c.inSkipResid = 0) :
    Agree (c.handleFrame crc32c .compat input)
      ((c.aside bvec resid).handleFrame crc32c .discard input) := by
  have hsame : (c.aside bvec resid).inState = c.inState := rfl
  unfold Con.handleFrame
  rw [hsame]
  cases hstate : c.inState with
  | unset => exact .error _
  | handlePreamble => exact agree_handlePreamble hframes
  | handleControl => exact agree_check (agree_handleControlBody hframes)
  | handleControlRemainder =>
      exact agree_check (agree_handleControlBody (c := c.gcmIncNonce) hframes)
  | prepareReadData =>
      have hmsg : (c.aside bvec resid).inMsg = c.inMsg := rfl
      simp only [hmsg]
      cases c.inMsg with
      | none => exact .error _
      | some msg => exact agree_prepareReadData
  | prepareReadDataCont =>
      rw [hbvec hstate]
      simp only [Con.prepareReadDataCont, Con.aside]
      by_cases hmore : c.inCursor - c.inBvec = 0
      · simp only [hmore, ne_eq, not_true_eq_false, if_false]
        exact agree_aside (by simp) (by simp)
      · simp only [hmore, ne_eq, not_false_eq_true, if_true]
        exact agree_aside (by simp [Con.setInBvec, hstate]) (fun _ => rfl)
  | prepareReadEncPage => exact agree_prepareReadEncPage
  | handleEpilogue =>
      refine agree_check ?_
      have hsecure : (c.aside bvec resid).secure = c.secure := rfl
      rw [hsecure]
      cases c.secure with
      | false => exact agree_processMessage
      | true => exact agree_processMessage (c := c.gcmIncNonce)
  | finishSkip => exact agree_finishSkip (hresid hstate)

theorem agree_process {c : Con} {input : Input} {bvec resid : Nat}
    (hbvec : c.inState = .prepareReadDataCont → bvec = c.inBvec)
    (hresid : c.skipping = true → c.inSkipResid = 0) :
    Agree (c.process crc32c .compat input)
      ((c.aside bvec resid).process crc32c .discard input) := by
  have hsame : (c.aside bvec resid).state = c.state := rfl
  cases hframes : c.state.inFrames with
  | true =>
      rw [Con.process_of_inFrames hframes, Con.process_of_inFrames (hsame ▸ hframes)]
      exact agree_handleFrame hframes hbvec fun h => hresid (by simp [Con.skipping, hframes, h])
  | false =>
      unfold Con.process
      rw [hsame]
      split
      · exact agree_check (.ok (refines_aside rfl hbvec) Iff.rfl)
      · exact agree_check (agree_aside
          (c := ({ c with state := .hello } : Con).prepareReadPreamble)
          (by simp [Con.prepareReadPreamble]) (by simp [Con.prepareReadPreamble]))
      · exact .error _
      · simp_all [State.inFrames]

/-- The two receivers succeed and fail together. -/
theorem agree_populateInIter {c : Con} {input : Input} {bvec resid : Nat}
    (hbvec : c.inState = .prepareReadDataCont → bvec = c.inBvec)
    (hresid : c.skipping = true → c.inSkipResid = 0) :
    Agree (c.populateInIter crc32c .compat input)
      ((c.aside bvec resid).populateInIter crc32c .discard input) := by
  have hagree : Agree (c.process crc32c .compat input)
    ((c.aside bvec resid).process crc32c .discard input) := agree_process hbvec hresid
  unfold Con.populateInIter
  revert hagree
  generalize c.process crc32c .compat input = result
  generalize (c.aside bvec resid).process crc32c .discard input = result'
  intro hagree
  cases hagree with
  | error e => exact .error e
  | @ok c' d' hrefines hzero =>
      simp only [bind, Except.bind]
      by_cases hiter : c'.inIter = 0
      · rw [if_pos hiter, if_pos (hzero.mp hiter)]
        exact .error _
      · rw [if_neg hiter, if_neg (mt hzero.mpr hiter)]
        exact .ok hrefines hzero

/-- The connections correspond, and so do the wires behind them. -/
structure LinkRefines (w v : Link) : Prop where
  con : Refines w.con v.con
  received : v.received = w.received
  account : v.account = w.account

/-- A connection that corresponds to another, in terms of that one. -/
theorem Refines.exists_eq {c d : Con} (h : Refines c d) :
    ∃ bvec resid, d = { c.aside bvec resid with
        inIter := if c.skipping then c.toSkip else c.inIter } ∧
      (c.inState = .prepareReadDataCont → bvec = c.inBvec) := by
  refine ⟨d.inBvec, d.inSkipResid, ?_, h.bvec⟩
  rw [← h.iter]
  exact h.same

/-- A read that both receivers do. -/
theorem Refines.recv {c d : Con} {n : Nat} (h : Refines c d) (hn : n ≤ c.inIter) :
    n ≤ d.inIter ∧ Refines { c with inIter := c.inIter - n } { d with inIter := d.inIter - n } := by
  obtain ⟨bvec, resid, rfl, hbvec⟩ := h.exists_eq
  have hsame : ({ c with inIter := c.inIter - n } : Con).skipping = c.skipping := rfl
  cases hskipping : c.skipping with
  | false =>
      simp only [Bool.false_eq_true, if_false]
      refine ⟨hn, rfl, hbvec, ?_⟩
      simp [hsame, hskipping]
  | true =>
      simp only [if_true, Con.toSkip]
      refine ⟨by omega, rfl, hbvec, ?_⟩
      show c.inIter + c.inSkipResid - n =
        if c.skipping then c.inIter - n + c.inSkipResid else c.inIter - n
      rw [hskipping, if_pos rfl]
      omega

/-- A message revoked in both is skipped by both. -/
theorem Refines.revoke {c d : Con} {msg : Msg} (h : Refines c d)
    (hskipping : c.skipping = false) (hframes : c.state.inFrames = true) :
    Refines (c.revokeIncoming .compat msg) (d.revokeIncoming .discard msg) := by
  obtain ⟨bvec, resid, rfl, hbvec⟩ := h.exists_eq
  simp only [hskipping, Bool.false_eq_true, if_false]
  show Refines (c.revokeIncoming .compat msg) ((c.aside bvec resid).revokeIncoming .discard msg)
  have hsame : (c.aside bvec resid).inState = c.inState := rfl
  unfold Con.revokeIncoming
  simp only [hsame]
  split
  · exact refines_setInSkip (c := { c with inMsg := none }) hframes
  · rename_i hstate
    rw [hbvec hstate]
    exact refines_setInSkip (c := { c with
      inMsg := none, inCursor := c.inCursor - (c.inBvec - c.inIter) }) hframes
  · exact refines_setInSkip (c := { c with inMsg := none }) hframes
  · exact refines_setInSkip (c := { c with inMsg := none }) hframes
  · exact refines_aside (c := { c with inMsg := none }) hskipping hbvec

/-- A chunk that is drained while more is to be skipped: the next one is armed, and nothing else
changes. -/
theorem Con.populateInIter_of_resid {c : Con} (input : Input) (hskipping : c.skipping = true)
    (hresid : 0 < c.inSkipResid) :
    c.populateInIter crc32c .compat input = .ok c.armSkipChunk := by
  simp only [Con.skipping, Bool.and_eq_true, decide_eq_true_eq] at hskipping
  refine Con.populateInIter_eq_ok_iff.mpr ⟨?_, ?_⟩
  · rw [Con.process_of_inFrames hskipping.1]
    simp [Con.handleFrame, hskipping.2, Con.finishSkip, hresid]
  · show min c.inSkipResid pageSize ≠ 0
    unfold pageSize
    omega

theorem Refines.armSkipChunk {c d : Con} (h : Refines c d) (hskipping : c.skipping = true)
    (hiter : c.inIter = 0) : Refines c.armSkipChunk d := by
  have hsame : c.armSkipChunk.skipping = c.skipping := rfl
  refine ⟨h.same, ?_, ?_⟩
  · intro hstate
    have hstate : c.inState = .prepareReadDataCont := hstate
    simp [Con.skipping, hstate] at hskipping
  · rw [h.iter, hsame, hskipping, if_pos rfl, if_pos rfl]
    show c.inIter + c.inSkipResid =
      min c.inSkipResid pageSize + (c.inSkipResid - min c.inSkipResid pageSize)
    omega

theorem Account.populated_of_skipping {a : Account} {c : Con} {input : Input}
    (h : c.skipping = true) : a.populated crc32c c input = a := by
  simp only [Con.skipping, Bool.and_eq_true, decide_eq_true_eq] at h
  rw [Account.populated_of_inFrames h.1]
  simp [Con.handled, h.2]

/-- A message that is being read is not skipped. -/
theorem Synced.not_skipping {w : Link} {msg : Msg} (h : Synced w) (hmsg : w.con.inMsg = some msg) :
    w.con.skipping = false := by
  rw [Bool.eq_false_iff]
  intro hskipping
  simp only [Con.skipping, Bool.and_eq_true, decide_eq_true_eq] at hskipping
  obtain ⟨-, hrest⟩ := (synced_iff_inFrame hskipping.1).mp h
  simp only [hskipping.2] at hrest
  simp [hrest.1] at hmsg

/-- One step of the receiver that skips in chunks is a step of the one that discards, or the arming
of a chunk, which that one does not see. -/
theorem LinkRefines.step {w w' v : Link} {label : Label} (h : LinkRefines w v) (hv : Synced v)
    (hstep : Msgr2.step crc32c .compat w label = some w') :
    LinkRefines w' v ∨
      ∃ v', Msgr2.step crc32c .discard v label = some v' ∧ LinkRefines w' v' := by
  obtain ⟨d, received, account⟩ := v
  obtain ⟨c, received', account'⟩ := w
  obtain ⟨hcon, hreceived, haccount⟩ := h
  obtain rfl : received = received' := hreceived
  obtain rfl : account = account' := haccount
  have hcon : Refines c d := hcon
  obtain ⟨bvec, resid, hd, hbvec⟩ := hcon.exists_eq
  have hstate : d.state = c.state := by rw [hd]; rfl
  have hmsg : d.inMsg = c.inMsg := by rw [hd]; rfl
  cases label with
  | connect =>
      simp only [Msgr2.step] at hstep ⊢
      split at hstep
      · rename_i hclosed
        cases hstep
        refine .inr ⟨_, if_pos (hstate.trans hclosed), ⟨?_, rfl, ?_⟩⟩
        · rw [hd]
          exact refines_aside (c := c.prepareReadBannerPrefix) rfl hbvec
        · rw [hd]
          rfl
      · cases hstep
  | recv n =>
      simp only [Msgr2.step] at hstep ⊢
      split at hstep
      · rename_i hn
        cases hstep
        obtain ⟨hle, hrefines⟩ := hcon.recv hn.2
        exact .inr ⟨_, if_pos ⟨hn.1, hle⟩, ⟨hrefines, rfl, rfl⟩⟩
      · cases hstep
  | populate input =>
      simp only [Msgr2.step] at hstep ⊢
      split at hstep
      · rename_i henabled
        by_cases hrearm : c.skipping = true ∧ 0 < c.inSkipResid
        · rw [Con.populateInIter_of_resid input hrearm.1 hrearm.2] at hstep
          cases hstep
          -- another chunk of the same skip: the discarding receiver has no step for it
          exact .inl ⟨hcon.armSkipChunk hrearm.1 henabled.2, rfl,
            (Account.populated_of_skipping hrearm.1).symm⟩
        -- nothing is left to skip, so that both have the same iterator
        · have hd : d = c.aside bvec resid := by
            rw [hd]
            have hiter : (if c.skipping then c.toSkip else c.inIter) = c.inIter := by
              unfold Con.toSkip
              split
              · rename_i hskipping
                have hzero : ¬ 0 < c.inSkipResid := fun h => hrearm ⟨hskipping, h⟩
                omega
              · rfl
            rw [hiter]
            rfl
          subst hd
          have hagree : Agree (c.populateInIter crc32c .compat input)
              ((c.aside bvec resid).populateInIter crc32c .discard input) :=
            agree_populateInIter hbvec fun hskipping => by
              have hzero : ¬ 0 < c.inSkipResid := fun h => hrearm ⟨hskipping, h⟩
              omega
          right
          rw [if_pos (show (c.aside bvec resid).state ≠ .closed ∧ (c.aside bvec resid).inIter = 0
            from henabled)]
          generalize c.populateInIter crc32c .compat input = result at hstep hagree
          generalize (c.aside bvec resid).populateInIter crc32c .discard input = result' at hagree ⊢
          cases hagree with
          | error e =>
              cases hstep
              exact ⟨_, rfl, refines_aside (c := c.conFault) rfl hbvec, rfl, rfl⟩
          | ok hrefines _ =>
              cases hstep
              exact ⟨_, rfl, hrefines, rfl, rfl⟩
      · cases hstep
  | revoke =>
      simp only [Msgr2.step] at hstep ⊢
      cases hsome : c.inMsg with
      | none => simp [hsome] at hstep
      | some msg =>
          simp only [hsome] at hstep
          split at hstep
          · rename_i hiter
            cases hstep
            have hframes : d.state.inFrames = true := (hv.revoke (hmsg.trans hsome)).1
            have hnot : c.skipping = false := by
              have hnot := hv.not_skipping (hmsg.trans hsome)
              rw [hd] at hnot
              exact hnot
            have hiter' : d.inIter ≠ 0 := by
              rw [hcon.iter, hnot]
              exact hiter
            refine .inr ⟨⟨d.revokeIncoming .discard msg, received, account⟩, ?_,
              hcon.revoke hnot (hstate ▸ hframes), rfl, rfl⟩
            simp only [hmsg, hsome]
            exact if_pos hiter'
          · cases hstep
  | fault =>
      simp only [Msgr2.step] at hstep ⊢
      split at hstep
      · rename_i hopen
        cases hstep
        refine .inr ⟨_, if_pos (hstate ▸ hopen), ?_, rfl, rfl⟩
        rw [hd]
        exact refines_aside (c := c.conFault) rfl hbvec
      · cases hstep
  | close =>
      cases hstep
      refine .inr ⟨_, rfl, ?_, rfl, rfl⟩
      show Refines c.close d.close
      rw [hd]
      exact refines_aside (c := c.close) rfl hbvec

/-! ## What a skip consumes -/

/-- The bytes a run receives. -/
def bytesOf : List Label → Nat
  | [] => 0
  | .recv n :: rest => n + bytesOf rest
  | _ :: rest => bytesOf rest

/-- The labels of a connection that only reads: `ceph_con_v2_try_read`, over any number of wakeups
and with any sizes of the reads. -/
def Label.reads : Label → Bool
  | .recv _ => true
  | .populate _ => true
  | _ => false

/-- The skip of `w` is over in `w'`: the next preamble is asked for, the sequence number has moved
by one, and in secure mode the nonce has. -/
structure SkipOver (w w' : Link) : Prop where
  inFrames : w'.con.state.inFrames = true
  inState : w'.con.inState = .handlePreamble
  inIter : w'.con.inIter = w'.con.preambleLen
  received : w'.received = w.received + w.con.toSkip
  seq : w'.con.inSeq = w.con.inSeq + 1
  nonce : w'.con.inGcmNonce = if w.con.secure then w.con.inGcmNonce + 1 else w.con.inGcmNonce

/-- The skip of `w` is still under way in `w'`, by `n` bytes nearer to its end. -/
structure SkipGoesOn (w w' : Link) (n : Nat) : Prop where
  skipping : w'.con.skipping = true
  toSkip : w'.con.toSkip + n = w.con.toSkip
  received : w'.received = w.received + n
  seq : w'.con.inSeq = w.con.inSeq
  nonce : w'.con.inGcmNonce = w.con.inGcmNonce
  secure : w'.con.secure = w.con.secure

theorem Con.preambleLen_ne_zero (c : Con) : c.preambleLen ≠ 0 := by
  unfold Con.preambleLen preambleSecureLen preamblePlainLen
  split <;> omega

/-- A chunk that is drained with nothing left to skip ends the skip. -/
theorem Con.populateInIter_of_drained {c : Con} (input : Input) (hskipping : c.skipping = true)
    (hresid : c.inSkipResid = 0) :
    c.populateInIter crc32c .compat input =
      .ok (if c.secure then c.gcmIncNonce else c).finishSkipped := by
  simp only [Con.skipping, Bool.and_eq_true, decide_eq_true_eq] at hskipping
  refine Con.populateInIter_eq_ok_iff.mpr ⟨?_, ?_⟩
  · rw [Con.process_of_inFrames hskipping.1]
    simp [Con.handleFrame, hskipping.2, Con.finishSkip, hresid]
  · exact Con.preambleLen_ne_zero _

/-- One step of reading during a skip. -/
theorem SkipGoesOn.step {w w' w'' : Link} {n : Nat} {label : Label} (h : SkipGoesOn w w' n)
    (hreads : label.reads = true) (hstep : Msgr2.step crc32c .compat w' label = some w'') :
    SkipGoesOn w w'' (n + bytesOf [label]) ∨ n = w.con.toSkip ∧ bytesOf [label] = 0 ∧
      SkipOver w w'' := by
  have htoSkip : w'.con.inIter + w'.con.inSkipResid + n = w.con.toSkip := h.toSkip
  cases label with
  | recv m =>
      simp only [Msgr2.step] at hstep
      split at hstep
      · rename_i hm
        cases hstep
        refine .inl ⟨h.skipping, ?_, ?_, h.seq, h.nonce, h.secure⟩
        · show w'.con.inIter - m + w'.con.inSkipResid + (n + (m + 0)) = w.con.toSkip
          omega
        · show w'.received + m = w.received + (n + (m + 0))
          rw [h.received]
          omega
      · cases hstep
  | populate input =>
      simp only [Msgr2.step] at hstep
      split at hstep
      · rename_i henabled
        have hiter := henabled.2
        by_cases hresid : 0 < w'.con.inSkipResid
        · -- the next chunk
          rw [Con.populateInIter_of_resid input h.skipping hresid] at hstep
          cases hstep
          refine .inl ⟨h.skipping, ?_, h.received, h.seq, h.nonce, h.secure⟩
          show min w'.con.inSkipResid pageSize +
            (w'.con.inSkipResid - min w'.con.inSkipResid pageSize) + n = w.con.toSkip
          omega
        · have hzero : w'.con.inSkipResid = 0 := by omega
          rw [Con.populateInIter_of_drained input h.skipping hzero] at hstep
          cases hstep
          have hskipping := h.skipping
          simp only [Con.skipping, Bool.and_eq_true] at hskipping
          refine .inr ⟨by omega, rfl, ?_⟩
          have hreceived := h.received
          cases hs : w'.con.secure with
          | false =>
              have hs' : w.con.secure = false := h.secure ▸ hs
              refine ⟨hskipping.1, rfl, rfl, ?_, ?_, ?_⟩
              · show w'.received = w.received + w.con.toSkip
                omega
              · show w'.con.inSeq + 1 = w.con.inSeq + 1
                rw [h.seq]
              · show w'.con.inGcmNonce = _
                simp [hs', h.nonce]
          | true =>
              have hs' : w.con.secure = true := h.secure ▸ hs
              refine ⟨hskipping.1, rfl, rfl, ?_, ?_, ?_⟩
              · show w'.received = w.received + w.con.toSkip
                omega
              · show w'.con.inSeq + 1 = w.con.inSeq + 1
                rw [h.seq]
              · show w'.con.inGcmNonce + 1 = _
                simp [hs', h.nonce]
      · cases hstep
  | connect => cases hreads
  | revoke => cases hreads
  | fault => cases hreads
  | close => cases hreads

/-- A skip under way goes on until exactly its bytes have been received, however they arrive, and is
then over. -/
theorem SkipGoesOn.run {w w' w'' : Link} {n : Nat} {labels : List Label} (h : SkipGoesOn w w' n)
    (hreads : ∀ label ∈ labels, label.reads = true)
    (hrun : Run.run (Msgr2.step crc32c .compat) w' labels = some w'')
    (hbytes : n + bytesOf labels ≤ w.con.toSkip) :
    SkipGoesOn w w'' (n + bytesOf labels) ∨
      n + bytesOf labels = w.con.toSkip ∧ SkipOver w w'' := by
  induction labels generalizing w' n with
  | nil =>
      cases hrun
      exact .inl h
  | cons label rest ih =>
      obtain ⟨next, hfirst, hrest⟩ := Run.run_cons_iff.mp hrun
      have hcons : bytesOf (label :: rest) = bytesOf [label] + bytesOf rest := by
        cases label <;> simp [bytesOf]
      have hreads' : ∀ l ∈ rest, l.reads = true :=
        fun l hl => hreads l (List.mem_cons_of_mem _ hl)
      rcases h.step (hreads label List.mem_cons_self) hfirst with hon | ⟨hn, hzero, hover⟩
      · have hnext := ih hon hreads' hrest (by omega)
        rw [hcons, ← Nat.add_assoc]
        exact hnext
      · -- the preamble is asked for: without further bytes there is nothing more to do
        have hidle : rest = [] := by
          cases rest with
          | nil => rfl
          | cons label' rest' =>
              obtain ⟨next', hfirst', -⟩ := Run.run_cons_iff.mp hrest
              have hreads'' := hreads' label' List.mem_cons_self
              cases label' with
              | recv m =>
                  simp only [Msgr2.step] at hfirst'
                  split at hfirst'
                  · rename_i hm
                    simp only [bytesOf] at hcons
                    omega
                  · cases hfirst'
              | populate input =>
                  have hne : next.con.inIter ≠ 0 := by
                    rw [hover.inIter]
                    exact Con.preambleLen_ne_zero _
                  simp [Msgr2.step, hne] at hfirst'
              | connect => cases hreads''
              | revoke => cases hreads''
              | fault => cases hreads''
              | close => cases hreads''
        subst hidle
        cases hrest
        exact .inr ⟨by omega, hover⟩

theorem skipGoesOn_refl {w : Link} (h : w.con.skipping = true) : SkipGoesOn w w 0 :=
  ⟨h, rfl, rfl, rfl, rfl, rfl⟩

/-- The header is sound and the message is not wanted: an old one, or one `alloc_msg` has no use
for. -/
def Input.skips (input : Input) (c : Con) : Prop :=
  input.fails = none ∧ ((input.seq - c.inSeq).toInt < 1 ∨
    (input.seq - c.inSeq).toInt = 1 ∧ input.alloc = .skip)

/-- The message `desc` of `w` was skipped at its header: with an empty tail it is over, and nothing
but its head was decrypted; else all of its tail is to be skipped. -/
structure SkippedAtHeader (w w' : Link) (desc : Desc) (input : Input) : Prop where
  inFrames : w'.con.state.inFrames = true
  received : w'.received = w.received
  account : w'.account = w.account.handle desc w.con.secure input
  secure : w'.con.secure = w.con.secure
  nonce : w'.con.inGcmNonce = if w.con.secure then w.con.inGcmNonce + 1 else w.con.inGcmNonce
  empty : desc.tailLen w.con.secure = 0 →
    w'.con.inState = .handlePreamble ∧ w'.con.inIter = w'.con.preambleLen ∧
      w'.con.inSeq = w.con.inSeq + 1
  nonempty : desc.tailLen w.con.secure ≠ 0 →
    w'.con.inState = .finishSkip ∧ w'.con.inIter ≠ 0 ∧
      w'.con.toSkip = desc.tailLen w.con.secure ∧ w'.con.inSeq = w.con.inSeq

/-- A header that is skipped arms the skip of the whole tail. -/
theorem Con.handleControlBody_of_skips {c : Con} {input : Input}
    (htag : c.inDesc.tag = .message) (hskips : input.skips c) :
    c.handleControlBody .compat input = .ok (c.prepareSkipMessage .compat) := by
  have hheader : c.processMessageHeader input = .ok none := by
    unfold Con.processMessageHeader
    obtain ⟨-, hold | ⟨hnext, halloc⟩⟩ := hskips
    · simp only
      rw [if_pos hold]
    · simp [hnext, halloc]
  simp [Con.handleControlBody, htag, hheader, bind, Except.bind, pure, Except.pure]

/-- What a skip begun at the header leaves, `c` being the connection whose head was decrypted. -/
theorem skippedAtHeader_prepareSkipMessage {w : Link} {c : Con} {desc : Desc} {input : Input}
    (hframes : c.state.inFrames = true) (hdesc : c.inDesc = desc)
    (hsecure : c.secure = w.con.secure) (hseq : c.inSeq = w.con.inSeq)
    (hnonce : c.inGcmNonce = if w.con.secure then w.con.inGcmNonce + 1 else w.con.inGcmNonce) :
    (c.prepareSkipMessage .compat).inIter ≠ 0 ∧
      SkippedAtHeader w ⟨c.prepareSkipMessage .compat, w.received,
        w.account.handle desc w.con.secure input⟩ desc input := by
  have htail : c.inDesc.tailLen c.secure = desc.tailLen w.con.secure := by
    rw [hdesc, hsecure]
  by_cases hlen : desc.tailLen w.con.secure = 0
  · have hskip : c.prepareSkipMessage .compat = c.finishSkipped := by
      simp [Con.prepareSkipMessage, htail, hlen]
    rw [hskip]
    refine ⟨Con.preambleLen_ne_zero _, hframes, rfl, rfl, hsecure, hnonce, fun _ => ⟨rfl, rfl, ?_⟩,
      fun hne => absurd hlen hne⟩
    show c.inSeq + 1 = w.con.inSeq + 1
    rw [hseq]
  · have hskip : c.prepareSkipMessage .compat =
        { c.setInSkip .compat (desc.tailLen w.con.secure) with inState := .finishSkip } := by
      simp [Con.prepareSkipMessage, htail, hlen]
    have hiter : min (desc.tailLen w.con.secure) pageSize ≠ 0 := by
      unfold pageSize
      omega
    rw [hskip]
    refine ⟨hiter, hframes, rfl, rfl, hsecure, hnonce, fun hzero => absurd hzero hlen,
      fun _ => ⟨rfl, hiter, ?_, hseq⟩⟩
    show min (desc.tailLen w.con.secure) pageSize +
      (desc.tailLen w.con.secure - min (desc.tailLen w.con.secure) pageSize) = _
    omega

/-- What the receiver that skips in chunks promises in a state it can reach. -/
structure SkipContract (crc32c : Bytes → UInt32) (w : Link) : Prop where
  /-- a preamble is read where the frames before it end -/
  preamble : w.con.state.inFrames = true → w.con.inState = .handlePreamble →
    w.received + w.con.inIter = w.account.position + w.con.preambleLen ∧
      w.con.inSeq = w.account.seq ∧ w.con.inGcmNonce = w.account.nonce
  /-- there is always something to read -/
  populated : ∀ input c, w.con.populateInIter crc32c .compat input = .ok c → c.inIter ≠ 0
  /-- a message skipped at its header -/
  atHeader : ∀ input desc, w.con.state.inFrames = true → w.con.inIter = 0 →
    w.con.handled crc32c input = some desc → desc.tag = .message → input.skips w.con →
      ∃ w', step crc32c .compat w (.populate input) = some w' ∧ SkippedAtHeader w w' desc input
  /-- a message revoked wherever it is being read -/
  revoked : ∀ w', step crc32c .compat w .revoke = some w' →
    w'.con.skipping = true ∧ w'.con.inIter ≠ 0 ∧ w'.received = w.received ∧
      w'.account = w.account ∧ w'.con.inSeq = w.con.inSeq ∧ w'.con.inGcmNonce = w.con.inGcmNonce
  /-- a skip under way: the bytes to skip are those the message has left, and they fit an `int` -/
  remaining : w.con.skipping = true →
    w.con.toSkip < 2 ^ 31 ∧ w.received + w.con.toSkip = w.account.position ∧
      w.con.inSeq + 1 = w.account.seq ∧
      (if w.con.secure then w.con.inGcmNonce + 1 else w.con.inGcmNonce) = w.account.nonce
  /-- the skip never stops for want of something to read -/
  progress : w.con.skipping = true → w.con.inIter = 0 →
    ∀ input, ∃ c, w.con.populateInIter crc32c .compat input = .ok c
  /-- however the bytes arrive, the skip goes on until exactly its bytes were received -/
  exact : w.con.skipping = true → ∀ labels w', (∀ label ∈ labels, label.reads = true) →
    Run.run (step crc32c .compat) w labels = some w' → bytesOf labels ≤ w.con.toSkip →
      SkipGoesOn w w' (bytesOf labels) ∨ bytesOf labels = w.con.toSkip ∧ SkipOver w w'

section

variable {w v : Link}

/-- Where the receiver that discards reads a preamble, so does the other, at the same place. -/
theorem LinkRefines.preamble (h : LinkRefines w v) (hv : Synced v)
    (hframes : w.con.state.inFrames = true) (hstate : w.con.inState = .handlePreamble) :
    w.received + w.con.inIter = w.account.position + w.con.preambleLen ∧
      w.con.inSeq = w.account.seq ∧ w.con.inGcmNonce = w.account.nonce := by
  obtain ⟨bvec, resid, hd, -⟩ := h.con.exists_eq
  have hskipping : w.con.skipping = false := by simp [Con.skipping, hstate]
  rw [hskipping] at hd
  have hframes' : v.con.state.inFrames = true := by rw [hd]; exact hframes
  obtain ⟨-, hrest⟩ := (synced_iff_inFrame hframes').mp hv
  have hstate' : v.con.inState = .handlePreamble := by rw [hd]; exact hstate
  rw [hstate'] at hrest
  obtain ⟨hbytes, -, hseq, hnonce⟩ := hrest
  rw [hd, h.received, h.account] at hbytes
  rw [hd, h.account] at hseq
  rw [hd, h.account] at hnonce
  exact ⟨hbytes, hseq, hnonce⟩

/-- What is left to skip is what the message has left. -/
theorem LinkRefines.remaining (h : LinkRefines w v) (hv : Synced v)
    (hskipping : w.con.skipping = true) :
    w.con.toSkip < 2 ^ 31 ∧ w.received + w.con.toSkip = w.account.position ∧
      w.con.inSeq + 1 = w.account.seq ∧
      (if w.con.secure then w.con.inGcmNonce + 1 else w.con.inGcmNonce) = w.account.nonce := by
  obtain ⟨bvec, resid, hd, -⟩ := h.con.exists_eq
  rw [hskipping] at hd
  have hstate : w.con.state.inFrames = true ∧ w.con.inState = .finishSkip := by
    simpa [Con.skipping] using hskipping
  have hframes' : v.con.state.inFrames = true := by rw [hd]; exact hstate.1
  obtain ⟨-, hrest⟩ := (synced_iff_inFrame hframes').mp hv
  have hstate' : v.con.inState = .finishSkip := by rw [hd]; exact hstate.2
  rw [hstate'] at hrest
  obtain ⟨-, hbytes, hfits, hseq, hnonce⟩ := hrest
  rw [hd, h.received, h.account] at hbytes
  rw [hd] at hfits
  rw [hd, h.account] at hseq
  rw [hd, h.account] at hnonce
  refine ⟨?_, hbytes, hseq, hnonce⟩
  exact Nat.lt_of_le_of_lt hfits (Desc.tailLen_lt _ _)

/-- A revoked message is skipped from where it was being read. -/
theorem LinkRefines.revoked {w' : Link} (h : LinkRefines w v) (hv : Synced v)
    (hstep : Msgr2.step crc32c .compat w .revoke = some w') :
    w'.con.skipping = true ∧ w'.con.inIter ≠ 0 ∧ w'.received = w.received ∧
      w'.account = w.account ∧ w'.con.inSeq = w.con.inSeq ∧
      w'.con.inGcmNonce = w.con.inGcmNonce := by
  obtain ⟨bvec, resid, hd, -⟩ := h.con.exists_eq
  simp only [Msgr2.step] at hstep
  cases hmsg : w.con.inMsg with
  | none => simp [hmsg] at hstep
  | some msg =>
      simp only [hmsg] at hstep
      split at hstep
      · rename_i hiter
        cases hstep
        have hmsg' : v.con.inMsg = some msg := by rw [hd]; exact hmsg
        have hstate : v.con.state = w.con.state := by rw [hd]; rfl
        have hinState : v.con.inState = w.con.inState := by rw [hd]; rfl
        obtain ⟨hframes, hskip, -⟩ := hv.revoke hmsg'
        rw [hstate] at hframes
        unfold Con.revokeIncoming at hskip ⊢
        rw [hinState] at hskip
        have hmin : ∀ n, n ≠ 0 → min n pageSize ≠ 0 := by
          intro n hn
          unfold pageSize
          omega
        have hsome : ∀ n, w.con.inIter + n ≠ 0 := fun n => by omega
        have hepilogue : ∀ n, n + epiloguePlainLen ≠ 0 := fun n => by
          unfold epiloguePlainLen
          omega
        have hskipping : ∀ c : Con, c.state = w.con.state → c.inState = .finishSkip →
            c.skipping = true := by
          intro c hc hc'
          simp [Con.skipping, hc, hc', hframes]
        split at hskip
        · exact ⟨hskipping _ rfl rfl, hmin _ (hsome _), rfl, rfl, rfl, rfl⟩
        · exact ⟨hskipping _ rfl rfl, hmin _ (hepilogue _), rfl, rfl, rfl, rfl⟩
        · exact ⟨hskipping _ rfl rfl, hmin _ (hsome _), rfl, rfl, rfl, rfl⟩
        · exact ⟨hskipping _ rfl rfl, hmin _ hiter, rfl, rfl, rfl, rfl⟩
        · -- a message is not being read elsewhere
          have hnot := hv.not_skipping hmsg'
          have hframes' : v.con.state.inFrames = true := hstate ▸ hframes
          simp only [Con.skipping, hframes', Bool.true_and] at hnot
          exact absurd hskip (by simpa using hnot)
      · cases hstep

/-- A head whose message is not wanted is handled by skipping the tail. -/
theorem LinkRefines.atHeader {input : Input} {desc : Desc} (h : LinkRefines w v) (hv : Synced v)
    (hframes : w.con.state.inFrames = true) (hiter : w.con.inIter = 0)
    (hhandled : w.con.handled crc32c input = some desc) (htag : desc.tag = .message)
    (hskips : input.skips w.con) :
    ∃ w', Msgr2.step crc32c .compat w (.populate input) = some w' ∧
      SkippedAtHeader w w' desc input := by
  have hopen : w.con.state ≠ .closed := by
    intro hclosed
    simp [hclosed, State.inFrames] at hframes
  have haccount : w.account.populated crc32c w.con input =
      w.account.handle desc w.con.secure input := by
    rw [Account.populated_of_inFrames hframes, hhandled]
  -- it is enough to say what the head decrypts to
  suffices hbody : ∃ c : Con, c.state.inFrames = true ∧ c.inDesc = desc ∧
      c.secure = w.con.secure ∧ c.inSeq = w.con.inSeq ∧
      c.inGcmNonce = (if w.con.secure then w.con.inGcmNonce + 1 else w.con.inGcmNonce) ∧
      w.con.handleFrame crc32c .compat input = c.handleControlBody .compat input by
    obtain ⟨c, hc, hdesc, hsecure, hseq, hnonce, hframe⟩ := hbody
    have hok : c.handleControlBody .compat input = .ok (c.prepareSkipMessage .compat) :=
      Con.handleControlBody_of_skips (hdesc ▸ htag) ⟨hskips.1, hseq ▸ hskips.2⟩
    obtain ⟨hne, hskipped⟩ :=
      skippedAtHeader_prepareSkipMessage hc hdesc hsecure hseq hnonce
    refine ⟨_, ?_, hskipped⟩
    have hpopulate : w.con.populateInIter crc32c .compat input =
        .ok (c.prepareSkipMessage .compat) := by
      refine Con.populateInIter_eq_ok_iff.mpr ⟨?_, hne⟩
      rw [Con.process_of_inFrames hframes, hframe, hok]
    simp only [Msgr2.step]
    rw [if_pos ⟨hopen, hiter⟩, hpopulate, haccount]
  obtain ⟨bvec, resid, hd, -⟩ := h.con.exists_eq
  have hframes' : v.con.state.inFrames = true := by rw [hd]; exact hframes
  obtain ⟨-, hrest⟩ := (synced_iff_inFrame hframes').mp hv
  have hstate : v.con.inState = w.con.inState := by rw [hd]; rfl
  have hsecure : v.con.secure = w.con.secure := by rw [hd]; rfl
  rw [hstate] at hrest
  have hchecked : input.check = .ok () := by simp [Input.check, hskips.1]
  unfold Con.handled at hhandled
  split at hhandled
  · rename_i hw
    split at hhandled
    · rename_i desc' hdecode
      split at hhandled
      · rename_i hinline
        obtain rfl : desc' = desc := by simpa using hhandled
        refine ⟨{ w.con.gcmIncNonce with inDesc := desc' }, hframes, rfl, rfl, rfl, ?_, ?_⟩
        · simp [Con.gcmIncNonce, hinline.1]
        · have hmode : w.con.conMode = .secure := by simpa [Con.secure] using hinline.1
          simp [Con.handleFrame, hw, Con.handlePreamble, hchecked, hdecode, bind, Except.bind,
            Con.secure, hmode, Con.gcmIncNonce, Nat.not_lt.mpr hinline.2]
      · cases hhandled
    · cases hhandled
  · rename_i hw
    rw [hw] at hrest
    obtain rfl : w.con.inDesc = desc := by simpa using hhandled
    refine ⟨w.con, hframes, rfl, rfl, rfl, ?_, ?_⟩
    · rw [← hsecure, hrest.1]
      rfl
    · simp [Con.handleFrame, hw, Con.handleControl, hchecked, bind, Except.bind]
  · rename_i hw
    rw [hw] at hrest
    obtain rfl : w.con.inDesc = desc := by simpa using hhandled
    refine ⟨w.con.gcmIncNonce, hframes, rfl, rfl, rfl, ?_, ?_⟩
    · rw [← hsecure, hrest.1]
      rfl
    · simp [Con.handleFrame, hw, Con.handleControlRemainder, hchecked, bind, Except.bind]
  · cases hhandled

/-- A receiver that skips in chunks keeps its promises where it corresponds to one that discards and
is in step. -/
theorem LinkRefines.contract (h : LinkRefines w v) (hv : Synced v) : SkipContract crc32c w where
  preamble := h.preamble hv
  populated _ _ hpopulate := (Con.populateInIter_eq_ok_iff.mp hpopulate).2
  atHeader _ _ hframes hiter hhandled htag hskips :=
    h.atHeader hv hframes hiter hhandled htag hskips
  revoked _ hstep := h.revoked hv hstep
  remaining := h.remaining hv
  progress hskipping _ input := by
    by_cases hresid : 0 < w.con.inSkipResid
    · exact ⟨_, Con.populateInIter_of_resid input hskipping hresid⟩
    · exact ⟨_, Con.populateInIter_of_drained input hskipping (by omega)⟩
  exact hskipping labels w' hreads hrun hbytes := by
    have hrun := (skipGoesOn_refl hskipping).run hreads hrun (by omega)
    simpa using hrun

end

end

theorem linkRefines_init : LinkRefines Link.init Link.init :=
  ⟨refines_aside (c := Con.init) rfl fun _ => rfl, rfl, rfl⟩

/-- **Skipping in chunks refines discarding.** In every run of the receiver of the kernels before
5.0, over any number of connections, messages skipped at their headers and messages revoked while
they are read, with reads of any sizes: the receiver that discards has a run over the same events,
without the chunks that are armed again, that ends in a corresponding state; and the receiver keeps
its promises, so that every preamble is read where the frames before it end, with the sequence
number and the nonce that reading and decrypting them would have left. -/
theorem compat_skip_refines_discard (crc32c : Bytes → UInt32) {labels : List Label} {w : Link}
    (hrun : Run.run (step crc32c .compat) Link.init labels = some w) :
    (∃ labels' v, labels'.Sublist labels ∧
      Run.run (step crc32c .discard) Link.init labels' = some v ∧ LinkRefines w v) ∧
      SkipContract crc32c w := by
  have hstep : ∀ state other label next, LinkRefines state other ∧ Synced other →
      step crc32c .compat state label = some next →
      (LinkRefines next other ∧ Synced other) ∨ ∃ next',
        step crc32c .discard other label = some next' ∧ LinkRefines next next' ∧ Synced next' := by
    intro state other label next hrel hnext
    rcases hrel.1.step hrel.2 hnext with hstutter | ⟨next', hmatch, hrel'⟩
    · exact .inl ⟨hstutter, hrel.2⟩
    · exact .inr ⟨next', hmatch, hrel', hrel.2.step hmatch⟩
  obtain ⟨labels', v, hsub, hrun', hrel, hsynced⟩ :=
    Run.run_simulation hstep ⟨linkRefines_init, synced_init⟩ hrun
  exact ⟨⟨labels', v, hsub, hrun', hrel⟩, hrel.contract hsynced⟩

/-- What is read when nothing fails and nothing is said. -/
def quiet : Input :=
  { fails := none
    payloadLen := 0
    preamble := []
    mode := .unknown
    nonce := 0
    cookie := false
    seq := 0
    alloc := .skip
    piece := 0
    closed := false }

/-- A frame with these segments begins. -/
def begins (tag : Nat) (lens : List Nat) : Input :=
  { quiet with preamble := encodePreamble crc32cLe tag (lens.map fun len => (len, 8)) }

/-- A connection is opened up to the first message of the session: banner, hello, authentication in
secure mode, signature and identification. -/
def opening : List Label :=
  [.connect, .recv 10, .populate { quiet with payloadLen := 16 }, .recv 16, .populate quiet,
    .recv 32, .populate (begins 1 [36]), .recv 40, .populate quiet,
    .recv 32, .populate (begins 6 [300]), .recv 304,
    .populate { quiet with mode := .secure, nonce := 1000 },
    .recv 96, .populate (begins 7 [32]),
    .recv 96, .populate (begins 9 [90]), .recv 64, .populate quiet]

/-- The first message is skipped at its header, 9152 bytes in three chunks; the second is revoked
after 5000 bytes. -/
def skipAndRevoke : List Label :=
  opening ++
    [.recv 96, .populate { begins 17 [41, 100, 0, 9000] with seq := 1 }, .recv 4096,
      .populate quiet, .recv 96, .recv 4000, .populate quiet, .recv 960, .populate quiet,
      .recv 96, .populate { begins 17 [41, 100, 0, 9000] with seq := 2, alloc := .message },
      .recv 4096, .populate quiet, .recv 904, .revoke, .recv 4096, .populate quiet, .recv 56,
      .populate quiet]

/-- The first two messages of a session in secure mode, one skipped and one revoked: the preamble
after them is asked for where they end, each has moved the sequence number by one, and the nonce has
moved by one for each of the seven sections. -/
theorem compat_skip_and_revoke :
    ∃ w, Run.run (step crc32cLe .compat) Link.init skipAndRevoke = some w ∧
      w.con.inState = .handlePreamble ∧ w.con.inSeq = 2 ∧ w.con.inGcmNonce = 1007 ∧
      SkipContract crc32cLe w := by
  have hany : (Run.run (step crc32cLe .compat) Link.init skipAndRevoke).any
      (fun w => w.con.inState = .handlePreamble ∧ w.con.inSeq = 2 ∧ w.con.inGcmNonce = 1007) =
        true := by
    decide +kernel
  obtain ⟨w, hrun, htest⟩ := (Option.any_eq_true _ _).mp hany
  simp only [decide_eq_true_eq] at htest
  exact ⟨w, hrun, htest.1, htest.2.1, htest.2.2, (compat_skip_refines_discard crc32cLe hrun).2⟩

end XcpCephRbd.Msgr2
