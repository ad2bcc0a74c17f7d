import XcpCephRbd.Lib.Run
import XcpCephRbd.Msgr2.Receive

/-!
# A connection and its wire

The receive machine over whole runs: connections that are opened, faulted and closed, reads of any
size, and messages revoked while they are read. Beside the connection a `Link` keeps the number of
bytes received since it was opened and an `Account`: what the connection has to have when it begins
to read the next preamble, told from the frames whose heads were handled, as if each had been read
to its end and decrypted. `Synced` says that the connection stays in step with it; it is proved
here of the receiver that discards.
-/

namespace XcpCephRbd.Msgr2

open Wire

/-- The bytes of a frame up to the end of its control segment, as they are read. -/
def Desc.headLen (desc : Desc) (secure : Bool) : Nat :=
  if secure then headOnwireLen desc.control true else preamblePlainLen + (desc.control + crcLen)

/-- The sections of the head that are encrypted one by one. -/
def Desc.headSections (desc : Desc) (secure : Bool) : BitVec 64 :=
  if secure then (if desc.control > preambleInlineLen then 1 + 1 else 1) else 0

/-- What the connection has to have when it begins to read the next preamble. -/
structure Account where
  /-- the bytes received before the preamble -/
  position : Nat
  seq : BitVec 64
  nonce : BitVec 64
  deriving DecidableEq, Repr

namespace Account

/-- A frame whose head was handled: its bytes, its sequence number if it is a message, and the
nonces of its sections. -/
def handle (a : Account) (desc : Desc) (secure : Bool) (input : Input) : Account :=
  { position := a.position +
      (desc.headLen secure + if desc.tag = .message then desc.tailLen secure else 0)
    seq :=
      if desc.tag = .message then a.seq + 1 else if desc.tag = .sessionReset then 0 else a.seq
    nonce :=
      if desc.tag = .authDone ∧ input.mode = .secure then input.nonce
      else a.nonce + desc.headSections secure +
        if desc.tag = .message ∧ secure = true ∧ desc.tailLen secure ≠ 0 then 1 else 0 }

end Account

section

variable (crc32c : Bytes → UInt32)

/-- The frame whose control segment is handled when the connection looks at what it has read. -/
def Con.handled (c : Con) (input : Input) : Option Desc :=
  match c.inState with
  | .handlePreamble =>
      match decodePreamble crc32c input.preamble with
      | .ok desc => if c.secure ∧ desc.control ≤ preambleInlineLen then some desc else none
      | .error _ => none
  | .handleControl => some c.inDesc
  | .handleControlRemainder => some c.inDesc
  | _ => none

/-- The account after the connection has looked at what it has read. -/
def Account.populated (a : Account) (c : Con) (input : Input) : Account :=
  match c.state with
  | .bannerPrefix => { a with position := a.position + input.payloadLen }
  | .bannerPayload => a
  | .closed => a
  | _ =>
      match c.handled crc32c input with
      | some desc => a.handle desc c.secure input
      | none => a

end

/-- A connection, the bytes it has received since it was opened, and the account of them. -/
structure Link where
  con : Con
  received : Nat
  account : Account
  deriving DecidableEq, Repr

/-- A new connection. -/
def Link.init : Link := ⟨Con.init, 0, ⟨0, 0, 0⟩⟩

/-- What happens to a connection. A message can only be revoked between two reads: the mutex is
held from the moment what was asked for has arrived until something else is asked for. -/
inductive Label where
  /-- `ceph_con_v2_try_write` of a connection without a socket -/
  | connect
  /-- `sock_recvmsg` came back with `n` bytes -/
  | recv (n : Nat)
  /-- `populate_in_iter`, and `con_fault` where it fails -/
  | populate (input : Input)
  /-- `ceph_msg_revoke_incoming` of the message being read -/
  | revoke
  /-- an error of the socket -/
  | fault
  /-- `ceph_con_close` -/
  | close
  deriving DecidableEq, Repr

/-- One step of a connection. -/
def step (crc32c : Bytes → UInt32) (k : Kernel) (w : Link) : Label → Option Link
  | .connect =>
      if w.con.state = .closed then
        some ⟨w.con.prepareReadBannerPrefix, 0,
          ⟨bannerPrefixLen, w.con.inSeq, w.con.inGcmNonce⟩⟩
      else none
  | .recv n =>
      if 0 < n ∧ n ≤ w.con.inIter then
        some { w with con := { w.con with inIter := w.con.inIter - n }, received := w.received + n }
      else none
  | .populate input =>
      if w.con.state ≠ .closed ∧ w.con.inIter = 0 then
        match w.con.populateInIter crc32c k input with
        | .ok c => some { w with con := c, account := w.account.populated crc32c w.con input }
        | .error _ => some { w with con := w.con.conFault }
      else none
  | .revoke =>
      match w.con.inMsg with
      | some msg =>
          if w.con.inIter ≠ 0 then some { w with con := w.con.revokeIncoming k msg } else none
      | none => none
  | .fault => if w.con.state ≠ .closed then some { w with con := w.con.conFault } else none
  | .close => some { w with con := w.con.close }

/-! ## The receiver that discards stays in step -/

/-- Reading the head of a frame: `len` bytes of it are read or asked for. -/
structure Head (w : Link) (len : Nat) (nonce : BitVec 64) : Prop where
  bytes : w.received + w.con.inIter = w.account.position + len
  msg : w.con.inMsg = none
  seq : w.con.inSeq = w.account.seq
  nonce : w.con.inGcmNonce = nonce

/-- Reading or skipping the tail of a message: `pending` bytes of it come after what is asked
for. -/
structure Tail (w : Link) (pending : Nat) : Prop where
  bytes : w.received + (w.con.inIter + pending) = w.account.position
  fits : w.con.inIter + pending ≤ w.con.inDesc.tailLen w.con.secure
  seq : w.con.inSeq + 1 = w.account.seq
  nonce : (if w.con.secure then w.con.inGcmNonce + 1 else w.con.inGcmNonce) = w.account.nonce

/-- In step within a frame. -/
def InFrame (w : Link) : Prop :=
  w.con.state.inFrames = true ∧
  match w.con.inState with
  | .unset => False
  | .handlePreamble => Head w w.con.preambleLen w.account.nonce
  | .handleControl =>
      w.con.secure = false ∧ Head w (w.con.inDesc.headLen false) w.account.nonce
  | .handleControlRemainder =>
      w.con.secure = true ∧ w.con.inDesc.control > preambleInlineLen ∧
        Head w (w.con.inDesc.headLen true) (w.account.nonce + 1)
  | .prepareReadData =>
      ∃ msg, w.con.inMsg = some msg ∧ 0 < msg.dataLen ∧ w.con.secure = false ∧
        Tail w (msg.dataLen + epiloguePlainLen)
  | .prepareReadDataCont =>
      w.con.inMsg.isSome ∧ w.con.inIter ≤ w.con.inBvec ∧ w.con.inBvec ≤ w.con.inCursor ∧
        w.con.secure = false ∧ Tail w (w.con.inCursor - w.con.inBvec + epiloguePlainLen)
  | .prepareReadEncPage =>
      w.con.inMsg.isSome ∧ w.con.secure = true ∧ Tail w w.con.inEncResid
  | .handleEpilogue => w.con.inMsg.isSome ∧ Tail w 0
  | .finishSkip => w.con.inMsg = none ∧ Tail w 0

/-- The connection is in step with the account of its wire. -/
def Synced (w : Link) : Prop :=
  match w.con.state with
  | .closed => w.con.inMsg = none ∧ w.con.inIter = 0
  | .bannerPrefix => Head w 0 w.account.nonce
  | .bannerPayload => Head w 0 w.account.nonce
  | _ => InFrame w

/-- Where frames are read, being in step is being in step within a frame. -/
theorem synced_iff_inFrame {w : Link} (h : w.con.state.inFrames = true) :
    Synced w ↔ InFrame w := by
  unfold Synced
  split <;> simp_all [State.inFrames]

theorem InFrame.synced {w : Link} (h : InFrame w) : Synced w :=
  (synced_iff_inFrame h.1).mpr h

theorem Con.process_of_inFrames {crc32c : Bytes → UInt32} {k : Kernel} {c : Con} {input : Input}
    (h : c.state.inFrames = true) : c.process crc32c k input = c.handleFrame crc32c k input := by
  unfold Con.process
  split <;> simp_all [State.inFrames]

theorem Account.populated_of_inFrames {crc32c : Bytes → UInt32} {a : Account} {c : Con}
    {input : Input} (h : c.state.inFrames = true) :
    a.populated crc32c c input =
      match c.handled crc32c input with
      | some desc => a.handle desc c.secure input
      | none => a := by
  unfold Account.populated
  split <;> simp_all [State.inFrames]

/-- A check that was passed. -/
theorem Input.check_bind_eq_ok_iff {α : Type} {input : Input} {f : Except Errno α} {a : α} :
    (input.check >>= fun _ => f) = .ok a ↔ input.fails = none ∧ f = .ok a := by
  cases hfails : input.fails with
  | none => simp [Input.check, hfails, bind, Except.bind]
  | some e => simp [Input.check, hfails, bind, Except.bind]

/-- What a handler of a control frame changes. -/
theorem Con.controlEffect_eq_ok {c c' : Con} {input : Input} (h : c.controlEffect input = .ok c') :
    c'.state.inFrames = true ∧ c'.inMsg = c.inMsg ∧
      c'.inSeq = (if c.inDesc.tag = .sessionReset then 0 else c.inSeq) ∧
      c'.inGcmNonce =
        (if c.inDesc.tag = .authDone ∧ input.mode = .secure then input.nonce
          else c.inGcmNonce) := by
  unfold Con.controlEffect at h
  split at h <;> simp_all only [reduceCtorEq, Except.ok.injEq]
  all_goals first
    | (subst h; simp_all [State.inFrames]; done)
    | skip
  · split at h <;> simp_all only [reduceCtorEq, Except.ok.injEq] <;> subst h <;>
      simp_all [State.inFrames]
  · subst h
    cases input.cookie <;> simp [State.inFrames]

/-- A head that was read and decrypted. -/
structure HeadRead (c : Con) (received : Nat) (account : Account) : Prop where
  inFrames : c.state.inFrames = true
  bytes : received = account.position + c.inDesc.headLen c.secure
  msg : c.inMsg = none
  seq : c.inSeq = account.seq
  nonce : c.inGcmNonce = account.nonce + c.inDesc.headSections c.secure

/-- A preamble asked for at the end of a frame. -/
theorem inFrame_prepareReadPreamble {c : Con} {received : Nat} {account : Account}
    (hframes : c.state.inFrames = true) (hmsg : c.inMsg = none)
    (hbytes : received = account.position) (hseq : c.inSeq = account.seq)
    (hnonce : c.inGcmNonce = account.nonce) :
    InFrame ⟨c.prepareReadPreamble, received, account⟩ := by
  have hasked : received + c.preambleLen = account.position + c.preambleLen := by
    rw [hbytes]
  exact ⟨hframes, hasked, hmsg, hseq, hnonce⟩

/-- A control frame that was handled. -/
theorem HeadRead.processControl {c c' : Con} {input : Input} {received : Nat} {account : Account}
    (h : HeadRead c received account) (htag : c.inDesc.tag ≠ .message)
    (hc : c.processControl input = .ok c') :
    InFrame ⟨c', received, account.handle c.inDesc c.secure input⟩ := by
  cases heffect : c.controlEffect input with
  | error e => simp [Con.processControl, heffect, bind, Except.bind] at hc
  | ok done =>
      obtain ⟨hframes, hmsg, hseq, hnonce⟩ := Con.controlEffect_eq_ok heffect
      obtain rfl : done.prepareReadPreamble = c' := by
        simpa [Con.processControl, heffect, bind, Except.bind, pure, Except.pure] using hc
      refine inFrame_prepareReadPreamble hframes (hmsg.trans h.msg) ?_ ?_ ?_
      · simp [Account.handle, htag, h.bytes]
      · simp [Account.handle, htag, hseq, h.seq]
      · rw [hnonce, h.nonce]
        simp [Account.handle, htag]

/-- What is to be read after the head of a message, once all `len` bytes of its tail are accounted
for. -/
theorem HeadRead.tail {c c' : Con} {input : Input} {received pending : Nat} {account : Account}
    (h : HeadRead c received account) (htag : c.inDesc.tag = .message)
    (hlen : c.inDesc.tailLen c.secure ≠ 0) (hdesc : c'.inDesc = c.inDesc)
    (hmode : c'.conMode = c.conMode) (hseq : c'.inSeq = c.inSeq)
    (hnonce : c'.inGcmNonce = c.inGcmNonce)
    (hpending : c'.inIter + pending = c.inDesc.tailLen c.secure) :
    Tail ⟨c', received, account.handle c.inDesc c.secure input⟩ pending := by
  have hsecure : c'.secure = c.secure := by
    unfold Con.secure
    rw [hmode]
  have hbytes := h.bytes
  refine ⟨?_, ?_, ?_, ?_⟩
  · show received + (c'.inIter + pending) = _
    simp only [Account.handle, htag, if_true]
    omega
  · show c'.inIter + pending ≤ c'.inDesc.tailLen c'.secure
    rw [hdesc, hsecure]
    exact Nat.le_of_eq hpending
  · show c'.inSeq + 1 = _
    simp [Account.handle, htag, hseq, h.seq]
  · show (if c'.secure then c'.inGcmNonce + 1 else c'.inGcmNonce) = _
    rw [hsecure, hnonce, h.nonce]
    cases hs : c.secure with
    | false => simp [Account.handle, htag]
    | true =>
        have hlen' : c.inDesc.tailLen true ≠ 0 := hs ▸ hlen
        simp [Account.handle, htag, hlen']

/-- An empty message is over with its head. -/
theorem HeadRead.empty {c : Con} {received : Nat} {account : Account}
    (h : HeadRead c received account) (input : Input) (htag : c.inDesc.tag = .message)
    (hlen : c.inDesc.tailLen c.secure = 0) :
    InFrame ⟨({ c with inMsg := none, inSeq := c.inSeq + 1 } : Con).prepareReadPreamble, received,
      account.handle c.inDesc c.secure input⟩ := by
  refine inFrame_prepareReadPreamble h.inFrames rfl ?_ ?_ ?_
  · simp [Account.handle, htag, hlen, h.bytes]
  · simp [Account.handle, htag, h.seq]
  · show c.inGcmNonce = _
    simp [Account.handle, htag, hlen, h.nonce]

/-- A message that is to be read has the lengths of its frame. -/
theorem Con.processMessageHeader_eq_some {c : Con} {input : Input} {msg : Msg}
    (h : c.processMessageHeader input = .ok (some msg)) :
    msg = ⟨c.inDesc.front, c.inDesc.middle, c.inDesc.data⟩ := by
  unfold Con.processMessageHeader at h
  simp only at h
  split at h
  · simp at h
  · split at h
    · simp at h
    · split at h <;> simp_all

/-- Skipping a message from its header on. -/
theorem HeadRead.prepareSkipMessage {c : Con} {input : Input} {received : Nat}
    {account : Account} (h : HeadRead c received account) (htag : c.inDesc.tag = .message) :
    InFrame ⟨c.prepareSkipMessage .discard, received,
      account.handle c.inDesc c.secure input⟩ := by
  by_cases hlen : c.inDesc.tailLen c.secure = 0
  · have hempty := h.empty input htag hlen
    simpa [Con.prepareSkipMessage, Con.finishSkipped, hlen, h.msg] using hempty
  · simp only [Con.prepareSkipMessage, hlen, if_false]
    exact ⟨h.inFrames, h.msg, h.tail htag hlen rfl rfl rfl rfl rfl⟩

/-- The tail of a message in secure mode, page by page. -/
theorem HeadRead.prepareReadTailSecure {c : Con} {input : Input} {received : Nat}
    {account : Account} {msg : Msg} (h : HeadRead c received account)
    (htag : c.inDesc.tag = .message) (hsecure : c.secure = true)
    (hmsg : msg = ⟨c.inDesc.front, c.inDesc.middle, c.inDesc.data⟩)
    (hlen : c.inDesc.tailLen c.secure ≠ 0) :
    InFrame ⟨({ c with inMsg := some msg } : Con).prepareReadTailSecure msg, received,
      account.handle c.inDesc c.secure input⟩ := by
  have htail : tailOnwireLen msg.frontLen msg.middleLen msg.dataLen true =
      c.inDesc.tailLen c.secure := by
    rw [hmsg, hsecure]
    rfl
  unfold Con.prepareReadTailSecure Con.prepareReadEncPage Con.setInBvec
  simp only [htail]
  by_cases hmore : c.inDesc.tailLen c.secure - min (c.inDesc.tailLen c.secure) pageSize = 0
  · simp only [hmore, ne_eq, not_true_eq_false, if_false]
    refine ⟨h.inFrames, rfl, h.tail htag hlen rfl rfl rfl rfl ?_⟩
    show min (c.inDesc.tailLen c.secure) pageSize + 0 = c.inDesc.tailLen c.secure
    omega
  · simp only [hmore, ne_eq, not_false_eq_true, if_true]
    refine ⟨h.inFrames, rfl, hsecure, h.tail htag hlen rfl rfl rfl rfl ?_⟩
    show min (c.inDesc.tailLen c.secure) pageSize +
      (c.inDesc.tailLen c.secure - min (c.inDesc.tailLen c.secure) pageSize) =
        c.inDesc.tailLen c.secure
    omega

theorem Con.getBvecAt_le (totalResid piece : Nat) :
    Con.getBvecAt totalResid piece ≤ totalResid := by
  unfold Con.getBvecAt
  omega

/-- Reading data from its first byte. -/
theorem HeadRead.prepareReadData {c c' : Con} {input : Input} {received : Nat}
    {account : Account} {msg : Msg} (h : HeadRead c received account)
    (htag : c.inDesc.tag = .message) (hsecure : c.secure = false)
    (hlen : c.inDesc.tailLen c.secure ≠ 0)
    (htail : msg.dataLen + epiloguePlainLen = c.inDesc.tailLen c.secure)
    (hc : ({ c with inMsg := some msg } : Con).prepareReadData msg input = .ok c') :
    InFrame ⟨c', received, account.handle c.inDesc c.secure input⟩ := by
  obtain ⟨-, hok⟩ := Input.check_bind_eq_ok_iff.mp hc
  cases hok
  have hle := Con.getBvecAt_le msg.dataLen input.piece
  refine ⟨h.inFrames, rfl, Nat.le_refl _, hle, hsecure, h.tail htag hlen rfl rfl rfl rfl ?_⟩
  show Con.getBvecAt msg.dataLen input.piece +
    (msg.dataLen - Con.getBvecAt msg.dataLen input.piece + epiloguePlainLen) = _
  omega

/-- The tail of a message in plain mode. -/
theorem HeadRead.prepareReadTailPlain {c c' : Con} {input : Input} {received : Nat}
    {account : Account} {msg : Msg} (h : HeadRead c received account)
    (htag : c.inDesc.tag = .message) (hsecure : c.secure = false)
    (hmsg : msg = ⟨c.inDesc.front, c.inDesc.middle, c.inDesc.data⟩)
    (hlen : c.inDesc.tailLen c.secure ≠ 0)
    (hc : ({ c with inMsg := some msg } : Con).prepareReadTailPlain msg input = .ok c') :
    InFrame ⟨c', received, account.handle c.inDesc c.secure input⟩ := by
  have htail : msg.frontLen + msg.middleLen + msg.dataLen + epiloguePlainLen =
      c.inDesc.tailLen c.secure := by
    have hsome := mt Desc.tailLen_eq_zero_iff.mpr hlen
    rw [hmsg, hsecure]
    simp only [Desc.tailLen, tailOnwireLen, if_neg hsome, Bool.false_eq_true, if_false]
  unfold Con.prepareReadTailPlain at hc
  split at hc
  · rename_i hnone
    exact h.prepareReadData htag hsecure hlen (by omega) hc
  · split at hc
    · rename_i hdata
      cases hc
      refine ⟨h.inFrames, msg, rfl, Nat.pos_of_ne_zero hdata, hsecure,
        h.tail htag hlen rfl rfl rfl rfl ?_⟩
      show msg.frontLen + msg.middleLen + (msg.dataLen + epiloguePlainLen) = _
      omega
    · rename_i hdata
      cases hc
      refine ⟨h.inFrames, rfl, h.tail htag hlen rfl rfl rfl rfl ?_⟩
      show msg.frontLen + msg.middleLen + epiloguePlainLen + 0 = _
      omega

/-- Whatever frame the head announces, the connection stays in step. -/
theorem HeadRead.handleControlBody {c c' : Con} {input : Input} {received : Nat}
    {account : Account} (h : HeadRead c received account)
    (hc : c.handleControlBody .discard input = .ok c') :
    InFrame ⟨c', received, account.handle c.inDesc c.secure input⟩ := by
  unfold Con.handleControlBody at hc
  split at hc
  · rename_i htag
    exact h.processControl htag hc
  · rename_i htag
    rw [not_not] at htag
    cases hheader : c.processMessageHeader input with
    | error e => simp [hheader, bind, Except.bind] at hc
    | ok verdict =>
        cases verdict with
        | none =>
            simp only [hheader, bind, Except.bind, pure, Except.pure, Except.ok.injEq] at hc
            subst hc
            exact h.prepareSkipMessage htag
        | some msg =>
            have hmsg := Con.processMessageHeader_eq_some hheader
            simp only [hheader, bind, Except.bind] at hc
            split at hc
            · rename_i hzero
              have hlen : c.inDesc.tailLen c.secure = 0 :=
                Desc.tailLen_eq_zero_iff.mpr (by simpa [hmsg] using hzero)
              unfold Con.processMessage at hc
              split at hc
              · cases hc
              · cases hc
                exact h.empty input htag hlen
            · rename_i hsome
              have hlen : c.inDesc.tailLen c.secure ≠ 0 :=
                mt Desc.tailLen_eq_zero_iff.mp (by simpa [hmsg] using hsome)
              split at hc
              · rename_i hsecure
                cases hc
                exact h.prepareReadTailSecure htag hsecure hmsg hlen
              · rename_i hsecure
                exact h.prepareReadTailPlain htag (by simpa [Con.secure] using hsecure) hmsg hlen hc

/-- A step of the tail that asks for more of what is left keeps the account. -/
theorem Tail.rearm {c c' : Con} {received pending pending' : Nat} {account : Account}
    (h : Tail ⟨c, received, account⟩ pending) (hdesc : c'.inDesc = c.inDesc)
    (hmode : c'.conMode = c.conMode) (hseq : c'.inSeq = c.inSeq)
    (hnonce : c'.inGcmNonce = c.inGcmNonce)
    (hpending : c'.inIter + pending' = c.inIter + pending) :
    Tail ⟨c', received, account⟩ pending' := by
  have hsecure : c'.secure = c.secure := by
    unfold Con.secure
    rw [hmode]
  refine ⟨?_, ?_, ?_, ?_⟩
  · show received + (c'.inIter + pending') = account.position
    rw [hpending]
    exact h.bytes
  · show c'.inIter + pending' ≤ c'.inDesc.tailLen c'.secure
    rw [hpending, hdesc, hsecure]
    exact h.fits
  · exact hseq ▸ h.seq
  · show (if c'.secure then c'.inGcmNonce + 1 else c'.inGcmNonce) = account.nonce
    rw [hsecure, hnonce]
    exact h.nonce

/-- A tail that is over: the next preamble is asked for, with the sequence number and the nonce
advanced. -/
theorem Tail.finish {c : Con} {received : Nat} {account : Account}
    (h : Tail ⟨c, received, account⟩ 0) (hframes : c.state.inFrames = true) (hiter : c.inIter = 0) :
    InFrame ⟨({ (if c.secure then c.gcmIncNonce else c) with
      inMsg := none, inSeq := c.inSeq + 1 } : Con).prepareReadPreamble, received, account⟩ := by
  have hbytes : received = account.position := by
    have hbytes : received + (c.inIter + 0) = account.position := h.bytes
    omega
  have hnonce := h.nonce
  cases hs : c.secure with
  | false =>
      simp only [hs, Bool.false_eq_true, if_false] at hnonce ⊢
      exact inFrame_prepareReadPreamble hframes rfl hbytes h.seq hnonce
  | true =>
      simp only [hs, if_true] at hnonce ⊢
      exact inFrame_prepareReadPreamble hframes rfl hbytes h.seq hnonce

section

variable {crc32c : Bytes → UInt32}

/-- A preamble that was read and decoded is a head, or the beginning of one. -/
theorem InFrame.handlePreamble {c c' : Con} {received : Nat} {account : Account} {input : Input}
    (h : InFrame ⟨c, received, account⟩) (hstate : c.inState = .handlePreamble)
    (hiter : c.inIter = 0) (hc : c.handlePreamble crc32c .discard input = .ok c') :
    InFrame ⟨c', received, account.populated crc32c c input⟩ := by
  obtain ⟨hframes, hhead⟩ := h
  simp only [hstate] at hhead
  have hread : received = account.position + c.preambleLen := by
    have hbytes : received + c.inIter = account.position + c.preambleLen := hhead.bytes
    omega
  rw [Account.populated_of_inFrames hframes]
  obtain ⟨-, hc⟩ := Input.check_bind_eq_ok_iff.mp hc
  cases hdecode : decodePreamble crc32c input.preamble with
  | error e => simp [hdecode, bind, Except.bind] at hc
  | ok desc =>
      simp only [hdecode, bind, Except.bind] at hc
      cases hs : c.secure with
      | false =>
          have hmode : c.conMode ≠ .secure := by simpa [Con.secure] using hs
          simp only [Bool.false_eq_true, if_false, Con.secure, hmode, decide_false,
            not_false_eq_true, if_true, pure, Except.pure, Except.ok.injEq] at hc
          subst hc
          simp only [Con.handled, hstate, hdecode, hs, Bool.false_eq_true, false_and, if_false]
          refine ⟨hframes, hs, ?_, hhead.msg, hhead.seq, hhead.nonce⟩
          show received + (desc.control + crcLen) = account.position + desc.headLen false
          simp only [Con.preambleLen, hs, Bool.false_eq_true, if_false] at hread
          simp only [Desc.headLen, Bool.false_eq_true, if_false]
          omega
      | true =>
          have hmode : c.conMode = .secure := by simpa [Con.secure] using hs
          have hnonce : c.inGcmNonce = account.nonce := hhead.nonce
          simp only [Con.preambleLen, hs, if_true] at hread
          simp only [if_true, Con.secure, Con.gcmIncNonce, hmode, decide_true,
            not_true_eq_false, if_false] at hc
          by_cases hlong : desc.control > preambleInlineLen
          · simp only [hlong, if_true, pure, Except.pure, Except.ok.injEq] at hc
            subst hc
            simp only [Con.handled, hstate, hdecode, Nat.not_le.mpr hlong, and_false, if_false]
            refine ⟨hframes, rfl, hlong, ?_, hhead.msg, hhead.seq, ?_⟩
            · show received + (desc.control - preambleInlineLen +
                (paddingLen (desc.control - preambleInlineLen) + gcmTagLen)) =
                  account.position + desc.headLen true
              have hpad := add_paddingLen (desc.control - preambleInlineLen)
              simp only [Desc.headLen, headOnwireLen, hlong, if_true]
              omega
            · show c.inGcmNonce + 1 = account.nonce + 1
              rw [hnonce]
          · simp only [hlong, if_false] at hc
            simp only [Con.handled, hstate, hdecode, hs, true_and, Nat.not_lt.mp hlong, if_true]
            have hread' : HeadRead
                { c with conMode := .secure, inGcmNonce := c.inGcmNonce + 1, inDesc := desc }
                received account := by
              refine ⟨hframes, ?_, hhead.msg, hhead.seq, ?_⟩
              · show received = account.position + desc.headLen true
                simp only [Desc.headLen, headOnwireLen, hlong, if_true, if_false]
                omega
              · show c.inGcmNonce + 1 = account.nonce + desc.headSections true
                simp [Desc.headSections, hlong, hnonce]
            exact hread'.handleControlBody hc

/-- A control segment that was read in plain mode. -/
theorem InFrame.handleControl {c c' : Con} {received : Nat} {account : Account} {input : Input}
    (h : InFrame ⟨c, received, account⟩) (hstate : c.inState = .handleControl)
    (hiter : c.inIter = 0) (hc : c.handleControl .discard input = .ok c') :
    InFrame ⟨c', received, account.populated crc32c c input⟩ := by
  obtain ⟨hframes, hrest⟩ := h
  simp only [hstate] at hrest
  obtain ⟨hsecure, hhead⟩ := hrest
  have hbytes : received + c.inIter = account.position + c.inDesc.headLen false := hhead.bytes
  have hnonce : c.inGcmNonce = account.nonce := hhead.nonce
  rw [Account.populated_of_inFrames hframes]
  simp only [Con.handled, hstate]
  have hread : HeadRead c received account := by
    refine ⟨hframes, ?_, hhead.msg, hhead.seq, ?_⟩
    · rw [hsecure]
      omega
    · simp [Desc.headSections, hsecure, hnonce]
  exact hread.handleControlBody (Input.check_bind_eq_ok_iff.mp hc).2

/-- The rest of a control segment that was read and decrypted. -/
theorem InFrame.handleControlRemainder {c c' : Con} {received : Nat} {account : Account}
    {input : Input} (h : InFrame ⟨c, received, account⟩)
    (hstate : c.inState = .handleControlRemainder) (hiter : c.inIter = 0)
    (hc : c.handleControlRemainder .discard input = .ok c') :
    InFrame ⟨c', received, account.populated crc32c c input⟩ := by
  obtain ⟨hframes, hrest⟩ := h
  simp only [hstate] at hrest
  obtain ⟨hsecure, hlong, hhead⟩ := hrest
  have hbytes : received + c.inIter = account.position + c.inDesc.headLen true := hhead.bytes
  have hnonce : c.inGcmNonce = account.nonce + 1 := hhead.nonce
  rw [Account.populated_of_inFrames hframes]
  simp only [Con.handled, hstate]
  have hread : HeadRead c.gcmIncNonce received account := by
    refine ⟨hframes, ?_, hhead.msg, hhead.seq, ?_⟩
    · show received = account.position + c.inDesc.headLen c.secure
      rw [hsecure]
      omega
    · show c.inGcmNonce + 1 = account.nonce + c.inDesc.headSections c.secure
      simp [Desc.headSections, hsecure, hlong, hnonce, BitVec.add_assoc]
  exact hread.handleControlBody (Input.check_bind_eq_ok_iff.mp hc).2

/-- The next piece of data, or the epilogue after the last one. -/
theorem InFrame.prepareReadDataCont {c : Con} {received : Nat} {account : Account} {input : Input}
    (h : InFrame ⟨c, received, account⟩) (hstate : c.inState = .prepareReadDataCont)
    (hiter : c.inIter = 0) : InFrame ⟨c.prepareReadDataCont input, received, account⟩ := by
  obtain ⟨hframes, hrest⟩ := h
  simp only [hstate] at hrest
  obtain ⟨hmsg, -, -, hsecure, htail⟩ := hrest
  unfold Con.prepareReadDataCont Con.setInBvec Con.setInKvecs
  by_cases hmore : c.inCursor - c.inBvec = 0
  · simp only [hmore, ne_eq, not_true_eq_false, if_false]
    refine ⟨hframes, hmsg, htail.rearm rfl rfl rfl rfl ?_⟩
    show epiloguePlainLen + 0 = c.inIter + (c.inCursor - c.inBvec + epiloguePlainLen)
    omega
  · simp only [hmore, ne_eq, not_false_eq_true, if_true]
    have hle := Con.getBvecAt_le (c.inCursor - c.inBvec) input.piece
    refine ⟨hframes, ?_⟩
    simp only [hstate]
    refine ⟨hmsg, Nat.le_refl _, hle, hsecure, htail.rearm rfl rfl rfl rfl ?_⟩
    show Con.getBvecAt (c.inCursor - c.inBvec) input.piece +
      (c.inCursor - c.inBvec - Con.getBvecAt (c.inCursor - c.inBvec) input.piece +
        epiloguePlainLen) = c.inIter + (c.inCursor - c.inBvec + epiloguePlainLen)
    omega

/-- The next page of ciphertext. -/
theorem InFrame.prepareReadEncPage {c : Con} {received : Nat} {account : Account}
    (h : InFrame ⟨c, received, account⟩) (hstate : c.inState = .prepareReadEncPage)
    (hiter : c.inIter = 0) : InFrame ⟨c.prepareReadEncPage, received, account⟩ := by
  obtain ⟨hframes, hrest⟩ := h
  simp only [hstate] at hrest
  obtain ⟨hmsg, hsecure, htail⟩ := hrest
  unfold Con.prepareReadEncPage Con.setInBvec
  by_cases hmore : c.inEncResid - min c.inEncResid pageSize = 0
  · simp only [hmore, ne_eq, not_true_eq_false, if_false]
    refine ⟨hframes, hmsg, htail.rearm rfl rfl rfl rfl ?_⟩
    show min c.inEncResid pageSize + 0 = c.inIter + c.inEncResid
    omega
  · simp only [hmore, ne_eq, not_false_eq_true, if_true]
    refine ⟨hframes, hmsg, hsecure, htail.rearm rfl rfl rfl rfl ?_⟩
    show min c.inEncResid pageSize + (c.inEncResid - min c.inEncResid pageSize) =
      c.inIter + c.inEncResid
    omega

/-- Whatever has been read of a frame, looking at it keeps the connection in step. -/
theorem InFrame.handleFrame {c c' : Con} {received : Nat} {account : Account} {input : Input}
    (h : InFrame ⟨c, received, account⟩) (hiter : c.inIter = 0)
    (hc : c.handleFrame crc32c .discard input = .ok c') :
    InFrame ⟨c', received, account.populated crc32c c input⟩ := by
  -- after the head there is no further frame to account for
  have hsame (hnone : c.handled crc32c input = none) :
      account.populated crc32c c input = account := by
    rw [Account.populated_of_inFrames h.1, hnone]
  unfold Con.handleFrame at hc
  cases hstate : c.inState with
  | unset => simp [hstate] at hc
  | handlePreamble =>
      rw [hstate] at hc
      exact h.handlePreamble hstate hiter hc
  | handleControl =>
      rw [hstate] at hc
      exact h.handleControl hstate hiter hc
  | handleControlRemainder =>
      rw [hstate] at hc
      exact h.handleControlRemainder hstate hiter hc
  | prepareReadData =>
      rw [hsame (by simp [Con.handled, hstate])]
      obtain ⟨hframes, hrest⟩ := h
      simp only [hstate] at hrest
      obtain ⟨msg, hmsg, -, hsecure, htail⟩ := hrest
      have hmsg : c.inMsg = some msg := hmsg
      simp only [hstate, hmsg] at hc
      obtain ⟨-, hok⟩ := Input.check_bind_eq_ok_iff.mp hc
      cases hok
      have hle := Con.getBvecAt_le msg.dataLen input.piece
      refine ⟨hframes, by simp [Con.setInBvec, hmsg], Nat.le_refl _, hle, hsecure,
        htail.rearm rfl rfl rfl rfl ?_⟩
      show Con.getBvecAt msg.dataLen input.piece +
        (msg.dataLen - Con.getBvecAt msg.dataLen input.piece + epiloguePlainLen) =
          c.inIter + (msg.dataLen + epiloguePlainLen)
      omega
  | prepareReadDataCont =>
      simp only [hstate, Except.ok.injEq] at hc
      subst hc
      rw [hsame (by simp [Con.handled, hstate])]
      exact h.prepareReadDataCont hstate hiter
  | prepareReadEncPage =>
      simp only [hstate, Except.ok.injEq] at hc
      subst hc
      rw [hsame (by simp [Con.handled, hstate])]
      exact h.prepareReadEncPage hstate hiter
  | handleEpilogue =>
      rw [hsame (by simp [Con.handled, hstate])]
      obtain ⟨hframes, hrest⟩ := h
      simp only [hstate] at hrest hc
      obtain ⟨-, htail⟩ := hrest
      have hc := (Input.check_bind_eq_ok_iff.mp hc).2
      unfold Con.processMessage at hc
      split at hc
      · cases hc
      · cases hc
        have hseq : (if c.secure then c.gcmIncNonce else c).inSeq = c.inSeq := by
          split <;> rfl
        rw [hseq]
        exact htail.finish hframes hiter
  | finishSkip =>
      rw [hsame (by simp [Con.handled, hstate])]
      obtain ⟨hframes, hrest⟩ := h
      simp only [hstate] at hrest hc
      obtain ⟨hmsg, htail⟩ := hrest
      have hmsg : c.inMsg = none := hmsg
      simp only [Con.finishSkip, reduceCtorEq, false_and, if_false, Except.ok.injEq] at hc
      subst hc
      have hfinish := htail.finish hframes hiter
      cases hs : c.secure with
      | false =>
          simp only [hs, Bool.false_eq_true, if_false] at hfinish ⊢
          simpa [Con.finishSkipped, hmsg] using hfinish
      | true =>
          simp only [hs, if_true] at hfinish ⊢
          simpa [Con.finishSkipped, Con.gcmIncNonce, hmsg] using hfinish

/-- What `populate_in_iter` succeeds with. -/
theorem Con.populateInIter_eq_ok_iff {k : Kernel} {c c' : Con} {input : Input} :
    c.populateInIter crc32c k input = .ok c' ↔
      c.process crc32c k input = .ok c' ∧ c'.inIter ≠ 0 := by
  unfold Con.populateInIter
  cases hprocess : c.process crc32c k input with
  | error e => simp [bind, Except.bind]
  | ok done =>
      by_cases hiter : done.inIter = 0
      · simp only [bind, Except.bind, hiter, if_true, reduceCtorEq, false_iff, not_and,
          Except.ok.injEq]
        rintro rfl
        simp [hiter]
      · simp only [bind, Except.bind, hiter, if_false, pure, Except.pure, Except.ok.injEq]
        constructor
        · rintro rfl
          exact ⟨rfl, hiter⟩
        · exact And.left

/-- Looking at what was read keeps the connection in step. -/
theorem Synced.process {w : Link} {c : Con} {input : Input} (h : Synced w)
    (hiter : w.con.inIter = 0) (hc : w.con.process crc32c .discard input = .ok c) :
    Synced ⟨c, w.received, w.account.populated crc32c w.con input⟩ := by
  cases hframes : w.con.state.inFrames with
  | true =>
      rw [Con.process_of_inFrames hframes] at hc
      exact (((synced_iff_inFrame hframes).mp h).handleFrame hiter hc).synced
  | false =>
      unfold Synced at h
      unfold Con.process at hc
      unfold Account.populated
      split at hc
      · rename_i hstate
        simp only [hstate] at h ⊢
        obtain ⟨-, hok⟩ := Input.check_bind_eq_ok_iff.mp hc
        cases hok
        refine ⟨?_, h.msg, h.seq, h.nonce⟩
        have hbytes := h.bytes
        show w.received + input.payloadLen = w.account.position + input.payloadLen + 0
        omega
      · rename_i hstate
        simp only [hstate] at h ⊢
        obtain ⟨-, hok⟩ := Input.check_bind_eq_ok_iff.mp hc
        cases hok
        have hbytes := h.bytes
        have hframes : ({ w.con with state := .hello } : Con).state.inFrames = true := rfl
        exact (inFrame_prepareReadPreamble hframes h.msg (by omega) h.seq h.nonce).synced
      · cases hc
      · simp_all [State.inFrames]

/-- A connection without a socket is in step. -/
theorem synced_of_closed {w : Link} (hstate : w.con.state = .closed) (hmsg : w.con.inMsg = none)
    (hiter : w.con.inIter = 0) : Synced w := by
  unfold Synced
  rw [hstate]
  exact ⟨hmsg, hiter⟩

theorem synced_init : Synced Link.init := synced_of_closed rfl rfl rfl

/-- Bytes that arrive move from what is asked for to what is received. -/
theorem Head.recv {w : Link} {n len : Nat} {nonce : BitVec 64} (h : Head w len nonce)
    (hn : n ≤ w.con.inIter) :
    Head ⟨{ w.con with inIter := w.con.inIter - n }, w.received + n, w.account⟩ len nonce := by
  have hbytes := h.bytes
  refine ⟨?_, h.msg, h.seq, h.nonce⟩
  show w.received + n + (w.con.inIter - n) = w.account.position + len
  omega

theorem Tail.recv {w : Link} {n pending : Nat} (h : Tail w pending) (hn : n ≤ w.con.inIter) :
    Tail ⟨{ w.con with inIter := w.con.inIter - n }, w.received + n, w.account⟩ pending := by
  have hbytes := h.bytes
  have hfits := h.fits
  refine ⟨?_, ?_, h.seq, h.nonce⟩
  · show w.received + n + (w.con.inIter - n + pending) = w.account.position
    omega
  · show w.con.inIter - n + pending ≤ w.con.inDesc.tailLen w.con.secure
    omega

/-- A read of any size keeps the connection in step. -/
theorem Synced.recv {w : Link} {n : Nat} (h : Synced w) (hn : n ≤ w.con.inIter) :
    Synced ⟨{ w.con with inIter := w.con.inIter - n }, w.received + n, w.account⟩ := by
  cases hframes : w.con.state.inFrames with
  | true =>
      obtain ⟨-, hrest⟩ := (synced_iff_inFrame hframes).mp h
      refine InFrame.synced ⟨hframes, ?_⟩
      obtain ⟨⟨state, conMode, inState, inIter, inBvec, inSkipResid, inDesc, inMsg, inCursor,
        inEncResid, inSeq, inGcmNonce⟩, received, account⟩ := w
      cases inState with
      | unset => exact hrest
      | handlePreamble => exact Head.recv hrest hn
      | handleControl => exact ⟨hrest.1, Head.recv hrest.2 hn⟩
      | handleControlRemainder => exact ⟨hrest.1, hrest.2.1, Head.recv hrest.2.2 hn⟩
      | prepareReadData =>
          obtain ⟨msg, hmsg, hdata, hsecure, htail⟩ := hrest
          exact ⟨msg, hmsg, hdata, hsecure, htail.recv hn⟩
      | prepareReadDataCont =>
          obtain ⟨hmsg, hbvec, hcursor, hsecure, htail⟩ := hrest
          exact ⟨hmsg, Nat.le_trans (Nat.sub_le _ _) hbvec, hcursor, hsecure, htail.recv hn⟩
      | prepareReadEncPage => exact ⟨hrest.1, hrest.2.1, Tail.recv hrest.2.2 hn⟩
      | handleEpilogue => exact ⟨hrest.1, Tail.recv hrest.2 hn⟩
      | finishSkip => exact ⟨hrest.1, Tail.recv hrest.2 hn⟩
  | false =>
      unfold Synced at h ⊢
      split at h
      · rename_i hstate
        rw [hstate]
        have hzero : w.con.inIter - n = 0 := by omega
        exact ⟨h.1, hzero⟩
      · rename_i hstate
        rw [hstate]
        exact h.recv hn
      · rename_i hstate
        rw [hstate]
        exact h.recv hn
      · simp_all [State.inFrames]

/-- A message that is being read is in its tail: nothing but the skip of what is left follows its
revocation. -/
theorem Synced.revoke {w : Link} {msg : Msg} (h : Synced w) (hmsg : w.con.inMsg = some msg) :
    w.con.state.inFrames = true ∧ (w.con.revokeIncoming .discard msg).inState = .finishSkip ∧
      Synced { w with con := w.con.revokeIncoming .discard msg } := by
  have hframes : w.con.state.inFrames = true := by
    unfold Synced at h
    split at h
    · simp_all
    · have hnone := h.msg
      simp_all
    · have hnone := h.msg
      simp_all
    · cases hstate : w.con.state <;> simp_all [State.inFrames]
  obtain ⟨-, hrest⟩ := (synced_iff_inFrame hframes).mp h
  refine ⟨hframes, ?_⟩
  suffices hskip : (w.con.revokeIncoming .discard msg).inState = .finishSkip ∧
      InFrame { w with con := w.con.revokeIncoming .discard msg } from
    ⟨hskip.1, hskip.2.synced⟩
  split at hrest
  · exact hrest.elim
  · simp [hrest.msg] at hmsg
  · simp [hrest.2.msg] at hmsg
  · simp [hrest.2.2.msg] at hmsg
  · rename_i hstate
    obtain ⟨msg', hmsg', -, -, htail⟩ := hrest
    obtain rfl : msg' = msg := by simpa [hmsg'] using hmsg
    simp only [Con.revokeIncoming, hstate]
    exact ⟨trivial, hframes, rfl, htail.rearm rfl rfl rfl rfl rfl⟩
  · rename_i hstate
    obtain ⟨-, hbvec, hcursor, -, htail⟩ := hrest
    simp only [Con.revokeIncoming, hstate]
    refine ⟨trivial, hframes, rfl, htail.rearm rfl rfl rfl rfl ?_⟩
    show w.con.inCursor - (w.con.inBvec - w.con.inIter) + epiloguePlainLen + 0 =
      w.con.inIter + (w.con.inCursor - w.con.inBvec + epiloguePlainLen)
    omega
  · rename_i hstate
    simp only [Con.revokeIncoming, hstate]
    exact ⟨trivial, hframes, rfl, hrest.2.2.rearm rfl rfl rfl rfl rfl⟩
  · rename_i hstate
    simp only [Con.revokeIncoming, hstate]
    exact ⟨trivial, hframes, rfl, hrest.2.rearm rfl rfl rfl rfl rfl⟩
  · simp [hrest.1] at hmsg

/-- Every step of the receiver that discards keeps it in step. -/
theorem Synced.step {w w' : Link} {label : Label} (h : Synced w)
    (hstep : Msgr2.step crc32c .discard w label = some w') : Synced w' := by
  cases label with
  | connect =>
      simp only [Msgr2.step] at hstep
      split at hstep
      · rename_i hstate
        cases hstep
        simp only [Synced, hstate] at h
        exact ⟨Nat.zero_add _, h.1, rfl, rfl⟩
      · cases hstep
  | recv n =>
      simp only [Msgr2.step] at hstep
      split at hstep
      · rename_i hn
        cases hstep
        exact h.recv hn.2
      · cases hstep
  | populate input =>
      simp only [Msgr2.step] at hstep
      split at hstep
      · rename_i henabled
        split at hstep
        · rename_i c hc
          cases hstep
          exact h.process henabled.2 (Con.populateInIter_eq_ok_iff.mp hc).1
        · cases hstep
          exact synced_of_closed rfl rfl rfl
      · cases hstep
  | revoke =>
      simp only [Msgr2.step] at hstep
      split at hstep
      · rename_i msg hmsg
        split at hstep
        · cases hstep
          exact (h.revoke hmsg).2.2
        · cases hstep
      · cases hstep
  | fault =>
      simp only [Msgr2.step] at hstep
      split at hstep
      · cases hstep
        exact synced_of_closed rfl rfl rfl
      · cases hstep
  | close =>
      cases hstep
      exact synced_of_closed rfl rfl rfl

end

end XcpCephRbd.Msgr2
