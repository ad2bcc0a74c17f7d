import XcpCephRbd.Msgr2.Frame

/-!
# The receive side of a msgr2 connection

`populate_in_iter` and what it calls: the machine that, each time the bytes it asked for have
arrived, looks at them and says how many it wants next. Only the amounts are kept of the buffers:
`inIter` is the count of `in_iter`. What the bytes say (the preamble, the header's sequence number,
the answer of `alloc_msg`, where a piece of data ends) is an `Input` of the call.

The kernels differ in one place. From 5.0 on a skip discards any number of bytes in one iterator;
before, the bytes are drained into a page, a chunk at a time, and `in_skip_resid` counts what is
left after the chunk. Sparse reads are left out.
-/

namespace XcpCephRbd.Msgr2

open Wire

/-- Which side of `LINUX_VERSION_CODE < KERNEL_VERSION(5, 0, 0)` the module is built for. -/
inductive Kernel where
  /-- before 5.0: no `ITER_DISCARD` -/
  | compat
  /-- from 5.0 on -/
  | discard
  deriving DecidableEq, Repr

/-- `CEPH_CON_S_*`; `closed` stands for the states without a socket. -/
inductive State where
  | closed
  | bannerPrefix
  | bannerPayload
  | hello
  | auth
  | authSignature
  | sessionConnect
  | sessionReconnect
  | opened
  deriving DecidableEq, Repr

/-- The states in which frames are read. -/
def State.inFrames : State → Bool
  | .closed => false
  | .bannerPrefix => false
  | .bannerPayload => false
  | _ => true

/-- `CEPH_CON_MODE_*` -/
inductive ConMode where
  | unknown
  | crc
  | secure
  deriving DecidableEq, Repr

/-- `IN_S_*`; `unset` is the zero a new connection has. -/
inductive InState where
  | unset
  | handlePreamble
  | handleControl
  | handleControlRemainder
  | prepareReadData
  | prepareReadDataCont
  | prepareReadEncPage
  | handleEpilogue
  | finishSkip
  deriving DecidableEq, Repr

/-- The lengths in the header of a message. -/
structure Msg where
  frontLen : Nat
  middleLen : Nat
  dataLen : Nat
  deriving DecidableEq, Repr

/-- What the receive side reads of `struct ceph_connection`. -/
structure Con where
  state : State
  conMode : ConMode
  inState : InState
  /-- `iov_iter_count(&in_iter)` -/
  inIter : Nat
  /-- `in_bvec.bv_len` -/
  inBvec : Nat
  inSkipResid : Nat
  inDesc : Desc
  inMsg : Option Msg
  /-- `in_cursor.total_resid` -/
  inCursor : Nat
  inEncResid : Nat
  inSeq : BitVec 64
  /-- the counter of `in_gcm_nonce` -/
  inGcmNonce : BitVec 64
  deriving DecidableEq, Repr

/-- What `ceph_con_in_msg_alloc` comes back with. -/
inductive Alloc where
  /-- a message to read into -/
  | message
  /-- no message: skip it -/
  | skip
  /-- no memory -/
  | failed
  /-- the connection was closed meanwhile -/
  | closed
  deriving DecidableEq, Repr

/-- What the received bytes say, and what the environment answers, in one call of
`populate_in_iter`. -/
structure Input where
  /-- a check of the content (banner, tag, checksum, epilogue) or an allocation that fails -/
  fails : Option Errno
  /-- the payload length in the banner -/
  payloadLen : Nat
  /-- the preamble, decrypted -/
  preamble : Bytes
  /-- the mode the server grants, and the nonce that goes with it -/
  mode : ConMode
  nonce : BitVec 64
  /-- whether there is a session to reconnect to (`server_cookie`) -/
  cookie : Bool
  /-- the sequence number in the header -/
  seq : BitVec 64
  alloc : Alloc
  /-- where the next piece of data ends -/
  piece : Nat
  /-- the connection was closed while the message was dispatched -/
  closed : Bool
  deriving DecidableEq, Repr

/-- The checks that can fail. -/
def Input.check (input : Input) : Except Errno Unit :=
  match input.fails with
  | none => .ok ()
  | some e => .error e

namespace Con

/-- A connection as `ceph_con_init` leaves it. -/
def init : Con :=
  { state := .closed
    conMode := .unknown
    inState := .unset
    inIter := 0
    inBvec := 0
    inSkipResid := 0
    inDesc := Desc.zero
    inMsg := none
    inCursor := 0
    inEncResid := 0
    inSeq := 0
    inGcmNonce := 0 }

/-- `con_secure` -/
def secure (c : Con) : Bool := c.conMode = .secure

/-- `reset_in_kvecs` and `add_in_kvec`: ask for `len` bytes. -/
def setInKvecs (c : Con) (len : Nat) : Con := { c with inIter := len }

def setInBvec (c : Con) (bvLen : Nat) : Con := { c with inBvec := bvLen, inIter := bvLen }

/-- One chunk of a skip, of at most a page. The page that `get_skip_page` allocates for the first
one, of order 0 and `GFP_NOIO`, is there. -/
def armSkipChunk (c : Con) : Con :=
  let n := min c.inSkipResid pageSize
  { c.setInBvec n with inSkipResid := c.inSkipResid - n }

def setInSkip (k : Kernel) (c : Con) (len : Nat) : Con :=
  match k with
  | .compat => armSkipChunk { c with inSkipResid := len }
  | .discard => { c with inIter := len }

def gcmIncNonce (c : Con) : Con := { c with inGcmNonce := c.inGcmNonce + 1 }

def prepareReadBannerPrefix (c : Con) : Con :=
  { c.setInKvecs bannerPrefixLen with state := .bannerPrefix }

def prepareReadBannerPayload (c : Con) (payloadLen : Nat) : Con :=
  { c.setInKvecs payloadLen with state := .bannerPayload }

/-- The length of a preamble in this mode. -/
def preambleLen (c : Con) : Nat := if c.secure then preambleSecureLen else preamblePlainLen

def prepareReadPreamble (c : Con) : Con :=
  { c.setInKvecs c.preambleLen with inState := .handlePreamble }

def prepareReadControl (c : Con) : Con :=
  { c.setInKvecs (c.inDesc.control + crcLen) with inState := .handleControl }

def prepareReadControlRemainder (c : Con) : Con :=
  let remLen := c.inDesc.control - preambleInlineLen
  { c.setInKvecs (remLen + (paddingLen remLen + gcmTagLen)) with
    inState := .handleControlRemainder }

/-- `get_bvec_at`: the next piece of data, at least a byte, within its page and within what is
left. -/
def getBvecAt (totalResid piece : Nat) : Nat := min (min totalResid pageSize) (piece + 1)

def prepareReadData (c : Con) (msg : Msg) (input : Input) : Except Errno Con := do
  input.check
  return { c.setInBvec (getBvecAt msg.dataLen input.piece) with
    inCursor := msg.dataLen, inState := .prepareReadDataCont }

def prepareReadDataCont (c : Con) (input : Input) : Con :=
  let totalResid := c.inCursor - c.inBvec
  if totalResid ≠ 0 then
    { c.setInBvec (getBvecAt totalResid input.piece) with inCursor := totalResid }
  else
    { c.setInKvecs epiloguePlainLen with inCursor := totalResid, inState := .handleEpilogue }

def prepareReadTailPlain (c : Con) (msg : Msg) (input : Input) : Except Errno Con :=
  if msg.frontLen = 0 ∧ msg.middleLen = 0 then prepareReadData c msg input
  else if msg.dataLen ≠ 0 then
    .ok { c.setInKvecs (msg.frontLen + msg.middleLen) with inState := .prepareReadData }
  else
    .ok { c.setInKvecs (msg.frontLen + msg.middleLen + epiloguePlainLen) with
      inState := .handleEpilogue }

def prepareReadEncPage (c : Con) : Con :=
  let bvLen := min c.inEncResid pageSize
  { c.setInBvec bvLen with
    inEncResid := c.inEncResid - bvLen
    inState := if c.inEncResid - bvLen ≠ 0 then .prepareReadEncPage else .handleEpilogue }

def prepareReadTailSecure (c : Con) (msg : Msg) : Con :=
  prepareReadEncPage
    { c with inEncResid := tailOnwireLen msg.frontLen msg.middleLen msg.dataLen true }

/-- `__finish_skip` -/
def finishSkipped (c : Con) : Con := prepareReadPreamble { c with inSeq := c.inSeq + 1 }

def prepareSkipMessage (k : Kernel) (c : Con) : Con :=
  let tailLen := c.inDesc.tailLen c.secure
  if tailLen = 0 then finishSkipped c
  else { setInSkip k c tailLen with inState := .finishSkip }

/-- What the handler of a control frame changes here: the state of the handshake, the mode and
nonce that authentication ends with, and the sequence number a session starts anew. -/
def controlEffect (c : Con) (input : Input) : Except Errno Con :=
  match c.inDesc.tag, c.state with
  | .hello, .hello => .ok { c with state := .auth }
  | .authBadMethod, .auth => .ok c
  | .authReplyMore, .auth => .ok c
  | .authDone, .auth =>
      match input.mode with
      | .unknown => .error .inval
      | .crc => .ok { c with state := .authSignature, conMode := .crc }
      | .secure =>
          .ok { c with state := .authSignature, conMode := .secure, inGcmNonce := input.nonce }
  | .authSignature, .authSignature =>
      .ok { c with state := if input.cookie then .sessionReconnect else .sessionConnect }
  | .serverIdent, .sessionConnect => .ok { c with state := .opened }
  | .sessionReconnectOk, .sessionReconnect => .ok { c with state := .opened }
  | .sessionRetry, .sessionReconnect => .ok c
  | .sessionRetryGlobal, .sessionReconnect => .ok c
  | .sessionReset, .sessionReconnect => .ok { c with state := .sessionConnect, inSeq := 0 }
  | .keepalive2Ack, .opened => .ok c
  | .ack, .opened => .ok c
  | _, _ => .error .inval

def processControl (c : Con) (input : Input) : Except Errno Con := do
  let c ← controlEffect c input
  return prepareReadPreamble c

/-- The message to read, or nothing where it is to be skipped. -/
def processMessageHeader (c : Con) (input : Input) : Except Errno (Option Msg) :=
  let ahead := (input.seq - c.inSeq).toInt
  if ahead < 1 then .ok none
  else if ahead > 1 then .error .bade
  else
    match input.alloc with
    | .message => .ok (some ⟨c.inDesc.front, c.inDesc.middle, c.inDesc.data⟩)
    | .skip => .ok none
    | .failed => .error .nomem
    | .closed => .error .again

def processMessage (c : Con) (input : Input) : Except Errno Con :=
  if input.closed then .error .again
  else .ok (prepareReadPreamble { c with inMsg := none, inSeq := c.inSeq + 1 })

/-- `__handle_control` -/
def handleControlBody (k : Kernel) (c : Con) (input : Input) : Except Errno Con := do
  if c.inDesc.tag ≠ .message then processControl c input
  else
    match ← processMessageHeader c input with
    | none => return prepareSkipMessage k c
    | some msg =>
        let c := { c with inMsg := some msg }
        if msg.frontLen = 0 ∧ msg.middleLen = 0 ∧ msg.dataLen = 0 then processMessage c input
        else if c.secure then return prepareReadTailSecure c msg
        else prepareReadTailPlain c msg input

/-- `handle_preamble`, of the preamble that was read. -/
def handlePreamble (crc32c : Bytes → UInt32) (k : Kernel) (c : Con) (input : Input) :
    Except Errno Con := do
  input.check
  let c := if c.secure then c.gcmIncNonce else c
  let desc ← decodePreamble crc32c input.preamble
  let c := { c with inDesc := desc }
  if ¬ c.secure then return prepareReadControl c
  else if desc.control > preambleInlineLen then return prepareReadControlRemainder c
  else handleControlBody k c input

def handleControl (k : Kernel) (c : Con) (input : Input) : Except Errno Con := do
  input.check
  handleControlBody k c input

def handleControlRemainder (k : Kernel) (c : Con) (input : Input) : Except Errno Con := do
  input.check
  handleControlBody k c.gcmIncNonce input

def handleEpilogue (c : Con) (input : Input) : Except Errno Con := do
  input.check
  processMessage (if c.secure then c.gcmIncNonce else c) input

def finishSkip (k : Kernel) (c : Con) : Con :=
  if k = .compat ∧ c.inSkipResid > 0 then armSkipChunk c
  else finishSkipped (if c.secure then c.gcmIncNonce else c)

/-- The switch of `populate_in_iter` over the states in which frames are read. -/
def handleFrame (crc32c : Bytes → UInt32) (k : Kernel) (c : Con) (input : Input) :
    Except Errno Con :=
  match c.inState with
  | .handlePreamble => handlePreamble crc32c k c input
  | .handleControl => handleControl k c input
  | .handleControlRemainder => handleControlRemainder k c input
  | .prepareReadData =>
      match c.inMsg with
      | some msg => prepareReadData c msg input
      | none => .error .inval
  | .prepareReadDataCont => .ok (prepareReadDataCont c input)
  | .prepareReadEncPage => .ok (prepareReadEncPage c)
  | .handleEpilogue => handleEpilogue c input
  | .finishSkip => .ok (finishSkip k c)
  | .unset => .error .inval

/-- `populate_in_iter` up to its last check. -/
def process (crc32c : Bytes → UInt32) (k : Kernel) (c : Con) (input : Input) :
    Except Errno Con :=
  match c.state with
  | .bannerPrefix => do
      input.check
      return prepareReadBannerPayload c input.payloadLen
  | .bannerPayload => do
      input.check
      return prepareReadPreamble { c with state := .hello }
  | .closed => .error .inval
  | _ => handleFrame crc32c k c input

/-- `populate_in_iter`: say what to read next; never success without anything to read. -/
def populateInIter (crc32c : Bytes → UInt32) (k : Kernel) (c : Con) (input : Input) :
    Except Errno Con := do
  let c ← process crc32c k c input
  if c.inIter = 0 then .error .nodata else return c

/-- `ceph_con_v2_revoke_incoming` and what `ceph_msg_revoke_incoming` does after it. -/
def revokeIncoming (k : Kernel) (c : Con) (msg : Msg) : Con :=
  let resid := c.inIter
  let c := match c.inState with
    | .prepareReadData =>
        { setInSkip k c (resid + (msg.dataLen + epiloguePlainLen)) with inState := .finishSkip }
    | .prepareReadDataCont =>
        let recved := c.inBvec - resid
        let totalResid := c.inCursor - recved
        { setInSkip k c (totalResid + epiloguePlainLen) with
          inCursor := totalResid, inState := .finishSkip }
    | .prepareReadEncPage =>
        { setInSkip k c (resid + c.inEncResid) with inState := .finishSkip }
    | .handleEpilogue => { setInSkip k c resid with inState := .finishSkip }
    | _ => c
  { c with inMsg := none }

/-- `ceph_con_reset_protocol`; `in_state` and `in_skip_resid` stay as they are. -/
def resetProtocol (c : Con) : Con :=
  { c with inMsg := none, inIter := 0, conMode := .unknown, inGcmNonce := 0 }

def conFault (c : Con) : Con := { c.resetProtocol with state := .closed }

/-- `ceph_con_close`, with `ceph_con_reset_session` -/
def close (c : Con) : Con := { c.resetProtocol with state := .closed, inSeq := 0 }

end Con

end XcpCephRbd.Msgr2
