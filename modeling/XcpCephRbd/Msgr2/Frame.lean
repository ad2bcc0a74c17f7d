import XcpCephRbd.Lib.Wire

/-!
# Frames of the msgr2 protocol

The lengths a frame has on the wire, in plain and in secure mode, and the preamble that announces
them (`net/ceph/messenger_v2.c` of the kernel module). Lengths are numbers here: `decode_preamble`
keeps them below the maxima of `libceph.h`, so no sum of them leaves an `int`.
-/

namespace XcpCephRbd.Msgr2

open Wire

/-- `CEPH_CRC_LEN` -/
def crcLen : Nat := 4

/-- `CEPH_GCM_BLOCK_LEN` -/
def gcmBlockLen : Nat := 16

/-- `CEPH_GCM_TAG_LEN` -/
def gcmTagLen : Nat := 16

/-- `CEPH_PREAMBLE_LEN`, which is also `CEPH_PREAMBLE_PLAIN_LEN` -/
def preamblePlainLen : Nat := 32

/-- `CEPH_PREAMBLE_INLINE_LEN` -/
def preambleInlineLen : Nat := 48

/-- `CEPH_PREAMBLE_SECURE_LEN` -/
def preambleSecureLen : Nat := preamblePlainLen + preambleInlineLen + gcmTagLen

/-- `CEPH_EPILOGUE_PLAIN_LEN` -/
def epiloguePlainLen : Nat := 1 + 3 * crcLen

/-- `CEPH_EPILOGUE_SECURE_LEN` -/
def epilogueSecureLen : Nat := gcmBlockLen + gcmTagLen

/-- `CEPH_BANNER_V2_PREFIX_LEN` -/
def bannerPrefixLen : Nat := 10

/-- `CEPH_MSG_MAX_CONTROL_LEN`, and the same for the front and the middle segment -/
def msgMaxFrontLen : Nat := 16 * 1024 * 1024

/-- `CEPH_MSG_MAX_DATA_LEN` -/
def msgMaxDataLen : Nat := 64 * 1024 * 1024

/-- `PAGE_SIZE` -/
def pageSize : Nat := 4096

/-- A length rounded up to whole cipher blocks. -/
def paddedLen (len : Nat) : Nat := (len + (gcmBlockLen - 1)) / gcmBlockLen * gcmBlockLen

/-- What is missing to whole cipher blocks. -/
def paddingLen (len : Nat) : Nat := paddedLen len - len

theorem le_paddedLen (len : Nat) : len ≤ paddedLen len := by
  unfold paddedLen gcmBlockLen
  omega

theorem add_paddingLen (len : Nat) : len + paddingLen len = paddedLen len := by
  have h := le_paddedLen len
  unfold paddingLen
  omega

/-- Preamble and control segment. -/
def headOnwireLen (ctrlLen : Nat) (secure : Bool) : Nat :=
  if secure then
    preambleSecureLen +
      if ctrlLen > preambleInlineLen then paddedLen (ctrlLen - preambleInlineLen) + gcmTagLen
      else 0
  else preamblePlainLen + if ctrlLen = 0 then 0 else ctrlLen + crcLen

/-- Front, middle and data segments and the epilogue. -/
def tailOnwireLen (front middle data : Nat) (secure : Bool) : Nat :=
  if front = 0 ∧ middle = 0 ∧ data = 0 then 0
  else if secure then paddedLen front + paddedLen middle + paddedLen data + epilogueSecureLen
  else front + middle + data + epiloguePlainLen

/-- `FRAME_TAG_*` -/
inductive Tag where
  | hello
  | authRequest
  | authBadMethod
  | authReplyMore
  | authRequestMore
  | authDone
  | authSignature
  | clientIdent
  | serverIdent
  | identMissingFeatures
  | sessionReconnect
  | sessionReset
  | sessionRetry
  | sessionRetryGlobal
  | sessionReconnectOk
  | wait
  | message
  | keepalive2
  | keepalive2Ack
  | ack
  /-- any other code -/
  | other
  deriving DecidableEq, Repr

/-- The tag with this code. -/
def Tag.ofCode : Nat → Tag
  | 1 => .hello
  | 2 => .authRequest
  | 3 => .authBadMethod
  | 4 => .authReplyMore
  | 5 => .authRequestMore
  | 6 => .authDone
  | 7 => .authSignature
  | 8 => .clientIdent
  | 9 => .serverIdent
  | 10 => .identMissingFeatures
  | 11 => .sessionReconnect
  | 12 => .sessionReset
  | 13 => .sessionRetry
  | 14 => .sessionRetryGlobal
  | 15 => .sessionReconnectOk
  | 16 => .wait
  | 17 => .message
  | 18 => .keepalive2
  | 19 => .keepalive2Ack
  | 20 => .ack
  | _ => .other

/-- The error numbers of the receive path. -/
inductive Errno where
  | inval
  | badmsg
  | bade
  | nomem
  | nodata
  | again
  deriving DecidableEq, Repr

/-- `struct ceph_frame_desc`: the tag and the lengths of the four segments, within the maxima. -/
structure Desc where
  tag : Tag
  control : Nat
  front : Nat
  middle : Nat
  data : Nat
  control_le : control ≤ msgMaxFrontLen
  front_le : front ≤ msgMaxFrontLen
  middle_le : middle ≤ msgMaxFrontLen
  data_le : data ≤ msgMaxDataLen
  deriving DecidableEq, Repr

namespace Desc

/-- The description before any preamble was read: all zero. -/
def zero : Desc := ⟨.other, 0, 0, 0, 0, by decide, by decide, by decide, by decide⟩

/-- The bytes of the frame that follow its control segment. -/
def tailLen (desc : Desc) (secure : Bool) : Nat :=
  tailOnwireLen desc.front desc.middle desc.data secure

/-- Only a frame with three empty segments ends with its head: any other has an epilogue. -/
theorem tailLen_eq_zero_iff {desc : Desc} {secure : Bool} :
    desc.tailLen secure = 0 ↔ desc.front = 0 ∧ desc.middle = 0 ∧ desc.data = 0 := by
  unfold tailLen tailOnwireLen epilogueSecureLen epiloguePlainLen gcmBlockLen
  constructor
  · intro h
    split at h
    · assumption
    · split at h <;> omega
  · intro h
    rw [if_pos h]

/-- The bytes of a frame after its head fit an `int`. -/
theorem tailLen_lt (desc : Desc) (secure : Bool) : desc.tailLen secure < 2 ^ 31 := by
  have hfront := desc.front_le
  have hmiddle := desc.middle_le
  have hdata := desc.data_le
  unfold msgMaxFrontLen at hfront hmiddle
  unfold msgMaxDataLen at hdata
  unfold tailLen tailOnwireLen paddedLen epilogueSecureLen epiloguePlainLen gcmBlockLen gcmTagLen
    crcLen
  split
  · omega
  · split <;> omega

end Desc

section

-- the kernel's crc32c, from a seed of 0
variable (crc32c : Bytes → UInt32)

/-- Write a preamble: the tag, the number of segments, for each its length and its alignment, and
the checksum of all that. -/
def encodePreamble (tag : Nat) (segments : List (Nat × Nat)) : Bytes :=
  let fields := le 1 tag ++ le 1 segments.length ++
    segments.flatMap fun segment => le 4 segment.1 ++ le 2 segment.2
  let covered := fields ++ List.replicate (preamblePlainLen - crcLen - fields.length) 0
  covered ++ le crcLen (crc32c covered).toNat

/-- Read a preamble: its checksum, the number of segments, and their lengths. -/
def decodePreamble (p : Bytes) : Except Errno Desc :=
  if (crc32c (p.take (preamblePlainLen - crcLen))).toNat ≠
      leVal ((p.drop (preamblePlainLen - crcLen)).take crcLen) then .error .badmsg
  else
    let segCnt := (p.getD 1 0).toNat
    if segCnt < 1 ∨ segCnt > 4 then .error .inval
    else
      -- two bytes of tag and count, then six bytes for each segment: a length and an alignment
      let len (i : Nat) := if i < segCnt then leVal ((p.drop (2 + 6 * i)).take 4) else 0
      if hcontrol : len 0 > msgMaxFrontLen then .error .inval
      else if hfront : len 1 > msgMaxFrontLen then .error .inval
      else if hmiddle : len 2 > msgMaxFrontLen then .error .inval
      else if hdata : len 3 > msgMaxDataLen then .error .inval
      else if len (segCnt - 1) = 0 then .error .inval
      else .ok
        { tag := Tag.ofCode (p.getD 0 0).toNat
          control := len 0
          front := len 1
          middle := len 2
          data := len 3
          control_le := Nat.le_of_not_gt hcontrol
          front_le := Nat.le_of_not_gt hfront
          middle_le := Nat.le_of_not_gt hmiddle
          data_le := Nat.le_of_not_gt hdata }

end

/-- The checksum itself, bit by bit. -/
def crc32cLe (bytes : Bytes) : UInt32 :=
  bytes.foldl (fun crc byte =>
    (List.range 8).foldl
      (fun crc _ => if crc &&& 1 = 1 then (crc >>> 1) ^^^ 0x82F63B78 else crc >>> 1)
      (crc ^^^ byte.toUInt32)) 0

end XcpCephRbd.Msgr2
