import XcpCephRbd.Cephx.Templates

/-!
# The kernel client's side of aes256k

`rfc8009_aes2.c` and `krb5_api.c` of the kernel's Kerberos library, the users of it in `crypto.c`
of libceph, and `ceph_x_encrypt` and `ceph_x_decrypt` of `auth_x.c`. A message is built and taken
apart in place: the buffer has room for the length, the confounder, the header, the data and the
HMAC, and each function returns the buffer as it leaves it. The `authenc` AEAD of the kernel is what
it is assumed to be: AES-256-CBC-CTS of the text, then the HMAC of the associated data and the
ciphertext, cut to the size set. Allocations succeed.
-/

namespace XcpCephRbd.Cephx.Krb5

open Wire

variable (p : Primitives)

/-- The negative codes that the functions below return; `short` is the length of data that is
shorter than its header. -/
inductive Errno where
  | einval
  | efault
  | eproto
  | emsgsize
  | ebadmsg
  | short
  deriving DecidableEq, Repr

/-- The fields of `struct krb5_enctype` that are used here. -/
structure Enctype where
  keyBytes : Nat
  keLen : Nat
  kiLen : Nat
  confLen : Nat
  cksumLen : Nat
  deriving DecidableEq, Repr

/-- `krb5_aes256_cts_hmac_sha384_192`. -/
def aes256CtsHmacSha384 : Enctype where
  keyBytes := 32
  keLen := 32
  kiLen := 24
  confLen := 16
  cksumLen := 24

/-- `KEY_USAGE_SEED_ENCRYPTION`. -/
def seedEncryption : UInt8 := 0xAA

/-- `KEY_USAGE_SEED_INTEGRITY`. -/
def seedIntegrity : UInt8 := 0x55

/-! ## Key derivation -/

/-- `rfc8009_calc_KDF_HMAC_SHA2` into a result of `len` bytes. -/
def calcKdfHmacSha2 (key label context : Bytes) (k len : Nat) : Except Errno Bytes :=
  if len ≠ k / 8 then .error .einval
  else if sha384Len * 8 < k then .error .einval
  else
    let data := be 4 1 ++ label ++ [0] ++ context ++ be 4 k
    .ok ((p.hmacSha384 key data).take len)

/-- `rfc8009_calc_Ke`. -/
def calcKe (krb5 : Enctype) (baseKey usageConstant : Bytes) (len : Nat) : Except Errno Bytes :=
  calcKdfHmacSha2 p baseKey usageConstant [] (krb5.keyBytes * 8) len

/-- `rfc8009_calc_Ki`. -/
def calcKi (krb5 : Enctype) (baseKey usageConstant : Bytes) (len : Nat) : Except Errno Bytes :=
  calcKdfHmacSha2 p baseKey usageConstant [] (krb5.cksumLen * 8) len

/-- `krb5_derive_Ke`. -/
def deriveKe (krb5 : Enctype) (tk : Bytes) (usage : UInt32) : Except Errno Bytes :=
  calcKe p krb5 tk (be 4 usage.toNat ++ [seedEncryption]) krb5.keLen

/-- `krb5_derive_Ki`. -/
def deriveKi (krb5 : Enctype) (tk : Bytes) (usage : UInt32) : Except Errno Bytes :=
  calcKi p krb5 tk (be 4 usage.toNat ++ [seedIntegrity]) krb5.kiLen

/-- The key of an `authenc` AEAD: the length of the encryption key, and the authentication key
followed by the encryption key. -/
structure AuthencKey where
  enckeylen : Nat
  payload : Bytes
  deriving DecidableEq, Repr

/-- `authenc_derive_encrypt_keys`. -/
def deriveEncryptKeys (krb5 : Enctype) (tk : Bytes) (usage : UInt32) :
    Except Errno AuthencKey := do
  let ke ← deriveKe p krb5 tk usage
  let ki ← deriveKi p krb5 tk usage
  return ⟨krb5.keLen, ki ++ ke⟩

/-! ## The AEAD -/

/-- An `authenc(hmac(sha384),cts(cbc(aes)))` that has been keyed. -/
structure Aead where
  authkey : Bytes
  enckey : Bytes
  authsize : Nat
  deriving DecidableEq, Repr

/-- `krb5_prepare_encryption`: set the key, which is taken apart by the length it states, and the
size of the HMAC. -/
def prepareEncryption (krb5 : Enctype) (keys : AuthencKey) : Except Errno Aead :=
  if keys.payload.length < keys.enckeylen then .error .einval
  else
    let authkeylen := keys.payload.length - keys.enckeylen
    .ok ⟨keys.payload.take authkeylen, keys.payload.drop authkeylen, krb5.cksumLen⟩

/-- `crypto_krb5_prepare_encryption`. -/
def cryptoKrb5PrepareEncryption (krb5 : Enctype) (tk : Bytes) (usage : UInt32) :
    Except Errno Aead := do
  let keys ← deriveEncryptKeys p krb5 tk usage
  prepareEncryption krb5 keys

/-- `crypto_aead_encrypt`: the ciphertext and the HMAC. -/
def Aead.encrypt (aead : Aead) (ad text iv : Bytes) : Bytes :=
  let ciphertext := p.ctsEncrypt aead.enckey iv text
  ciphertext ++ (p.hmacSha384 aead.authkey (ad ++ ciphertext)).take aead.authsize

/-- `crypto_aead_decrypt` of a ciphertext with its HMAC. -/
def Aead.decrypt (aead : Aead) (ad text iv : Bytes) : Except Errno Bytes :=
  if text.length < aead.authsize then .error .einval
  else
    let ciphertext := text.take (text.length - aead.authsize)
    let hmac := text.drop (text.length - aead.authsize)
    if (p.hmacSha384 aead.authkey (ad ++ ciphertext)).take aead.authsize ≠ hmac then
      .error .ebadmsg
    else .ok (p.ctsDecrypt aead.enckey iv ciphertext)

/-- `krb5_aead_ivsize`: 16 bytes, which no rounding on x86-64 changes. -/
def ivsize : Nat := 16

/-! ## Messages in place -/

/-- `rfc8009_encrypt` in a buffer: the buffer after it, and the length of the secure blob. -/
def rfc8009Encrypt (krb5 : Enctype) (aead : Aead) (sg : Bytes) (dataOffset dataLen : Nat)
    (preconfounded : Bool) (random : Bytes) : Except Errno (Bytes × Nat) :=
  let secureLen := krb5.confLen + dataLen
  let cksumOffset := secureLen
  if dataOffset ≠ krb5.confLen then .error .einval
  else if sg.length < cksumOffset + krb5.cksumLen then .error .efault
  else
    let sg := if preconfounded then sg else random ++ sg.drop krb5.confLen
    let ad := List.replicate ivsize 0
    let iv := List.replicate ivsize 0
    let secured := aead.encrypt p ad (sg.take secureLen) iv
    .ok (secured ++ sg.drop (secureLen + krb5.cksumLen), secureLen + krb5.cksumLen)

/-- `rfc8009_decrypt` of the first `len` bytes of a buffer: the buffer after it, and the offset and
the length of the data. -/
def rfc8009Decrypt (krb5 : Enctype) (aead : Aead) (sg : Bytes) (offset len : Nat) :
    Except Errno (Bytes × Nat × Nat) :=
  if offset ≠ 0 then .error .einval
  else if len < krb5.confLen + krb5.cksumLen then .error .eproto
  else do
    let ad := List.replicate ivsize 0
    let iv := List.replicate ivsize 0
    let plaintext ← aead.decrypt p ad (sg.take len) iv
    return (plaintext ++ sg.drop (len - krb5.cksumLen), offset + krb5.confLen,
      len - (krb5.confLen + krb5.cksumLen))

/-- `crypto_krb5_encrypt`. -/
def cryptoKrb5Encrypt (krb5 : Enctype) (aead : Aead) (sg : Bytes) (dataOffset dataLen : Nat)
    (preconfounded : Bool) (random : Bytes) : Except Errno (Bytes × Nat) :=
  if sg.length < dataOffset ∨ sg.length < dataLen ∨ sg.length - dataLen < dataOffset then
    .error .emsgsize
  else rfc8009Encrypt p krb5 aead sg dataOffset dataLen preconfounded random

/-! ## libceph -/

/-- `CEPH_MAX_KEY_LEN`. -/
def cephMaxKeyLen : Nat := 32

/-- `AES_BLOCK_SIZE`. -/
def aesBlockSize : Nat := 16

/-- `struct ceph_crypto_key` of type `CEPH_CRYPTO_AES256KRB5`, with an AEAD for each usage. -/
structure CryptoKey where
  key : Bytes
  krb5Tfms : List Aead
  deriving DecidableEq, Repr

/-- `ceph_crypto_key_decode` and `ceph_crypto_key_prepare`: the key is not too long, there is a slot
for every usage, and each slot gets its AEAD. -/
def CryptoKey.prepare (secret : Bytes) (keyUsages : List UInt32) : Except Errno CryptoKey :=
  if cephMaxKeyLen < secret.length then .error .einval
  else if 3 < keyUsages.length then .error .einval
  else do
    let tfms ← keyUsages.mapM fun usage =>
      cryptoKrb5PrepareEncryption p aes256CtsHmacSha384 secret usage
    return ⟨secret, tfms⟩

/-- `ceph_krb5_encrypt`: an empty buffer has no scatterlist. -/
def CryptoKey.encrypt (key : CryptoKey) (usageSlot : Nat) (buf : Bytes) (inLen : Nat)
    (random : Bytes) : Except Errno (Bytes × Nat) :=
  match key.krb5Tfms[usageSlot]? with
  | none => .error .einval
  | some aead =>
      if buf.length = 0 then .error .einval
      else cryptoKrb5Encrypt p aes256CtsHmacSha384 aead buf aesBlockSize inLen false random

/-- `ceph_krb5_decrypt` of a ciphertext that fills the buffer. -/
def CryptoKey.decrypt (key : CryptoKey) (usageSlot : Nat) (buf : Bytes) :
    Except Errno (Bytes × Nat) :=
  match key.krb5Tfms[usageSlot]? with
  | none => .error .einval
  | some aead =>
      if buf.length = 0 then .error .einval
      else do
        let (buf, _dataOff, dataLen) ← rfc8009Decrypt p aes256CtsHmacSha384 aead buf 0 buf.length
        return (buf, dataLen)

/-- `ceph_crypt_data_offset`. -/
def cryptDataOffset : Nat := aesBlockSize

/-- `ceph_crypt_buflen`. -/
def cryptBuflen (dataLen : Nat) : Nat := aesBlockSize + dataLen + 24

/-- `CEPHX_ENC_MAGIC`. -/
def cephxEncMagic : Nat := 0xff009cad8826aa55

/-- `sizeof(struct ceph_x_encrypt_header)`. -/
def headerLen : Nat := 9

/-- `ceph_x_encrypt_offset`. -/
def encryptOffset : Nat := 4 + (cryptDataOffset + headerLen)

/-- `ceph_x_encrypt_buflen`. -/
def encryptBuflen (dataLen : Nat) : Nat := 4 + cryptBuflen (headerLen + dataLen)

/-- Overwrite the bytes of a buffer from an offset on. -/
def store (buf : Bytes) (offset : Nat) (bytes : Bytes) : Bytes :=
  buf.take offset ++ bytes ++ buf.drop (offset + bytes.length)

/-- `ceph_x_encrypt`: what the buffer holds up to the length returned. -/
def cephXEncrypt (key : CryptoKey) (usageSlot : Nat) (buf : Bytes) (plaintextLen : Nat)
    (random : Bytes) : Except Errno Bytes := do
  let buf := store buf (4 + cryptDataOffset) (1 :: le 8 cephxEncMagic)
  let (buf', ciphertextLen) ← key.encrypt p usageSlot (buf.drop 4) (plaintextLen + headerLen) random
  return (le 4 ciphertextLen ++ buf').take (4 + ciphertextLen)

/-- `ceph_x_decrypt` of the ciphertext at the front of `bytes`: the data behind the header. -/
def cephXDecrypt (key : CryptoKey) (usageSlot : Nat) (bytes : Bytes) : Except Errno Bytes :=
  match decodeBl bytes with
  | none => .error .einval
  | some (ciphertext, _) => do
      let (buf, plaintextLen) ← key.decrypt p usageSlot ciphertext
      let magic := (buf.drop (cryptDataOffset + 1)).take 8
      if leVal magic ≠ cephxEncMagic then .error .einval
      else if plaintextLen < headerLen then .error .short
      else return (buf.drop (cryptDataOffset + headerLen)).take (plaintextLen - headerLen)

/-! ## The keys are those of userspace -/

/-- Shifting and masking gives the bytes of a number, the highest first. -/
theorem be_four (x : UInt32) :
    be 4 x.toNat =
      [((x >>> 24) &&& 0xff).toUInt8, ((x >>> 16) &&& 0xff).toUInt8,
        ((x >>> 8) &&& 0xff).toUInt8, (x &&& 0xff).toUInt8] := by
  have hbyte : ∀ y : UInt32, (y &&& 0xff).toUInt8 = UInt8.ofNat y.toNat := by
    intro y
    refine UInt8.toNat_inj.mp ?_
    have hmask : y.toNat % 256 &&& 255 = y.toNat % 256 % 256 :=
      Nat.and_two_pow_sub_one_eq_mod (y.toNat % 256) 8
    simp [hmask]
  have hshift : ∀ k : UInt32, k.toNat < 32 → (x >>> k).toNat = x.toNat / 2 ^ k.toNat := by
    intro k hk
    rw [UInt32.toNat_shiftRight, Nat.mod_eq_of_lt hk, Nat.shiftRight_eq_div_pow]
  simp only [hbyte, be, le, hshift 24 (by decide), hshift 16 (by decide), hshift 8 (by decide)]
  simp [Nat.div_div_eq_div_mul]

/-- The two sides hash the same label. -/
theorem kxData_eq (usage : UInt32) (type : UInt8) {k : Nat} (hk : k * 8 < 2 ^ 32) :
    kxData usage type k =
      be 4 1 ++ (be 4 usage.toNat ++ [type]) ++ [0] ++ [] ++ be 4 (k * 8) := by
  have hkb : (UInt32.ofNat (k * 8)).toNat = k * 8 := UInt32.toNat_ofNat_of_lt' hk
  rw [be_four usage, ← hkb, be_four (UInt32.ofNat (k * 8))]
  rfl

/-- The AEAD for a usage. -/
def aeadOf (secret : Bytes) (usage : UInt32) : Aead where
  authkey := (usageKeys p secret usage).ki
  enckey := (usageKeys p secret usage).ke
  authsize := hashLen

theorem prepare_eq_aeadOf (secret : Bytes) (usage : UInt32) :
    cryptoKrb5PrepareEncryption p aes256CtsHmacSha384 secret usage =
    .ok (aeadOf p secret usage) := by
  have hke : deriveKe p aes256CtsHmacSha384 secret usage = .ok (usageKeys p secret usage).ke := by
    rw [usageKeys, kxData_eq usage 0xAA (by decide)]
    rfl
  have hki : deriveKi p aes256CtsHmacSha384 secret usage = .ok (usageKeys p secret usage).ki := by
    rw [usageKeys, kxData_eq usage 0x55 (by decide)]
    rfl
  have hkilen : (usageKeys p secret usage).ki.length = 24 := by
    simp [usageKeys, p.length_hmacSha384, hashLen, sha384Len]
  have hkelen : (usageKeys p secret usage).ke.length = 32 := by
    simp [usageKeys, p.length_hmacSha384, sha384Len]
  rw [cryptoKrb5PrepareEncryption, deriveEncryptKeys, hke, hki]
  simp [bind, Except.bind, pure, Except.pure, prepareEncryption, aes256CtsHmacSha384,
    hkilen, hkelen, aeadOf, hashLen]

/-- A key that has been prepared has the AEAD of each usage in its slot. -/
theorem CryptoKey.prepare_eq {secret : Bytes} {keyUsages : List UInt32}
    (hlen : secret.length ≤ cephMaxKeyLen) (hslots : keyUsages.length ≤ 3) :
    CryptoKey.prepare p secret keyUsages = .ok ⟨secret, keyUsages.map (aeadOf p secret)⟩ := by
  have hmap : (keyUsages.mapM fun usage =>
      cryptoKrb5PrepareEncryption p aes256CtsHmacSha384 secret usage) =
        .ok (keyUsages.map (aeadOf p secret)) := by
    simp only [prepare_eq_aeadOf]
    exact List.mapM_pure
  rw [CryptoKey.prepare, if_neg (Nat.not_lt.mpr hlen), if_neg (Nat.not_lt.mpr hslots), hmap]
  rfl

/-! ## The messages are those of userspace -/

/-- The AEAD opens the blocks of the format. -/
theorem aeadOf_decrypt {secret block : Bytes} {usage : UInt32}
    (hlen : blockLen + hashLen ≤ block.length) :
    (aeadOf p secret usage).decrypt p zeroIv block zeroIv =
      if Authentic p secret usage block then
        .ok (p.ctsDecrypt (usageKeys p secret usage).ke zeroIv (bodyOf block))
      else .error .ebadmsg := by
  have hsize : ¬block.length < (aeadOf p secret usage).authsize := by
    simp only [aeadOf, hashLen, blockLen] at hlen ⊢
    omega
  rw [Aead.decrypt, if_neg hsize]
  show (if tag p secret usage (bodyOf block) ≠ tagOf block then _ else _) = _
  by_cases htag : tag p secret usage (bodyOf block) = tagOf block
  · rw [if_neg (not_not_intro htag), if_pos ⟨hlen, htag⟩]
    rfl
  · rw [if_pos htag, if_neg fun h => htag h.2]

/-- `ceph_krb5_encrypt` with the data in its place. -/
theorem CryptoKey.encrypt_eq {key : CryptoKey} {usageSlot : Nat} {secret : Bytes} {usage : UInt32}
    {room data spare random : Bytes}
    (hslot : key.krb5Tfms[usageSlot]? = some (aeadOf p secret usage))
    (hroom : room.length = blockLen) (hrandom : random.length = blockLen)
    (hspare : hashLen ≤ spare.length) :
    key.encrypt p usageSlot (room ++ data ++ spare) data.length random =
      .ok (sealed p secret usage random data ++ spare.drop hashLen,
        (sealed p secret usage random data).length) := by
  have hlen : (room ++ data ++ spare).length = 16 + data.length + spare.length := by
    simp [hroom, blockLen]
    omega
  have hspare' : 24 ≤ spare.length := hspare
  have hfront : random ++ (room ++ data ++ spare).drop 16 = random ++ data ++ spare := by
    rw [List.append_assoc, List.append_assoc, ← hroom.trans (show blockLen = 16 from rfl),
      List.drop_left]
  have htake : (random ++ data ++ spare).take (16 + data.length) = random ++ data :=
    List.take_left' (by simp [hrandom, blockLen])
  have hdrop : (random ++ data ++ spare).drop (16 + data.length + 24) = spare.drop 24 := by
    rw [← List.drop_drop]
    congr 1
    exact List.drop_left' (by simp [hrandom, blockLen])
  have hrfc : rfc8009Encrypt p aes256CtsHmacSha384 (aeadOf p secret usage) (room ++ data ++ spare)
      16 data.length false random =
        .ok (sealed p secret usage random data ++ spare.drop 24, 16 + data.length + 24) := by
    rw [rfc8009Encrypt]
    simp only [aes256CtsHmacSha384, ne_eq, not_true_eq_false, if_false, Bool.false_eq_true, hfront,
      htake, hdrop]
    rw [if_neg (by omega)]
    rfl
  rw [CryptoKey.encrypt, hslot]
  simp only
  rw [if_neg (by omega), cryptoKrb5Encrypt, if_neg (by simp only [aesBlockSize]; omega),
    length_sealed, hrandom]
  exact hrfc

/-- `rfc8009_decrypt` accepts the authentic blocks. -/
theorem rfc8009Decrypt_eq (secret : Bytes) (usage : UInt32) (block : Bytes) :
    rfc8009Decrypt p aes256CtsHmacSha384 (aeadOf p secret usage) block 0 block.length =
      if Authentic p secret usage block then
        .ok (p.ctsDecrypt (usageKeys p secret usage).ke zeroIv (bodyOf block) ++ tagOf block,
          blockLen, block.length - (blockLen + hashLen))
      else if block.length < blockLen + hashLen then .error .eproto
      else .error .ebadmsg := by
  rw [rfc8009Decrypt, if_neg (not_not_intro rfl)]
  show (if block.length < blockLen + hashLen then _ else _) = _
  by_cases hshort : block.length < blockLen + hashLen
  · rw [if_pos hshort, if_neg fun h => absurd h.1 (Nat.not_le.mpr hshort), if_pos hshort]
  · rw [if_neg hshort, if_neg hshort, List.take_length]
    show ((aeadOf p secret usage).decrypt p zeroIv block zeroIv).bind _ = _
    rw [aeadOf_decrypt p (Nat.le_of_not_lt hshort)]
    split <;> rfl

/-- `ceph_krb5_decrypt` accepts the authentic blocks and leaves their content behind the
confounder. -/
theorem CryptoKey.decrypt_ok_iff {key : CryptoKey} {usageSlot : Nat} {secret : Bytes}
    {usage : UInt32} (hslot : key.krb5Tfms[usageSlot]? = some (aeadOf p secret usage))
    {block buf : Bytes} {len : Nat} :
    key.decrypt p usageSlot block = .ok (buf, len) ↔
      Authentic p secret usage block ∧
        buf = p.ctsDecrypt (usageKeys p secret usage).ke zeroIv (bodyOf block) ++ tagOf block ∧
        len = block.length - (blockLen + hashLen) := by
  rw [CryptoKey.decrypt, hslot]
  simp only
  by_cases hempty : block.length = 0
  · rw [if_pos hempty]
    refine ⟨(fun h => nomatch h), fun h => ?_⟩
    have hlen := h.1.1
    rw [hempty] at hlen
    exact absurd hlen (by decide)
  · rw [if_neg hempty, rfc8009Decrypt_eq]
    by_cases hauth : Authentic p secret usage block
    · simp [hauth, bind, Except.bind, pure, Except.pure, eq_comm]
    · rw [if_neg hauth]
      constructor
      · intro h
        split at h <;> cases h
      · exact fun h => absurd h.1 hauth

/-- The header and the data behind it. -/
def headed (data : Bytes) : Bytes := 1 :: (le 8 cephxEncMagic ++ data)

@[simp] theorem length_headed (data : Bytes) : (headed data).length = data.length + headerLen := by
  simp [headed, headerLen]
  omega

/-- `ceph_x_encrypt` with the data in its place emits the framed block of header and data. -/
theorem cephXEncrypt_eq {key : CryptoKey} {usageSlot : Nat} {secret : Bytes} {usage : UInt32}
    {room data spare random : Bytes}
    (hslot : key.krb5Tfms[usageSlot]? = some (aeadOf p secret usage))
    (hroom : room.length = encryptOffset) (hrandom : random.length = blockLen)
    (hspare : hashLen ≤ spare.length) :
    cephXEncrypt p key usageSlot (room ++ data ++ spare) data.length random =
      .ok (encodeBl (sealed p secret usage random (headed data))) := by
  have hroom' : room.length = 29 := hroom
  have hstore : (store (room ++ data ++ spare) (4 + cryptDataOffset) (1 :: le 8 cephxEncMagic)).drop
      4 = (room.take 20).drop 4 ++ headed data ++ spare := by
    have htake : (room ++ data ++ spare).take 20 = room.take 20 := by
      rw [List.append_assoc, List.take_append_of_le_length (by omega)]
    have hdrop : (room ++ data ++ spare).drop 29 = data ++ spare := by
      rw [List.append_assoc]
      exact List.drop_left' hroom'
    have hstart : 4 ≤ (room.take 20).length := by
      simp [hroom']
    show ((room ++ data ++ spare).take 20 ++ (1 :: le 8 cephxEncMagic) ++
      (room ++ data ++ spare).drop (20 + (1 :: le 8 cephxEncMagic).length)).drop 4 = _
    rw [List.length_cons, length_le, htake, hdrop, List.append_assoc,
      List.drop_append_of_le_length hstart]
    simp [headed]
  have hfront : ((room.take 20).drop 4).length = blockLen := by
    simp [hroom', blockLen]
  have hlen : data.length + headerLen = (headed data).length := (length_headed data).symm
  rw [cephXEncrypt]
  simp only [hstore, hlen]
  rw [CryptoKey.encrypt_eq p hslot hfront hrandom hspare]
  refine congrArg Except.ok ?_
  rw [← List.append_assoc]
  exact List.take_left' (by simp)

/-- `ceph_x_decrypt` reads back the framed block of header and data. -/
theorem cephXDecrypt_sealed {key : CryptoKey} {usageSlot : Nat} {secret : Bytes} {usage : UInt32}
    {data confounder rest : Bytes}
    (hslot : key.krb5Tfms[usageSlot]? = some (aeadOf p secret usage))
    (hconf : confounder.length = blockLen) (hfits : data.length + 49 < 2 ^ 31) :
    cephXDecrypt p key usageSlot
      (encodeBl (sealed p secret usage confounder (headed data)) ++ rest) = .ok data := by
  have hlen : (sealed p secret usage confounder (headed data)).length = data.length + 49 := by
    rw [length_sealed, length_headed, hconf, blockLen, headerLen, hashLen]
    omega
  have hframe : decodeBl (encodeBl (sealed p secret usage confounder (headed data)) ++ rest) =
      some (sealed p secret usage confounder (headed data), rest) :=
    decodeBl_encodeBl (by omega) rest
  have hauth : Authentic p secret usage (sealed p secret usage confounder (headed data)) :=
    authentic_sealed p hconf
  have hopen := (CryptoKey.decrypt_ok_iff p hslot).mpr ⟨hauth, rfl, rfl⟩
  rw [ctsDecrypt_sealed p hconf, hlen] at hopen
  generalize tagOf (sealed p secret usage confounder (headed data)) = hmac at hopen
  have hbuf : confounder ++ headed data ++ hmac =
      (confounder ++ [1]) ++ (le 8 cephxEncMagic ++ (data ++ hmac)) := by
    simp [headed]
  have hhead : ((confounder ++ [1]) ++ (le 8 cephxEncMagic ++ (data ++ hmac))).drop 17 =
      le 8 cephxEncMagic ++ (data ++ hmac) :=
    List.drop_left' (by simp [hconf, blockLen])
  have hmagic : leVal ((confounder ++ headed data ++ hmac).drop 17 |>.take 8) = cephxEncMagic := by
    rw [hbuf, hhead, List.take_left' (length_le 8 _)]
    exact leVal_le_of_lt (by decide)
  have hdata : ((confounder ++ headed data ++ hmac).drop 25).take data.length = data := by
    rw [hbuf, show 25 = 17 + 8 from rfl, ← List.drop_drop, hhead, List.drop_left' (length_le 8 _),
      List.take_left]
  have hplain : data.length + 49 - (blockLen + hashLen) = data.length + 9 := by
    simp only [blockLen, hashLen]
    omega
  rw [hplain] at hopen
  rw [cephXDecrypt, hframe]
  simp only [hopen]
  show (if leVal ((confounder ++ headed data ++ hmac).drop 17 |>.take 8) ≠ cephxEncMagic then _
    else if data.length + 9 < headerLen then _
    else .ok (((confounder ++ headed data ++ hmac).drop 25).take (data.length + 9 - headerLen)) :
      Except Errno Bytes) = _
  rw [if_neg (not_not_intro hmagic), if_neg (by simp only [headerLen]; omega), headerLen,
    Nat.add_sub_cancel, hdata]

/-! ## Both sides speak one format -/

/-- What `encode_encrypt` encrypts is a header and the encoded value. -/
theorem plainOf_eq_headed {T : Type} (c : Codec T) (t : T) :
    plainOf c t = headed (c.encode t) := rfl

section

variable {p} {key : CryptoKey} {usageSlot : Nat} {handler : KeyHandler p} {usage : UInt32}
  {r : Replies} {confounder : { bytes : Bytes // bytes.length = blockLen }}

/-- `encrypt_ext` and `ceph_krb5_encrypt` produce the same bytes. -/
theorem encrypt_agree (hslot : key.krb5Tfms[usageSlot]? = some (aeadOf p handler.secret usage))
    (hready : handler.ready usage r) {data room spare : Bytes}
    (random : { bytes : Bytes // bytes.length = blockLen }) (hroom : room.length = blockLen)
    (hspare : hashLen ≤ spare.length) :
    ∃ block buf, (handler.encryptExt usage data (some confounder) random r).2 = .ok block ∧
      key.encrypt p usageSlot (room ++ data ++ spare) data.length confounder =
        .ok (buf, block.length) ∧
      buf.take block.length = block := by
  have hok : (handler.encryptExt usage data (some confounder) random r).2 =
      .ok (sealed p handler.secret usage confounder data) ↔ _ :=
    handler.encryptExt_ok_iff rfl confounder.2
  exact ⟨_, _, hok.mpr ⟨hready, rfl⟩, CryptoKey.encrypt_eq p hslot hroom confounder.2 hspare,
    List.take_left⟩

/-- `encode_encrypt` and `ceph_x_encrypt` emit the same bytes. -/
theorem frame_agree {T : Type}
    (hslot : key.krb5Tfms[usageSlot]? = some (aeadOf p handler.secret usage))
    (hready : handler.ready usage r) (c : Codec T) (t : T) {room spare : Bytes}
    (hroom : room.length = encryptOffset) (hspare : hashLen ≤ spare.length) :
    ∃ out, (encodeEncrypt c t handler usage "" confounder r).2 = ⟨0, "", out⟩ ∧
      cephXEncrypt p key usageSlot (room ++ c.encode t ++ spare) (c.encode t).length confounder =
        .ok out ∧
      out = encodeBl (sealed p handler.secret usage confounder (headed (c.encode t))) := by
  refine ⟨_, ?_, cephXEncrypt_eq p hslot hroom confounder.2 hspare, rfl⟩
  rw [encodeEncrypt_eq, encryptExt_random_ok_iff.mpr ⟨hready, rfl⟩, plainOf_eq_headed]

/-- `decrypt_ext` and `ceph_krb5_decrypt` accept the same blocks, with the same plaintext. -/
theorem decrypt_agree (hslot : key.krb5Tfms[usageSlot]? = some (aeadOf p handler.secret usage))
    (hready : handler.ready usage r) (block plain : Bytes) :
    (handler.decryptExt usage block r).2 = .ok plain ↔
      ∃ buf len, key.decrypt p usageSlot block = .ok (buf, len) ∧
        (buf.drop aesBlockSize).take len = plain := by
  have hdata : Authentic p handler.secret usage block →
      ((p.ctsDecrypt (usageKeys p handler.secret usage).ke zeroIv (bodyOf block) ++
        tagOf block).drop aesBlockSize).take (block.length - (blockLen + hashLen)) =
          content p handler.secret usage block := by
    intro hauth
    have hlen : 40 ≤ block.length := hauth.1
    have hbody : (p.ctsDecrypt (usageKeys p handler.secret usage).ke zeroIv (bodyOf block)).length =
        block.length - 24 := by
      rw [p.length_ctsDecrypt, bodyOf, List.length_take, hashLen]
      omega
    have hdrop : 16 ≤
        (p.ctsDecrypt (usageKeys p handler.secret usage).ke zeroIv (bodyOf block)).length := by
      omega
    rw [aesBlockSize, List.drop_append_of_le_length hdrop]
    refine List.take_left' ?_
    rw [List.length_drop, hbody, blockLen, hashLen]
    omega
  constructor
  · intro h
    obtain ⟨-, hauth, rfl⟩ := handler.decryptExt_ok_iff.mp h
    exact ⟨_, _, (CryptoKey.decrypt_ok_iff p hslot).mpr ⟨hauth, rfl, rfl⟩, hdata hauth⟩
  · rintro ⟨buf, len, hopen, rfl⟩
    obtain ⟨hauth, rfl, rfl⟩ := (CryptoKey.decrypt_ok_iff p hslot).mp hopen
    exact handler.decryptExt_ok_iff.mpr ⟨hready, hauth, hdata hauth⟩

end

/-- **Userspace and kernel speak one format.** Take a secret that the kernel accepts, a usage with a
slot in the kernel's key, and a userspace handler of the secret whose calls succeed. For every
confounder and all data the two sides encrypt to the same bytes and, framed, emit the same message;
they accept the same blocks with the same plaintext; and each reads the other's message back. -/
theorem formats_agree {secret : Bytes} {keyUsages : List UInt32} {usageSlot : Nat} {usage : UInt32}
    {handler : KeyHandler p} {r : Replies} (hmax : secret.length ≤ cephMaxKeyLen)
    (hslots : keyUsages.length ≤ 3) (husage : keyUsages[usageSlot]? = some usage)
    (hsecret : handler.secret = secret) (hready : handler.ready usage r)
    (confounder : { bytes : Bytes // bytes.length = blockLen }) :
    ∃ key, CryptoKey.prepare p secret keyUsages = .ok key ∧
      (∀ data random room spare, room.length = blockLen → hashLen ≤ spare.length →
        ∃ block buf, (handler.encryptExt usage data (some confounder) random r).2 = .ok block ∧
          key.encrypt p usageSlot (room ++ data ++ spare) data.length confounder =
            .ok (buf, block.length) ∧
          buf.take block.length = block) ∧
      (∀ block plain, (handler.decryptExt usage block r).2 = .ok plain ↔
        ∃ buf len, key.decrypt p usageSlot block = .ok (buf, len) ∧
          (buf.drop aesBlockSize).take len = plain) ∧
      ∀ (T : Type) (c : Codec T) t room spare, room.length = encryptOffset →
        hashLen ≤ spare.length →
        ∃ out, (encodeEncrypt c t handler usage "" confounder r).2 = ⟨0, "", out⟩ ∧
          cephXEncrypt p key usageSlot (room ++ c.encode t ++ spare) (c.encode t).length
            confounder = .ok out ∧
          ((c.encode t).length + 49 < 2 ^ 31 → ∀ rest,
            cephXDecrypt p key usageSlot (out ++ rest) = .ok (c.encode t) ∧
            (decodeDecrypt c handler usage (out ++ rest) "" r).2 = ⟨0, "", some t⟩) := by
  subst hsecret
  have hslot : (CryptoKey.mk handler.secret
      (keyUsages.map (aeadOf p handler.secret))).krb5Tfms[usageSlot]? =
        some (aeadOf p handler.secret usage) := by
    simp [husage]
  refine ⟨_, CryptoKey.prepare_eq p hmax hslots, ?_, decrypt_agree hslot hready, ?_⟩
  · intro data random room spare hroom hspare
    exact encrypt_agree hslot hready random hroom hspare
  · intro T c t room spare hroom hspare
    obtain ⟨out, hencode, hkernel, hout⟩ := frame_agree hslot hready c t hroom hspare
    refine ⟨out, hencode, hkernel, fun hfits rest => ⟨?_, ?_⟩⟩
    · rw [hout]
      exact cephXDecrypt_sealed p hslot confounder.2 hfits
    · rw [hout, ← plainOf_eq_headed]
      exact (decodeDecrypt_sealed_iff confounder.2 hfits rest).mpr hready

/-- `authorizer_key_usages`. -/
def authorizerKeyUsages : List UInt32 := [0x10, 0x11, 0x12]

/-- The kernel and userspace emit the same authorizer for the number 7, in the bytes that AES and
HMAC give for it. -/
theorem formats_agree_authorizer :
    ∃ key, CryptoKey.prepare sample sampleSecret authorizerKeyUsages = .ok key ∧
      (encodeEncrypt Codec.le64 7 sampleKey 0x10 "" sampleConfounder {}).2 =
        ⟨0, "", encodeBl (sampleBody ++ be 24 0x8be20fe121a76de634a3297b22b32a1e5147a65f599db793)⟩ ∧
      cephXEncrypt sample key 0
        (List.replicate encryptOffset 0 ++ Codec.le64.encode 7 ++ List.replicate 24 0) 8
        sampleConfounder =
          .ok (encodeBl
            (sampleBody ++ be 24 0x8be20fe121a76de634a3297b22b32a1e5147a65f599db793)) := by
  have hready : sampleKey.ready 0x10 {} := ⟨by decide +kernel, by decide +kernel, rfl⟩
  obtain ⟨key, hkey, -, -, hmessage⟩ :=
    formats_agree sample (show sampleSecret.length ≤ 32 by decide)
    (show authorizerKeyUsages.length ≤ 3 by decide)
      (show authorizerKeyUsages[0]? = some 0x10 from rfl)
    (show sampleKey.secret = sampleSecret from rfl) hready sampleConfounder
  obtain ⟨out, hencode, hkernel, -⟩ := hmessage UInt64 Codec.le64 7 (List.replicate encryptOffset 0)
    (List.replicate 24 0) (by decide) (by decide)
  have hout : (encodeEncrypt Codec.le64 7 sampleKey 0x10 "" sampleConfounder {}).2 =
      ⟨0, "", encodeBl
        (sampleBody ++ be 24 0x8be20fe121a76de634a3297b22b32a1e5147a65f599db793)⟩ := by
    decide +kernel
  obtain rfl : out = _ := congrArg Answer.value (hencode.symm.trans hout)
  exact ⟨key, hkey, hout, hkernel⟩

end XcpCephRbd.Cephx.Krb5
