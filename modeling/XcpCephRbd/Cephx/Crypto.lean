import XcpCephRbd.Lib.Wire

/-!
# The userspace key handler of aes256k

`CryptoAES256KRB5KeyHandler` of the ceph patch: keys derived per usage and cached, AES-256 in CBC
mode with ciphertext stealing, and a truncated HMAC-SHA384 over a zero IV and the ciphertext. What
OpenSSL computes is a parameter, `Primitives`; whether each call of one `encrypt_ext` or
`decrypt_ext` succeeds is the argument `Replies`. A function that fails returns a negative code and
may or may not have set the error text, which a `Failure` records.
-/

namespace XcpCephRbd.Cephx

open Wire

/-- `AES256KRB5_BLOCK_LEN`. -/
def blockLen : Nat := 16

/-- `AES256KRB5_HASH_LEN`. -/
def hashLen : Nat := 24

/-- `SHA384_LEN`. -/
def sha384Len : Nat := 48

/-- HMAC-SHA384 of data under a key, and AES-256-CBC-CTS (CS3) of data under a key and an IV. -/
structure Primitives where
  hmacSha384 : (key data : Bytes) → Bytes
  ctsEncrypt : (key iv data : Bytes) → Bytes
  ctsDecrypt : (key iv data : Bytes) → Bytes
  length_hmacSha384 : ∀ key data, (hmacSha384 key data).length = sha384Len
  length_ctsEncrypt : ∀ key iv data, (ctsEncrypt key iv data).length = data.length
  length_ctsDecrypt : ∀ key iv data, (ctsDecrypt key iv data).length = data.length
  ctsDecrypt_ctsEncrypt : ∀ key iv data, blockLen ≤ data.length →
    ctsDecrypt key iv (ctsEncrypt key iv data) = data

/-- The negative codes that the handler returns. -/
inductive Errno where
  | einval
  | eio
  | eperm
  deriving DecidableEq, Repr

/-- A negative return, with the text that was stored through `error`, if one was. -/
structure Failure where
  code : Errno
  text : Option String := none
  deriving DecidableEq, Repr

/-- Which OpenSSL calls succeed in one `encrypt_ext` or `decrypt_ext`: the `HMAC` of the two key
derivations, the four calls on the cipher context and the `HMAC` of the data. -/
structure Replies where
  ki : Bool := true
  ke : Bool := true
  newCtx : Bool := true
  init : Bool := true
  update : Bool := true
  final : Bool := true
  hmac : Bool := true
  deriving DecidableEq, Repr

variable (p : Primitives)

/-- `calc_hmac_sha384`. A failing `HMAC` leaves `len` at 0, which is all that is tested. -/
def calcHmacSha384 (ok : Bool) (data hmacKey : Bytes) (iv : Option Bytes) (outSize : Nat) :
    Except Failure Bytes :=
  let source := iv.getD [] ++ data
  let digest := if ok then p.hmacSha384 hmacKey source else []
  if digest.length ≠ sha384Len then
    .error ⟨.eio, some "Unexpected calculated SHA384 length"⟩
  else .ok (if outSize < sha384Len then digest.take outSize else digest)

/-- The input of the key derivation: `00000001 | usage | type | 00 | 8 k`, both numbers with the
highest byte first. -/
def kxData (usage : UInt32) (type : UInt8) (k : Nat) : Bytes :=
  let kb := UInt32.ofNat (k * 8)
  [0, 0, 0, 1,
   ((usage >>> 24) &&& 0xff).toUInt8, ((usage >>> 16) &&& 0xff).toUInt8,
   ((usage >>> 8) &&& 0xff).toUInt8, (usage &&& 0xff).toUInt8,
   type, 0,
   ((kb >>> 24) &&& 0xff).toUInt8, ((kb >>> 16) &&& 0xff).toUInt8,
   ((kb >>> 8) &&& 0xff).toUInt8, (kb &&& 0xff).toUInt8]

/-- `calc_kx`: a key of `k` bytes, cut from one HMAC under the secret. -/
def calcKx (ok : Bool) (secret : Bytes) (usage : UInt32) (type : UInt8) (k : Nat) :
    Except Failure Bytes :=
  (calcHmacSha384 p ok (kxData usage type k) secret none sha384Len).map fun sha384 => sha384.take k

/-- `struct usage_keys`. -/
structure UsageKeys where
  ki : Bytes
  ke : Bytes
  deriving DecidableEq, Repr

/-- `do_init_usage_keys`. -/
def doInitUsageKeys (secret : Bytes) (usage : UInt32) (r : Replies) : Except Failure UsageKeys := do
  let ki ← calcKx p r.ki secret usage 0x55 hashLen
  let ke ← calcKx p r.ke secret usage 0xAA 32
  return ⟨ki, ke⟩

/-- The keys of a usage. -/
def usageKeys (secret : Bytes) (usage : UInt32) : UsageKeys where
  ki := (p.hmacSha384 secret (kxData usage 0x55 hashLen)).take hashLen
  ke := (p.hmacSha384 secret (kxData usage 0xAA 32)).take 32

theorem calcHmacSha384_eq (ok : Bool) (data hmacKey : Bytes) (iv : Option Bytes) {outSize : Nat}
    (hsize : outSize ≤ sha384Len) :
    calcHmacSha384 p ok data hmacKey iv outSize =
      if ok then .ok ((p.hmacSha384 hmacKey (iv.getD [] ++ data)).take outSize)
      else .error ⟨.eio, some "Unexpected calculated SHA384 length"⟩ := by
  cases ok with
  | false => rfl
  | true =>
      simp only [calcHmacSha384, if_true, p.length_hmacSha384, ne_eq, not_true_eq_false, if_false]
      split
      · rfl
      · rename_i hnot
        rw [List.take_of_length_le]
        rw [p.length_hmacSha384]
        omega

theorem doInitUsageKeys_eq (secret : Bytes) (usage : UInt32) (r : Replies) :
    doInitUsageKeys p secret usage r =
      if r.ki && r.ke then .ok (usageKeys p secret usage)
      else .error ⟨.eio, some "Unexpected calculated SHA384 length"⟩ := by
  simp only [doInitUsageKeys, calcKx, calcHmacSha384_eq p _ _ _ none (Nat.le_refl sha384Len)]
  have htake : ∀ data, (p.hmacSha384 secret data).take sha384Len = p.hmacSha384 secret data :=
    fun data => List.take_of_length_le (Nat.le_of_eq (p.length_hmacSha384 secret data))
  cases r.ki with
  | false => rfl
  | true =>
      cases r.ke with
      | false => rfl
      | true => simp [Except.map, bind, Except.bind, pure, Except.pure, usageKeys, htake]

/-- `CryptoAES256KRB5KeyHandler`: whether the cipher was fetched, the secret, and the cache of
derived keys, which holds no others. -/
structure KeyHandler where
  cipher : Bool
  secret : Bytes
  keys : List (UInt32 × UsageKeys)
  cached : ∀ entry ∈ keys, entry.2 = usageKeys p secret entry.1

/-- `init`: without the cipher there is no handler. -/
def KeyHandler.init (fetched : Bool) (secret : Bytes) : Except Failure (KeyHandler p) :=
  if fetched then .ok ⟨true, secret, [], by simp⟩
  else .error ⟨.einval, some "Failed to fetch OpenSSL cipher AES-256-CBC-CTS"⟩

namespace KeyHandler

variable {p} (h : KeyHandler p)

/-- `get_usage_keys`: from the cache, or derived and put there. -/
def getUsageKeys (usage : UInt32) (r : Replies) : KeyHandler p × Option UsageKeys :=
  match h.keys.lookup usage with
  | some uk => (h, some uk)
  | none =>
      match hinit : doInitUsageKeys p h.secret usage r with
      | .error _ => (h, none)
      | .ok uk =>
          ({ h with
              keys := (usage, uk) :: h.keys
              cached := by
                rw [doInitUsageKeys_eq] at hinit
                split at hinit <;> cases hinit
                simpa using h.cached },
            some uk)

/-- `encrypt_AES256_CTS`. -/
def encryptAes256Cts (plaintext ke iv : Bytes) (ciphertextLen : Nat) (r : Replies) :
    Except Failure Bytes :=
  if !h.cipher then .error ⟨.einval, none⟩
  else if ciphertextLen < plaintext.length then .error ⟨.einval, none⟩
  else if !r.newCtx then .error ⟨.eio, none⟩
  else if !r.init then .error ⟨.eio, none⟩
  else if !r.update then .error ⟨.eio, none⟩
  else if !r.final then .error ⟨.eio, none⟩
  else .ok (p.ctsEncrypt ke iv plaintext)

/-- `decrypt_AES256_CTS`. -/
def decryptAes256Cts (ciphertext ke iv : Bytes) (r : Replies) : Except Failure Bytes :=
  if !h.cipher then .error ⟨.einval, none⟩
  else if !r.newCtx then .error ⟨.eio, none⟩
  else if !r.init then .error ⟨.eio, none⟩
  else if !r.update then .error ⟨.eio, none⟩
  else if !r.final then .error ⟨.eio, none⟩
  else .ok (p.ctsDecrypt ke iv ciphertext)

/-- The first block that `encrypt_ext` encrypts: the confounder passed, or random bytes. -/
def confounderBuf (confounder : Option Bytes)
    (random : { bytes : Bytes // bytes.length = blockLen }) : Except Failure Bytes :=
  match confounder with
  | none => .ok random
  | some given =>
      if given.length ≠ blockLen then
        .error ⟨.einval, some "confounder length must equal block size"⟩
      else .ok given

/-- `encrypt_ext`, with the bytes that `CryptoRandom` gives where no confounder is passed. -/
def encryptExt (usage : UInt32) (input : Bytes) (confounder : Option Bytes)
    (random : { bytes : Bytes // bytes.length = blockLen }) (r : Replies) :
    KeyHandler p × Except Failure Bytes :=
  match confounderBuf confounder random with
  | .error failure => (h, .error failure)
  | .ok front =>
      let incopy := front ++ input
      let iv := List.replicate blockLen 0
      match h.getUsageKeys usage r with
      | (h, none) => (h, .error ⟨.eio, some "cannot derive usage keys"⟩)
      | (h, some uk) =>
          (h, do
            let aesEnc ← h.encryptAes256Cts incopy uk.ke iv (blockLen + input.length) r
            let hmac ← calcHmacSha384 p r.hmac aesEnc uk.ki (some iv) hashLen
            return aesEnc ++ hmac)

/-- `decrypt_ext`. -/
def decryptExt (usage : UInt32) (input : Bytes) (r : Replies) :
    KeyHandler p × Except Failure Bytes :=
  if input.length < blockLen + hashLen then
    (h, .error ⟨.einval, some "ciphertext too short"⟩)
  else
    let indata := input.take (input.length - hashLen)
    let inhash := input.drop (input.length - hashLen)
    let iv := List.replicate blockLen 0
    match h.getUsageKeys usage r with
    | (h, none) => (h, .error ⟨.eio, some "cannot derive usage keys"⟩)
    | (h, some uk) =>
        (h, do
          let hmac ← calcHmacSha384 p r.hmac indata uk.ki (some iv) hashLen
          if hmac.length ≠ inhash.length then .error ⟨.eperm, none⟩
          else if hmac ≠ inhash then .error ⟨.eperm, none⟩
          else do
            let tmpOut ← h.decryptAes256Cts indata uk.ke iv r
            if tmpOut.length < blockLen then .error ⟨.eperm, none⟩
            else return tmpOut.drop blockLen)

/-! ## When a call gets how far -/

/-- The keys of the usage are in the cache or can be derived. -/
def keysReady (usage : UInt32) (r : Replies) : Bool :=
  (h.keys.lookup usage).isSome || r.ki && r.ke

/-- The cipher is there and every call on its context succeeds. -/
def cipherReady (r : Replies) : Bool := h.cipher && r.newCtx && r.init && r.update && r.final

/-- Every call of an `encrypt_ext` or `decrypt_ext` succeeds. -/
def ready (usage : UInt32) (r : Replies) : Prop :=
  h.keysReady usage r = true ∧ h.cipherReady r = true ∧ r.hmac = true

theorem getUsageKeys_snd (usage : UInt32) (r : Replies) :
    (h.getUsageKeys usage r).2 =
      if h.keysReady usage r then some (usageKeys p h.secret usage) else none := by
  rw [getUsageKeys, keysReady]
  cases hfind : h.keys.lookup usage with
  | some uk =>
      obtain ⟨front, back, hkeys, -⟩ := List.lookup_eq_some_iff.mp hfind
      have hcached : uk = usageKeys p h.secret usage := h.cached (usage, uk) (by simp [hkeys])
      simp [hcached]
  | none =>
      simp only [Option.isSome_none, Bool.false_or]
      split
      · rename_i hinit
        rw [doInitUsageKeys_eq] at hinit
        split at hinit
        · cases hinit
        · rename_i hno
          rw [if_neg hno]
      · rename_i hinit
        rw [doInitUsageKeys_eq] at hinit
        split at hinit
        · rename_i hyes
          cases hinit
          rw [if_pos hyes]
        · cases hinit

@[simp] theorem getUsageKeys_secret (usage : UInt32) (r : Replies) :
    (h.getUsageKeys usage r).1.secret = h.secret := by
  rw [getUsageKeys]
  split
  · rfl
  · split <;> rfl

@[simp] theorem getUsageKeys_cipher (usage : UInt32) (r : Replies) :
    (h.getUsageKeys usage r).1.cipher = h.cipher := by
  rw [getUsageKeys]
  split
  · rfl
  · split <;> rfl

theorem encryptAes256Cts_of_ready {plaintext ke iv : Bytes} {ciphertextLen : Nat} {r : Replies}
    (hready : h.cipherReady r = true) (hlen : plaintext.length ≤ ciphertextLen) :
    h.encryptAes256Cts plaintext ke iv ciphertextLen r = .ok (p.ctsEncrypt ke iv plaintext) := by
  simp only [cipherReady, Bool.and_eq_true] at hready
  obtain ⟨⟨⟨⟨hcipher, hctx⟩, hinit⟩, hupdate⟩, hfinal⟩ := hready
  simp [encryptAes256Cts, hcipher, hctx, hinit, hupdate, hfinal, hlen]

theorem decryptAes256Cts_of_ready {ciphertext ke iv : Bytes} {r : Replies}
    (hready : h.cipherReady r = true) :
    h.decryptAes256Cts ciphertext ke iv r = .ok (p.ctsDecrypt ke iv ciphertext) := by
  simp only [cipherReady, Bool.and_eq_true] at hready
  obtain ⟨⟨⟨⟨hcipher, hctx⟩, hinit⟩, hupdate⟩, hfinal⟩ := hready
  simp [decryptAes256Cts, hcipher, hctx, hinit, hupdate, hfinal]

/-- No exit of the cipher helpers stores an error text. -/
theorem encryptAes256Cts_silent {plaintext ke iv : Bytes} {ciphertextLen : Nat} {r : Replies}
    (hready : h.cipherReady r = false) :
    ∃ code, h.encryptAes256Cts plaintext ke iv ciphertextLen r = .error ⟨code, none⟩ := by
  unfold encryptAes256Cts
  repeat' split
  all_goals first | exact ⟨_, rfl⟩ | simp_all [cipherReady]

theorem decryptAes256Cts_silent {ciphertext ke iv : Bytes} {r : Replies}
    (hready : h.cipherReady r = false) :
    ∃ code, h.decryptAes256Cts ciphertext ke iv r = .error ⟨code, none⟩ := by
  unfold decryptAes256Cts
  repeat' split
  all_goals first | exact ⟨_, rfl⟩ | simp_all [cipherReady]

/-- A plaintext is as long as its ciphertext. -/
theorem length_of_decryptAes256Cts {ciphertext ke iv out : Bytes} {r : Replies}
    (hok : h.decryptAes256Cts ciphertext ke iv r = .ok out) : out.length = ciphertext.length := by
  cases hready : h.cipherReady r with
  | false =>
      obtain ⟨code, hfail⟩ : ∃ code, h.decryptAes256Cts ciphertext ke iv r = .error ⟨code, none⟩ :=
        h.decryptAes256Cts_silent hready
      cases hfail.symm.trans hok
  | true =>
      rw [h.decryptAes256Cts_of_ready hready] at hok
      cases hok
      exact p.length_ctsDecrypt ..

end KeyHandler

/-! ## The format -/

/-- The IV of every encryption. -/
def zeroIv : Bytes := List.replicate blockLen 0

/-- The HMAC that follows a ciphertext. -/
def tag (secret : Bytes) (usage : UInt32) (body : Bytes) : Bytes :=
  (p.hmacSha384 (usageKeys p secret usage).ki (zeroIv ++ body)).take hashLen

/-- The block for some data under a confounder: ciphertext and HMAC. -/
def sealed (secret : Bytes) (usage : UInt32) (confounder data : Bytes) : Bytes :=
  let body := p.ctsEncrypt (usageKeys p secret usage).ke zeroIv (confounder ++ data)
  body ++ tag p secret usage body

/-- The part of a block before its HMAC. -/
def bodyOf (block : Bytes) : Bytes := block.take (block.length - hashLen)

/-- The HMAC that a block carries. -/
def tagOf (block : Bytes) : Bytes := block.drop (block.length - hashLen)

/-- The block is long enough and carries the HMAC of its body. -/
def Authentic (secret : Bytes) (usage : UInt32) (block : Bytes) : Prop :=
  blockLen + hashLen ≤ block.length ∧ tag p secret usage (bodyOf block) = tagOf block

instance (secret : Bytes) (usage : UInt32) (block : Bytes) :
    Decidable (Authentic p secret usage block) :=
  inferInstanceAs (Decidable (_ ∧ _))

/-- The data in an authentic block. -/
def content (secret : Bytes) (usage : UInt32) (block : Bytes) : Bytes :=
  (p.ctsDecrypt (usageKeys p secret usage).ke zeroIv (bodyOf block)).drop blockLen

@[simp] theorem length_tag (secret : Bytes) (usage : UInt32) (body : Bytes) :
    (tag p secret usage body).length = hashLen := by
  simp [tag, p.length_hmacSha384, hashLen, sha384Len]

@[simp] theorem length_sealed (secret : Bytes) (usage : UInt32) (confounder data : Bytes) :
    (sealed p secret usage confounder data).length =
      confounder.length + data.length + hashLen := by
  simp [sealed, p.length_ctsEncrypt]

@[simp] theorem bodyOf_append {body hmac : Bytes} (h : hmac.length = hashLen) :
    bodyOf (body ++ hmac) = body := by
  simp [bodyOf, h]

@[simp] theorem tagOf_append {body hmac : Bytes} (h : hmac.length = hashLen) :
    tagOf (body ++ hmac) = hmac := by
  simp [tagOf, h]

/-- What is sealed is authentic. -/
theorem authentic_sealed {secret : Bytes} {usage : UInt32} {confounder data : Bytes}
    (h : confounder.length = blockLen) :
    Authentic p secret usage (sealed p secret usage confounder data) := by
  refine ⟨?_, ?_⟩
  · rw [length_sealed, h]
    omega
  · rw [sealed, bodyOf_append (length_tag p ..), tagOf_append (length_tag p ..)]

/-- The body of what is sealed decrypts to the confounder and the data. -/
theorem ctsDecrypt_sealed {secret : Bytes} {usage : UInt32} {confounder data : Bytes}
    (h : confounder.length = blockLen) :
    p.ctsDecrypt (usageKeys p secret usage).ke zeroIv
      (bodyOf (sealed p secret usage confounder data)) = confounder ++ data := by
  rw [sealed, bodyOf_append (length_tag p ..), p.ctsDecrypt_ctsEncrypt _ _ _ (by simp [h])]

/-- What is sealed is read back. -/
theorem content_sealed {secret : Bytes} {usage : UInt32} {confounder data : Bytes}
    (h : confounder.length = blockLen) :
    content p secret usage (sealed p secret usage confounder data) = data := by
  rw [content, ctsDecrypt_sealed p h, ← h, List.drop_left]

namespace KeyHandler

variable {p} (h : KeyHandler p)

/-- The cipher helpers look at nothing of the handler but the cipher. -/
theorem encryptAes256Cts_congr {h h' : KeyHandler p} (hcipher : h'.cipher = h.cipher) :
    h'.encryptAes256Cts = h.encryptAes256Cts := by
  funext plaintext ke iv ciphertextLen r
  simp [encryptAes256Cts, hcipher]

theorem decryptAes256Cts_congr {h h' : KeyHandler p} (hcipher : h'.cipher = h.cipher) :
    h'.decryptAes256Cts = h.decryptAes256Cts := by
  funext ciphertext ke iv r
  simp [decryptAes256Cts, hcipher]

/-- `encrypt_ext` with the confounder `front`, exit by exit. -/
theorem encryptExt_eq {usage : UInt32} {input front : Bytes} {confounder : Option Bytes}
    {random : { bytes : Bytes // bytes.length = blockLen }} {r : Replies}
    (hfront : confounder.getD random = front) (hlen : front.length = blockLen) :
    (h.encryptExt usage input confounder random r).2 =
      if h.keysReady usage r = false then .error ⟨.eio, some "cannot derive usage keys"⟩
      else (h.encryptAes256Cts (front ++ input) (usageKeys p h.secret usage).ke zeroIv
        (blockLen + input.length) r).bind fun aesEnc =>
          if r.hmac then .ok (aesEnc ++ tag p h.secret usage aesEnc)
          else .error ⟨.eio, some "Unexpected calculated SHA384 length"⟩ := by
  have hconf : confounderBuf confounder random = .ok front := by
    cases confounder with
    | none => exact congrArg Except.ok hfront
    | some given =>
        obtain rfl : given = front := hfront
        simp [confounderBuf, hlen]
  have hkeys := h.getUsageKeys_snd usage r
  have hcipher := h.getUsageKeys_cipher usage r
  rw [encryptExt, hconf]
  simp only
  generalize h.getUsageKeys usage r = answer at hkeys hcipher
  obtain ⟨h', found⟩ := answer
  cases hready : h.keysReady usage r with
  | false =>
      obtain rfl : found = none := by simpa [hready] using hkeys
      rfl
  | true =>
      obtain rfl : found = some (usageKeys p h.secret usage) := by simpa [hready] using hkeys
      simp only [Bool.true_eq_false, if_false, encryptAes256Cts_congr hcipher,
        calcHmacSha384_eq p _ _ _ _ (show hashLen ≤ sha384Len by decide)]
      refine congrArg (Except.bind _) ?_
      funext aesEnc
      cases r.hmac <;> rfl

/-- `decrypt_ext`, exit by exit. -/
theorem decryptExt_eq (usage : UInt32) (input : Bytes) (r : Replies) :
    (h.decryptExt usage input r).2 =
      if input.length < blockLen + hashLen then .error ⟨.einval, some "ciphertext too short"⟩
      else if h.keysReady usage r = false then .error ⟨.eio, some "cannot derive usage keys"⟩
      else if r.hmac = false then .error ⟨.eio, some "Unexpected calculated SHA384 length"⟩
      else if tag p h.secret usage (bodyOf input) ≠ tagOf input then .error ⟨.eperm, none⟩
      else (h.decryptAes256Cts (bodyOf input) (usageKeys p h.secret usage).ke zeroIv r).map
        fun tmpOut => tmpOut.drop blockLen := by
  have hkeys := h.getUsageKeys_snd usage r
  have hcipher := h.getUsageKeys_cipher usage r
  rw [decryptExt]
  by_cases hshort : input.length < blockLen + hashLen
  · rw [if_pos hshort, if_pos hshort]
  rw [if_neg hshort, if_neg hshort]
  simp only
  generalize h.getUsageKeys usage r = answer at hkeys hcipher
  obtain ⟨h', found⟩ := answer
  cases hready : h.keysReady usage r with
  | false =>
      obtain rfl : found = none := by simpa [hready] using hkeys
      rfl
  | true =>
      obtain rfl : found = some (usageKeys p h.secret usage) := by simpa [hready] using hkeys
      simp only [Bool.true_eq_false, if_false, decryptAes256Cts_congr hcipher,
        calcHmacSha384_eq p _ _ _ _ (show hashLen ≤ sha384Len by decide)]
      cases r.hmac with
      | false => rfl
      | true =>
          show (if (tag p h.secret usage (bodyOf input)).length ≠ (tagOf input).length then
              .error ⟨.eperm, none⟩
            else if tag p h.secret usage (bodyOf input) ≠ tagOf input then .error ⟨.eperm, none⟩
            else _ : Except Failure Bytes) = _
          have hlen : (tag p h.secret usage (bodyOf input)).length = (tagOf input).length := by
            rw [length_tag, tagOf, List.length_drop]
            omega
          rw [if_neg (not_not_intro hlen)]
          simp only [Bool.true_eq_false, if_false]
          split
          · rfl
          · -- the plaintext is as long as the body, so it holds the confounder
            show (h.decryptAes256Cts (bodyOf input) (usageKeys p h.secret usage).ke zeroIv r).bind
              (fun tmpOut => if tmpOut.length < blockLen then .error ⟨.eperm, none⟩
                else .ok (tmpOut.drop blockLen)) = _
            cases hcts :
              h.decryptAes256Cts (bodyOf input) (usageKeys p h.secret usage).ke zeroIv r with
            | error failure => rfl
            | ok tmpOut =>
                have hbody : blockLen ≤ (bodyOf input).length := by
                  rw [bodyOf, List.length_take]
                  omega
                have hout := h.length_of_decryptAes256Cts hcts
                simp [Except.bind, Except.map, show ¬ tmpOut.length < blockLen by omega]

/-- `encrypt_ext` produces the block of the format, and only when every call succeeds. -/
theorem encryptExt_ok_iff {usage : UInt32} {input front out : Bytes} {confounder : Option Bytes}
    {random : { bytes : Bytes // bytes.length = blockLen }} {r : Replies}
    (hfront : confounder.getD random = front) (hlen : front.length = blockLen) :
    (h.encryptExt usage input confounder random r).2 = .ok out ↔
      h.ready usage r ∧ out = sealed p h.secret usage front input := by
  rw [h.encryptExt_eq hfront hlen, ready]
  cases hkeys : h.keysReady usage r with
  | false => simp
  | true =>
      cases hcipher : h.cipherReady r with
      | false =>
          obtain ⟨code, hfail⟩ : ∃ code, h.encryptAes256Cts (front ++ input)
              (usageKeys p h.secret usage).ke zeroIv (blockLen + input.length) r =
                .error ⟨code, none⟩ := h.encryptAes256Cts_silent hcipher
          simp [hfail, Except.bind]
      | true =>
          rw [h.encryptAes256Cts_of_ready hcipher (by simp [hlen])]
          cases r.hmac with
          | false => simp [Except.bind]
          | true => simp [Except.bind, sealed, eq_comm]

/-- `encrypt_ext` fails without a word exactly where the cipher fails. -/
theorem encryptExt_silent_iff {usage : UInt32} {input front : Bytes} {confounder : Option Bytes}
    {random : { bytes : Bytes // bytes.length = blockLen }} {r : Replies}
    (hfront : confounder.getD random = front) (hlen : front.length = blockLen) :
    (∃ code, (h.encryptExt usage input confounder random r).2 = .error ⟨code, none⟩) ↔
      h.keysReady usage r = true ∧ h.cipherReady r = false := by
  rw [h.encryptExt_eq hfront hlen]
  cases hkeys : h.keysReady usage r with
  | false => simp
  | true =>
      cases hcipher : h.cipherReady r with
      | false =>
          obtain ⟨code, hfail⟩ : ∃ code, h.encryptAes256Cts (front ++ input)
              (usageKeys p h.secret usage).ke zeroIv (blockLen + input.length) r =
                .error ⟨code, none⟩ := h.encryptAes256Cts_silent hcipher
          simp [hfail, Except.bind]
      | true =>
          rw [h.encryptAes256Cts_of_ready hcipher (by simp [hlen])]
          cases r.hmac <;> simp [Except.bind]

/-- `decrypt_ext` returns the content of an authentic block, and only when every call succeeds. -/
theorem decryptExt_ok_iff {usage : UInt32} {input out : Bytes} {r : Replies} :
    (h.decryptExt usage input r).2 = .ok out ↔
      h.ready usage r ∧ Authentic p h.secret usage input ∧
        out = content p h.secret usage input := by
  rw [h.decryptExt_eq, Authentic, ready]
  by_cases hshort : input.length < blockLen + hashLen
  · simp [hshort, Nat.not_le.mpr hshort]
  rw [if_neg hshort]
  cases hkeys : h.keysReady usage r with
  | false => simp
  | true =>
      cases r.hmac with
      | false => simp
      | true =>
          by_cases htag : tag p h.secret usage (bodyOf input) = tagOf input
          · cases hcipher : h.cipherReady r with
            | false =>
                obtain ⟨code, hfail⟩ : ∃ code, h.decryptAes256Cts (bodyOf input)
                    (usageKeys p h.secret usage).ke zeroIv r = .error ⟨code, none⟩ :=
                  h.decryptAes256Cts_silent hcipher
                simp [htag, hfail, Except.map]
            | true =>
                rw [h.decryptAes256Cts_of_ready hcipher]
                simp [htag, Except.map, content, eq_comm, Nat.le_of_not_lt hshort]
          · simp [htag]

/-- `decrypt_ext` fails without a word exactly where the HMAC does not match or the cipher fails. -/
theorem decryptExt_silent_iff {usage : UInt32} {input : Bytes} {r : Replies} :
    (∃ code, (h.decryptExt usage input r).2 = .error ⟨code, none⟩) ↔
      blockLen + hashLen ≤ input.length ∧ h.keysReady usage r = true ∧ r.hmac = true ∧
        (¬Authentic p h.secret usage input ∨ h.cipherReady r = false) := by
  rw [h.decryptExt_eq, Authentic]
  by_cases hshort : input.length < blockLen + hashLen
  · simp [hshort, Nat.not_le.mpr hshort]
  rw [if_neg hshort]
  have hlong := Nat.le_of_not_lt hshort
  cases hkeys : h.keysReady usage r with
  | false => simp
  | true =>
      cases r.hmac with
      | false => simp
      | true =>
          by_cases htag : tag p h.secret usage (bodyOf input) = tagOf input
          · cases hcipher : h.cipherReady r with
            | false =>
                obtain ⟨code, hfail⟩ : ∃ code, h.decryptAes256Cts (bodyOf input)
                    (usageKeys p h.secret usage).ke zeroIv r = .error ⟨code, none⟩ :=
                  h.decryptAes256Cts_silent hcipher
                simp [htag, hfail, Except.map, hlong]
            | true =>
                rw [h.decryptAes256Cts_of_ready hcipher]
                simp [htag, Except.map, hlong]
          · simp [htag, hlong]

/-- A text that is stored says something. -/
theorem encryptExt_text {usage : UInt32} {input front : Bytes} {confounder : Option Bytes}
    {random : { bytes : Bytes // bytes.length = blockLen }} {r : Replies} {code : Errno}
    {text : String} (hfront : confounder.getD random = front) (hlen : front.length = blockLen)
    (hfail : (h.encryptExt usage input confounder random r).2 = .error ⟨code, some text⟩) :
    text ≠ "" := by
  rw [h.encryptExt_eq hfront hlen] at hfail
  split at hfail
  · cases hfail
    decide
  · cases hcipher : h.cipherReady r with
    | false =>
        obtain ⟨code', hcts⟩ : ∃ code, h.encryptAes256Cts (front ++ input)
            (usageKeys p h.secret usage).ke zeroIv (blockLen + input.length) r =
              .error ⟨code, none⟩ := h.encryptAes256Cts_silent hcipher
        simp [hcts, Except.bind] at hfail
    | true =>
        rw [h.encryptAes256Cts_of_ready hcipher (by simp [hlen])] at hfail
        simp only [Except.bind] at hfail
        split at hfail
        · cases hfail
        · cases hfail
          decide

theorem decryptExt_text {usage : UInt32} {input : Bytes} {r : Replies} {code : Errno}
    {text : String} (hfail : (h.decryptExt usage input r).2 = .error ⟨code, some text⟩) :
    text ≠ "" := by
  rw [h.decryptExt_eq] at hfail
  split at hfail
  · cases hfail
    decide
  split at hfail
  · cases hfail
    decide
  split at hfail
  · cases hfail
    decide
  split at hfail
  · cases hfail
  cases hcipher : h.cipherReady r with
  | false =>
      obtain ⟨code', hcts⟩ : ∃ code, h.decryptAes256Cts (bodyOf input)
          (usageKeys p h.secret usage).ke zeroIv r = .error ⟨code, none⟩ :=
        h.decryptAes256Cts_silent hcipher
      simp [hcts, Except.map] at hfail
  | true =>
      rw [h.decryptAes256Cts_of_ready hcipher] at hfail
      cases hfail

end KeyHandler

end XcpCephRbd.Cephx
