import XcpCephRbd.Cephx.Crypto
import XcpCephRbd.Lib.Text

/-!
# The usage-aware templates of cephx

`encode_encrypt` and `decode_decrypt` put a version and a magic number before the value and hand
the whole to the key handler. Whether that went well they tell their callers by an error text that
stays empty. But `decrypt_ext` stores no text where the HMAC does not match, and neither it nor
`encrypt_ext` stores one where the cipher fails: the templates then return success. `silentDecrypt`
and `silentEncrypt` are these cases, and `fails_closed_iff` says that they are the only ones.

A `buffer::error` that `decode` throws leaves `decode_decrypt_enc_bl` by the exception and is
caught in `decode_decrypt`.
-/

namespace XcpCephRbd.Cephx

open Wire

variable {p : Primitives} {T : Type}

/-- `AUTH_ENC_MAGIC`. -/
def authEncMagic : UInt64 := 0xff009cad8826aa55

/-- `CEPHX_CRYPT_ERR`. -/
def cephxCryptErr : Nat := 1

/-- `encode` of a buffer: its length in 32 bits and its bytes. -/
def encodeBl (bl : Bytes) : Bytes := le 4 bl.length ++ bl

/-- `decode` of a buffer, with what follows it; `none` is the `buffer::error`. -/
def decodeBl (bytes : Bytes) : Option (Bytes × Bytes) := do
  let (len, rest) ← split 4 bytes
  split (leVal len) rest

theorem decodeBl_encodeBl {bl : Bytes} (h : bl.length < 2 ^ 32) (rest : Bytes) :
    decodeBl (encodeBl bl ++ rest) = some (bl, rest) := by
  have hlen : leVal (le 4 bl.length) = bl.length := leVal_le_of_lt h
  simp [decodeBl, encodeBl, List.append_assoc, split_append, hlen]

/-- How `decode_decrypt_enc_bl` ends: with the error text and the value it has decoded, if any, or
by an exception. -/
inductive Outcome (T : Type) where
  | returned (error : String) (value : Option T)
  | thrown
  deriving DecidableEq, Repr

/-- The text for a wrong magic number. -/
def badMagic (magic : UInt64) : String :=
  "bad magic in decode_decrypt, " ++ toString magic.toNat ++ " != " ++
    toString authEncMagic.toNat

/-- What `decode_decrypt_enc_bl` makes of the plaintext. -/
def decodePlain (c : Codec T) (bl : Bytes) (error : String) : Outcome T :=
  match bl with
  | [] => .thrown
  | _structV :: bl =>
      match Codec.le64.decode bl with
      | none => .thrown
      | some (magic, bl) =>
          if magic ≠ authEncMagic then .returned (badMagic magic) none
          else
            match c.decode bl with
            | none => .thrown
            | some (t, _) => .returned error (some t)

/-- `decode_decrypt_enc_bl`. -/
def decodeDecryptEncBl (c : Codec T) (key : KeyHandler p) (usage : UInt32) (blEnc : Bytes)
    (error : String) (r : Replies) : KeyHandler p × Outcome T :=
  match key.decryptExt usage blEnc r with
  | (key, .error failure) => (key, .returned (failure.text.getD error) none)
  | (key, .ok bl) => (key, decodePlain c bl error)

/-- The return value of a template, the error text and what was decoded or written. -/
structure Answer (α : Type) where
  ret : Nat
  error : String
  value : α
  deriving DecidableEq, Repr

/-- `decode_decrypt`. -/
def decodeDecrypt (c : Codec T) (key : KeyHandler p) (usage : UInt32) (buf : Bytes)
    (error : String) (r : Replies) : KeyHandler p × Answer (Option T) :=
  let (key, error, value) :=
    match decodeBl buf with
    | none => (key, "error decoding block for decryption", none)
    | some (blEnc, _) =>
        match decodeDecryptEncBl c key usage blEnc error r with
        | (key, .returned error value) => (key, error, value)
        | (key, .thrown) => (key, "error decoding block for decryption", none)
  (key, ⟨if !error.isEmpty then cephxCryptErr else 0, error, value⟩)

/-- What is encrypted for a value. -/
def plainOf (c : Codec T) (t : T) : Bytes := 1 :: (Codec.le64.encode authEncMagic ++ c.encode t)

/-- `encode_encrypt_enc_bl`: what is appended to `out`, and the error text. -/
def encodeEncryptEncBl (c : Codec T) (t : T) (key : KeyHandler p) (usage : UInt32)
    (error : String) (random : { bytes : Bytes // bytes.length = blockLen }) (r : Replies) :
    KeyHandler p × Bytes × String :=
  match key.encryptExt usage (plainOf c t) none random r with
  | (key, .error failure) => (key, [], failure.text.getD error)
  | (key, .ok ciphertext) => (key, ciphertext, error)

/-- `encode_encrypt`: what is appended to `out` is the value of the answer. -/
def encodeEncrypt (c : Codec T) (t : T) (key : KeyHandler p) (usage : UInt32) (error : String)
    (random : { bytes : Bytes // bytes.length = blockLen }) (r : Replies) :
    KeyHandler p × Answer Bytes :=
  let (key, blEnc, error) := encodeEncryptEncBl c t key usage error random r
  if !error.isEmpty then (key, ⟨cephxCryptErr, error, []⟩)
  else (key, ⟨0, error, encodeBl blEnc⟩)

/-! ## Failing closed -/

/-- `decrypt_ext` accepted the block by its HMAC, the magic number is right and the value `t` was
decoded from what follows it. -/
structure Accepted (c : Codec T) (key : KeyHandler p) (usage : UInt32) (r : Replies)
    (block : Bytes) (t : T) : Prop where
  authentic : Authentic p key.secret usage block
  decrypted : ∃ bl, (key.decryptExt usage block r).2 = .ok bl ∧
    ∃ structV rest left, bl = structV :: (Codec.le64.encode authEncMagic ++ rest) ∧
      c.decode rest = some (t, left)

/-- A block that `decrypt_ext` refuses without storing a text: it is long enough, its HMAC could be
computed, and it does not match or the cipher fails. -/
def silentDecrypt (key : KeyHandler p) (usage : UInt32) (r : Replies) (block : Bytes) : Prop :=
  blockLen + hashLen ≤ block.length ∧ key.keysReady usage r = true ∧ r.hmac = true ∧
    (¬Authentic p key.secret usage block ∨ key.cipherReady r = false)

/-- A call of `encrypt_ext` that fails without storing a text: the cipher fails. -/
def silentEncrypt (key : KeyHandler p) (usage : UInt32) (r : Replies) : Prop :=
  key.keysReady usage r = true ∧ key.cipherReady r = false

/-- `decode_decrypt_enc_bl` leaves the error empty only for an accepted value. -/
def ClosedEncBl (c : Codec T) (key : KeyHandler p) (usage : UInt32) (r : Replies)
    (block : Bytes) : Prop :=
  ∀ value, (decodeDecryptEncBl c key usage block "" r).2 = .returned "" value →
    ∃ t, value = some t ∧ Accepted c key usage r block t

/-- `decode_decrypt` returns 0 only for an accepted value. -/
def ClosedDecode (c : Codec T) (key : KeyHandler p) (usage : UInt32) (r : Replies)
    (buf : Bytes) : Prop :=
  (decodeDecrypt c key usage buf "" r).2.ret = 0 →
    ∃ block rest t, decodeBl buf = some (block, rest) ∧ Accepted c key usage r block t ∧
      (decodeDecrypt c key usage buf "" r).2.value = some t

/-- `encode_encrypt` returns 0 only for a ciphertext that `encrypt_ext` produced. -/
def ClosedEncode (c : Codec T) (t : T) (key : KeyHandler p) (usage : UInt32)
    (random : { bytes : Bytes // bytes.length = blockLen }) (r : Replies) : Prop :=
  (encodeEncrypt c t key usage "" random r).2.ret = 0 →
    ∃ block, (key.encryptExt usage (plainOf c t) none random r).2 = .ok block ∧
      (encodeEncrypt c t key usage "" random r).2.value = encodeBl block

theorem badMagic_ne (magic : UInt64) : badMagic magic ≠ "" := by
  unfold badMagic
  refine Text.append_ne_empty (Text.append_ne_empty (Text.append_ne_empty ?_))
  decide

/-- Only a plaintext with the right magic number and a whole value leaves the error empty. -/
theorem decodePlain_eq_returned_iff {c : Codec T} {bl : Bytes} {value : Option T} :
    decodePlain c bl "" = .returned "" value ↔
      ∃ structV rest left t, bl = structV :: (Codec.le64.encode authEncMagic ++ rest) ∧
        c.decode rest = some (t, left) ∧ value = some t := by
  constructor
  · intro h
    cases bl with
    | nil => cases h
    | cons structV bl =>
        simp only [decodePlain] at h
        cases hmagic : Codec.le64.decode bl with
        | none => simp [hmagic] at h
        | some parts =>
            obtain ⟨magic, rest⟩ := parts
            simp only [hmagic] at h
            by_cases hne : magic ≠ authEncMagic
            · rw [if_pos hne] at h
              cases hvalue : badMagic magic
              injection h with herror
              exact absurd herror (badMagic_ne magic)
            · obtain rfl : magic = authEncMagic := not_not.mp hne
              rw [if_neg hne] at h
              cases hdecode : c.decode rest with
              | none => simp [hdecode] at h
              | some found =>
                  simp only [hdecode, Outcome.returned.injEq, true_and] at h
                  exact ⟨structV, rest, found.2, found.1, by rw [Codec.le64_decode hmagic], hdecode,
                    h.symm⟩
  · rintro ⟨structV, rest, left, t, rfl, hdecode, rfl⟩
    simp [decodePlain, Codec.le64.decode_encode, hdecode]

/-- `decode_decrypt_enc_bl` for each way in which `decrypt_ext` can end. -/
theorem decodeDecryptEncBl_eq (c : Codec T) (key : KeyHandler p) (usage : UInt32) (block : Bytes)
    (r : Replies) :
    (decodeDecryptEncBl c key usage block "" r).2 =
      match (key.decryptExt usage block r).2 with
      | .error failure => .returned (failure.text.getD "") none
      | .ok bl => decodePlain c bl "" := by
  rw [decodeDecryptEncBl]
  generalize key.decryptExt usage block r = answer
  obtain ⟨key', result⟩ := answer
  cases result <;> rfl

/-- A silent failure of `decrypt_ext` leaves the error empty. -/
theorem decodeDecryptEncBl_of_silent {c : Codec T} {key : KeyHandler p} {usage : UInt32}
    {r : Replies} {block : Bytes} (h : silentDecrypt key usage r block) :
    (decodeDecryptEncBl c key usage block "" r).2 = .returned "" none := by
  obtain ⟨code, hfail⟩ := key.decryptExt_silent_iff.mpr h
  rw [decodeDecryptEncBl_eq, hfail]
  rfl

/-- An error that is left empty by no silent failure comes with an accepted value. -/
theorem accepted_of_returned {c : Codec T} {key : KeyHandler p} {usage : UInt32} {r : Replies}
    {block : Bytes} {value : Option T} (hloud : ¬silentDecrypt key usage r block)
    (h : (decodeDecryptEncBl c key usage block "" r).2 = .returned "" value) :
    ∃ t, value = some t ∧ Accepted c key usage r block t := by
  rw [decodeDecryptEncBl_eq] at h
  cases hresult : (key.decryptExt usage block r).2 with
  | error failure =>
      exfalso
      rw [hresult] at h
      obtain ⟨code, text⟩ := failure
      cases text with
      | none => exact hloud (key.decryptExt_silent_iff.mp ⟨code, hresult⟩)
      | some text =>
          injection h with herror
          exact key.decryptExt_text hresult herror
  | ok bl =>
      obtain ⟨-, hauth, -⟩ := key.decryptExt_ok_iff.mp hresult
      rw [hresult] at h
      obtain ⟨structV, rest, left, t, hbl, hdecode, rfl⟩ := decodePlain_eq_returned_iff.mp h
      exact ⟨t, rfl, hauth, bl, hresult, structV, rest, left, hbl, hdecode⟩

theorem closedEncBl_iff {c : Codec T} {key : KeyHandler p} {usage : UInt32} {r : Replies}
    {block : Bytes} : ClosedEncBl c key usage r block ↔ ¬silentDecrypt key usage r block := by
  constructor
  · intro hclosed hsilent
    obtain ⟨t, hnone, -⟩ := hclosed none (decodeDecryptEncBl_of_silent hsilent)
    cases hnone
  · exact fun hloud value h => accepted_of_returned hloud h

/-- What `decode_decrypt` makes of a framed block. -/
theorem decodeDecrypt_of_framed {c : Codec T} {key : KeyHandler p} {usage : UInt32} {r : Replies}
    {buf block rest : Bytes} (hframe : decodeBl buf = some (block, rest)) :
    (decodeDecrypt c key usage buf "" r).2 =
      match (decodeDecryptEncBl c key usage block "" r).2 with
      | .returned error value => ⟨if error = "" then 0 else cephxCryptErr, error, value⟩
      | .thrown => ⟨cephxCryptErr, "error decoding block for decryption", none⟩ := by
  rw [decodeDecrypt, hframe]
  simp only
  generalize decodeDecryptEncBl c key usage block "" r = answer
  obtain ⟨key', outcome⟩ := answer
  cases outcome with
  | thrown => rfl
  | returned error value =>
      by_cases hempty : error = ""
      · simp [hempty]
      · simp [hempty]

/-- `decode_decrypt` returns 0 where the block is framed and `decode_decrypt_enc_bl` returns with
the error empty. -/
theorem decodeDecrypt_ret_eq_zero_iff {c : Codec T} {key : KeyHandler p} {usage : UInt32}
    {r : Replies} {buf : Bytes} :
    (decodeDecrypt c key usage buf "" r).2.ret = 0 ↔
      ∃ block rest, decodeBl buf = some (block, rest) ∧
        (decodeDecryptEncBl c key usage block "" r).2 =
          .returned "" (decodeDecrypt c key usage buf "" r).2.value := by
  cases hframe : decodeBl buf with
  | none =>
      have hret : (decodeDecrypt c key usage buf "" r).2.ret = cephxCryptErr := by
        rw [decodeDecrypt, hframe]
        rfl
      simp [hret, cephxCryptErr]
  | some parts =>
      obtain ⟨block, rest⟩ := parts
      rw [decodeDecrypt_of_framed hframe]
      cases hout : (decodeDecryptEncBl c key usage block "" r).2 with
      | thrown => simp [cephxCryptErr, hout]
      | returned error value => simp [cephxCryptErr, hout]

theorem closedDecode_iff {c : Codec T} {key : KeyHandler p} {usage : UInt32} {r : Replies}
    {buf : Bytes} :
    ClosedDecode c key usage r buf ↔
      ∀ block rest, decodeBl buf = some (block, rest) → ¬silentDecrypt key usage r block := by
  constructor
  · intro hclosed block rest hframe hsilent
    have hanswer : (decodeDecrypt c key usage buf "" r).2 = ⟨0, "", none⟩ := by
      rw [decodeDecrypt_of_framed hframe, decodeDecryptEncBl_of_silent hsilent]
      rfl
    obtain ⟨_, _, t, -, -, hvalue⟩ := hclosed (by rw [hanswer])
    rw [hanswer] at hvalue
    cases hvalue
  · intro hloud hret
    obtain ⟨block, rest, hframe, hout⟩ := decodeDecrypt_ret_eq_zero_iff.mp hret
    obtain ⟨t, hvalue, haccepted⟩ := accepted_of_returned (hloud block rest hframe) hout
    exact ⟨block, rest, t, hframe, haccepted, hvalue⟩

/-- `encrypt_ext` with a random confounder. -/
theorem encryptExt_random_ok_iff {key : KeyHandler p} {usage : UInt32} {plain block : Bytes}
    {random : { bytes : Bytes // bytes.length = blockLen }} {r : Replies} :
    (key.encryptExt usage plain none random r).2 = .ok block ↔
      key.ready usage r ∧ block = sealed p key.secret usage random plain :=
  key.encryptExt_ok_iff rfl random.2

/-- `encode_encrypt` for each way in which `encrypt_ext` can end. -/
theorem encodeEncrypt_eq (c : Codec T) (t : T) (key : KeyHandler p) (usage : UInt32)
    (random : { bytes : Bytes // bytes.length = blockLen }) (r : Replies) :
    (encodeEncrypt c t key usage "" random r).2 =
      match (key.encryptExt usage (plainOf c t) none random r).2 with
      | .ok block => ⟨0, "", encodeBl block⟩
      | .error ⟨_, none⟩ => ⟨0, "", encodeBl []⟩
      | .error ⟨_, some text⟩ =>
          if text = "" then ⟨0, "", encodeBl []⟩ else ⟨cephxCryptErr, text, []⟩ := by
  rw [encodeEncrypt, encodeEncryptEncBl]
  generalize key.encryptExt usage (plainOf c t) none random r = answer
  obtain ⟨key', result⟩ := answer
  cases result with
  | ok block => rfl
  | error failure =>
      obtain ⟨code, text⟩ := failure
      cases text with
      | none => rfl
      | some text =>
          by_cases hempty : text = ""
          · simp [hempty]
          · simp [hempty]

theorem closedEncode_iff {c : Codec T} {t : T} {key : KeyHandler p} {usage : UInt32}
    {random : { bytes : Bytes // bytes.length = blockLen }} {r : Replies} :
    ClosedEncode c t key usage random r ↔ ¬silentEncrypt key usage r := by
  have hsilent : (∃ code, (key.encryptExt usage (plainOf c t) none random r).2 =
      .error ⟨code, none⟩) ↔ silentEncrypt key usage r := key.encryptExt_silent_iff rfl random.2
  rw [ClosedEncode, encodeEncrypt_eq, ← hsilent]
  cases hresult : (key.encryptExt usage (plainOf c t) none random r).2 with
  | ok block => simp
  | error failure =>
      obtain ⟨code, text⟩ := failure
      cases text with
      | none => simp
      | some text =>
          have htext : text ≠ "" := by
            refine key.encryptExt_text ?_ random.2 hresult
            rfl
          simp [htext, cephxCryptErr]

/-! ## Reading back -/

/-- The value comes back with 0 exactly when `decrypt_ext` has it in an authentic block. -/
theorem decodeDecrypt_eq_iff {c : Codec T} {key : KeyHandler p} {usage : UInt32} {r : Replies}
    {buf block rest : Bytes} {t : T} (hframe : decodeBl buf = some (block, rest)) :
    (decodeDecrypt c key usage buf "" r).2 = ⟨0, "", some t⟩ ↔
      (decodeDecryptEncBl c key usage block "" r).2 = .returned "" (some t) := by
  rw [decodeDecrypt_of_framed hframe]
  cases hout : (decodeDecryptEncBl c key usage block "" r).2 with
  | thrown => simp
  | returned error value =>
      simp only [Answer.mk.injEq, Outcome.returned.injEq]
      constructor
      · exact fun h => h.2
      · rintro ⟨rfl, hvalue⟩
        exact ⟨rfl, rfl, hvalue⟩

/-- What is sealed for a value is decoded to it, exactly where the calls succeed. -/
theorem decodeDecryptEncBl_sealed_iff {c : Codec T} {key : KeyHandler p} {usage : UInt32}
    {r : Replies} {confounder : Bytes} {t : T} (hlen : confounder.length = blockLen) :
    (decodeDecryptEncBl c key usage (sealed p key.secret usage confounder (plainOf c t)) "" r).2 =
      .returned "" (some t) ↔ key.ready usage r := by
  have hplain : decodePlain c (plainOf c t) "" = .returned "" (some t) := by
    refine decodePlain_eq_returned_iff.mpr ⟨1, c.encode t, [], t, rfl, ?_, rfl⟩
    simpa using c.decode_encode t []
  rw [decodeDecryptEncBl_eq]
  constructor
  · intro h
    cases hresult : (key.decryptExt usage
        (sealed p key.secret usage confounder (plainOf c t)) r).2 with
    | error failure =>
        rw [hresult] at h
        injection h with _ hvalue
        cases hvalue
    | ok bl => exact (key.decryptExt_ok_iff.mp hresult).1
  · intro hready
    rw [key.decryptExt_ok_iff.mpr ⟨hready, authentic_sealed p hlen, rfl⟩, content_sealed p hlen]
    exact hplain

/-- The framed block of a value is read back, exactly where the calls succeed. -/
theorem decodeDecrypt_sealed_iff {c : Codec T} {key : KeyHandler p} {usage : UInt32} {r : Replies}
    {confounder : Bytes} {t : T} (hlen : confounder.length = blockLen)
    (hfits : (c.encode t).length + 49 < 2 ^ 31) (rest : Bytes) :
    (decodeDecrypt c key usage
      (encodeBl (sealed p key.secret usage confounder (plainOf c t)) ++ rest) "" r).2 =
        ⟨0, "", some t⟩ ↔ key.ready usage r := by
  have hblock : (sealed p key.secret usage confounder (plainOf c t)).length < 2 ^ 32 := by
    have hplain : (plainOf c t).length = 9 + (c.encode t).length := by
      simp [plainOf, Codec.le64]
      omega
    rw [length_sealed, hlen, hplain, blockLen, hashLen]
    omega
  rw [decodeDecrypt_eq_iff (decodeBl_encodeBl hblock rest), decodeDecryptEncBl_sealed_iff hlen]

/-- A buffer too short for a ciphertext is refused, with a text. -/
theorem decodeDecryptEncBl_nil (c : Codec T) (key : KeyHandler p) (usage : UInt32) (r : Replies) :
    (decodeDecryptEncBl c key usage [] "" r).2 = .returned "ciphertext too short" none := by
  rw [decodeDecryptEncBl_eq, key.decryptExt_eq]
  rfl

/-- **The templates fail closed, but for the failures without a text.** For every key, usage and
buffer and whatever the OpenSSL calls answer: `decode_decrypt` returns 0 and `decode_decrypt_enc_bl`
leaves the error empty only for an accepted value exactly when the block is none that `decrypt_ext`
refuses silently; `encode_encrypt` returns 0 only with a ciphertext exactly when `encrypt_ext` does
not fail silently; and what `encode_encrypt` has written is read back under the same secret and
usage exactly when the calls on both sides succeed. -/
theorem fails_closed_iff (c : Codec T) (key : KeyHandler p) (usage : UInt32) (r : Replies) :
    (∀ buf, ClosedDecode c key usage r buf ↔
      ∀ block rest, decodeBl buf = some (block, rest) → ¬silentDecrypt key usage r block) ∧
    (∀ block, ClosedEncBl c key usage r block ↔ ¬silentDecrypt key usage r block) ∧
    (∀ t random, ClosedEncode c t key usage random r ↔ ¬silentEncrypt key usage r) ∧
    ∀ t random rest (key' : KeyHandler p) r', key'.secret = key.secret →
      (c.encode t).length + 49 < 2 ^ 31 →
      (encodeEncrypt c t key usage "" random r).2.ret = 0 →
      ((decodeDecrypt c key' usage
          ((encodeEncrypt c t key usage "" random r).2.value ++ rest) "" r').2 = ⟨0, "", some t⟩ ↔
        key.ready usage r ∧ key'.ready usage r') := by
  refine ⟨fun buf => closedDecode_iff, fun block => closedEncBl_iff,
    fun t random => closedEncode_iff, ?_⟩
  intro t random rest key' r' hsecret hfits hret
  rw [encodeEncrypt_eq] at hret ⊢
  cases hresult : (key.encryptExt usage (plainOf c t) none random r).2 with
  | ok block =>
      obtain ⟨hready, rfl⟩ := encryptExt_random_ok_iff.mp hresult
      rw [← hsecret, decodeDecrypt_sealed_iff random.2 hfits rest]
      exact ⟨fun h => ⟨hready, h⟩, fun h => h.2⟩
  | error failure =>
      have hnot : ¬key.ready usage r := by
        intro hready
        cases (encryptExt_random_ok_iff.mpr ⟨hready, rfl⟩).symm.trans hresult
      obtain ⟨code, text⟩ := failure
      rw [hresult] at hret
      cases text with
      | none =>
          -- an empty block was framed and written
          have hframe : decodeBl (encodeBl [] ++ rest) = some ([], rest) :=
            decodeBl_encodeBl (by decide) rest
          rw [decodeDecrypt_eq_iff hframe, decodeDecryptEncBl_nil]
          simp [hnot]
      | some text =>
          have htext : text ≠ "" := by
            refine key.encryptExt_text ?_ random.2 hresult
            rfl
          simp [htext, cephxCryptErr] at hret

/-! ## One key -/

/-- A secret. -/
def sampleSecret : Bytes :=
  be 32 0x6d404d37faf79f9df0d33568d320669800eb4836472ea8a026d16b7182460c52

/-- A confounder. -/
def sampleConfounder : { bytes : Bytes // bytes.length = blockLen } :=
  ⟨be 16 0xb80d3251c1f6471494256ffe712d0b9a, by decide⟩

/-- `Ki` and `Ke` of the secret for `CEPHX_KEY_USAGE_AUTHORIZE`. -/
def sampleKi : Bytes := be 24 0x41dd616efe949efc68d9dd0d869e021b0c5cdfa4c5dfa4c5

@[inherit_doc sampleKi]
def sampleKe : Bytes :=
  be 32 0xd0abafb6be51a948298653bd53f15d9dca982d4a5100aa061bb8c5a0be6f2ecd

/-- What the confounder and the number 7 are encrypted to under `sampleKe`. -/
def sampleBody : Bytes :=
  be 33 0xce61226d75e0195bc8c3465967c1580acaa457ea66993aa0037ea70a74d782340b

/-- HMAC-SHA384 on the inputs of the runs below. -/
def sampleDigests : List ((Bytes × Bytes) × Bytes) :=
  [((sampleSecret, be 14 0x00000001000000105500000000c0),
    be 24 0x41dd616efe949efc68d9dd0d869e021b0c5cdfa4c5dfa4c5 ++
      be 24 0xd02c6c1adad663b8ea3fbebdfbe6ebb6e09d6df221c7a57f),
   ((sampleSecret, be 14 0x0000000100000010aa0000000100),
    be 24 0xd0abafb6be51a948298653bd53f15d9dca982d4a5100aa06 ++
      be 24 0x1bb8c5a0be6f2ecdb458c0d335acd9a1c03be9a5400c7e5e),
   ((sampleKi, zeroIv ++ sampleBody),
    be 24 0x8be20fe121a76de634a3297b22b32a1e5147a65f599db793 ++
      be 24 0xced21a50b1eef946a88ddf925807d5dd4f8c6371b0d30c4b),
   ((sampleKi, zeroIv ++ List.replicate 16 0),
    be 24 0xb96b2fb9b0b99e00488f64ae47c2546a25ff79366c7f357b ++
      be 24 0xda97918c81ab13410597095fa6ddcad7e37e31d5e87fa9a3)]

/-- Exchange two buffers. -/
def exchange (a b data : Bytes) : Bytes :=
  if data = a then b else if data = b then a else data

/-- AES-256-CBC-CTS on the inputs of the runs below. -/
def sampleCts (key iv data : Bytes) : Bytes :=
  if key = sampleKe ∧ iv = zeroIv then
    exchange (sampleConfounder ++ plainOf Codec.le64 7) sampleBody data
  else data

theorem length_exchange {a b : Bytes} (h : a.length = b.length) (data : Bytes) :
    (exchange a b data).length = data.length := by
  unfold exchange
  split
  · simp [*]
  · split <;> simp [*]

theorem exchange_exchange (a b data : Bytes) : exchange a b (exchange a b data) = data := by
  unfold exchange
  grind

theorem length_sampleCts (key iv data : Bytes) : (sampleCts key iv data).length = data.length := by
  unfold sampleCts
  split
  · exact length_exchange (by decide +kernel) data
  · rfl

/-- The primitives, on these inputs what they are and elsewhere something simple. -/
def sample : Primitives where
  hmacSha384 key data :=
    ((sampleDigests.lookup (key, data)).getD [] ++ List.replicate sha384Len 0).take sha384Len
  ctsEncrypt := sampleCts
  ctsDecrypt := sampleCts
  length_hmacSha384 key data := by simp
  length_ctsEncrypt := length_sampleCts
  length_ctsDecrypt := length_sampleCts
  ctsDecrypt_ctsEncrypt key iv data _ := by
    unfold sampleCts
    split
    · exact exchange_exchange ..
    · rfl

/-- The handler of the secret. -/
def sampleKey : KeyHandler sample := ⟨true, sampleSecret, [], by simp⟩

/-- The number 7 is written and read back. -/
theorem fails_closed_round_trip :
    (encodeEncrypt Codec.le64 7 sampleKey 0x10 "" sampleConfounder {}).2.ret = 0 ∧
      (decodeDecrypt Codec.le64 sampleKey 0x10
        ((encodeEncrypt Codec.le64 7 sampleKey 0x10 "" sampleConfounder {}).2.value ++ [])
        "" {}).2 =
          ⟨0, "", some 7⟩ := by
  have hret : (encodeEncrypt Codec.le64 7 sampleKey 0x10 "" sampleConfounder {}).2.ret = 0 := by
    decide +kernel
  have hready : sampleKey.ready 0x10 {} := ⟨by decide +kernel, by decide +kernel, rfl⟩
  obtain ⟨-, -, -, hback⟩ := fails_closed_iff Codec.le64 sampleKey 0x10 {}
  exact ⟨hret, (hback 7 sampleConfounder [] sampleKey {} rfl (by decide) hret).mpr ⟨hready, hready⟩⟩

/-- A block of zeros is no ciphertext of anyone who has the key, and `decode_decrypt` returns 0 for
it, with nothing decoded. -/
theorem forged_block_accepted :
    ¬Authentic sample sampleSecret 0x10 (List.replicate 40 0) ∧
      (decodeDecrypt Codec.le64 sampleKey 0x10 (encodeBl (List.replicate 40 0)) "" {}).2 =
        ⟨0, "", none⟩ ∧
      ¬ClosedDecode Codec.le64 sampleKey 0x10 {} (encodeBl (List.replicate 40 0)) ∧
      ¬ClosedEncBl Codec.le64 sampleKey 0x10 {} (List.replicate 40 0) := by
  have hforged : ¬Authentic sample sampleSecret 0x10 (List.replicate 40 0) := by decide +kernel
  have hanswer :
      (decodeDecrypt Codec.le64 sampleKey 0x10 (encodeBl (List.replicate 40 0)) "" {}).2 =
      ⟨0, "", none⟩ := by decide +kernel
  refine ⟨hforged, hanswer, fun hclosed => ?_, fun hclosed => ?_⟩
  · obtain ⟨_, _, t, -, -, hvalue⟩ := hclosed (by rw [hanswer])
    rw [hanswer] at hvalue
    cases hvalue
  · have hout : (decodeDecryptEncBl Codec.le64 sampleKey 0x10 (List.replicate 40 0) "" {}).2 =
        .returned "" none := by decide +kernel
    obtain ⟨t, hnone, -⟩ := hclosed none hout
    cases hnone

end XcpCephRbd.Cephx
