import RustZap.Lib.Text

namespace rustzap.secrets

def ENVELOPE_PREFIX : String := "rzsec:v1"

def NONCE_LEN : Nat := 12

def KEY_LEN : Nat := 32

structure SecretMasterKey where
  bytes : List UInt8
  length : bytes.length = KEY_LEN

/-- The random bytes under which one secret is encrypted. -/
structure Nonce where
  bytes : List UInt8
  length : bytes.length = NONCE_LEN

inductive SecretError where
  | InvalidMasterKey
  | NonceGeneration
  | Encrypt
  | InvalidEnvelope
  | Decrypt
  | Utf8
  deriving DecidableEq

def SecretError.to_string : SecretError → String
  | .InvalidMasterKey => "RUSTZAP_SECRET_MASTER_KEY must decode to exactly 32 bytes"
  | .NonceGeneration => "failed to generate secret nonce"
  | .Encrypt => "secret encryption failed"
  | .InvalidEnvelope => "secret envelope is invalid"
  | .Decrypt => "secret decryption failed"
  | .Utf8 => "decrypted secret is not valid UTF-8"

/-- What is taken from the crates: AES-256-GCM under a key and a nonce, and the standard
base64 alphabet. -/
structure Crates where
  encrypt : SecretMasterKey → List UInt8 → List UInt8 → Option (List UInt8)
  decrypt : SecretMasterKey → List UInt8 → List UInt8 → Option (List UInt8)
  base64_encode : List UInt8 → String
  base64_decode : String → Option (List UInt8)

/-- What the crates promise: each inverts what it has written, and base64 has no colon. -/
structure Crates.Sound (crates : Crates) : Prop where
  decrypt_encrypt : ∀ key nonce plaintext ciphertext, crates.encrypt key nonce plaintext = some ciphertext →
    crates.decrypt key nonce ciphertext = some plaintext
  decode_encode : ∀ bytes, crates.base64_decode (crates.base64_encode bytes) = some bytes
  no_colon : ∀ bytes, ':' ∉ (crates.base64_encode bytes).toList

def as_bytes (text : String) : List UInt8 :=
  text.toUTF8.data.toList

def from_utf8 (bytes : List UInt8) : Option String :=
  String.fromUTF8? ⟨bytes.toArray⟩

section Envelope

variable (crates : Crates) (key : SecretMasterKey)

/-- The nonce is drawn from the system, which may fail. -/
def encrypt_secret (nonce : Option Nonce) (plaintext : String) : Except SecretError String :=
  match nonce with
  | none => .error .NonceGeneration
  | some nonce =>
    match crates.encrypt key nonce.bytes (as_bytes plaintext) with
    | none => .error .Encrypt
    | some ciphertext => .ok (ENVELOPE_PREFIX ++ ":" ++ crates.base64_encode nonce.bytes ++ ":" ++
        crates.base64_encode ciphertext)

def decrypt_secret (envelope : String) : Except SecretError String :=
  match str.split envelope ':' with
  | [scheme, version, nonce, ciphertext] =>
    if scheme ≠ "rzsec" ∨ version ≠ "v1" then .error .InvalidEnvelope
    else match crates.base64_decode nonce with
      | none => .error .InvalidEnvelope
      | some nonce =>
        if nonce.length ≠ NONCE_LEN then .error .InvalidEnvelope
        else match crates.base64_decode ciphertext with
          | none => .error .InvalidEnvelope
          | some ciphertext =>
            match crates.decrypt key nonce ciphertext with
            | none => .error .Decrypt
            | some plaintext =>
              match from_utf8 plaintext with
              | none => .error .Utf8
              | some secret => .ok secret
  | _ => .error .InvalidEnvelope

end Envelope

theorem from_utf8_as_bytes (text : String) : from_utf8 (as_bytes text) = some text := by
  have hbytes : (⟨(as_bytes text).toArray⟩ : ByteArray) = text.toByteArray := by
    rw [as_bytes, Array.toArray_toList]
    rfl
  rw [from_utf8, hbytes, String.fromUTF8?, dif_pos text.isValidUTF8]
  rfl

/-- The parts of an envelope come apart where they were put together, whatever has been
encrypted. -/
theorem split_envelope {nonce ciphertext : String} (hnonce : ':' ∉ nonce.toList)
    (hciphertext : ':' ∉ ciphertext.toList) :
    str.split (ENVELOPE_PREFIX ++ ":" ++ nonce ++ ":" ++ ciphertext) ':' =
      ["rzsec", "v1", nonce, ciphertext] := by
  have hparts : (ENVELOPE_PREFIX ++ ":" ++ nonce ++ ":" ++ ciphertext).toList =
      [':'].intercalate ["rzsec".toList, "v1".toList, nonce.toList, ciphertext.toList] := by
    simp [ENVELOPE_PREFIX, List.intercalate]
  rw [str.split, hparts, List.splitOn_intercalate]
  · simp
  · intro part hpart
    simp only [List.mem_cons, List.not_mem_nil, or_false] at hpart
    rcases hpart with rfl | rfl | rfl | rfl
    · decide
    · decide
    · exact hnonce
    · exact hciphertext
  · exact List.cons_ne_nil _ _

/-- Every envelope that was written is read back. -/
theorem decrypt_encrypt_secret {crates : Crates} (hcrates : crates.Sound) {key : SecretMasterKey}
    {nonce : Option Nonce} {plaintext envelope : String}
    (hencrypted : encrypt_secret crates key nonce plaintext = .ok envelope) :
    decrypt_secret crates key envelope = .ok plaintext := by
  unfold encrypt_secret at hencrypted
  cases nonce with
  | none => cases hencrypted
  | some nonce =>
    dsimp only at hencrypted
    cases hciphertext : crates.encrypt key nonce.bytes (as_bytes plaintext) with
    | none =>
      rw [hciphertext] at hencrypted
      cases hencrypted
    | some ciphertext =>
      rw [hciphertext] at hencrypted
      cases hencrypted
      have hscheme : ¬ ("rzsec" ≠ "rzsec" ∨ "v1" ≠ "v1") := not_or.mpr ⟨not_not.mpr rfl, not_not.mpr rfl⟩
      rw [decrypt_secret, split_envelope (hcrates.no_colon _) (hcrates.no_colon _)]
      dsimp only
      rw [if_neg hscheme, hcrates.decode_encode]
      dsimp only
      rw [if_neg (not_not.mpr nonce.length), hcrates.decode_encode]
      dsimp only
      rw [hcrates.decrypt_encrypt _ _ _ _ hciphertext]
      dsimp only
      rw [from_utf8_as_bytes]

end rustzap.secrets
