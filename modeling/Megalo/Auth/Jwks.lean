import Megalo.Domain
import Megalo.Library.Octets
import Mathlib.Data.List.AList

/-! The certificates of Cloudflare Access: what cloudflare_access_auth.go makes of a JWKS
document, and the RSA key of one entry. -/
namespace Megalo.Auth

open Octets

/-- rsa.PublicKey -/
structure PublicKey where
  n : Nat
  e : Int64
  deriving DecidableEq

/-- cloudflareAccessJWK -/
structure JWK where
  kty : String
  kid : String
  n : String
  e : String
  deriving DecidableEq

abbrev Keys := AList fun _ : String => PublicKey

/-- strings.EqualFold(kty, "RSA"); the long s folds to s. -/
def isRSA (kty : String) : Bool :=
  match kty.toList with
  | [r, s, a] => ['R', 'r'].contains r && ['S', 's', 'ſ'].contains s && ['A', 'a'].contains a
  | _ => false

def parseCloudflareRSAPublicKey (jwk : JWK) : Except String PublicKey :=
  match decodeString jwk.n with
  | .error err => .error ("decode n: " ++ err)
  | .ok nBytes => match decodeString jwk.e with
    | .error err => .error ("decode e: " ++ err)
    | .ok eBytes =>
      if nBytes.length = 0 ∨ eBytes.length = 0 then .error "empty modulus or exponent"
      else if shiftIn eBytes ≤ 0 then .error "invalid exponent"
      else .ok ⟨bigEndian nBytes, shiftIn eBytes⟩

/-- What the HTTP client comes back with; a body is a document or the error of its decoding. -/
inductive Answer
  | failed (err : String)
  | answered (statusCode : Nat) (body : Except String (List JWK))

/-- One turn of the loop over the document. -/
def addKey (keys : Keys) (jwk : JWK) : Except String Keys :=
  if !isRSA jwk.kty then .ok keys
  else if isBlank jwk.kid then .ok keys
  else match parseCloudflareRSAPublicKey jwk with
    | .error err => .error ("parse jwk kid=" ++ jwk.kid ++ ": " ++ err)
    | .ok publicKey => .ok (keys.insert jwk.kid publicKey)

def fetchSigningKeys : Answer → Except String Keys
  | .failed err => .error err
  | .answered statusCode body =>
    if statusCode ≠ 200 then .error ("unexpected status code " ++ toString statusCode)
    else match body with
      | .error err => .error err
      | .ok jwks => match jwks.foldlM addKey ∅ with
        | .error err => .error err
        | .ok keys =>
          if keys.keys.length = 0 then .error "no RSA keys found in cloudflare certs response"
          else .ok keys

section Parse

variable {jwk : JWK} {nBytes eBytes : List UInt8}

/-- The key of the entry is its two numbers, and there is one for every exponent of an int. -/
def ParsesExactly (jwk : JWK) (nBytes eBytes : List UInt8) : Prop :=
  (∀ key, parseCloudflareRSAPublicKey jwk = .ok key →
    key.n = bigEndian nBytes ∧ key.e.toInt = bigEndian eBytes ∧ 0 < key.e) ∧
  (nBytes ≠ [] → eBytes ≠ [] → 1 ≤ bigEndian eBytes → bigEndian eBytes ≤ 2 ^ 63 - 1 →
    ∃ key, parseCloudflareRSAPublicKey jwk = .ok key)

theorem shiftIn_small (fits : bigEndian eBytes < 2 ^ 63) :
    (shiftIn eBytes).toInt = bigEndian eBytes := by
  rw [shiftIn_toInt, Int.bmod_eq_of_le] <;> omega

theorem shiftIn_positive : 0 < shiftIn eBytes ↔
    bigEndian eBytes % 2 ^ 64 ≠ 0 ∧ bigEndian eBytes % 2 ^ 64 < 2 ^ 63 := by
  rw [Int64.lt_iff_toInt_lt, Int64.toInt_zero, shiftIn_toInt, Int.bmod]
  split <;> omega

/-- With both texts decoded a key comes out exactly where both are non-empty and the word is
positive. -/
theorem parse_iff (nDecoded : decodeString jwk.n = .ok nBytes)
    (eDecoded : decodeString jwk.e = .ok eBytes) (key : PublicKey) :
    parseCloudflareRSAPublicKey jwk = .ok key ↔
      (nBytes ≠ [] ∧ eBytes ≠ [] ∧ 0 < shiftIn eBytes) ∧
        key = ⟨bigEndian nBytes, shiftIn eBytes⟩ := by
  unfold parseCloudflareRSAPublicKey
  simp only [nDecoded, eDecoded, List.length_eq_zero_iff]
  split
  · rename_i empty
    refine iff_of_false nofun fun holds => ?_
    rcases empty with empty | empty
    · exact holds.1.1 empty
    · exact holds.1.2.1 empty
  · rename_i filled
    obtain ⟨nFilled, eFilled⟩ := not_or.mp filled
    split
    · rename_i low
      exact iff_of_false nofun fun holds => Int64.not_lt.mpr low holds.1.2.2
    · rename_i positive
      simp only [Except.ok.injEq, nFilled, eFilled, Int64.not_le.mp positive, ne_eq,
        not_false_eq_true, true_and, eq_comm]

/-- The key is exact where the exponent is an int, and where the modulus is empty or the wrapped
exponent is not positive, so that there is none. -/
theorem parses_exactly (nDecoded : decodeString jwk.n = .ok nBytes)
    (eDecoded : decodeString jwk.e = .ok eBytes) : ParsesExactly jwk nBytes eBytes ↔
      bigEndian eBytes < 2 ^ 63 ∨ nBytes = [] ∨ bigEndian eBytes % 2 ^ 64 = 0 ∨
        2 ^ 63 ≤ bigEndian eBytes % 2 ^ 64 := by
  constructor
  · intro precise
    by_contra wraps
    simp only [not_or, not_lt, not_le] at wraps
    obtain ⟨large, filled, nonzero, low⟩ := wraps
    have eFilled : eBytes ≠ [] := by
      rintro rfl
      exact absurd large (by decide)
    have parsed := (parse_iff nDecoded eDecoded _).mpr
      ⟨⟨filled, eFilled, shiftIn_positive.mpr ⟨nonzero, low⟩⟩, rfl⟩
    have value := (precise.1 _ parsed).2.1
    have top := (shiftIn eBytes).toInt_lt
    dsimp only at value
    omega
  · intro fits
    constructor
    · intro key parsed
      obtain ⟨⟨filled, eFilled, positive⟩, rfl⟩ := (parse_iff nDecoded eDecoded key).mp parsed
      obtain ⟨nonzero, low⟩ := shiftIn_positive.mp positive
      have small : bigEndian eBytes < 2 ^ 63 := by
        rcases fits with small | empty | zero | high
        · exact small
        · exact absurd empty filled
        · exact absurd zero nonzero
        · omega
      exact ⟨rfl, shiftIn_small small, positive⟩
    · intro filled eFilled least most
      have positive : 0 < shiftIn eBytes := shiftIn_positive.mpr (by omega)
      exact ⟨_, (parse_iff nDecoded eDecoded _).mpr ⟨⟨filled, eFilled, positive⟩, rfl⟩⟩

/-- The exponent 65537 with zeros before it. -/
def paddedKey : JWK := ⟨"RSA", "k1", "0Q", "AAAAAAAAAAABAAE"⟩

/-- The exponent 2^64 + 3. -/
def wrappingKey : JWK := ⟨"RSA", "k1", "0Q", "AQAAAAAAAAAD"⟩

theorem parses_exactly_padded : ParsesExactly paddedKey [209] [0, 0, 0, 0, 0, 0, 0, 0, 1, 0, 1] ↔
    bigEndian [0, 0, 0, 0, 0, 0, 0, 0, 1, 0, 1] < 2 ^ 63 ∨ [209] = ([] : List UInt8) ∨
      bigEndian [0, 0, 0, 0, 0, 0, 0, 0, 1, 0, 1] % 2 ^ 64 = 0 ∨
        2 ^ 63 ≤ bigEndian [0, 0, 0, 0, 0, 0, 0, 0, 1, 0, 1] % 2 ^ 64 :=
  parses_exactly (by decide +kernel) (by decide +kernel)

/-- The exponent of the key is 3. -/
theorem exponent_wraps : decodeString wrappingKey.n = .ok [209] ∧
    decodeString wrappingKey.e = .ok [1, 0, 0, 0, 0, 0, 0, 0, 3] ∧
    ¬ ParsesExactly wrappingKey [209] [1, 0, 0, 0, 0, 0, 0, 0, 3] := by
  refine ⟨by decide +kernel, by decide +kernel, fun precise => ?_⟩
  have parsed : parseCloudflareRSAPublicKey wrappingKey = .ok ⟨209, 3⟩ := by decide +kernel
  exact absurd (precise.1 _ parsed).2.1 (by decide +kernel)

end Parse

end Megalo.Auth
