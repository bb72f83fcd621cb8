import Mathlib.Algebra.Group.Int.Defs
import Mathlib.Algebra.Group.Nat.Defs
import Mathlib.Data.List.Basic
import Mathlib.Data.List.Induction

/-! Octet strings as text and as numbers: unpadded base64url as Go's encoding/base64 reads it, and
the big-endian value, of any length or in a word that keeps 64 bits. -/
namespace Octets

section Base64

/-- The six bits a character of base64url stands for. -/
def sextet (c : Char) : Option Nat :=
  if 'A' ≤ c ∧ c ≤ 'Z' then some (c.toNat - 65)
  else if 'a' ≤ c ∧ c ≤ 'z' then some (c.toNat - 71)
  else if '0' ≤ c ∧ c ≤ '9' then some (c.toNat + 4)
  else if c = '-' then some 62
  else if c = '_' then some 63
  else none

/-- The octets of a quantum; the bits left over at its end are not looked at. -/
def octets : List Nat → List UInt8
  | [a, b] => [.ofNat (a * 4 + b / 16)]
  | [a, b, c] => [.ofNat (a * 4 + b / 16), .ofNat (b % 16 * 16 + c / 4)]
  | [a, b, c, d] =>
    [.ofNat (a * 4 + b / 16), .ofNat (b % 16 * 16 + c / 4), .ofNat (c % 4 * 64 + d)]
  | _ => []

/-- From a position in the text, with the sextets of the quantum begun. Line ends are skipped; an
error is the position of the corrupt input. -/
def decodeFrom (position : Nat) (quantum : List Nat) : List Char → Except Nat (List UInt8)
  | [] => if quantum.length = 1 then .error (position - 1) else .ok (octets quantum)
  | c :: rest => match sextet c with
    | some v =>
      if quantum.length = 3 then
        (decodeFrom (position + 1) [] rest).map fun bytes => octets (quantum ++ [v]) ++ bytes
      else decodeFrom (position + 1) (quantum ++ [v]) rest
    | none =>
      if c = '\n' ∨ c = '\r' then decodeFrom (position + 1) quantum rest else .error position

/-- base64.RawURLEncoding.DecodeString -/
def decodeString (s : String) : Except String (List UInt8) :=
  match decodeFrom 0 [] s.toList with
  | .ok bytes => .ok bytes
  | .error position => .error ("illegal base64 data at input byte " ++ toString position)

end Base64

section Numbers

/-- The number that octets stand for, the most significant first. -/
def bigEndian (bytes : List UInt8) : Nat := bytes.foldl (fun n b => n * 256 + b.toNat) 0

/-- The octets shifted into a signed word of 64 bits. -/
def shiftIn (bytes : List UInt8) : Int64 :=
  bytes.foldl (fun e b => (e <<< 8) ||| b.toUInt64.toInt64) 0

theorem bigEndian_append (bytes : List UInt8) (b : UInt8) :
    bigEndian (bytes ++ [b]) = bigEndian bytes * 256 + b.toNat := by
  rw [bigEndian, List.foldl_append]
  rfl

theorem shiftIn_append (bytes : List UInt8) (b : UInt8) :
    shiftIn (bytes ++ [b]) = (shiftIn bytes <<< 8) ||| b.toUInt64.toInt64 := by
  rw [shiftIn, List.foldl_append]
  rfl

/-- The octet goes where the shift has left zeros. -/
theorem shift_or (x : BitVec 64) (b : BitVec 8) :
    (x <<< 8) ||| b.setWidth 64 = x * 256#64 + b.setWidth 64 := by
  have apart : (x <<< 8) &&& b.setWidth 64 = 0#64 := by
    ext i hi
    simp only [BitVec.getElem_and, BitVec.getElem_shiftLeft, BitVec.getElem_setWidth,
      BitVec.getElem_zero]
    by_cases low : i < 8
    · simp [low]
    · simp [BitVec.getLsbD_of_ge b i (by omega)]
  rw [← BitVec.add_eq_or_of_and_eq_zero _ _ apart, BitVec.shiftLeft_eq_mul_twoPow]
  rfl

theorem shiftIn_toBitVec (bytes : List UInt8) :
    (shiftIn bytes).toBitVec = BitVec.ofNat 64 (bigEndian bytes) := by
  induction bytes using List.reverseRecOn with
  | nil => rfl
  | append_singleton bytes b ih =>
    rw [shiftIn_append, bigEndian_append]
    have shifted : (shiftIn bytes <<< 8 ||| b.toUInt64.toInt64).toBitVec =
        ((shiftIn bytes).toBitVec <<< 8) ||| b.toBitVec.setWidth 64 := by
      rfl
    rw [shifted, shift_or, ih]
    apply BitVec.eq_of_toNat_eq
    have small : b.toNat < 2 ^ 64 := by
      have := b.toNat_lt
      omega
    simp only [BitVec.toNat_add, BitVec.toNat_mul, BitVec.toNat_ofNat, BitVec.toNat_setWidth,
      UInt8.toNat_toBitVec]
    omega

/-- However many octets there are, the word is their number wrapped around. -/
theorem shiftIn_toInt (bytes : List UInt8) :
    (shiftIn bytes).toInt = (bigEndian bytes : Int).bmod (2 ^ 64) := by
  rw [← Int64.toInt_toBitVec, shiftIn_toBitVec, BitVec.toInt_ofNat']

end Numbers

end Octets
