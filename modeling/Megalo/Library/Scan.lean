import Mathlib.Algebra.Group.Int.Defs
import Mathlib.Algebra.Group.Nat.Defs
import Mathlib.Data.List.TakeWhile

/-! How Go's fmt.Sscan reads an int64 from a text: the token that the scanner collects, and what
strconv.ParseInt makes of it in base 0, where a prefix chooses the base. -/
namespace Scan

section Digits

def digit (c : Char) : Option Nat :=
  if '0' ≤ c ∧ c ≤ '9' then some (c.toNat - 48)
  else if 'a' ≤ c ∧ c ≤ 'z' then some (c.toNat - 87)
  else if 'A' ≤ c ∧ c ≤ 'Z' then some (c.toNat - 55)
  else none

def isDigit (base : Nat) (c : Char) : Bool := (digit c).any fun d => decide (d < base)

def accumulate (base n : Nat) (cs : List Char) : Nat :=
  cs.foldl (fun n c => n * base + (digit c).getD 0) n

/-- The number that digits stand for. -/
def value (base : Nat) (cs : List Char) : Nat := accumulate base 0 cs

end Digits

section Sscan

variable (space : Char → Bool)

/-- The sign, and the rest. -/
def splitSign : List Char → List Char × List Char
  | '+' :: rest => (['+'], rest)
  | '-' :: rest => (['-'], rest)
  | cs => ([], cs)

/-- Digits, and underscores among them. -/
def numeral (base : Nat) (cs : List Char) : List Char :=
  cs.takeWhile fun c => isDigit base c || c == '_'

/-- What follows a first zero: a letter and the digits of its base, or octal digits. -/
def afterZero : List Char → List Char
  | [] => []
  | c :: rest =>
    if c = 'b' ∨ c = 'B' then c :: numeral 2 rest
    else if c = 'o' ∨ c = 'O' then c :: numeral 8 rest
    else if c = 'x' ∨ c = 'X' then c :: numeral 16 rest
    else numeral 8 (c :: rest)

/-- What is collected after the sign; there is nothing where no digit follows. -/
def collect : List Char → Option (List Char)
  | '0' :: rest => some ('0' :: afterZero rest)
  | cs => if numeral 10 cs = [] then none else some (numeral 10 cs)

/-- The token of scanInt. -/
def token (cs : List Char) : Option (List Char) :=
  let (sign, cs) := splitSign (cs.dropWhile space)
  (collect cs).map fun digits => sign ++ digits

/-- The base that a prefix chooses, whether a letter chose it, and what follows. -/
def basePrefix : List Char → Nat × Bool × List Char
  | '0' :: p :: c :: rest =>
    if p = 'b' ∨ p = 'B' then (2, true, c :: rest)
    else if p = 'o' ∨ p = 'O' then (8, true, c :: rest)
    else if p = 'x' ∨ p = 'X' then (16, true, c :: rest)
    else (8, false, p :: c :: rest)
  | '0' :: rest => (8, false, rest)
  | cs => (10, false, cs)

def parseDigits (base : Nat) (cs : List Char) : Option Nat :=
  cs.foldlM (fun n c =>
    if c = '_' then some n
    else if isDigit base c then some (n * base + (digit c).getD 0)
    else none) 0

/-- An underscore stands between two digits, or between the letter and a digit. -/
def underscoreOK (digitBefore : Bool) : List Char → Bool
  | [] => true
  | ['_'] => false
  | '_' :: c :: rest => digitBefore && c != '_' && underscoreOK true rest
  | _ :: rest => underscoreOK true rest

/-- strconv.ParseInt(token, 0, 64) -/
def parseInt (token : List Char) : Option Int :=
  let (sign, cs) := splitSign token
  if cs = [] then none
  else
    let (base, letter, digits) := basePrefix cs
    (parseDigits base digits).bind fun n =>
      if !underscoreOK letter (if letter then digits else cs) then none
      else if sign = ['-'] then if n ≤ 2 ^ 63 then some (-n) else none
      else if n < 2 ^ 63 then some n else none

/-- fmt.Sscan of one int64; what follows the token is left alone. -/
def sscan (text : String) : Option Int := (token space text.toList).bind parseInt

end Sscan

section Decimal

/-- An optional sign and decimal digits. -/
structure Decimal where
  sign : List Char
  digits : List Char
  signed : sign ∈ [[], ['+'], ['-']]
  filled : digits ≠ []
  decimal : ∀ c ∈ digits, isDigit 10 c = true

namespace Decimal

variable (d : Decimal)

def text : String := .ofList (d.sign ++ d.digits)

/-- The integer with these digits. -/
def withSign (n : Nat) : Int := if d.sign = ['-'] then -n else n

def number : Int := d.withSign (value 10 d.digits)

/-- There are digits after a zero. -/
def leadingZero : Bool :=
  match d.digits with
  | '0' :: _ :: _ => true
  | _ => false

/-- The number that Sscan reads: after a zero, the octal digits up to the first 8 or 9. -/
def scanned : Int := d.withSign (
  match d.digits with
  | '0' :: rest => value 8 (rest.takeWhile (isDigit 8))
  | cs => value 10 cs)

end Decimal

variable {base : Nat} {c : Char} {cs : List Char}

theorem digit_octal (octal : isDigit 8 c = true) : isDigit 10 c = true := by
  unfold isDigit at octal ⊢
  cases own : digit c with
  | none => simp [own] at octal
  | some k =>
    simp only [own, Option.any_some, decide_eq_true_eq] at octal ⊢
    omega

/-- The digits below 10 are ten characters. -/
theorem between_of_decimal (decimal : isDigit 10 c = true) : 48 ≤ c.toNat ∧ c.toNat ≤ 57 := by
  unfold isDigit digit at decimal
  split at decimal
  · rename_i inside
    exact inside
  · split at decimal
    · rename_i letter
      have low : 97 ≤ c.toNat := letter.1
      simp only [Option.any_some, decide_eq_true_eq] at decimal
      omega
    · split at decimal
      · rename_i letter
        have low : 65 ≤ c.toNat := letter.1
        simp only [Option.any_some, decide_eq_true_eq] at decimal
        omega
      · cases decimal

theorem decimal_ne (decimal : isDigit 10 c = true) {e : Char}
    (other : e.toNat < 48 ∨ 57 < e.toNat) : c ≠ e := by
  rintro rfl
  have := between_of_decimal decimal
  omega

theorem numeral_eq (decimal : ∀ c ∈ cs, isDigit 10 c = true) (base : Nat) :
    numeral base cs = cs.takeWhile (isDigit base) := by
  unfold numeral
  induction cs with
  | nil => rfl
  | cons c cs ih =>
    obtain ⟨first, rest⟩ := List.forall_mem_cons.mp decimal
    have plain : (c == '_') = false := beq_eq_false_iff_ne.mpr (decimal_ne first (by decide))
    rw [List.takeWhile_cons, List.takeWhile_cons, plain, Bool.or_false, ih rest]

theorem numeral_ten (decimal : ∀ c ∈ cs, isDigit 10 c = true) : numeral 10 cs = cs := by
  rw [numeral_eq decimal]
  exact List.takeWhile_eq_self_iff.mpr decimal

theorem afterZero_eq (decimal : ∀ c ∈ cs, isDigit 10 c = true) :
    afterZero cs = cs.takeWhile (isDigit 8) := by
  cases cs with
  | nil => rfl
  | cons c cs =>
    have first := decimal c List.mem_cons_self
    have other : ∀ e : Char, 57 < e.toNat → c ≠ e := fun e above => decimal_ne first (.inr above)
    rw [afterZero, if_neg (by simp [other]), if_neg (by simp [other]), if_neg (by simp [other])]
    exact numeral_eq decimal 8

theorem collect_plain (first : c ≠ '0') (decimal : ∀ e ∈ c :: cs, isDigit 10 e = true) :
    collect (c :: cs) = some (c :: cs) := by
  have whole : numeral 10 (c :: cs) = c :: cs := numeral_ten decimal
  unfold collect
  split
  · rename_i zero
    exact absurd (List.cons.inj zero).1 first
  · rw [whole, if_neg (List.cons_ne_nil c cs)]

theorem basePrefix_zero (decimal : ∀ c ∈ cs, isDigit 10 c = true) :
    basePrefix ('0' :: cs) = (8, false, cs) := by
  match cs, decimal with
  | [], _ => rfl
  | [c], _ => rfl
  | c :: d :: cs, decimal =>
    have first := decimal c List.mem_cons_self
    have other : ∀ e : Char, 57 < e.toNat → c ≠ e := fun e above => decimal_ne first (.inr above)
    rw [basePrefix, if_neg (by simp [other]), if_neg (by simp [other]), if_neg (by simp [other])]

theorem basePrefix_plain (first : c ≠ '0') : basePrefix (c :: cs) = (10, false, c :: cs) := by
  unfold basePrefix
  split <;> simp_all

theorem parseDigits_eq (digits : ∀ c ∈ cs, isDigit base c = true)
    (decimal : ∀ c ∈ cs, isDigit 10 c = true) : parseDigits base cs = some (value base cs) := by
  have each (n : Nat) : cs.foldlM (fun n c =>
      if c = '_' then some n
      else if isDigit base c then some (n * base + (digit c).getD 0)
      else none) n = some (accumulate base n cs) := by
    induction cs generalizing n with
    | nil => rfl
    | cons c cs ih =>
      obtain ⟨first, rest⟩ := List.forall_mem_cons.mp digits
      obtain ⟨plain, plainRest⟩ := List.forall_mem_cons.mp decimal
      have other : c ≠ '_' := decimal_ne plain (by decide)
      rw [List.foldlM_cons, if_neg other, if_pos first]
      exact ih rest plainRest _
  exact each 0

theorem underscoreOK_plain (decimal : ∀ c ∈ cs, isDigit 10 c = true) (before : Bool) :
    underscoreOK before cs = true := by
  induction cs generalizing before with
  | nil => rfl
  | cons c cs ih =>
    obtain ⟨first, rest⟩ := List.forall_mem_cons.mp decimal
    have other : c ≠ '_' := decimal_ne first (by decide)
    unfold underscoreOK
    split
    · rfl
    · simp_all
    · simp_all
    · rename_i split
      cases split
      exact ih rest true

theorem splitSign_append {sign : List Char} (signed : sign ∈ [[], ['+'], ['-']])
    (filled : cs ≠ []) (decimal : ∀ c ∈ cs, isDigit 10 c = true) :
    splitSign (sign ++ cs) = (sign, cs) := by
  simp only [List.mem_cons, List.not_mem_nil, or_false] at signed
  rcases signed with rfl | rfl | rfl
  · cases cs with
    | nil => exact absurd rfl filled
    | cons c cs =>
      have first := decimal c List.mem_cons_self
      have plus : c ≠ '+' := decimal_ne first (by decide)
      have minus : c ≠ '-' := decimal_ne first (by decide)
      unfold splitSign
      split <;> simp_all
  · rfl
  · rfl

theorem isDigit_iff (decimal : isDigit 10 c = true) :
    isDigit 8 c = true ↔ (digit c).getD 0 < 8 := by
  unfold isDigit at decimal ⊢
  cases own : digit c with
  | none => simp [own] at decimal
  | some k => simp

theorem accumulate_ge (n : Nat) (cs : List Char) : n ≤ accumulate 10 n cs := by
  induction cs generalizing n with
  | nil => exact Nat.le_refl n
  | cons c cs ih =>
    have next : n * 10 + (digit c).getD 0 ≤ accumulate 10 n (c :: cs) := ih _
    omega

/-- The octal reading does not catch up. -/
theorem accumulate_ahead (decimal : ∀ c ∈ cs, isDigit 10 c = true) {m n : Nat} (le : m ≤ n) :
    accumulate 8 m (cs.takeWhile (isDigit 8)) + (n - m) ≤ accumulate 10 n cs := by
  induction cs generalizing m n with
  | nil => exact Nat.le_of_eq (Nat.add_sub_cancel' le)
  | cons c cs ih =>
    by_cases octal : isDigit 8 c = true
    · rw [List.takeWhile_cons_of_pos octal]
      have next : m * 8 + (digit c).getD 0 ≤ n * 10 + (digit c).getD 0 := by omega
      have rest : accumulate 8 (m * 8 + (digit c).getD 0) (cs.takeWhile (isDigit 8)) +
          (n * 10 + (digit c).getD 0 - (m * 8 + (digit c).getD 0)) ≤
            accumulate 10 (n * 10 + (digit c).getD 0) cs :=
        ih (List.forall_mem_cons.mp decimal).2 next
      exact Nat.le_trans (Nat.add_le_add_left (by omega) _) rest
    · rw [List.takeWhile_cons_of_neg octal]
      have ahead := accumulate_ge n (c :: cs)
      change m + (n - m) ≤ _
      omega

theorem accumulate_eq_iff (decimal : ∀ c ∈ cs, isDigit 10 c = true) {n : Nat} (low : n < 8) :
    accumulate 8 n (cs.takeWhile (isDigit 8)) = accumulate 10 n cs ↔ accumulate 10 n cs < 8 := by
  induction cs generalizing n with
  | nil => exact iff_of_true rfl low
  | cons c cs ih =>
    obtain ⟨first, rest⟩ := List.forall_mem_cons.mp decimal
    have next : n * 10 + (digit c).getD 0 ≤ accumulate 10 n (c :: cs) := accumulate_ge _ cs
    by_cases octal : isDigit 8 c = true
    · have small := (isDigit_iff first).mp octal
      rw [List.takeWhile_cons_of_pos octal]
      by_cases zero : n = 0
      · subst zero
        have start : 0 * 8 + (digit c).getD 0 = 0 * 10 + (digit c).getD 0 := by omega
        change accumulate 8 (0 * 8 + (digit c).getD 0) _ = accumulate 10 (0 * 10 + _) cs ↔ _
        rw [start]
        exact ih rest (by omega)
      · have behind : accumulate 8 (n * 8 + (digit c).getD 0) (cs.takeWhile (isDigit 8)) +
            (n * 10 + (digit c).getD 0 - (n * 8 + (digit c).getD 0)) ≤
              accumulate 10 (n * 10 + (digit c).getD 0) cs := accumulate_ahead rest (by omega)
        refine iff_of_false (Nat.ne_of_lt (Nat.lt_of_lt_of_le ?_ behind)) (by omega)
        exact Nat.lt_add_of_pos_right (by omega)
    · have large := (isDigit_iff first).not.mp octal
      rw [List.takeWhile_cons_of_neg octal]
      refine iff_of_false (fun same => ?_) (by omega)
      change n = _ at same
      omega

theorem octal_eq_iff (decimal : ∀ c ∈ cs, isDigit 10 c = true) :
    value 8 (cs.takeWhile (isDigit 8)) = value 10 cs ↔ value 10 cs < 8 :=
  accumulate_eq_iff decimal (by decide)

theorem octal_le (decimal : ∀ c ∈ cs, isDigit 10 c = true) :
    value 8 (cs.takeWhile (isDigit 8)) ≤ value 10 cs :=
  accumulate_ahead decimal (Nat.le_refl 0)

theorem takeWhile_octal (cs : List Char) :
    ∀ c ∈ cs.takeWhile (isDigit 8), isDigit 8 c = true := fun _ => List.mem_takeWhile_imp

variable {d : Decimal}

theorem withSign_inj {m n : Nat} : d.withSign m = d.withSign n ↔ m = n := by
  unfold Decimal.withSign
  split <;> omega

theorem natAbs_withSign (n : Nat) : (d.withSign n).natAbs = n := by
  unfold Decimal.withSign
  split <;> omega

theorem value_zero (cs : List Char) : value 10 ('0' :: cs) = value 10 cs := rfl

/-- The digits are read as they are written, or for the octal that they begin with. -/
theorem scanned_cases (d : Decimal) :
    (∃ rest, d.digits = '0' :: rest ∧ (∀ c ∈ rest, isDigit 10 c = true) ∧
      d.scanned = d.withSign (value 8 (rest.takeWhile (isDigit 8)))) ∨
    (∃ c rest, d.digits = c :: rest ∧ c ≠ '0' ∧ d.scanned = d.number) := by
  unfold Decimal.scanned Decimal.number
  split
  · rename_i rest split
    have decimal : ∀ c ∈ rest, isDigit 10 c = true :=
      fun c inside => d.decimal c (split ▸ List.mem_cons_of_mem _ inside)
    exact .inl ⟨rest, split, decimal, rfl⟩
  · rename_i other
    obtain ⟨c, rest, split⟩ := List.exists_cons_of_ne_nil d.filled
    refine .inr ⟨c, rest, split, ?_, rfl⟩
    rintro rfl
    exact other rest split

theorem scanned_eq_iff (d : Decimal) :
    d.scanned = d.number ↔ d.leadingZero = false ∨ d.number.natAbs < 8 := by
  rcases scanned_cases d with ⟨rest, split, decimal, scanned⟩ | ⟨c, rest, split, other, same⟩
  · rw [scanned, Decimal.number, split, value_zero, withSign_inj, natAbs_withSign,
      octal_eq_iff decimal, Decimal.leadingZero, split]
    cases rest with
    | nil => exact iff_of_true (by decide) (.inl rfl)
    | cons c rest => simp
  · refine iff_of_true same (.inl ?_)
    rw [Decimal.leadingZero, split]
    split
    · rename_i zero
      exact absurd (List.cons.inj zero).1 other
    · rfl

theorem scanned_le (d : Decimal) : ∃ m ≤ value 10 d.digits, d.scanned = d.withSign m := by
  rcases scanned_cases d with ⟨rest, split, decimal, scanned⟩ | ⟨c, rest, split, other, same⟩
  · exact ⟨_, by rw [split, value_zero]; exact octal_le decimal, scanned⟩
  · exact ⟨_, Nat.le_refl _, same⟩

/-- What is left of the token for ParseInt, with the base it chooses. -/
theorem parseInt_eq (d : Decimal) {cs digits : List Char} {base : Nat} (filled : cs ≠ [])
    (decimal : ∀ c ∈ cs, isDigit 10 c = true) (chosen : basePrefix cs = (base, false, digits))
    (own : ∀ c ∈ digits, isDigit base c = true) (plain : ∀ c ∈ digits, isDigit 10 c = true) :
    parseInt (d.sign ++ cs) =
      if d.sign = ['-'] then
        if value base digits ≤ 2 ^ 63 then some (-value base digits : Int) else none
      else if value base digits < 2 ^ 63 then some (value base digits : Int) else none := by
  rw [parseInt, splitSign_append d.signed filled decimal]
  simp only [filled, if_false, chosen, parseDigits_eq own plain, Option.bind_some,
    Bool.false_eq_true, underscoreOK_plain decimal, Bool.not_true]

section Int64

variable (space : Char → Bool) (d : Decimal)
  (solid : ∀ c, isDigit 10 c = true ∨ c = '+' ∨ c = '-' → space c = false)
  (low : -(2 ^ 63) ≤ d.number) (high : d.number < 2 ^ 63)

include solid in
theorem dropWhile_text : (d.sign ++ d.digits).dropWhile space = d.sign ++ d.digits := by
  obtain ⟨c, rest, split⟩ := List.exists_cons_of_ne_nil d.filled
  have first := d.decimal c (split ▸ List.mem_cons_self)
  have signed := d.signed
  simp only [List.mem_cons, List.not_mem_nil, or_false] at signed
  rcases signed with sign | sign | sign
  · rw [sign, split]
    exact List.dropWhile_cons_of_neg (by simp [solid c (.inl first)])
  · rw [sign]
    exact List.dropWhile_cons_of_neg (by simp [solid '+' (.inr (.inl rfl))])
  · rw [sign]
    exact List.dropWhile_cons_of_neg (by simp [solid '-' (.inr (.inr rfl))])

include low high in
theorem within {m : Nat} (le : m ≤ value 10 d.digits) :
    (if d.sign = ['-'] then if m ≤ 2 ^ 63 then some (-m : Int) else none
      else if m < 2 ^ 63 then some (m : Int) else none) = some (d.withSign m) := by
  unfold Decimal.number Decimal.withSign at low high
  unfold Decimal.withSign
  split
  · rename_i minus
    rw [if_pos minus] at low
    rw [if_pos (by omega)]
  · rename_i plus
    rw [if_neg plus] at high
    rw [if_pos (by omega)]

include solid low high in
/-- Sscan of a decimal integer within int64. -/
theorem sscan_decimal : sscan space d.text = some d.scanned := by
  rw [sscan, Decimal.text, String.toList_ofList, token, dropWhile_text space d solid,
    splitSign_append d.signed d.filled d.decimal]
  rcases scanned_cases d with ⟨rest, split, decimal, scanned⟩ | ⟨c, rest, split, other, same⟩
  · have octal := takeWhile_octal rest
    have plain : ∀ c ∈ rest.takeWhile (isDigit 8), isDigit 10 c = true :=
      fun c inside => digit_octal (octal c inside)
    have zero : ∀ c ∈ '0' :: rest.takeWhile (isDigit 8), isDigit 10 c = true :=
      List.forall_mem_cons.mpr ⟨by decide, plain⟩
    have le : value 8 (rest.takeWhile (isDigit 8)) ≤ value 10 d.digits := by
      rw [split]
      exact octal_le decimal
    simp only [split, collect, Option.map_some, Option.bind_some]
    rw [afterZero_eq decimal, parseInt_eq d (List.cons_ne_nil _ _) zero (basePrefix_zero plain)
      octal plain, within d low high le, scanned]
  · have decimal := d.decimal
    have filled := d.filled
    have le : value 10 (c :: rest) ≤ value 10 d.digits := Nat.le_of_eq (by rw [split])
    rw [split] at decimal filled
    simp only [split, collect_plain other decimal, Option.map_some, Option.bind_some]
    rw [parseInt_eq d filled decimal (basePrefix_plain other) decimal decimal,
      within d low high le, same, Decimal.number, split]

end Int64

end Decimal

end Scan
