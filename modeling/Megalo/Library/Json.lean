import Megalo.Library.Scan

/-! JSON texts. A number and a string keep the characters they are written with, for a reader to
make something of; a text is cut into tokens, and a stack of what is open makes a value of them. -/
namespace Json

section Strings

/-- The characters that may follow a backslash, and what they stand for there. -/
def shorts : List (Char × Char) :=
  [('"', '"'), ('\\', '\\'), ('/', '/'), ('b', '\x08'), ('f', '\x0c'), ('n', '\n'), ('r', '\r'),
    ('t', '\t')]

/-- Where a reader is within a string: the digits of a code unit come after a backslash and a u. -/
inductive Within
  | plain
  | slash
  | unit (digits : List Char)
  deriving DecidableEq

/-- What stands between the quotes of a string: characters, and code units that are escaped. -/
def itemsFrom : Within → List Char → Option (List (Char ⊕ Nat))
  | .plain, [] => some []
  | .slash, [] | .unit _, [] => none
  | .plain, c :: s =>
    if c = '\\' then itemsFrom .slash s
    else if c = '"' ∨ c.toNat < 32 then none
    else (itemsFrom .plain s).map (.inl c :: ·)
  | .slash, c :: s =>
    if c = 'u' then itemsFrom (.unit []) s
    else (shorts.lookup c).bind fun meant => (itemsFrom .plain s).map (.inl meant :: ·)
  | .unit digits, c :: s =>
    if Scan.isDigit 16 c = false then none
    else if digits.length < 3 then itemsFrom (.unit (digits ++ [c])) s
    else (itemsFrom .plain s).map (.inr (Scan.value 16 (digits ++ [c])) :: ·)

def items (s : List Char) : Option (List (Char ⊕ Nat)) := itemsFrom .plain s

def Surrogate (unit : Nat) : Prop := 0xD800 ≤ unit ∧ unit < 0xE000

instance (unit : Nat) : Decidable (Surrogate unit) := inferInstanceAs (Decidable (_ ∧ _))

/-- A surrogate that is not one of a pair is replaced. -/
def single (unit : Nat) : Char := if Surrogate unit then '\uFFFD' else .ofNat unit

def join : List (Char ⊕ Nat) → List Char
  | [] => []
  | .inl c :: rest => c :: join rest
  | .inr unit :: .inr next :: rest =>
    if (0xD800 ≤ unit ∧ unit < 0xDC00) ∧ 0xDC00 ≤ next ∧ next < 0xE000 then
      .ofNat ((unit - 0xD800) * 1024 + (next - 0xDC00) + 0x10000) :: join rest
    else single unit :: join (.inr next :: rest)
  | .inr unit :: rest => single unit :: join rest

/-- What stands between the quotes of a string. -/
structure Quoted where
  chars : List Char
  valid : (items chars).isSome = true
  deriving DecidableEq

def Quoted.unquote (s : Quoted) : String := .ofList (join ((items s.chars).get s.valid))

/-- The digits of a code unit. -/
def unitDigits (n : Nat) : List Char :=
  [n / 4096 % 16, n / 256 % 16, n / 16 % 16, n % 16].map Nat.digitChar

/-- How a writer puts a character; some it escapes although it need not. -/
def escape (special : List Char) (c : Char) : List Char :=
  match (shorts.filter (·.1 ≠ '/')).find? (·.2 = c) with
  | some (e, _) => ['\\', e]
  | none =>
    if c.toNat < 32 ∨ c ∈ special then '\\' :: 'u' :: unitDigits c.toNat else [c]

/-- What an escaped character is read as. -/
def item (special : List Char) (c : Char) : Char ⊕ Nat :=
  if (shorts.filter (·.1 ≠ '/')).find? (·.2 = c) = none ∧ (c.toNat < 32 ∨ c ∈ special) then
    .inr c.toNat
  else .inl c

/-- Every special character is one code unit. -/
def Short (special : List Char) : Prop := ∀ c ∈ special, c.toNat < 65536

variable {special : List Char} {c : Char}

theorem not_surrogate (c : Char) : ¬ Surrogate c.toNat := by
  rintro ⟨low, high⟩
  rcases c.valid with below | ⟨above, _⟩
  · exact absurd low (Nat.not_le.mpr below)
  · have : c.toNat = c.val.toNat := rfl
    omega

theorem itemsFrom_unitDigits {n : Nat} (small : n < 65536) (rest : List Char) :
    itemsFrom (.unit []) (unitDigits n ++ rest) = (items rest).map (.inr n :: ·) := by
  have digit : ∀ k < 16, Scan.isDigit 16 (Nat.digitChar k) = true ∧
      Scan.digit (Nat.digitChar k) = some k := by decide
  have lower (k : Nat) : k % 16 < 16 := Nat.mod_lt k (by decide)
  have whole : ((n / 4096 % 16 * 16 + n / 256 % 16) * 16 + n / 16 % 16) * 16 + n % 16 = n := by
    omega
  simp [unitDigits, itemsFrom, (digit _ (lower _)).1, (digit _ (lower _)).2, Scan.value,
    Scan.accumulate, items, whole]

theorem items_escape (short : Short special) (c : Char) (rest : List Char) :
    items (escape special c ++ rest) = (items rest).map (item special c :: ·) := by
  unfold escape item
  cases found : (shorts.filter (·.1 ≠ '/')).find? (·.2 = c) with
  | some p =>
    have known : ∀ p ∈ shorts.filter (·.1 ≠ '/'), shorts.lookup p.1 = some p.2 ∧ p.1 ≠ 'u' := by
      decide
    obtain ⟨meant, other⟩ := known p (List.mem_of_find?_eq_some found)
    have same : p.2 = c := by simpa using List.find?_some found
    subst same
    simp [items, itemsFrom, other, meant]
  | none =>
    by_cases escaped : c.toNat < 32 ∨ c ∈ special
    · have small : c.toNat < 65536 := by
        rcases escaped with control | inside
        · omega
        · exact short c inside
      simp only [escaped, if_true, items, List.cons_append, itemsFrom, and_self]
      exact itemsFrom_unitDigits small rest
    · have plain : c ≠ '\\' ∧ c ≠ '"' := by
        constructor
        · rintro rfl
          cases found
        · rintro rfl
          cases found
      rw [not_or] at escaped
      simp [items, itemsFrom, plain, escaped]

theorem items_flatMap (short : Short special) (s : List Char) :
    items (s.flatMap (escape special)) = some (s.map (item special)) := by
  induction s with
  | nil => rfl
  | cons c s ih => rw [List.flatMap_cons, items_escape short, ih, Option.map_some, List.map_cons]

theorem join_unit {unit : Nat} (whole : ¬ Surrogate unit) (rest : List (Char ⊕ Nat)) :
    join (.inr unit :: rest) = .ofNat unit :: join rest := by
  have alone : single unit = .ofNat unit := if_neg whole
  cases rest with
  | nil => simp only [join, alone]
  | cons next rest =>
    cases next with
    | inl c => simp only [join, alone]
    | inr next =>
      have apart : ¬ ((0xD800 ≤ unit ∧ unit < 0xDC00) ∧ 0xDC00 ≤ next ∧ next < 0xE000) := by
        rintro ⟨⟨low, high⟩, _⟩
        exact whole ⟨low, by omega⟩
      rw [join, if_neg apart, alone]

theorem join_items (special s : List Char) : join (s.map (item special)) = s := by
  induction s with
  | nil => rfl
  | cons c s ih =>
    rw [List.map_cons, item]
    split
    · rw [join_unit (not_surrogate c), Char.ofNat_toNat, ih]
    · rw [join, ih]

def quote (special : List Char) (short : Short special) (s : String) : Quoted where
  chars := s.toList.flatMap (escape special)
  valid := by rw [items_flatMap short, Option.isSome_some]

/-- A string is read as the one that was written. -/
theorem unquote_quote (short : Short special) (s : String) :
    (quote special short s).unquote = s := by
  have read : (items (quote special short s).chars).get (quote special short s).valid =
      s.toList.map (item special) := by
    apply Option.some.inj
    rw [Option.some_get]
    exact items_flatMap short s.toList
  rw [Quoted.unquote, read, join_items, String.ofList_toList]

end Strings

section Numbers

def afterDigits : List Char → Option (List Char)
  | c :: s => if c.isDigit then some (s.dropWhile Char.isDigit) else none
  | [] => none

def afterWhole : List Char → Option (List Char)
  | '0' :: s => some s
  | s => afterDigits s

def afterFraction : List Char → Option (List Char)
  | '.' :: s => afterDigits s
  | s => some s

def afterExponent : List Char → Option (List Char)
  | c :: s =>
    if c = 'e' ∨ c = 'E' then afterDigits (if s.head? ∈ [some '+', some '-'] then s.tail else s)
    else some (c :: s)
  | [] => some []

def isNumber (s : List Char) : Bool :=
  let s := if s.head? = some '-' then s.tail else s
  ((afterWhole s).bind afterFraction).bind afterExponent = some []

structure Number where
  chars : List Char
  valid : isNumber chars = true
  deriving DecidableEq

/-- The digits of an integer, as every writer puts them. -/
def intChars (n : Int) : List Char :=
  if n < 0 then '-' :: Nat.toDigits 10 n.natAbs else Nat.toDigits 10 n.natAbs

/-- The integer of some digits, if they are nothing else. -/
def intOf (s : List Char) : Option Int :=
  let negative := s.head? = some '-'
  let digits := if negative then s.tail else s
  if digits.all Char.isDigit then
    some (if negative then -Nat.ofDigitChars 10 digits 0 else Nat.ofDigitChars 10 digits 0)
  else none

def Number.int (n : Number) : Option Int := intOf n.chars

theorem digit_of_mem {n : Nat} {c : Char} (inside : c ∈ Nat.toDigits 10 n) : c.isDigit = true :=
  Nat.isDigit_of_mem_toDigits (by decide) (by decide) inside

theorem toDigits_all (n : Nat) : (Nat.toDigits 10 n).all Char.isDigit = true :=
  List.all_eq_true.mpr fun _ => digit_of_mem

theorem toDigits_zero_head (n : Nat) (s : List Char) (begins : Nat.toDigits 10 n = '0' :: s) :
    s = [] := by
  induction n using Nat.base_induction 10 (by decide) generalizing s with
  | single m small =>
    rw [Nat.toDigits_of_lt_base small] at begins
    exact (List.cons.inj begins).2.symm
  | digit m k small positive ih =>
    rw [← Nat.toDigits_append_toDigits (by decide) positive small] at begins
    cases digits : Nat.toDigits 10 m with
    | nil => exact absurd digits Nat.toDigits_ne_nil
    | cons d rest =>
      rw [digits, List.cons_append, List.cons.injEq] at begins
      obtain ⟨rfl, rfl⟩ := begins
      have zero := Nat.ofDigitChars_ten_toDigits (n := m)
      rw [digits, ih rest digits] at zero
      exact absurd zero.symm (Nat.pos_iff_ne_zero.mp positive)

theorem afterWhole_digits (n : Nat) : afterWhole (Nat.toDigits 10 n) = some [] := by
  cases digits : Nat.toDigits 10 n with
  | nil => exact absurd digits Nat.toDigits_ne_nil
  | cons d rest =>
    have decimal := toDigits_all n
    rw [digits, List.all_cons, Bool.and_eq_true] at decimal
    by_cases zero : d = '0'
    · subst zero
      rw [toDigits_zero_head n rest digits]
      rfl
    · have dropped : rest.dropWhile Char.isDigit = [] :=
        List.dropWhile_eq_nil_iff.mpr (List.all_eq_true.mp decimal.2)
      simp [afterWhole, afterDigits, zero, decimal.1, dropped]

theorem head_toDigits (n : Nat) : (Nat.toDigits 10 n).head? ≠ some '-' := by
  intro dash
  have digit := digit_of_mem (List.mem_of_mem_head? (Option.mem_def.mpr dash))
  cases digit

theorem isNumber_intChars (n : Int) : isNumber (intChars n) = true := by
  unfold isNumber intChars
  split
  · simp [afterWhole_digits, afterFraction, afterExponent]
  · simp [head_toDigits, afterWhole_digits, afterFraction, afterExponent]

def Number.ofInt (n : Int) : Number := ⟨intChars n, isNumber_intChars n⟩

theorem int_ofInt (n : Int) : (Number.ofInt n).int = some n := by
  change intOf (intChars n) = some n
  unfold intOf intChars
  by_cases negative : n < 0
  · simp only [negative, if_true, List.head?_cons, List.tail_cons, toDigits_all,
      Nat.ofDigitChars_ten_toDigits, Option.some.injEq]
    omega
  · simp only [negative, if_false, head_toDigits, toDigits_all, if_true,
      Nat.ofDigitChars_ten_toDigits, Option.some.injEq]
    omega

end Numbers

/-- A value; the members of an object stand as they are written. -/
inductive Value
  | null
  | bool (b : Bool)
  | number (n : Number)
  | string (s : Quoted)
  | array (items : List Value)
  | object (members : List (Quoted × Value))

/-- What a text is cut into: its marks, its strings, and words with a value of their own. -/
inductive Token
  | mark (c : Char)
  | string (s : Quoted)
  | word (v : Value)

section Lexing

def word (s : List Char) : Option Value :=
  if s = ['n', 'u', 'l', 'l'] then some .null
  else if s = ['t', 'r', 'u', 'e'] then some (.bool true)
  else if s = ['f', 'a', 'l', 's', 'e'] then some (.bool false)
  else if valid : isNumber s = true then some (.number ⟨s, valid⟩)
  else none

def isWord (c : Char) : Bool := c.isAlphanum || ['+', '-', '.'].contains c

theorem breaks_of {s : List Char} (none : s.any isWord = false) :
    ∀ c ∈ s, isWord c = false := by
  intro c inside
  exact eq_false_of_ne_true (List.any_eq_false.mp none c inside)

inductive Lexing
  | idle
  | word (read : List Char)
  | text (read : List Char) (slash : Bool)

def marks : List Char := ['{', '}', '[', ']', ',', ':']

/-- A character that begins something. -/
def begin (c : Char) : Option (Lexing × List Token) :=
  if c ∈ [' ', '\t', '\n', '\r'] then some (.idle, [])
  else if c ∈ marks then some (.idle, [.mark c])
  else if c = '"' then some (.text [] false, [])
  else if isWord c then some (.word [c], [])
  else none

def lex : Lexing → Char → Option (Lexing × List Token)
  | .idle, c => begin c
  | .word read, c =>
    if isWord c then some (.word (read ++ [c]), [])
    else (word read).bind fun v => (begin c).map fun next => (next.1, .word v :: next.2)
  | .text read slash, c =>
    if c = '"' ∧ slash = false then
      if valid : (items read).isSome = true then some (.idle, [.string ⟨read, valid⟩]) else none
    else some (.text (read ++ [c]) (c = '\\' && !slash), [])

def tokensFrom : Lexing → List Char → Option (List Token)
  | .idle, [] => some []
  | .word read, [] => (word read).map fun v => [.word v]
  | .text _ _, [] => none
  | q, c :: s => (lex q c).bind fun next => (tokensFrom next.1 s).map (next.2 ++ ·)

def tokens (s : List Char) : Option (List Token) := tokensFrom .idle s

end Lexing

section Parsing

/-- What is open around a place in a text, with what it has so far, the latest first. -/
inductive Frame
  | array (items : List Value)
  | object (members : List (Quoted × Value)) (name : Quoted)

/-- What may come next: a value, the name of a member, its colon, or what follows a value. A fresh
array or object may close at once. -/
inductive Next
  | value (fresh : Bool)
  | name (members : List (Quoted × Value)) (fresh : Bool)
  | colon (members : List (Quoted × Value)) (name : Quoted)
  | after (v : Value)

def parseValue (limit : Nat) (stack : List Frame) (fresh : Bool) :
    Token → Option (Next × List Frame)
  | .word v => some (.after v, stack)
  | .string s => some (.after (.string s), stack)
  | .mark c =>
    if c = '[' ∧ stack.length < limit then some (.value true, .array [] :: stack)
    else if c = '{' ∧ stack.length < limit then some (.name [] true, stack)
    else match stack with
      | .array _ :: outer =>
        if c = ']' ∧ fresh = true then some (.after (.array []), outer) else none
      | _ => none

def parseAfter (v : Value) : List Frame → Token → Option (Next × List Frame)
  | .array items :: outer, .mark c =>
    if c = ',' then some (.value false, .array (v :: items) :: outer)
    else if c = ']' then some (.after (.array (v :: items).reverse), outer)
    else none
  | .object members name :: outer, .mark c =>
    if c = ',' then some (.name ((name, v) :: members) false, outer)
    else if c = '}' then some (.after (.object ((name, v) :: members).reverse), outer)
    else none
  | _, _ => none

def parseStep (limit : Nat) : Next → List Frame → Token → Option (Next × List Frame)
  | .value fresh, stack, t => parseValue limit stack fresh t
  | .name members fresh, stack, t => match t with
    | .string s => some (.colon members s, stack)
    | .mark c =>
      if c = '}' ∧ fresh = true then some (.after (.object members.reverse), stack) else none
    | .word _ => none
  | .colon members name, stack, t => match t with
    | .mark c => if c = ':' then some (.value false, .object members name :: stack) else none
    | _ => none
  | .after v, stack, t => parseAfter v stack t

def parseFrom (limit : Nat) : Next → List Frame → List Token → Option Value
  | .after v, [], [] => some v
  | _, _, [] => none
  | next, stack, t :: rest => (parseStep limit next stack t).bind fun r =>
      parseFrom limit r.1 r.2 rest

/-- The value of a text whose arrays and objects are open in one another up to a limit. -/
def parse (limit : Nat) (s : List Char) : Option Value :=
  (tokens s).bind (parseFrom limit (.value false) [])

end Parsing

mutual

def Value.tokens : Value → List Token
  | .null => [.word .null]
  | .bool b => [.word (.bool b)]
  | .number n => [.word (.number n)]
  | .string s => [.string s]
  | .array items => .mark '[' :: (itemTokens false items ++ [.mark ']'])
  | .object members => .mark '{' :: (memberTokens false members ++ [.mark '}'])

def itemTokens (comma : Bool) : List Value → List Token
  | [] => []
  | v :: rest => (if comma then [.mark ','] else []) ++ (v.tokens ++ itemTokens true rest)

def memberTokens (comma : Bool) : List (Quoted × Value) → List Token
  | [] => []
  | (name, v) :: rest =>
    (if comma then [.mark ','] else []) ++ .string name :: .mark ':' ::
      (v.tokens ++ memberTokens true rest)

end

mutual

/-- How deep arrays and objects are in one another. -/
def Value.depth : Value → Nat
  | .array items => itemDepth items + 1
  | .object members => memberDepth members + 1
  | _ => 0

def itemDepth : List Value → Nat
  | [] => 0
  | v :: rest => max v.depth (itemDepth rest)

def memberDepth : List (Quoted × Value) → Nat
  | [] => 0
  | (_, v) :: rest => max v.depth (memberDepth rest)

end

def Token.text : Token → List Char
  | .mark c => [c]
  | .string s => '"' :: (s.chars ++ ['"'])
  | .word .null => ['n', 'u', 'l', 'l']
  | .word (.bool b) => if b then ['t', 'r', 'u', 'e'] else ['f', 'a', 'l', 's', 'e']
  | .word (.number n) => n.chars
  | .word _ => []

/-- The text of a value, without any space. -/
def Value.text (v : Value) : List Char := v.tokens.flatMap Token.text

theorem Value.induct {P : Value → Prop} (null : P .null) (bool : ∀ b, P (.bool b))
    (number : ∀ n, P (.number n)) (string : ∀ s, P (.string s))
    (array : ∀ items, (∀ v ∈ items, P v) → P (.array items))
    (object : ∀ members, (∀ m ∈ members, P m.2) → P (.object members)) : ∀ v, P v
  | .null => null
  | .bool b => bool b
  | .number n => number n
  | .string s => string s
  | .array items => array items fun v _ => Value.induct null bool number string array object v
  | .object members => object members fun m _ =>
    Value.induct null bool number string array object m.2
termination_by v => v
decreasing_by
  · decreasing_tactic
  · rename_i inside
    have small := List.sizeOf_lt_of_mem inside
    obtain ⟨name, v⟩ := m
    simp only [Prod.mk.sizeOf_spec, Value.object.sizeOf_spec] at small ⊢
    omega

section Parsed

variable {limit : Nat} {stack : List Frame} {rest : List Token} {v : Value}

/-- The tokens of a value are parsed as the value, wherever one may stand. -/
def Value.Parses (limit : Nat) (v : Value) : Prop :=
  ∀ stack fresh rest, stack.length + v.depth ≤ limit →
    parseFrom limit (.value fresh) stack (v.tokens ++ rest) = parseFrom limit (.after v) stack rest

theorem parse_mark {next : Next} {r : Next × List Frame} {t : Token}
    (step : parseStep limit next stack t = some r) :
    parseFrom limit next stack (t :: rest) = parseFrom limit r.1 r.2 rest := by
  cases next <;> simp only [parseFrom, step, Option.bind_some]

theorem parse_items {items done : List Value} (each : ∀ v ∈ items, v.Parses limit)
    (room : stack.length + itemDepth items + 1 ≤ limit) :
    parseFrom limit (.after v) (.array done :: stack) (itemTokens true items ++ .mark ']' :: rest) =
      parseFrom limit (.after (.array (done.reverse ++ v :: items))) stack rest := by
  induction items generalizing v done with
  | nil =>
    have closes : parseStep limit (.after v) (.array done :: stack) (.mark ']') =
        some (.after (.array (v :: done).reverse), stack) := rfl
    rw [itemTokens, List.nil_append, parse_mark closes, List.reverse_cons]
  | cons w items ih =>
    simp only [itemDepth] at room
    have goes : parseStep limit (.after v) (.array done :: stack) (.mark ',') =
        some (.value false, .array (v :: done) :: stack) := rfl
    have whole := each w List.mem_cons_self (.array (v :: done) :: stack) false
      (itemTokens true items ++ .mark ']' :: rest) (by simp only [List.length_cons]; omega)
    simp only [itemTokens, if_true, List.cons_append, List.nil_append, List.append_assoc]
    rw [parse_mark goes, whole, ih (fun x inside => each x (List.mem_cons_of_mem w inside))
      (by omega), List.reverse_cons, List.append_assoc]
    rfl

theorem parse_members {members done : List (Quoted × Value)} {name : Quoted}
    (each : ∀ m ∈ members, m.2.Parses limit)
    (room : stack.length + memberDepth members + 1 ≤ limit) :
    parseFrom limit (.after v) (.object done name :: stack)
      (memberTokens true members ++ .mark '}' :: rest) =
      parseFrom limit (.after (.object (done.reverse ++ (name, v) :: members))) stack rest := by
  induction members generalizing v done name with
  | nil =>
    have closes : parseStep limit (.after v) (.object done name :: stack) (.mark '}') =
        some (.after (.object ((name, v) :: done).reverse), stack) := rfl
    rw [memberTokens, List.nil_append, parse_mark closes, List.reverse_cons]
  | cons m members ih =>
    obtain ⟨next, w⟩ := m
    simp only [memberDepth] at room
    have goes : parseStep limit (.after v) (.object done name :: stack) (.mark ',') =
        some (.name ((name, v) :: done) false, stack) := rfl
    have named : parseStep limit (.name ((name, v) :: done) false) stack (.string next) =
        some (.colon ((name, v) :: done) next, stack) := rfl
    have colon : parseStep limit (.colon ((name, v) :: done) next) stack (.mark ':') =
        some (.value false, .object ((name, v) :: done) next :: stack) := rfl
    have whole := each (next, w) List.mem_cons_self (.object ((name, v) :: done) next :: stack)
      false (memberTokens true members ++ .mark '}' :: rest)
      (by simp only [List.length_cons]; omega)
    simp only [memberTokens, if_true, List.cons_append, List.nil_append, List.append_assoc]
    rw [parse_mark goes, parse_mark named, parse_mark colon, whole,
      ih (fun x inside => each x (List.mem_cons_of_mem _ inside)) (by omega), List.reverse_cons,
      List.append_assoc]
    rfl

theorem Value.parses (limit : Nat) (v : Value) : v.Parses limit := by
  induction v using Value.induct with
  | null | bool b | number n | string s =>
    intro stack fresh rest _
    rw [Value.tokens, List.cons_append, List.nil_append]
    exact parse_mark (r := (_, stack)) rfl
  | array items ih =>
    intro stack fresh rest room
    simp only [Value.depth] at room
    have opens : parseStep limit (.value fresh) stack (.mark '[') =
        some (.value true, .array [] :: stack) := by
      have inside : stack.length < limit := by omega
      simp [parseStep, parseValue, inside]
    rw [Value.tokens, List.cons_append, parse_mark opens]
    cases items with
    | nil => exact parse_mark (r := (_, stack)) rfl
    | cons w items =>
      simp only [itemDepth] at room
      have first := ih w List.mem_cons_self (.array [] :: stack) true
        (itemTokens true items ++ .mark ']' :: rest) (by simp only [List.length_cons]; omega)
      simp only [itemTokens, Bool.false_eq_true, if_false, List.nil_append, List.append_assoc,
        List.cons_append]
      rw [first, parse_items (fun x inside => ih x (List.mem_cons_of_mem w inside)) (by omega)]
      rfl
  | object members ih =>
    intro stack fresh rest room
    simp only [Value.depth] at room
    have opens : parseStep limit (.value fresh) stack (.mark '{') =
        some (.name [] true, stack) := by
      have inside : stack.length < limit := by omega
      simp [parseStep, parseValue, inside]
    rw [Value.tokens, List.cons_append, parse_mark opens]
    cases members with
    | nil => exact parse_mark (r := (_, stack)) rfl
    | cons m members =>
      obtain ⟨name, w⟩ := m
      simp only [memberDepth] at room
      have named : parseStep limit (.name [] true) stack (.string name) =
          some (.colon [] name, stack) := rfl
      have colon : parseStep limit (.colon [] name) stack (.mark ':') =
          some (.value false, .object [] name :: stack) := rfl
      have first := ih (name, w) List.mem_cons_self (.object [] name :: stack) false
        (memberTokens true members ++ .mark '}' :: rest) (by simp only [List.length_cons]; omega)
      simp only [memberTokens, Bool.false_eq_true, if_false, List.nil_append, List.append_assoc,
        List.cons_append]
      rw [parse_mark named, parse_mark colon, first,
        parse_members (fun x inside => ih x (List.mem_cons_of_mem _ inside)) (by omega)]
      rfl

end Parsed

section Lexed

variable {s rest : List Char} {c : Char}

theorem map_map_append {α : Type*} (o : Option (List α)) (a b : List α) :
    (o.map (b ++ ·)).map (a ++ ·) = o.map ((a ++ b) ++ ·) := by
  cases o <;> simp

theorem lex_mark (inside : c ∈ marks) (s : List Char) :
    tokensFrom .idle (c :: s) = (tokensFrom .idle s).map ([.mark c] ++ ·) := by
  have apart : ∀ c ∈ marks, c ∉ [' ', '\t', '\n', '\r'] := by simp [marks]
  simp only [tokensFrom, lex, begin, if_neg (apart c inside), if_pos inside, Option.bind_some]

theorem lex_inner {read t : List Char} {slash slash' : Bool} (inner : c ≠ '"' ∨ slash = true)
    (next : (decide (c = '\\') && !slash) = slash') :
    tokensFrom (.text read slash) (c :: t) = tokensFrom (.text (read ++ [c]) slash') t := by
  have kept : ¬ (c = '"' ∧ slash = false) := by
    rintro ⟨quote, out⟩
    rcases inner with other | hidden
    · exact other quote
    · exact Bool.false_ne_true (out.symm.trans hidden)
  simp [tokensFrom, lex, kept, next]

/-- Within a string a backslash hides the character after it, which may be a quote. -/
theorem lex_within (w : Within) (read : List Char) (valid : (itemsFrom w s).isSome = true)
    (rest : List Char) : tokensFrom (.text read (w = .slash)) (s ++ rest) =
      tokensFrom (.text (read ++ s) false) rest := by
  induction s generalizing w read with
  | nil =>
    cases w with
    | plain => simp
    | slash => cases valid
    | unit digits => cases valid
  | cons c s ih =>
    have step (slash : Bool) (w' : Within) (inner : c ≠ '"' ∨ slash = true)
        (next : (decide (c = '\\') && !slash) = decide (w' = .slash))
        (later : (itemsFrom w' s).isSome = true) :
        tokensFrom (.text read slash) (c :: s ++ rest) =
          tokensFrom (.text (read ++ c :: s) false) rest := by
      rw [List.cons_append, lex_inner inner next, ih w' (read ++ [c]) later, List.append_assoc]
      rfl
    cases w with
    | plain =>
      simp only [itemsFrom] at valid
      split at valid
      · rename_i slash
        subst slash
        exact step false .slash (.inl (by decide)) rfl valid
      · rename_i other
        split at valid
        · cases valid
        · rename_i inner
          rw [Option.isSome_map] at valid
          exact step false .plain (.inl (not_or.mp inner).1) (by simp [other]) valid
    | slash =>
      simp only [itemsFrom] at valid
      split at valid
      · exact step true (.unit []) (.inr rfl) (by simp) valid
      · cases known : shorts.lookup c with
        | none => simp [known] at valid
        | some meant =>
          rw [known, Option.bind_some, Option.isSome_map] at valid
          exact step true .plain (.inr rfl) (by simp) valid
    | unit digits =>
      simp only [itemsFrom] at valid
      split at valid
      · cases valid
      · rename_i digit
        have quote : c ≠ '"' := by
          rintro rfl
          exact digit rfl
        have slash : c ≠ '\\' := by
          rintro rfl
          exact digit rfl
        split at valid
        · exact step false (.unit (digits ++ [c])) (.inl quote) (by simp [slash]) valid
        · rw [Option.isSome_map] at valid
          exact step false .plain (.inl quote) (by simp [slash]) valid

theorem lex_string (q : Quoted) (rest : List Char) :
    tokensFrom .idle (Token.text (.string q) ++ rest) =
      (tokensFrom .idle rest).map ([.string q] ++ ·) := by
  have opens : tokensFrom .idle ('"' :: (q.chars ++ '"' :: rest)) =
      tokensFrom (.text [] false) (q.chars ++ '"' :: rest) := by
    simp [tokensFrom, lex, begin, marks]
  have within := lex_within .plain [] q.valid ('"' :: rest)
  have closes : tokensFrom (.text q.chars false) ('"' :: rest) =
      (tokensFrom .idle rest).map ([.string q] ++ ·) := by
    simp [tokensFrom, lex, q.valid]
  rw [Token.text, List.cons_append, List.append_assoc, List.singleton_append, opens]
  exact within.trans closes

/-- No word goes on. -/
def Ends (rest : List Char) : Prop := ∀ c ∈ rest.head?, isWord c = false

theorem lex_word {v : Value} (meaning : word s = some v) (chars : ∀ c ∈ s, isWord c = true)
    (ends : Ends rest) : tokensFrom .idle (s ++ rest) =
      (tokensFrom .idle rest).map ([.word v] ++ ·) := by
  have closes : tokensFrom (.word s) rest = (tokensFrom .idle rest).map ([.word v] ++ ·) := by
    cases rest with
    | nil => simp [tokensFrom, meaning]
    | cons d rest =>
      have other : isWord d = false := ends d rfl
      simp only [tokensFrom, lex, other, Bool.false_eq_true, if_false, meaning, Option.bind_some]
      cases begin d with
      | none => rfl
      | some next =>
        simp only [Option.map_some, Option.bind_some, Option.map_map]
        rfl
  have goes (read t : List Char) (chars : ∀ c ∈ t, isWord c = true) :
      tokensFrom (.word read) (t ++ rest) = tokensFrom (.word (read ++ t)) rest := by
    induction t generalizing read with
    | nil => rw [List.append_nil, List.nil_append]
    | cons d t ih =>
      have more := ih (read ++ [d]) fun c inside => chars c (List.mem_cons_of_mem d inside)
      rw [List.append_assoc] at more
      simp only [List.cons_append, tokensFrom, lex, chars d List.mem_cons_self, if_true,
        Option.bind_some, more, List.nil_append]
      cases tokensFrom (.word (read ++ d :: t)) rest <;> rfl
  cases s with
  | nil => cases meaning
  | cons c s =>
    have first : isWord c = true := chars c List.mem_cons_self
    have apart : c ∉ [' ', '\t', '\n', '\r'] ∧ c ∉ marks ∧ c ≠ '"' := by
      have others : ∀ d ∈ '"' :: marks ++ [' ', '\t', '\n', '\r'], isWord d = false :=
        breaks_of (by decide)
      have none (d : Char) (inside : d ∈ '"' :: marks ++ [' ', '\t', '\n', '\r']) : c ≠ d := by
        rintro rfl
        exact Bool.false_ne_true ((others c inside).symm.trans first)
      refine ⟨fun inside => none c ?_ rfl, fun inside => none c ?_ rfl, none '"' (by decide)⟩
      · exact List.mem_append_right _ inside
      · exact List.mem_append_left _ (List.mem_cons_of_mem _ inside)
    have begins : tokensFrom .idle (c :: s ++ rest) = tokensFrom (.word [c]) (s ++ rest) := by
      simp [tokensFrom, lex, begin, apart, first]
    rw [begins, goes [c] s fun d inside => chars d (List.mem_cons_of_mem c inside)]
    exact closes

/-- What is read off the front is a part of a word. -/
def Takes (s t : List Char) : Prop := ∃ read, s = read ++ t ∧ ∀ c ∈ read, isWord c = true

theorem Takes.trans {s t u : List Char} (first : Takes s t) (second : Takes t u) : Takes s u := by
  obtain ⟨read, rfl, one⟩ := first
  obtain ⟨more, rfl, two⟩ := second
  refine ⟨read ++ more, (List.append_assoc _ _ _).symm, ?_⟩
  intro c inside
  exact (List.mem_append.mp inside).elim (one c) (two c)

theorem takes_self (s : List Char) : Takes s s :=
  ⟨[], rfl, fun _ inside => absurd inside List.not_mem_nil⟩

theorem takes_cons (part : isWord c = true) (s : List Char) : Takes (c :: s) s := by
  refine ⟨[c], rfl, ?_⟩
  intro d inside
  rw [List.mem_singleton.mp inside]
  exact part

theorem takes_tail {s : List Char} (part : ∀ c ∈ s.head?, isWord c = true) : Takes s s.tail := by
  cases s with
  | nil => exact takes_self []
  | cons c s => exact takes_cons (part c rfl) s

theorem isWord_digit (digit : c.isDigit = true) : isWord c = true := by
  simp [isWord, Char.isAlphanum, digit]

theorem afterDigits_takes {t : List Char} (read : afterDigits s = some t) : Takes s t := by
  cases s with
  | nil => cases read
  | cons c s =>
    simp only [afterDigits] at read
    split at read
    · rename_i digit
      cases read
      refine ⟨c :: s.takeWhile Char.isDigit, by simp, ?_⟩
      intro d inside
      rcases List.mem_cons.mp inside with rfl | inside
      · exact isWord_digit digit
      · exact isWord_digit (List.mem_takeWhile_imp inside)
    · cases read

theorem isNumber_word (valid : isNumber s = true) : ∀ c ∈ s, isWord c = true := by
  have signed (signs : List (Option Char)) (words : ∀ o ∈ signs, ∀ c ∈ o, isWord c = true)
      (s : List Char) : Takes s (if s.head? ∈ signs then s.tail else s) := by
    split
    · rename_i inside
      exact takes_tail (words _ inside)
    · exact takes_self s
  have whole (s t : List Char) (read : afterWhole s = some t) : Takes s t := by
    unfold afterWhole at read
    split at read
    · cases read
      exact takes_cons (by decide) _
    · exact afterDigits_takes read
  have fraction (s t : List Char) (read : afterFraction s = some t) : Takes s t := by
    unfold afterFraction at read
    split at read
    · exact (takes_cons (by decide) _).trans (afterDigits_takes read)
    · cases read
      exact takes_self _
  have exponent (s t : List Char) (read : afterExponent s = some t) : Takes s t := by
    unfold afterExponent at read
    split at read
    · rename_i c s
      split at read
      · rename_i letter
        have part : isWord c = true := by
          rcases letter with rfl | rfl <;> decide
        exact (takes_cons part s).trans ((signed [some '+', some '-'] (by simp [isWord]) s).trans
          (afterDigits_takes read))
      · cases read
        exact takes_self _
    · cases read
      exact takes_self _
  have all : Takes s [] := by
    simp only [isNumber, decide_eq_true_eq, Option.bind_eq_some_iff] at valid
    obtain ⟨u, ⟨t, one, two⟩, three⟩ := valid
    have dash := signed [some '-'] (by simp [isWord]) s
    simp only [List.mem_singleton] at dash
    exact dash.trans ((whole _ t one).trans ((fraction t u two).trans (exponent u [] three)))
  obtain ⟨read, same, words⟩ := all
  rw [same, List.append_nil]
  exact words

theorem word_number (n : Number) : word n.chars = some (.number n) := by
  have apart (t : List Char) (other : isNumber t = false) : n.chars ≠ t := by
    rintro rfl
    exact Bool.false_ne_true (other.symm.trans n.valid)
  rw [word, if_neg (apart _ (by decide)), if_neg (apart _ (by decide)),
    if_neg (apart _ (by decide)), dif_pos n.valid]

/-- A text is cut into these tokens, wherever no word goes on. -/
def Lexes (ts : List Token) : Prop := ∀ rest, Ends rest →
  tokensFrom .idle (ts.flatMap Token.text ++ rest) = (tokensFrom .idle rest).map (ts ++ ·)

/-- No word goes on in the text of this token. -/
def Token.Breaks : Token → Prop
  | .mark c => c ∈ marks
  | .string _ => True
  | .word _ => False

variable {ts us : List Token}

theorem lexes_word {v : Value} (meaning : word (Token.text (.word v)) = some v)
    (chars : ∀ c ∈ Token.text (.word v), isWord c = true) : Lexes [.word v] := by
  intro rest ends
  rw [List.flatMap_cons, List.flatMap_nil, List.append_nil]
  exact lex_word meaning chars ends

theorem Lexes.mark (inside : c ∈ marks) (lexes : Lexes ts) : Lexes (.mark c :: ts) := by
  intro rest ends
  rw [List.flatMap_cons, Token.text, List.append_assoc, List.singleton_append, lex_mark inside,
    lexes rest ends, map_map_append]
  rfl

theorem Lexes.string (q : Quoted) (lexes : Lexes ts) : Lexes (.string q :: ts) := by
  intro rest ends
  rw [List.flatMap_cons, List.append_assoc, lex_string, lexes rest ends, map_map_append]
  rfl

theorem lexes_nil : Lexes [] := by
  intro rest _
  simp

theorem Lexes.append (first : Lexes ts) (second : Lexes us) (breaks : ∀ t ∈ us.head?, t.Breaks) :
    Lexes (ts ++ us) := by
  intro rest ends
  have others : ∀ c ∈ marks, isWord c = false := breaks_of (by decide)
  have apart : Ends (us.flatMap Token.text ++ rest) := by
    cases us with
    | nil => exact ends
    | cons t us =>
      have cut := breaks t rfl
      intro c begins
      cases t with
      | mark d =>
        cases begins
        exact others c cut
      | string q =>
        cases begins
        decide
      | word v => exact cut.elim
  rw [List.flatMap_append, List.append_assoc, first _ apart, second rest ends, map_map_append]

theorem lexes_items {items : List Value} (each : ∀ v ∈ items, Lexes v.tokens) :
    Lexes (itemTokens true items ++ [.mark ']']) ∧
      ∀ t ∈ (itemTokens true items ++ [Token.mark ']']).head?, t.Breaks := by
  induction items with
  | nil =>
    refine ⟨Lexes.mark (by decide) lexes_nil, ?_⟩
    rintro t ⟨⟩
    exact (by decide : ']' ∈ marks)
  | cons w items ih =>
    obtain ⟨later, breaks⟩ := ih fun v inside => each v (List.mem_cons_of_mem w inside)
    simp only [itemTokens, if_true, List.cons_append, List.nil_append, List.append_assoc]
    refine ⟨Lexes.mark (by decide) ((each w List.mem_cons_self).append later breaks), ?_⟩
    rintro t ⟨⟩
    exact (by decide : ',' ∈ marks)

theorem lexes_members {members : List (Quoted × Value)}
    (each : ∀ m ∈ members, Lexes m.2.tokens) :
    Lexes (memberTokens true members ++ [.mark '}']) ∧
      ∀ t ∈ (memberTokens true members ++ [Token.mark '}']).head?, t.Breaks := by
  induction members with
  | nil =>
    refine ⟨Lexes.mark (by decide) lexes_nil, ?_⟩
    rintro t ⟨⟩
    exact (by decide : '}' ∈ marks)
  | cons m members ih =>
    obtain ⟨name, w⟩ := m
    obtain ⟨later, breaks⟩ := ih fun m inside => each m (List.mem_cons_of_mem _ inside)
    have here := (each (name, w) List.mem_cons_self).append later breaks
    simp only [memberTokens, if_true, List.cons_append, List.nil_append, List.append_assoc]
    refine ⟨Lexes.mark (by decide) (.string name (.mark (by decide) here)), ?_⟩
    rintro t ⟨⟩
    exact (by decide : ',' ∈ marks)

theorem Value.lexes (v : Value) : Lexes v.tokens := by
  induction v using Value.induct with
  | null => exact lexes_word rfl (List.all_eq_true.mp (by decide))
  | bool b => cases b <;> exact lexes_word rfl (List.all_eq_true.mp (by decide))
  | number n => exact lexes_word (word_number n) (isNumber_word n.valid)
  | string s => exact .string s lexes_nil
  | array items ih =>
    rw [Value.tokens]
    apply Lexes.mark (by decide)
    cases items with
    | nil => exact .mark (by decide) lexes_nil
    | cons w items =>
      obtain ⟨later, breaks⟩ := lexes_items fun v inside => ih v (List.mem_cons_of_mem w inside)
      simp only [itemTokens, Bool.false_eq_true, if_false, List.nil_append, List.append_assoc]
      exact (ih w List.mem_cons_self).append later breaks
  | object members ih =>
    rw [Value.tokens]
    apply Lexes.mark (by decide)
    cases members with
    | nil => exact .mark (by decide) lexes_nil
    | cons m members =>
      obtain ⟨name, w⟩ := m
      obtain ⟨later, breaks⟩ := lexes_members fun m inside => ih m (List.mem_cons_of_mem _ inside)
      simp only [memberTokens, Bool.false_eq_true, if_false, List.nil_append, List.append_assoc,
        List.cons_append]
      exact .string name (.mark (by decide)
        ((ih (name, w) List.mem_cons_self).append later breaks))

end Lexed

/-- Spaces after a text. -/
theorem tokens_spaces {spaces : List Char} (blank : ∀ c ∈ spaces, c ∈ [' ', '\t', '\n', '\r']) :
    tokensFrom .idle spaces = some [] ∧ Ends spaces := by
  induction spaces with
  | nil => exact ⟨rfl, fun _ inside => absurd inside (Option.not_mem_none _)⟩
  | cons c spaces ih =>
    have here := blank c List.mem_cons_self
    have others : ∀ c ∈ [' ', '\t', '\n', '\r'], isWord c = false := breaks_of (by decide)
    constructor
    · rw [tokensFrom, lex, begin, if_pos here, Option.bind_some,
        (ih fun d inside => blank d (List.mem_cons_of_mem c inside)).1]
      rfl
    · rintro d ⟨⟩
      exact others c here

/-- A value that is written is read, if it is not too deep. -/
theorem parse_text {limit : Nat} {v : Value} (room : v.depth ≤ limit) {spaces : List Char}
    (blank : ∀ c ∈ spaces, c ∈ [' ', '\t', '\n', '\r']) :
    parse limit (v.text ++ spaces) = some v := by
  obtain ⟨none, ends⟩ := tokens_spaces blank
  have parsed := v.parses limit [] false [] (by simpa using room)
  rw [List.append_nil] at parsed
  rw [parse, Json.tokens, Value.text, v.lexes spaces ends, none, Option.map_some,
    Option.bind_some, List.append_nil, parsed]
  rfl

end Json
