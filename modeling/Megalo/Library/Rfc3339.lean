import Megalo.Library.Timestamp
import Mathlib.Data.Option.Basic

/-! An instant and its RFC 3339 text, down to the second, as Go's time package writes and reads
it. Instants are nanoseconds in UTC since the year 0 began. -/
namespace Timestamp

section Locate

/-- From the start of the i-th of some consecutive lengths: where n falls, and how far in. -/
def locateFrom (length : Nat → Nat) : Nat → Nat → Nat → Nat × Nat
  | 0, i, n => (i, n)
  | fuel + 1, i, n =>
    if n < length i then (i, n) else locateFrom length fuel (i + 1) (n - length i)

def locate (length : Nat → Nat) (n : Nat) : Nat × Nat := locateFrom length (n + 1) 0 n

variable {length : Nat → Nat}

theorem locateFrom_before (fuel i n : Nat) :
    before length (locateFrom length fuel i n).1 + (locateFrom length fuel i n).2 =
      before length i + n := by
  induction fuel generalizing i n with
  | zero => rfl
  | succ fuel ih =>
    rw [locateFrom]
    split
    · rfl
    · rename_i whole
      rw [ih, before]
      omega

theorem locateFrom_lt (positive : ∀ i, 0 < length i) {fuel i n : Nat} (enough : n < fuel) :
    (locateFrom length fuel i n).2 < length (locateFrom length fuel i n).1 := by
  induction fuel generalizing i n with
  | zero => exact absurd enough (Nat.not_lt_zero n)
  | succ fuel ih =>
    rw [locateFrom]
    split
    · rename_i inside
      exact inside
    · have := positive i
      exact ih (by omega)

theorem locate_before (length : Nat → Nat) (n : Nat) : before length (locate length n).1 + (locate length n).2 = n := by
  rw [locate, locateFrom_before, before, Nat.zero_add]

theorem locate_lt (positive : ∀ i, 0 < length i) (n : Nat) :
    (locate length n).2 < length (locate length n).1 :=
  locateFrom_lt positive (Nat.lt_succ_self n)

/-- What falls before the k-th length falls into an earlier one. -/
theorem locate_index {n k : Nat} (early : n < before length k) : (locate length n).1 < k := by
  have whole := locate_before length n
  have monotone : ∀ j, k ≤ j → before length k ≤ before length j := by
    intro j
    induction j with
    | zero => exact fun le => (Nat.le_zero.mp le) ▸ Nat.le_refl _
    | succ j ih =>
      intro le
      rcases Nat.le_succ_iff.mp le with earlier | rfl
      · exact Nat.le_trans (ih earlier) (Nat.le_add_right _ _)
      · exact Nat.le_refl _
  by_contra late
  have := monotone _ (Nat.not_lt.mp late)
  omega

end Locate

section Format

theorem daysInYear_pos (year : Nat) : 0 < daysInYear year := by
  unfold daysInYear
  split <;> decide

theorem daysInMonth_pos (year month : Nat) : 0 < daysInMonth year month := by
  unfold daysInMonth
  split
  · split <;> decide
  all_goals decide

variable (ns : Nat)

/-- The day of the instant, counted from the first day of the year 0. -/
def dayOf : Nat := ns / 86400000000000

def yearOf : Nat := (locate daysInYear (dayOf ns)).1

/-- The day of the year, from 0. -/
def yearDay : Nat := (locate daysInYear (dayOf ns)).2

def monthOf : Nat := (locate (fun i => daysInMonth (yearOf ns) (i + 1)) (yearDay ns)).1 + 1

def dayOfMonth : Nat := (locate (fun i => daysInMonth (yearOf ns) (i + 1)) (yearDay ns)).2 + 1

/-- At least w digits. -/
def appendInt (w n : Nat) : List Char := if n < 10 ^ w then digits w n else Nat.toDigits 10 n

/-- Format(time.RFC3339) of a time in UTC. -/
def format : String :=
  .ofList (appendInt 4 (yearOf ns) ++ '-' :: (digits 2 (monthOf ns) ++
    '-' :: (digits 2 (dayOfMonth ns) ++ 'T' :: (digits 2 (ns / 3600000000000 % 24) ++
      ':' :: (digits 2 (ns / 60000000000 % 60) ++
        ':' :: (digits 2 (ns / 1000000000 % 60) ++ ['Z']))))))

theorem yearDay_lt : yearDay ns < daysInYear (yearOf ns) := locate_lt daysInYear_pos _

theorem monthOf_le : monthOf ns ≤ 12 := by
  apply locate_index
  rw [DateTime.daysBeforeMonth_year]
  exact yearDay_lt ns

variable {ns}

/-- The fields of an instant. -/
def ofNanoseconds (year : yearOf ns < 10000) : DateTime where
  year := yearOf ns
  month := monthOf ns
  day := dayOfMonth ns
  hour := ns / 3600000000000 % 24
  minute := ns / 60000000000 % 60
  second := ns / 1000000000 % 60
  nanosecond := ns % 1000000000
  year_lt := year
  month_pos := Nat.succ_pos _
  month_le := monthOf_le ns
  day_pos := Nat.succ_pos _
  day_le := locate_lt (fun i => daysInMonth_pos _ (i + 1)) (yearDay ns)
  hour_lt := Nat.mod_lt _ (by decide)
  minute_lt := Nat.mod_lt _ (by decide)
  second_lt := Nat.mod_lt _ (by decide)
  nanosecond_lt := Nat.mod_lt _ (by decide)

theorem ofNanoseconds_days (year : yearOf ns < 10000) :
    (ofNanoseconds year).days = dayOf ns := by
  have day := locate_before daysInYear (dayOf ns)
  have month := locate_before (fun i => daysInMonth (yearOf ns) (i + 1)) (yearDay ns)
  change before daysInYear (yearOf ns) + before (fun i => daysInMonth (yearOf ns) (i + 1))
    (monthOf ns - 1) + (dayOfMonth ns - 1) = dayOf ns
  change before _ (monthOf ns - 1) + (dayOfMonth ns - 1) = yearDay ns at month
  change before daysInYear (yearOf ns) + yearDay ns = dayOf ns at day
  omega

theorem ofNanoseconds_seconds (year : yearOf ns < 10000) :
    (ofNanoseconds year).seconds = ns / 1000000000 := by
  rw [DateTime.seconds, ofNanoseconds_days]
  change ((ns / 86400000000000 * 24 + ns / 3600000000000 % 24) * 60 + ns / 60000000000 % 60) * 60 +
    ns / 1000000000 % 60 = ns / 1000000000
  omega

theorem format_stem (year : yearOf ns < 10000) :
    format ns = .ofList ((ofNanoseconds year).stem ++ ['Z']) := by
  have four : appendInt 4 (yearOf ns) = digits 4 (yearOf ns) := if_pos year
  rw [format, four]
  simp only [DateTime.stem, List.append_assoc, List.cons_append]
  rfl

end Format

section Parse

def getDigit (c : Char) : Option Nat := if c.isDigit then some (c.toNat - 48) else none

/-- One or two digits; always two when fixed. -/
def getnum (fixed : Bool) : List Char → Option (Nat × List Char)
  | c :: rest => (getDigit c).bind fun tens =>
    match rest.head?.bind getDigit with
    | some unit => some (tens * 10 + unit, rest.tail)
    | none => if fixed then none else some (tens, rest)
  | [] => none

def getYear : List Char → Option (Nat × List Char)
  | a :: b :: c :: d :: rest => do
    let thousands ← getDigit a
    let hundreds ← getDigit b
    let tens ← getDigit c
    let unit ← getDigit d
    some (thousands * 1000 + hundreds * 100 + tens * 10 + unit, rest)
  | _ => none

def skip (c : Char) : List Char → Option (List Char)
  | d :: rest => if d = c then some rest else none
  | [] => none

/-- A fraction after the second, which the layout does not have but every text may: its first
nine digits, as nanoseconds. -/
def getFraction : List Char → Nat × List Char
  | c :: rest =>
    let fraction := (rest.takeWhile Char.isDigit).take 9
    if (c = '.' ∨ c = ',') ∧ fraction ≠ [] then
      (fraction.foldl (fun n d => n * 10 + (d.toNat - 48)) 0 * 10 ^ (9 - fraction.length),
        rest.dropWhile Char.isDigit)
    else (0, c :: rest)
  | [] => (0, [])

/-- The zone, as seconds east of UTC. -/
def getZone : List Char → Option (Int × List Char)
  | 'Z' :: rest => some (0, rest)
  | sign :: rest => do
    let (hours, rest) ← getnum true rest
    let rest ← skip ':' rest
    let (minutes, rest) ← getnum true rest
    guard (hours ≤ 24 ∧ minutes ≤ 60)
    if sign = '+' then some (((hours * 60 + minutes) * 60 : Nat), rest)
    else if sign = '-' then some (-((hours * 60 + minutes) * 60 : Nat), rest)
    else none
  | [] => none

def parseChars (value : List Char) : Option Int := do
  let (year, value) ← getYear value
  let value ← skip '-' value
  let (month, value) ← getnum true value
  guard (1 ≤ month ∧ month ≤ 12)
  let value ← skip '-' value
  let (day, value) ← getnum true value
  let value ← skip 'T' value
  let (hour, value) ← getnum false value
  guard (hour < 24)
  let value ← skip ':' value
  let (minute, value) ← getnum true value
  guard (minute < 60)
  let value ← skip ':' value
  let (second, value) ← getnum true value
  guard (second < 60)
  let (nanosecond, value) := getFraction value
  let (offset, value) ← getZone value
  guard (value = [])
  guard (1 ≤ day ∧ day ≤ daysInMonth year month)
  let days := before daysInYear year + DateTime.daysBeforeMonth year month + (day - 1)
  let seconds := ((days * 24 + hour) * 60 + minute) * 60 + second
  some ((seconds - offset) * 1000000000 + nanosecond)

/-- time.Parse(time.RFC3339, value), as nanoseconds since the year 0 began. -/
def parse (value : String) : Option Int := parseChars value.toList

theorem getDigit_digitChar : ∀ k < 10, getDigit (Nat.digitChar k) = some k := by decide

theorem getnum_digits (fixed : Bool) {n : Nat} (small : n < 10 ^ 2) (rest : List Char) :
    getnum fixed (digits 2 n ++ rest) = some (n, rest) := by
  have tens := getDigit_digitChar (n / 10 % 10) (Nat.mod_lt _ (by decide))
  have unit := getDigit_digitChar (n % 10) (Nat.mod_lt _ (by decide))
  simp only [digits, List.nil_append, List.cons_append, getnum, tens, Option.bind_some,
    List.head?_cons, unit, List.tail_cons, Option.some.injEq, Prod.mk.injEq, and_true]
  omega

theorem getYear_digits {n : Nat} (small : n < 10 ^ 4) (rest : List Char) :
    getYear (digits 4 n ++ rest) = some (n, rest) := by
  have thousands := getDigit_digitChar (n / 10 / 10 / 10 % 10) (Nat.mod_lt _ (by decide))
  have hundreds := getDigit_digitChar (n / 10 / 10 % 10) (Nat.mod_lt _ (by decide))
  have tens := getDigit_digitChar (n / 10 % 10) (Nat.mod_lt _ (by decide))
  have unit := getDigit_digitChar (n % 10) (Nat.mod_lt _ (by decide))
  simp only [digits, List.nil_append, List.cons_append, getYear, thousands, hundreds, tens, unit,
    Option.bind_eq_bind, Option.bind_some, Option.some.injEq, Prod.mk.injEq, and_true]
  omega

theorem skip_self (c : Char) (rest : List Char) : skip c (c :: rest) = some rest := if_pos rfl

theorem bind_of_eq {α β : Type} {x : Option α} {a : α} {f : α → Option β} {r : Option β}
    (found : x = some a) (rest : f a = r) : (x >>= f) = r := by
  rw [found]
  exact rest

theorem guard_of {β : Type} {p : Prop} [Decidable p] {f : Unit → Option β} {r : Option β}
    (holds : p) (rest : f () = r) : (guard p >>= f) = r := by
  rw [guard, if_pos holds]
  exact rest

theorem parse_read (d : DateTime) {tail : List Char} {nanosecond : Nat}
    (fraction : getFraction tail = (nanosecond, ['Z'])) :
    parseChars (d.stem ++ tail) = some (d.seconds * 1000000000 + nanosecond : Int) := by
  unfold parseChars DateTime.stem
  simp only [List.append_assoc, List.cons_append]
  -- Each line reads what stem wrote for it.
  refine bind_of_eq (getYear_digits d.year_lt _) ?_
  refine bind_of_eq (skip_self '-' _) ?_
  refine bind_of_eq (getnum_digits true DateTime.month_two _) ?_
  refine guard_of ⟨d.month_pos, d.month_le⟩ ?_
  refine bind_of_eq (skip_self '-' _) ?_
  refine bind_of_eq (getnum_digits true DateTime.day_two _) ?_
  refine bind_of_eq (skip_self 'T' _) ?_
  refine bind_of_eq (getnum_digits false DateTime.hour_two _) ?_
  refine guard_of d.hour_lt ?_
  refine bind_of_eq (skip_self ':' _) ?_
  refine bind_of_eq (getnum_digits true DateTime.minute_two _) ?_
  refine guard_of d.minute_lt ?_
  refine bind_of_eq (skip_self ':' _) ?_
  refine bind_of_eq (getnum_digits true DateTime.second_two _) ?_
  refine guard_of d.second_lt ?_
  simp only [fraction]
  refine bind_of_eq (rfl : getZone ['Z'] = some (0, [])) ?_
  refine guard_of rfl ?_
  refine guard_of ⟨d.day_pos, d.day_le⟩ ?_
  dsimp only
  rw [DateTime.seconds, DateTime.days, Int.sub_zero]

theorem parse_stem (d : DateTime) :
    parseChars (d.stem ++ ['Z']) = some (d.seconds * 1000000000 : Int) :=
  (parse_read d rfl).trans (congrArg some (Int.add_zero _))

/-- What is written is read back, down to its second. -/
theorem parse_format {ns : Nat} (year : yearOf ns < 10000) :
    parse (format ns) = some ((ns / 1000000000 * 1000000000 : Nat) : Int) := by
  rw [parse, format_stem year, String.toList_ofList, parse_stem, ofNanoseconds_seconds, Int.natCast_mul]
  rfl

theorem format_ne_empty {ns : Nat} (year : yearOf ns < 10000) : format ns ≠ "" := by
  intro empty
  have parsed := parse_format year
  rw [empty] at parsed
  cases parsed

end Parse

section Nanoseconds

theorem fold_digits (w n : Nat) :
    (digits w n).foldl (fun n d => n * 10 + (d.toNat - 48)) 0 = n % 10 ^ w := by
  induction w generalizing n with
  | zero => rw [Nat.pow_zero, Nat.mod_one]; rfl
  | succ w ih =>
    have digit : ∀ k < 10, (Nat.digitChar k).toNat - 48 = k := by decide
    rw [digits, List.foldl_append, ih, List.foldl_cons, List.foldl_nil,
      digit _ (Nat.mod_lt n (by decide)), Nat.pow_succ, Nat.mul_comm (10 ^ w) 10, Nat.mod_mul]
    omega

theorem fold_zeros (n k : Nat) :
    (List.replicate k '0').foldl (fun n d => n * 10 + (d.toNat - 48)) n = n * 10 ^ k := by
  induction k generalizing n with
  | zero => simp
  | succ k ih =>
    rw [List.replicate_succ, List.foldl_cons, ih, Nat.pow_succ]
    change (n * 10 + 0) * 10 ^ k = n * (10 ^ k * 10)
    rw [Nat.add_zero, Nat.mul_assoc, Nat.mul_comm 10]

/-- A fraction that is the nine digits of a nanosecond once it is filled up with zeros. -/
theorem getFraction_zoned {f : List Char} {k n : Nat} (decimal : Decimal f) (small : n < 10 ^ 9)
    (filled : f ++ List.replicate k '0' = digits 9 n) : getFraction (zoned f) = (n, ['Z']) := by
  have length : f.length + k = 9 := by
    have same := congrArg List.length filled
    rwa [List.length_append, List.length_replicate, length_digits] at same
  have value : f.foldl (fun n d => n * 10 + (d.toNat - 48)) 0 * 10 ^ (9 - f.length) = n := by
    have zeros : 9 - f.length = k := by omega
    rw [zeros, ← fold_zeros, ← List.foldl_append, filled, fold_digits, Nat.mod_eq_of_lt small]
  cases f with
  | nil =>
    rw [← value]
    rfl
  | cons a f =>
    have digit : ∀ c ∈ a :: f, c.isDigit = true := fun c inside =>
      Char.isDigit_iff_toNat.mpr (decimal c inside)
    have zone : ('Z').isDigit = false := by decide
    have front : ((a :: f) ++ ['Z']).takeWhile Char.isDigit = a :: f := by
      rw [List.takeWhile_append_of_pos digit]
      simp [zone]
    have back : ((a :: f) ++ ['Z']).dropWhile Char.isDigit = ['Z'] := by
      rw [List.dropWhile_append_of_pos digit]
      simp [zone]
    have whole : (a :: f).take 9 = a :: f := List.take_of_length_le (by omega)
    change getFraction ('.' :: (a :: f ++ ['Z'])) = (n, ['Z'])
    simp only [getFraction, front, back, whole, value, true_or, ne_eq, reduceCtorEq,
      not_false_eq_true, and_self, if_true]

/-- The text of a time in JSON is read back to the nanosecond. -/
theorem parse_text (t : Stamp) : parse t.text = some (t.time.nanoseconds : Int) := by
  obtain ⟨k, filled⟩ := t.fraction_filled
  have fraction := getFraction_zoned t.fraction_decimal t.time.nanosecond_lt filled
  rw [parse, Stamp.text, String.toList_ofList, parse_read t.time fraction, DateTime.nanoseconds]
  rfl

end Nanoseconds

end Timestamp
