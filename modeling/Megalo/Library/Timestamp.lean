import Mathlib.Data.List.Basic
import Mathlib.Data.List.DropRight
import Mathlib.Data.String.Basic

/-! Timestamps as text. RFC 3339 in UTC is the date and the time of day in fixed widths, and a
fraction of any length. As texts, two timestamps compare character by character; here is when
this is the order of the instants. -/
namespace Timestamp

section Text

variable {α : Type*} [LinearOrder α]

theorem append_lt_append_iff {as bs cs ds : List α} (same : as.length = cs.length) :
    as ++ bs < cs ++ ds ↔ as < cs ∨ as = cs ∧ bs < ds := by
  induction as generalizing cs with
  | nil =>
    cases List.length_eq_zero_iff.mp same.symm
    simp
  | cons a as ih =>
    cases cs with
    | nil => cases same
    | cons c cs =>
      have tail : as ++ bs < cs ++ ds ↔ as < cs ∨ as = cs ∧ bs < ds := ih (Nat.succ.inj same)
      simp only [List.cons_append, List.cons_lt_cons_iff, tail, List.cons.injEq]
      tauto

/-- The last w decimal digits of a number. -/
def digits : Nat → Nat → List Char
  | 0, _ => []
  | w + 1, n => digits w (n / 10) ++ [Nat.digitChar (n % 10)]

theorem length_digits (w n : Nat) : (digits w n).length = w := by
  induction w generalizing n with
  | zero => rfl
  | succ w ih => rw [digits, List.length_append, ih, List.length_singleton]

theorem digitChar_lt_iff : ∀ a < 10, ∀ b < 10, (Nat.digitChar a < Nat.digitChar b ↔ a < b) := by
  decide

theorem digits_lt_iff {w m n : Nat} (left : m < 10 ^ w) (right : n < 10 ^ w) :
    digits w m < digits w n ↔ m < n := by
  induction w generalizing m n with
  | zero =>
    rw [Nat.pow_zero] at left right
    simp only [digits, List.not_lt_nil, false_iff]
    omega
  | succ w ih =>
    rw [Nat.pow_succ] at left right
    have front : digits w (m / 10) < digits w (n / 10) ↔ m / 10 < n / 10 :=
      ih (by omega) (by omega)
    have back : digits w (n / 10) < digits w (m / 10) ↔ n / 10 < m / 10 :=
      ih (by omega) (by omega)
    have equal : digits w (m / 10) = digits w (n / 10) ↔ m / 10 = n / 10 := by
      constructor
      · intro same
        rw [same] at front back
        have := front.not.mp (lt_irrefl _)
        have := back.not.mp (lt_irrefl _)
        omega
      · exact congrArg (digits w)
    have last := digitChar_lt_iff (m % 10) (Nat.mod_lt m (by decide)) (n % 10)
      (Nat.mod_lt n (by decide))
    rw [digits, digits, append_lt_append_iff ((length_digits _ _).trans (length_digits _ _).symm),
      front, equal, List.cons_lt_cons_iff, last]
    simp only [List.not_lt_nil, and_false, or_false]
    omega

theorem digits_inj {w m n : Nat} (left : m < 10 ^ w) (right : n < 10 ^ w)
    (same : digits w m = digits w n) : m = n := by
  have front := digits_lt_iff left right
  have back := digits_lt_iff right left
  rw [same] at front back
  have := front.not.mp (lt_irrefl _)
  have := back.not.mp (lt_irrefl _)
  omega

theorem digits_scale (w k n : Nat) :
    digits (w + k) (n * 10 ^ k) = digits w n ++ List.replicate k '0' := by
  induction k generalizing n with
  | zero => simp
  | succ k ih =>
    have tenth : n * 10 ^ (k + 1) / 10 = n * 10 ^ k := by
      rw [Nat.pow_succ, ← Nat.mul_assoc, Nat.mul_div_cancel _ (by decide)]
    have unit : n * 10 ^ (k + 1) % 10 = 0 := by
      rw [Nat.pow_succ, ← Nat.mul_assoc, Nat.mul_mod_left]
    rw [← Nat.add_assoc, digits, tenth, unit, ih, List.append_assoc, List.replicate_succ']
    rfl

/-- Fields of one width, with the same separator after them. -/
theorem field_lt_iff {w m n : Nat} {c : Char} {as bs : List Char} (left : m < 10 ^ w)
    (right : n < 10 ^ w) :
    digits w m ++ c :: as < digits w n ++ c :: bs ↔ m < n ∨ m = n ∧ as < bs := by
  rw [append_lt_append_iff ((length_digits _ _).trans (length_digits _ _).symm),
    digits_lt_iff left right, List.cons_lt_cons_self]
  constructor
  · rintro (less | ⟨same, rest⟩)
    · exact .inl less
    · exact .inr ⟨digits_inj left right same, rest⟩
  · rintro (less | ⟨rfl, rest⟩)
    · exact .inl less
    · exact .inr ⟨rfl, rest⟩

theorem field_inj {w m n : Nat} {c : Char} {as bs : List Char} (left : m < 10 ^ w)
    (right : n < 10 ^ w) (same : digits w m ++ c :: as = digits w n ++ c :: bs) :
    m = n ∧ as = bs := by
  obtain ⟨front, back⟩ := List.append_inj same ((length_digits _ _).trans (length_digits _ _).symm)
  exact ⟨digits_inj left right front, (List.cons.inj back).2⟩

end Text

section Calendar

def leap (year : Nat) : Bool := year % 4 == 0 && (year % 100 != 0 || year % 400 == 0)

def daysInYear (year : Nat) : Nat := if leap year then 366 else 365

def daysInMonth (year : Nat) : Nat → Nat
  | 2 => if leap year then 29 else 28
  | 4 | 6 | 9 | 11 => 30
  | _ => 31

/-- The sum of the first n lengths. -/
def before (length : Nat → Nat) : Nat → Nat
  | 0 => 0
  | n + 1 => before length n + length n

theorem before_lt (length : Nat → Nat) {m n : Nat} (less : m < n) :
    before length m + length m ≤ before length n := by
  induction n with
  | zero => exact absurd less (Nat.not_lt_zero m)
  | succ n ih =>
    rw [before]
    rcases Nat.lt_succ_iff_lt_or_eq.mp less with earlier | rfl
    · have := ih earlier
      omega
    · exact Nat.le_refl _

/-- An instant in UTC, of the years that have four digits. -/
structure DateTime where
  year : Nat
  month : Nat
  day : Nat
  hour : Nat
  minute : Nat
  second : Nat
  nanosecond : Nat
  year_lt : year < 10000
  month_pos : 1 ≤ month
  month_le : month ≤ 12
  day_pos : 1 ≤ day
  day_le : day ≤ daysInMonth year month
  hour_lt : hour < 24
  minute_lt : minute < 60
  second_lt : second < 60
  nanosecond_lt : nanosecond < 1000000000

namespace DateTime

/-- The days of the year before a month, whose months count from 1. -/
def daysBeforeMonth (year month : Nat) : Nat :=
  before (fun i => daysInMonth year (i + 1)) (month - 1)

theorem daysBeforeMonth_year (year : Nat) :
    before (fun i => daysInMonth year (i + 1)) 12 = daysInYear year := by
  cases isLeap : leap year <;> simp [before, daysInMonth, daysInYear, isLeap]

variable (d e : DateTime)

/-- The days since the first day of the year 0. -/
def days : Nat := before daysInYear d.year + daysBeforeMonth d.year d.month + (d.day - 1)

def seconds : Nat := ((d.days * 24 + d.hour) * 60 + d.minute) * 60 + d.second

def nanoseconds : Nat := d.seconds * 1000000000 + d.nanosecond

/-- The text of the instant down to its second. -/
def stem : List Char :=
  digits 4 d.year ++ '-' :: (digits 2 d.month ++ '-' :: (digits 2 d.day ++ 'T' ::
    (digits 2 d.hour ++ ':' :: (digits 2 d.minute ++ ':' :: digits 2 d.second))))

variable {d e}

theorem day_of_year : daysBeforeMonth d.year d.month + (d.day - 1) < daysInYear d.year := by
  have positive := d.month_pos
  have first := d.day_pos
  have last := d.day_le
  have upto : daysBeforeMonth d.year d.month + daysInMonth d.year d.month ≤ daysInYear d.year := by
    have total := before_lt (fun i => daysInMonth d.year (i + 1))
      (m := d.month - 1) (n := 12) (by have := d.month_le; omega)
    rw [daysBeforeMonth_year] at total
    have month : d.month - 1 + 1 = d.month := by omega
    simp only [month] at total
    exact total
  omega

theorem days_lt_year (earlier : d.year < e.year) : d.days < e.days := by
  have whole : before daysInYear d.year + daysInYear d.year ≤ before daysInYear e.year :=
    before_lt daysInYear earlier
  have within := d.day_of_year
  unfold days
  omega

theorem days_lt_month (year : d.year = e.year) (earlier : d.month < e.month) : d.days < e.days := by
  have positive := d.month_pos
  have first := d.day_pos
  have last := d.day_le
  have whole := before_lt (fun i => daysInMonth d.year (i + 1))
    (m := d.month - 1) (n := e.month - 1) (by omega)
  have month : d.month - 1 + 1 = d.month := by omega
  simp only [month] at whole
  unfold days daysBeforeMonth
  rw [← year]
  omega

theorem days_lt_day (year : d.year = e.year) (month : d.month = e.month) (earlier : d.day < e.day) :
    d.days < e.days := by
  have first := d.day_pos
  unfold days
  rw [year, month]
  omega

theorem days_eq (year : d.year = e.year) (month : d.month = e.month) (day : d.day = e.day) :
    d.days = e.days := by
  unfold days
  rw [year, month, day]

theorem seconds_lt_days (earlier : d.days < e.days) : d.seconds < e.seconds := by
  have := d.hour_lt
  have := d.minute_lt
  have := d.second_lt
  unfold seconds
  omega

theorem month_two : d.month < 10 ^ 2 := Nat.lt_of_le_of_lt d.month_le (by decide)

theorem day_two : d.day < 10 ^ 2 := by
  have bound : daysInMonth d.year d.month ≤ 31 := by
    unfold daysInMonth
    split
    · split <;> omega
    all_goals omega
  have := d.day_le
  omega

theorem hour_two : d.hour < 10 ^ 2 := Nat.lt_trans d.hour_lt (by decide)

theorem minute_two : d.minute < 10 ^ 2 := Nat.lt_trans d.minute_lt (by decide)

theorem second_two : d.second < 10 ^ 2 := Nat.lt_trans d.second_lt (by decide)

theorem seconds_lt_of_stem (less : d.stem < e.stem) : d.seconds < e.seconds := by
  unfold stem at less
  rw [field_lt_iff d.year_lt e.year_lt, field_lt_iff month_two month_two,
    field_lt_iff day_two day_two, field_lt_iff hour_two hour_two,
    field_lt_iff minute_two minute_two, digits_lt_iff second_two second_two] at less
  rcases less with earlier | ⟨year, earlier | ⟨month, earlier | ⟨day, rest⟩⟩⟩
  · exact seconds_lt_days (days_lt_year earlier)
  · exact seconds_lt_days (days_lt_month year earlier)
  · exact seconds_lt_days (days_lt_day year month earlier)
  · have same : d.days = e.days := days_eq year month day
    have := d.minute_lt
    have := d.second_lt
    unfold seconds
    omega

theorem seconds_eq_of_stem (same : d.stem = e.stem) : d.seconds = e.seconds := by
  unfold stem at same
  obtain ⟨year, same⟩ := field_inj d.year_lt e.year_lt same
  obtain ⟨month, same⟩ := field_inj month_two month_two same
  obtain ⟨day, same⟩ := field_inj day_two day_two same
  obtain ⟨hour, same⟩ := field_inj hour_two hour_two same
  obtain ⟨minute, same⟩ := field_inj minute_two minute_two same
  have second := digits_inj second_two second_two same
  unfold seconds
  rw [days_eq year month day, hour, minute, second]

theorem stem_lt_iff : d.stem < e.stem ↔ d.seconds < e.seconds := by
  refine ⟨seconds_lt_of_stem, fun less => ?_⟩
  rcases lt_trichotomy d.stem e.stem with earlier | same | later
  · exact earlier
  · have := seconds_eq_of_stem same
    omega
  · have := seconds_lt_of_stem later
    omega

theorem stem_eq_iff : d.stem = e.stem ↔ d.seconds = e.seconds := by
  refine ⟨seconds_eq_of_stem, fun same => ?_⟩
  rcases lt_trichotomy d.stem e.stem with earlier | equal | later
  · have := seconds_lt_of_stem earlier
    omega
  · exact equal
  · have := seconds_lt_of_stem later
    omega

theorem length_stem : d.stem.length = 19 := by
  simp only [stem, List.length_append, List.length_cons, length_digits]

end DateTime

end Calendar

section Fraction

/-- What follows the second: the fraction, if it has any digit, and the zone. -/
def zoned : List Char → List Char
  | [] => ['Z']
  | digit :: rest => '.' :: digit :: rest ++ ['Z']

/-- A character that is a decimal digit. -/
def Decimal (fraction : List Char) : Prop := ∀ c ∈ fraction, '0' ≤ c ∧ c ≤ '9'

/-- The texts compare the wrong way: the second fraction goes on after the first, or the first
goes on after the second, and not by zeros alone. -/
def Misread (previous next : List Char) : Prop :=
  previous <+: next ∧ previous ≠ next ∨ ∃ rest, previous = next ++ rest ∧ ∃ c ∈ rest, c ≠ '0'

variable {f g : List Char} {a b : Char} {k l : Nat}

theorem decimal_cons (decimal : Decimal (a :: f)) : ('0' ≤ a ∧ a ≤ '9') ∧ Decimal f :=
  ⟨decimal a List.mem_cons_self, fun c inside => decimal c (List.mem_cons_of_mem a inside)⟩

theorem decimal_digits (w n : Nat) : Decimal (digits w n) := by
  induction w generalizing n with
  | zero =>
    intro c inside
    cases inside
  | succ w ih =>
    intro c inside
    rcases List.mem_append.mp inside with early | last
    · exact ih _ c early
    · have range : ∀ i < 10, '0' ≤ Nat.digitChar i ∧ Nat.digitChar i ≤ '9' := by decide
      rw [List.mem_singleton.mp last]
      exact range _ (Nat.mod_lt n (by decide))

theorem lt_zone (decimal : Decimal (a :: f)) : a < 'Z' :=
  lt_of_le_of_lt (decimal_cons decimal).1.2 (by decide)

/-- The dot only says that there is a fraction. -/
theorem zoned_lt_iff (left : Decimal g) (right : Decimal f) :
    zoned g < zoned f ↔ g ++ ['Z'] < f ++ ['Z'] := by
  cases g with
  | nil =>
    cases f with
    | nil => exact Iff.rfl
    | cons a f =>
      have below := lt_zone right
      refine iff_of_false ?_ ?_
      · intro less
        exact absurd less (by simp [zoned, List.cons_lt_cons_iff])
      · intro less
        rcases List.cons_lt_cons_iff.mp less with above | ⟨same, -⟩
        · exact lt_asymm above below
        · exact below.ne same.symm
  | cons b g =>
    cases f with
    | nil =>
      refine iff_of_true ?_ ?_
      · exact List.cons_lt_cons_iff.mpr (.inl (by decide))
      · exact List.cons_lt_cons_iff.mpr (.inl (lt_zone left))
    | cons a f => exact List.cons_lt_cons_self

theorem not_lt_zeros (decimal : Decimal g) (same : (g ++ List.replicate l '0').length = k) :
    ¬ g ++ List.replicate l '0' < List.replicate k '0' := by
  induction g generalizing k with
  | nil =>
    rw [List.nil_append, List.length_replicate] at same
    subst same
    exact lt_irrefl _
  | cons b g ih =>
    subst same
    intro less
    rcases List.cons_lt_cons_iff.mp less with below | ⟨-, rest⟩
    · exact absurd below (not_lt_of_ge (decimal_cons decimal).1.1)
    · exact ih (decimal_cons decimal).2 rfl rest

theorem zeros_lt_iff (decimal : Decimal f) (same : (f ++ List.replicate k '0').length = l) :
    List.replicate l '0' < f ++ List.replicate k '0' ↔ ∃ c ∈ f, c ≠ '0' := by
  induction f generalizing l with
  | nil =>
    rw [List.nil_append, List.length_replicate] at same
    subst same
    simp
  | cons a f ih =>
    obtain ⟨⟨low, -⟩, rest⟩ := decimal_cons decimal
    subst same
    rw [List.cons_append, List.length_cons, List.replicate_succ, List.cons_lt_cons_iff,
      ih rest rfl]
    simp only [List.mem_cons, exists_eq_or_imp]
    rcases low.eq_or_lt with zero | above
    · simp [← zero]
    · simp [above, above.ne']

theorem misread_nil : Misread [] g ↔ g ≠ [] := by
  unfold Misread
  constructor
  · rintro (⟨-, other⟩ | ⟨rest, whole, c, inside, -⟩)
    · exact other.symm
    · rw [(List.append_eq_nil_iff.mp whole.symm).2] at inside
      cases inside
  · exact fun some => .inl ⟨List.nil_prefix, some.symm⟩

theorem misread_cons_nil : Misread (a :: f) [] ↔ ∃ c ∈ a :: f, c ≠ '0' := by
  simp [Misread]

theorem misread_cons_cons : Misread (a :: f) (b :: g) ↔ a = b ∧ Misread f g := by
  simp only [Misread, List.cons_prefix_cons, List.cons_append, List.cons.injEq, ne_eq]
  constructor
  · rintro (⟨⟨same, front⟩, other⟩ | ⟨rest, ⟨same, back⟩, extra⟩)
    · exact ⟨same, .inl ⟨front, fun equal => other ⟨same, equal⟩⟩⟩
    · exact ⟨same, .inr ⟨rest, back, extra⟩⟩
  · rintro ⟨same, ⟨front, other⟩ | ⟨rest, back, extra⟩⟩
    · exact .inl ⟨⟨same, front⟩, fun equal => other equal.2⟩
    · exact .inr ⟨rest, ⟨same, back⟩, extra⟩

/-- Two fractions of a second, filled up to one width with zeros: before the zone they compare
as texts the way they compare as numbers, unless they are misread. -/
theorem fraction_lt_iff (left : Decimal f) (right : Decimal g)
    (same : (f ++ List.replicate k '0').length = (g ++ List.replicate l '0').length) :
    (g ++ ['Z'] < f ++ ['Z'] ↔ g ++ List.replicate l '0' < f ++ List.replicate k '0') ↔
      ¬ Misread f g := by
  induction f generalizing g with
  | nil =>
    rw [List.nil_append, List.length_replicate] at same
    have least := not_lt_zeros right same.symm
    rw [misread_nil, List.nil_append, List.nil_append, iff_false_right least]
    cases g with
    | nil => simp
    | cons b g =>
      have first : (b :: g) ++ ['Z'] < ['Z'] := List.cons_lt_cons_iff.mpr (.inl (lt_zone right))
      exact iff_of_false (not_not_intro first) (not_not_intro (List.cons_ne_nil b g))
  | cons a f ih =>
    cases g with
    | nil =>
      rw [List.nil_append, List.length_replicate] at same
      have late : ¬ ['Z'] < (a :: f) ++ ['Z'] := by
        intro less
        rcases List.cons_lt_cons_iff.mp less with above | ⟨equal, -⟩
        · exact lt_asymm above (lt_zone left)
        · exact (lt_zone left).ne equal.symm
      rw [List.nil_append, List.nil_append, zeros_lt_iff left same, misread_cons_nil,
        iff_false_left late]
    | cons b g =>
      have tail := ih (decimal_cons left).2 (decimal_cons right).2 (Nat.succ.inj same)
      simp only [List.cons_append, List.cons_lt_cons_iff, misread_cons_cons]
      by_cases equal : a = b
      · subst equal
        simpa using tail
      · simp [equal, Ne.symm equal]

end Fraction

section Stamps

/-- The writers of timestamps: Go's time.Time in JSON, and JavaScript's toISOString. -/
inductive Writer
  | go
  | js
  deriving DecidableEq

/-- An instant as a writer gives it; JavaScript's are whole milliseconds. -/
structure Stamp where
  time : DateTime
  writer : Writer
  exact : writer = .js → time.nanosecond % 1000000 = 0

namespace Stamp

/-- Go drops the zeros at the end, JavaScript always writes three digits. -/
def fraction (t : Stamp) : List Char :=
  match t.writer with
  | .go => (digits 9 t.time.nanosecond).rdropWhile (· == '0')
  | .js => digits 3 (t.time.nanosecond / 1000000)

def text (t : Stamp) : String := .ofList (t.time.stem ++ zoned t.fraction)

variable {t u : Stamp}

theorem rdropWhile_zeros (f : List Char) :
    ∃ k, f.rdropWhile (· == '0') ++ List.replicate k '0' = f := by
  induction f using List.reverseRecOn with
  | nil => exact ⟨0, rfl⟩
  | append_singleton f c ih =>
    by_cases zero : c = '0'
    · obtain ⟨k, filled⟩ := ih
      subst zero
      refine ⟨k + 1, ?_⟩
      rw [List.rdropWhile_concat_pos (· == '0') f '0' rfl, List.replicate_succ',
        ← List.append_assoc, filled]
    · refine ⟨0, ?_⟩
      rw [List.rdropWhile_concat_neg (· == '0') f c (by simpa using zero)]
      exact List.append_nil _

/-- Filled up with zeros the fraction is the nine digits of the nanosecond. -/
theorem fraction_filled (t : Stamp) :
    ∃ k, t.fraction ++ List.replicate k '0' = digits 9 t.time.nanosecond := by
  obtain ⟨time, writer, exact⟩ := t
  cases writer with
  | go => exact rdropWhile_zeros _
  | js =>
    refine ⟨6, ?_⟩
    have whole : time.nanosecond / 1000000 * 10 ^ 6 = time.nanosecond := by
      have := exact rfl
      omega
    have scaled := digits_scale 3 6 (time.nanosecond / 1000000)
    rw [whole] at scaled
    exact scaled.symm

theorem fraction_decimal (t : Stamp) : Decimal t.fraction := by
  obtain ⟨k, filled⟩ := t.fraction_filled
  intro c inside
  apply decimal_digits 9 t.time.nanosecond c
  rw [← filled]
  exact List.mem_append_left _ inside

theorem text_lt_iff : u.text < t.text ↔ u.time.seconds < t.time.seconds ∨
    u.time.seconds = t.time.seconds ∧ u.fraction ++ ['Z'] < t.fraction ++ ['Z'] := by
  have width : u.time.stem.length = t.time.stem.length :=
    u.time.length_stem.trans t.time.length_stem.symm
  rw [String.lt_iff_toList_lt, text, text, String.toList_ofList, String.toList_ofList,
    append_lt_append_iff width, DateTime.stem_lt_iff, DateTime.stem_eq_iff,
    zoned_lt_iff u.fraction_decimal t.fraction_decimal]

/-- The two are of one second, and their fractions are misread. -/
def Swapped (previous next : Stamp) : Prop :=
  previous.time.seconds = next.time.seconds ∧ Misread previous.fraction next.fraction

/-- The texts compare as the instants do, except for those that are swapped. -/
theorem text_le_iff :
    (¬ u.text < t.text ↔ t.time.nanoseconds ≤ u.time.nanoseconds) ↔ ¬ Swapped t u := by
  have small := t.time.nanosecond_lt
  have small' := u.time.nanosecond_lt
  rw [text_lt_iff, ← not_lt, not_iff_not, Swapped]
  by_cases second : t.time.seconds = u.time.seconds
  · obtain ⟨k, filled⟩ := t.fraction_filled
    obtain ⟨l, filled'⟩ := u.fraction_filled
    have order := fraction_lt_iff (k := k) (l := l) t.fraction_decimal u.fraction_decimal
      (by rw [filled, filled', length_digits, length_digits])
    have within : u.time.nanoseconds < t.time.nanoseconds ↔
        digits 9 u.time.nanosecond < digits 9 t.time.nanosecond := by
      rw [digits_lt_iff small' small]
      unfold DateTime.nanoseconds
      omega
    rw [filled, filled'] at order
    simp only [second, lt_irrefl, false_or, true_and, within]
    exact order
  · have other : ¬ u.time.seconds = t.time.seconds := fun same => second same.symm
    simp only [second, other, false_and, or_false, not_false_eq_true, iff_true]
    unfold DateTime.nanoseconds
    omega

end Stamp

end Stamps

end Timestamp
