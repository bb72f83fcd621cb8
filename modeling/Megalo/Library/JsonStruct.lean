import Megalo.Library.Json
import Megalo.Library.Rfc3339
import Mathlib.Data.List.Forall2

/-! Structs of scalar fields as Go's encoding/json writes and reads them. -/
namespace Json

/-- What a field holds; a time is in nanoseconds since the year 0 began. -/
inductive Datum
  | string (s : String)
  | int32 (n : Int32)
  | int64 (n : Int64)
  | bool (b : Bool)
  | time (ns : Int)
  deriving DecidableEq

inductive Kind
  | string
  | int32
  | int64
  | bool
  | time
  deriving DecidableEq

def Datum.kind : Datum → Kind
  | .string _ => .string
  | .int32 _ => .int32
  | .int64 _ => .int64
  | .bool _ => .bool
  | .time _ => .time

/-- The fields of a type, under their names in JSON, which are ASCII. -/
abbrev Struct := List (String × Kind)

abbrev Fields := List (String × Datum)

/-- The zero value; that of a time is the first instant of the year 1. -/
def Kind.zero : Kind → Datum
  | .string => .string ""
  | .int32 => .int32 0
  | .int64 => .int64 0
  | .bool => .bool false
  | .time => .time (366 * 86400 * 1000000000)

def Struct.zero (t : Struct) : Fields := t.map fun f => (f.1, f.2.zero)

def Fields.struct (fields : Fields) : Struct := fields.map fun f => (f.1, f.2.kind)

/-- The characters that encoding/json escapes for the sake of HTML and JavaScript. -/
def htmlSpecial : List Char := ['<', '>', '&', '\u2028', '\u2029']

theorem htmlSpecial_short : Short htmlSpecial := by
  simp [Short, htmlSpecial]

section Write

theorem items_plain {s : List Char} (plain : ∀ c ∈ s, 45 ≤ c.toNat ∧ c.toNat ≤ 90) :
    items s = some (s.map .inl) := by
  induction s with
  | nil => rfl
  | cons c s ih =>
    have small := plain c List.mem_cons_self
    have slash : c ≠ '\\' := by
      rintro rfl
      exact absurd small.2 (by decide)
    have inner : ¬ (c = '"' ∨ c.toNat < 32) := by
      rintro (rfl | control)
      · exact absurd small.1 (by decide)
      · omega
    rw [items, itemsFrom, if_neg slash, if_neg inner, ← items,
      ih fun d inside => plain d (List.mem_cons_of_mem c inside)]
    rfl

open Timestamp in
theorem plain_time (t : Stamp) : ∀ c ∈ t.text.toList, 45 ≤ c.toNat ∧ c.toNat ≤ 90 := by
  have digit {f : List Char} (decimal : Decimal f) :
      ∀ c ∈ f, 45 ≤ c.toNat ∧ c.toNat ≤ 90 := by
    intro c inside
    have low : 48 ≤ c.toNat := (decimal c inside).1
    have high : c.toNat ≤ 57 := (decimal c inside).2
    omega
  have zone : ∀ c ∈ zoned t.fraction, 45 ≤ c.toNat ∧ c.toNat ≤ 90 := by
    have fraction := digit t.fraction_decimal
    cases same : t.fraction with
    | nil => exact List.forall_mem_singleton.mpr (by decide)
    | cons a f =>
      rw [same] at fraction
      simp only [zoned, List.cons_append, List.mem_cons, List.mem_append, List.not_mem_nil,
        or_false]
      rintro c (rfl | rfl | inside | rfl)
      · decide
      · exact fraction c List.mem_cons_self
      · exact fraction c (List.mem_cons_of_mem a inside)
      · decide
  intro c inside
  rw [Stamp.text, String.toList_ofList, DateTime.stem] at inside
  simp only [List.mem_append, List.mem_cons] at inside
  rcases inside with (year | rfl | month | rfl | day | rfl | hour | rfl | minute | rfl | second) |
    inside
  case inl.inl => exact digit (decimal_digits _ _) c year
  case inl.inr.inr.inl => exact digit (decimal_digits _ _) c month
  case inl.inr.inr.inr.inr.inl => exact digit (decimal_digits _ _) c day
  case inl.inr.inr.inr.inr.inr.inr.inl => exact digit (decimal_digits _ _) c hour
  case inl.inr.inr.inr.inr.inr.inr.inr.inr.inl => exact digit (decimal_digits _ _) c minute
  case inl.inr.inr.inr.inr.inr.inr.inr.inr.inr.inr => exact digit (decimal_digits _ _) c second
  case inr => exact zone c inside
  all_goals decide

theorem valid_time (t : Timestamp.Stamp) : (items t.text.toList).isSome = true := by
  rw [items_plain (plain_time t), Option.isSome_some]

/-- An instant as Go writes it. -/
def goStamp {ns : Nat} (year : Timestamp.yearOf ns < 10000) : Timestamp.Stamp where
  time := Timestamp.ofNanoseconds year
  writer := .go
  exact := by
    intro js
    cases js

/-- time.Time.MarshalJSON, of the years that it can write. -/
def writeTime (ns : Int) : Option Quoted :=
  if year : 0 ≤ ns ∧ Timestamp.yearOf ns.toNat < 10000 then
    some ⟨(goStamp year.2).text.toList, valid_time _⟩
  else none

theorem writeTime_isSome (n : Nat) :
    (writeTime n).isSome = true ↔ Timestamp.yearOf n < 10000 := by
  have fits : (0 ≤ (n : Int) ∧ Timestamp.yearOf (n : Int).toNat < 10000) ↔
      Timestamp.yearOf n < 10000 := by
    rw [Int.toNat_natCast]
    exact and_iff_right (Int.natCast_nonneg n)
  rw [← fits, writeTime]
  split
  · rename_i year
    exact iff_of_true rfl year
  · rename_i year
    exact iff_of_false Bool.false_ne_true year

def Datum.value : Datum → Option Value
  | .string s => some (.string (quote htmlSpecial htmlSpecial_short s))
  | .int32 n => some (.number (.ofInt n.toInt))
  | .int64 n => some (.number (.ofInt n.toInt))
  | .bool b => some (.bool b)
  | .time ns => (writeTime ns).map .string

/-- A field as a member; its name is quoted like a string. -/
def member (field : String × Datum) : Option (Quoted × Value) :=
  field.2.value.map (quote htmlSpecial htmlSpecial_short field.1, ·)

def structValue (fields : Fields) : Option Value := (fields.mapM member).map .object

/-- json.Marshal of a struct; it fails for a time that cannot be written. -/
def marshal (fields : Fields) : Option (List Char) := (structValue fields).map Value.text

end Write

section Read

/-- Within a name a letter stands for its other case; two signs fold to a letter too. -/
def foldChar (c : Char) : Char :=
  if 'a' ≤ c ∧ c ≤ 'z' then .ofNat (c.toNat - 32)
  else if c = '\u212A' then 'K'
  else if c = '\u017F' then 'S'
  else c

def fold (name : String) : List Char := name.toList.map foldChar

def within (bits : Nat) (n : Int) : Option Int :=
  if -2 ^ (bits - 1) ≤ n ∧ n < 2 ^ (bits - 1) then some n else none

/-- What a value makes of a field; null leaves it as it is. A time is read from the characters
between its quotes as they stand. -/
def Datum.store : Datum → Value → Option Datum
  | d, .null => some d
  | .string _, .string s => some (.string s.unquote)
  | .int32 _, .number n => (n.int.bind (within 32)).map fun n => .int32 (.ofInt n)
  | .int64 _, .number n => (n.int.bind (within 64)).map fun n => .int64 (.ofInt n)
  | .bool _, .bool b => some (.bool b)
  | .time _, .string s => (Timestamp.parse (.ofList s.chars)).map .time
  | _, _ => none

/-- The first field of such a name takes the value. -/
def update (called : String → Bool) (v : Value) : Fields → Option Fields
  | [] => some []
  | (name, d) :: rest =>
    if called name then (d.store v).map fun d => (name, d) :: rest
    else (update called v rest).map ((name, d) :: ·)

/-- A member goes to the field of its name, or to one whose name differs in case alone; one
without a field is ignored. -/
def assign (fields : Fields) (m : Quoted × Value) : Option Fields :=
  let name := m.1.unquote
  if fields.any (·.1 = name) then update (· = name) m.2 fields
  else update (fold · = fold name) m.2 fields

/-- json.Unmarshal into a zero value; any error is an error of the whole. -/
def unmarshal (t : Struct) (s : List Char) : Option Fields :=
  match parse 10000 s with
  | some (.object members) => members.foldlM assign t.zero
  | some .null => some t.zero
  | _ => none

end Read

section RoundTrip

variable {d e : Datum} {v : Value}

theorem within_of {bits : Nat} {n : Int} (low : -2 ^ (bits - 1) ≤ n) (high : n < 2 ^ (bits - 1)) :
    within bits n = some n := if_pos ⟨low, high⟩

theorem parse_writeTime {ns : Int} {s : Quoted} (written : writeTime ns = some s) :
    Timestamp.parse (.ofList s.chars) = some ns := by
  unfold writeTime at written
  split at written
  · rename_i year
    cases written
    have instant : (goStamp year.2).time.nanoseconds = ns.toNat := by
      rw [Timestamp.DateTime.nanoseconds]
      change (Timestamp.ofNanoseconds year.2).seconds * 1000000000 + ns.toNat % 1000000000 =
        ns.toNat
      rw [Timestamp.ofNanoseconds_seconds]
      omega
    rw [String.ofList_toList, Timestamp.parse_text, instant, Int.toNat_of_nonneg year.1]
  · cases written

/-- A field that holds the same kind of thing takes what was written. -/
theorem store_value (same : e.kind = d.kind) (written : d.value = some v) :
    e.store v = some d := by
  cases d with
  | string s =>
    cases e <;> cases same
    cases written
    simp only [Datum.store, unquote_quote]
  | int32 n =>
    cases e <;> cases same
    cases written
    simp only [Datum.store, int_ofInt, Option.bind_some]
    rw [within_of n.le_toInt n.toInt_lt, Option.map_some, Int32.ofInt_toInt]
  | int64 n =>
    cases e <;> cases same
    cases written
    simp only [Datum.store, int_ofInt, Option.bind_some]
    rw [within_of n.le_toInt n.toInt_lt, Option.map_some, Int64.ofInt_toInt]
  | bool b =>
    cases e <;> cases same
    cases written
    rfl
  | time ns =>
    cases e <;> cases same
    obtain ⟨s, text, rfl⟩ := Option.map_eq_some_iff.mp written
    simp only [Datum.store, parse_writeTime text, Option.map_some]

/-- No two fields have one name. -/
def Distinct (fields : Fields) : Prop := (fields.map Prod.fst).Nodup

/-- The member makes a field of this struct hold this. -/
def Fills (m : Quoted × Value) (field : String × Datum) : Prop :=
  m.1.unquote = field.1 ∧ ∀ e : Datum, e.kind = field.2.kind → e.store m.2 = some field.2

variable {members : List (Quoted × Value)} {fields zero done : Fields}

theorem update_at {called : String → Bool} {name : String}
    (before : ∀ f ∈ done, called f.1 = false) (hit : called name = true)
    (stored : e.store v = some d) : update called v (done ++ (name, e) :: zero) =
      some (done ++ (name, d) :: zero) := by
  induction done with
  | nil => simp only [List.nil_append, update, hit, if_true, stored, Option.map_some]
  | cons f done ih =>
    have other := before f List.mem_cons_self
    simp only [List.cons_append, update, other, Bool.false_eq_true, if_false,
      ih fun f inside => before f (List.mem_cons_of_mem _ inside), Option.map_some]

/-- Once some members are read, their fields are as they were written and the others are as they
were. -/
theorem assign_all (fills : List.Forall₂ Fills members fields) (alike : zero.struct = fields.struct)
    (distinct : Distinct (done ++ fields)) :
    members.foldlM assign (done ++ zero) = some (done ++ fields) := by
  induction fills generalizing done zero with
  | nil =>
    rw [List.map_eq_nil_iff.mp alike]
    rfl
  | @cons m f members fields fill _ ih =>
    cases zero with
    | nil => cases alike
    | cons z zero =>
      obtain ⟨name, e⟩ := z
      obtain ⟨n, d⟩ := f
      simp only [Fields.struct, List.map_cons, List.cons.injEq] at alike
      obtain ⟨here, later⟩ := alike
      obtain ⟨rfl, same⟩ := Prod.mk.inj here
      rw [Distinct, List.map_append, List.map_cons, List.nodup_append] at distinct
      have before : ∀ f ∈ done, decide (f.1 = m.1.unquote) = false := by
        intro f inside
        rw [fill.1]
        exact decide_eq_false (distinct.2.2 f.1 (List.mem_map_of_mem inside) name
          List.mem_cons_self)
      have hit : decide (name = m.1.unquote) = true := decide_eq_true fill.1.symm
      have found : (done ++ (name, e) :: zero).any (·.1 = m.1.unquote) = true := by
        simp [hit]
      have read : assign (done ++ (name, e) :: zero) m = some (done ++ (name, d) :: zero) := by
        simp only [assign, found, if_true]
        exact update_at before hit (fill.2 e same)
      have rest : Distinct (done ++ [(name, d)] ++ fields) := by
        rw [Distinct, List.append_assoc, List.map_append, List.nodup_append]
        exact distinct
      have all := ih later rest
      rw [List.append_assoc, List.append_assoc] at all
      rw [List.foldlM_cons, read]
      exact all

theorem zero_struct (t : Struct) : t.zero.struct = t := by
  have back : ∀ k : Kind, k.zero.kind = k := by
    intro k
    cases k <;> rfl
  simp [Struct.zero, Fields.struct, Function.comp_def, back]

theorem unmarshal_object (flat : ∀ m ∈ members, m.2.depth = 0)
    (fills : List.Forall₂ Fills members fields) (distinct : Distinct fields) {spaces : List Char}
    (blank : ∀ c ∈ spaces, c ∈ [' ', '\t', '\n', '\r']) :
    unmarshal fields.struct ((Value.object members).text ++ spaces) = some fields := by
  have level : memberDepth members = 0 := by
    clear fills
    induction members with
    | nil => rfl
    | cons m members ih =>
      rw [memberDepth, flat m List.mem_cons_self,
        ih fun m inside => flat m (List.mem_cons_of_mem _ inside)]
      rfl
  have room : (Value.object members).depth ≤ 10000 := by
    rw [Value.depth, level]
    decide
  rw [unmarshal, parse_text room blank]
  have all : members.foldlM assign ([] ++ fields.struct.zero) = some ([] ++ fields) :=
    assign_all fills (zero_struct _) distinct
  exact all

theorem mapM_forall₂ {α β : Type*} {f : α → Option β} {l : List α} {r : List β}
    (mapped : l.mapM f = some r) : List.Forall₂ (fun b a => f a = some b) r l := by
  induction l generalizing r with
  | nil =>
    cases mapped
    exact .nil
  | cons a l ih =>
    simp only [List.mapM_cons, Option.bind_eq_bind, Option.pure_def, Option.bind_eq_some_iff,
      Option.some.injEq] at mapped
    obtain ⟨b, here, rest, later, rfl⟩ := mapped
    exact .cons here (ih later)

theorem forall₂_left {α β : Type*} {R : α → β → Prop} {P : α → Prop} {l : List α} {r : List β}
    (related : List.Forall₂ R l r) (holds : ∀ a b, R a b → P a) : ∀ a ∈ l, P a := by
  induction related with
  | nil => exact fun _ inside => absurd inside List.not_mem_nil
  | cons here _ ih => exact List.forall_mem_cons.mpr ⟨holds _ _ here, ih⟩

theorem value_depth (value : d.value = some v) : v.depth = 0 := by
  cases d with
  | time ns =>
    obtain ⟨s, _, rfl⟩ := Option.map_eq_some_iff.mp value
    rfl
  | string s | int32 n | int64 n | bool b =>
    cases value
    rfl

theorem member_fills {m : Quoted × Value} {f : String × Datum} (written : member f = some m) :
    Fills m f ∧ m.2.depth = 0 := by
  obtain ⟨v, value, rfl⟩ := Option.map_eq_some_iff.mp written
  exact ⟨⟨unquote_quote htmlSpecial_short _, fun e same => store_value same value⟩,
    value_depth value⟩

/-- A struct that was written is read as it was. -/
theorem unmarshal_marshal (distinct : Distinct fields) {s : List Char}
    (written : marshal fields = some s) {spaces : List Char}
    (blank : ∀ c ∈ spaces, c ∈ [' ', '\t', '\n', '\r']) :
    unmarshal fields.struct (s ++ spaces) = some fields := by
  obtain ⟨v, made, rfl⟩ := Option.map_eq_some_iff.mp written
  obtain ⟨members, each, rfl⟩ := Option.map_eq_some_iff.mp made
  have wrote := mapM_forall₂ each
  exact unmarshal_object (forall₂_left wrote fun _ _ one => (member_fills one).2)
    (wrote.imp fun _ _ one => (member_fills one).1) distinct blank

end RoundTrip

section Texts

/-- JSON.parse, which no depth is too much for. -/
def scriptParse (s : List Char) : Option Value := parse s.length s

theorem depth_le_text (v : Value) : v.depth ≤ v.text.length := by
  induction v using Value.induct with
  | null | bool b | number n | string s => exact Nat.zero_le _
  | array items ih =>
    have inner (comma : Bool) :
        itemDepth items ≤ ((itemTokens comma items).flatMap Token.text).length := by
      induction items generalizing comma with
      | nil => exact Nat.zero_le _
      | cons w items more =>
        have here := ih w List.mem_cons_self
        have later := more (fun v inside => ih v (List.mem_cons_of_mem w inside)) true
        rw [Value.text] at here
        simp only [itemDepth, itemTokens, List.flatMap_append, List.length_append]
        omega
    have := inner false
    simp only [Value.depth, Value.text, Value.tokens, List.flatMap_cons, List.flatMap_append,
      List.length_append, Token.text, List.length_cons]
    omega
  | object members ih =>
    have inner (comma : Bool) :
        memberDepth members ≤ ((memberTokens comma members).flatMap Token.text).length := by
      induction members generalizing comma with
      | nil => exact Nat.zero_le _
      | cons m members more =>
        obtain ⟨name, w⟩ := m
        have here : w.depth ≤ w.text.length := ih (name, w) List.mem_cons_self
        have later := more (fun m inside => ih m (List.mem_cons_of_mem _ inside)) true
        rw [Value.text] at here
        simp only [memberDepth, memberTokens, List.flatMap_append, List.flatMap_cons,
          List.length_append]
        omega
    have := inner false
    simp only [Value.depth, Value.text, Value.tokens, List.flatMap_cons, List.flatMap_append,
      List.length_append, Token.text, List.length_cons]
    omega

theorem scriptParse_text (v : Value) {spaces : List Char}
    (blank : ∀ c ∈ spaces, c ∈ [' ', '\t', '\n', '\r']) :
    scriptParse (v.text ++ spaces) = some v := by
  apply parse_text _ blank
  rw [List.length_append]
  exact Nat.le_add_right_of_le (depth_le_text v)

variable {fields : Fields}

theorem text_inj {v w : Value} (same : v.text = w.text) : v = w := by
  have none : ∀ c ∈ ([] : List Char), c ∈ [' ', '\t', '\n', '\r'] := fun _ inside =>
    absurd inside List.not_mem_nil
  have read := scriptParse_text v none
  rw [same, scriptParse_text w none] at read
  exact (Option.some.inj read).symm

/-- A text has the fields of one struct. -/
theorem marshal_names {a b : Fields} {s : List Char} (left : marshal a = some s)
    (right : marshal b = some s) : a.map Prod.fst = b.map Prod.fst := by
  have named {members : List (Quoted × Value)} {fields : Fields}
      (wrote : List.Forall₂ (fun m f => member f = some m) members fields) :
      members.map (·.1.unquote) = fields.map Prod.fst := by
    induction wrote with
    | nil => rfl
    | cons one _ ih => rw [List.map_cons, List.map_cons, ih, (member_fills one).1.1]
  obtain ⟨v, made, rfl⟩ := Option.map_eq_some_iff.mp left
  obtain ⟨w, made', same⟩ := Option.map_eq_some_iff.mp right
  obtain ⟨members, each, rfl⟩ := Option.map_eq_some_iff.mp made
  obtain ⟨members', each', rfl⟩ := Option.map_eq_some_iff.mp made'
  cases text_inj same
  rw [← named (mapM_forall₂ each), named (mapM_forall₂ each')]

/-- A struct can be written if its times can. -/
theorem marshal_isSome_iff :
    (∃ s, marshal fields = some s) ↔ ∀ f ∈ fields, (member f).isSome = true := by
  have all : (∃ members, fields.mapM member = some members) ↔
      ∀ f ∈ fields, (member f).isSome = true := by
    induction fields with
    | nil => simp
    | cons f fields ih =>
      rw [List.forall_mem_cons, ← ih, List.mapM_cons]
      cases one : member f with
      | none => simp
      | some m => cases fields.mapM member <;> simp
  rw [← all]
  simp [marshal, structValue]

end Texts

end Json
