import Mathlib.Data.List.Basic

/-! Markup: strings of UTF-16 code units, the tokens of a fragment of HTML as far as tags with
quoted attributes and the references of four characters go, with the newlines and the units U+0000
taken as a browser takes them, replacements one after the other, and templates with holes. Nothing
here is about one particular page. -/
namespace Markup

/-- A string of a browser. -/
abbrev Units := List UInt16

def unit (c : Char) : UInt16 := c.toNat.toUInt16

def unitsOf (c : Char) : Units :=
  if c.toNat < 0x10000 then [unit c]
  else
    let n := c.toNat - 0x10000
    [(0xD800 + n / 1024).toUInt16, (0xDC00 + n % 1024).toUInt16]

def units (s : String) : Units := s.toList.flatMap unitsOf

/-- A literal, character by character. -/
theorem units_ofList (l : List Char) : units (String.ofList l) = l.flatMap unitsOf := by
  rw [units, String.toList_ofList]

section Replace

variable {α : Type*} [DecidableEq α]

/-- replaceAll, for a pattern of one unit. -/
def replaceAll (pattern : α) (replacement s : List α) : List α :=
  s.flatMap fun u => if u = pattern then replacement else [u]

/-- What one unit becomes when all patterns are replaced at once. -/
def code (replacements : List (α × List α)) (u : α) : List α :=
  (replacements.lookup u).getD [u]

def replaceEach (replacements : List (α × List α)) (s : List α) : List α :=
  replacements.foldl (fun s r => replaceAll r.1 r.2 s) s

/-- No replacement brings in a pattern that is replaced after it. -/
def Ordered (replacements : List (α × List α)) : Prop :=
  replacements.Pairwise fun r later => later.1 ∉ r.2 ∧ later.1 ≠ r.1

variable {replacements : List (α × List α)}

theorem replaceAll_append (pattern : α) (replacement s t : List α) :
    replaceAll pattern replacement (s ++ t) =
      replaceAll pattern replacement s ++ replaceAll pattern replacement t :=
  List.flatMap_append

theorem replaceAll_absent {pattern : α} {replacement s : List α} (absent : pattern ∉ s) :
    replaceAll pattern replacement s = s := by
  induction s with
  | nil => rfl
  | cons u s ih =>
    rw [List.mem_cons, not_or] at absent
    rw [replaceAll, List.flatMap_cons, if_neg (Ne.symm absent.1), ← replaceAll, ih absent.2]
    rfl

theorem replaceEach_append (s t : List α) : replaceEach replacements (s ++ t) =
    replaceEach replacements s ++ replaceEach replacements t := by
  induction replacements generalizing s t with
  | nil => rfl
  | cons r rest ih =>
    simp only [replaceEach, List.foldl_cons, replaceAll_append] at ih ⊢
    exact ih _ _

theorem replaceEach_absent {s : List α} (absent : ∀ r ∈ replacements, r.1 ∉ s) :
    replaceEach replacements s = s := by
  induction replacements with
  | nil => rfl
  | cons r rest ih =>
    rw [replaceEach, List.foldl_cons, replaceAll_absent (absent r List.mem_cons_self)]
    exact ih fun r inside => absent r (List.mem_cons_of_mem _ inside)

theorem replaceEach_unit (ordered : Ordered replacements) (u : α) :
    replaceEach replacements [u] = code replacements u := by
  induction replacements with
  | nil => rfl
  | cons r rest ih =>
    obtain ⟨pattern, replacement⟩ := r
    obtain ⟨later, ordered⟩ := List.pairwise_cons.mp ordered
    by_cases same : u = pattern
    · subst same
      rw [replaceEach, List.foldl_cons, replaceAll, List.flatMap_singleton, if_pos rfl,
        ← replaceEach, replaceEach_absent fun r inside => (later r inside).1]
      simp [code]
    · rw [replaceEach, List.foldl_cons, replaceAll, List.flatMap_singleton, if_neg same,
        ← replaceEach, ih ordered]
      have other : (u == pattern) = false := beq_false_of_ne same
      simp [code, List.lookup_cons, other]

/-- Replacements in a good order are all made at once. -/
theorem replaceEach_eq (ordered : Ordered replacements) (s : List α) :
    replaceEach replacements s = s.flatMap (code replacements) := by
  induction s with
  | nil => exact replaceEach_absent fun _ _ => List.not_mem_nil
  | cons u s ih =>
    rw [List.flatMap_cons, ← ih, ← replaceEach_unit ordered, ← replaceEach_append]
    rfl

end Replace

/-- A unit of the text of a fragment, or what a tag has between its brackets. -/
inductive Token
  | char (u : UInt16)
  | tag (content : Units)
  deriving DecidableEq

inductive State
  | data
  | tagOpen
  | tag (content : Units) (quoted : Bool)
  | reference (name : Units)
  deriving DecidableEq

def isLetter (u : UInt16) : Bool := (65 ≤ u && u ≤ 90) || (97 ≤ u && u ≤ 122)

/-- The references that are replaced; any other is text as it stands. -/
def references : List (Units × UInt16) :=
  [(units "amp", unit '&'), (units "lt", unit '<'), (units "gt", unit '>'),
    (units "quot", unit '"')]

def emit (s : Units) : List Token := s.map .char

/-- The input stream, in which every newline is one line feed: a line feed after a carriage return
is left out. -/
def newlines (returned : Bool) : Units → Units
  | [] => []
  | u :: s =>
    if u = unit '\r' then unit '\n' :: newlines true s
    else if u = unit '\n' ∧ returned then newlines false s
    else u :: newlines false s

/-- One unit of the text outside tags, where U+0000 is ignored. -/
def feedData (u : UInt16) : State × List Token :=
  if u = unit '<' then (.tagOpen, [])
  else if u = unit '&' then (.reference [], [])
  else if u = 0 then (.data, [])
  else (.data, [.char u])

def feed (u : UInt16) : State → State × List Token
  | .data => feedData u
  | .tagOpen =>
    if isLetter u || u == unit '/' then (.tag [u] false, [])
    else ((feedData u).1, .char (unit '<') :: (feedData u).2)
  | .tag content quoted =>
    if u = unit '>' ∧ quoted = false then (.data, [.tag content])
    else (.tag (content ++ [if u = 0 then 0xFFFD else u]) (quoted ^^ (u == unit '"')), [])
  | .reference name =>
    if isLetter u then (.reference (name ++ [u]), [])
    else if u = unit ';' then
      (.data, match references.lookup name with
        | some c => [.char c]
        | none => emit (unit '&' :: name ++ [u]))
    else ((feedData u).1, emit (unit '&' :: name) ++ (feedData u).2)

def run (q : State) : Units → State × List Token
  | [] => (q, [])
  | u :: s =>
    let next := feed u q
    let rest := run next.1 s
    (rest.1, next.2 ++ rest.2)

/-- The tokens of a whole fragment; one that ends in a tag or a reference is not taken. -/
def tokens (s : Units) : Option (List Token) :=
  match run .data (newlines false s) with
  | (.data, tokens) => some tokens
  | _ => none

/-- A text as the reader shows it. -/
def shown (s : Units) : Units := (newlines false s).filter (· != 0)

/-- The replacements that make a text of markup, in their order. -/
def escapes : List (UInt16 × Units) :=
  [(unit '&', units "&amp;"), (unit '<', units "&lt;"), (unit '>', units "&gt;"),
    (unit '"', units "&quot;")]

section Tokens

variable {s t : Units} {u : UInt16} {q : State}

theorem run_append (q : State) (s t : Units) : run q (s ++ t) =
    ((run (run q s).1 t).1, (run q s).2 ++ (run (run q s).1 t).2) := by
  induction s generalizing q with
  | nil => rfl
  | cons u s ih => simp only [List.cons_append, run, ih, List.append_assoc]

/-- From text to text again. -/
theorem run_data (closed : (run .data s).1 = .data) : run .data (s ++ t) =
    ((run .data t).1, (run .data s).2 ++ (run .data t).2) := by
  rw [run_append, closed]

theorem escapes_ordered : Ordered escapes := by
  unfold Ordered
  decide

theorem code_other (other : u ∉ escapes.map Prod.fst) : code escapes u = [u] := by
  have absent : escapes.lookup u = none := by
    rw [List.lookup_eq_none_iff]
    intro r inside
    apply bne_iff_ne.mpr
    rintro rfl
    exact other (List.mem_map_of_mem inside)
  rw [code, absent]
  rfl

theorem escape_cases (u : UInt16) : u ∉ escapes.map Prod.fst ∨
    u = unit '&' ∨ u = unit '<' ∨ u = unit '>' ∨ u = unit '"' := by
  by_cases other : u ∉ escapes.map Prod.fst
  · exact .inl other
  · rw [not_not] at other
    exact .inr (by simpa [escapes] using other)

/-- What one unit becomes is read back as this unit. -/
theorem run_code (u : UInt16) :
    run .data (code escapes u) = (.data, emit ([u].filter (· != 0))) := by
  rcases escape_cases u with other | rfl | rfl | rfl | rfl
  · have less : u ≠ unit '<' := by
      rintro rfl
      exact other (by decide)
    have ampersand : u ≠ unit '&' := by
      rintro rfl
      exact other (by decide)
    rw [code_other other]
    by_cases null : u = 0
    · subst null
      decide
    · simp [run, feed, feedData, less, ampersand, null, emit]
  all_goals decide

/-- An escaped text is read back as it was. -/
theorem run_escaped (s : Units) :
    run .data (replaceEach escapes s) = (.data, emit (s.filter (· != 0))) := by
  rw [replaceEach_eq escapes_ordered]
  induction s with
  | nil => rfl
  | cons u s ih =>
    have parts : (u :: s).filter (· != 0) = [u].filter (· != 0) ++ s.filter (· != 0) :=
      List.filter_append [u] s
    rw [List.flatMap_cons, run_data (by rw [run_code]), run_code, ih, parts, emit, emit, emit,
      List.map_append]

/-- A unit that is no part of markup, and is shown as it is. -/
def Plain (u : UInt16) : Prop := u ∉ unit '\r' :: 0 :: escapes.map Prod.fst

instance (u : UInt16) : Decidable (Plain u) := inferInstanceAs (Decidable (_ ∉ _))

theorem plain_of_all (all : s.all (fun u => decide (Plain u)) = true) : ∀ u ∈ s, Plain u := by
  simpa using all

theorem Plain.other (plain : Plain u) : u ∉ escapes.map Prod.fst :=
  fun inside => plain (.tail _ (.tail _ inside))

theorem replaceEach_plain (plain : ∀ u ∈ s, Plain u) : replaceEach escapes s = s := by
  rw [replaceEach_eq escapes_ordered]
  induction s with
  | nil => rfl
  | cons u s ih =>
    rw [List.flatMap_cons, code_other (plain u List.mem_cons_self).other,
      ih fun v inside => plain v (List.mem_cons_of_mem u inside)]
    rfl

/-- Before what does not begin with a line feed it does not matter whether a return came. -/
theorem newlines_start (apart : s.head? ≠ some (unit '\n')) (returned : Bool) :
    newlines returned s = newlines false s := by
  cases s with
  | nil => rfl
  | cons u s =>
    have other : u ≠ unit '\n' := fun same => apart (congrArg some same)
    simp [newlines, other]

/-- Without a return the newlines stand as they are. -/
theorem newlines_append (clean : unit '\r' ∉ s) (t : Units) :
    newlines false (s ++ t) = s ++ newlines false t := by
  induction s with
  | nil => rfl
  | cons u s ih =>
    rw [List.mem_cons, not_or] at clean
    simp [newlines, Ne.symm clean.1, ih clean.2]

theorem newlines_code (u : UInt16) (returned : Bool) (t : Units) :
    newlines returned (code escapes u ++ t) =
      if u = unit '\r' then unit '\n' :: newlines true t
      else if u = unit '\n' ∧ returned then newlines false t
      else code escapes u ++ newlines false t := by
  rcases escape_cases u with other | rfl | rfl | rfl | rfl
  · rw [code_other other]
    rfl
  all_goals cases returned <;> rfl

/-- The newlines of an escaped text are those of the text. -/
theorem newlines_escaped (s : Units) {t : Units} (apart : t.head? ≠ some (unit '\n'))
    (returned : Bool) : newlines returned (replaceEach escapes s ++ t) =
      replaceEach escapes (newlines returned s) ++ newlines false t := by
  rw [replaceEach_eq escapes_ordered, replaceEach_eq escapes_ordered]
  induction s generalizing returned with
  | nil => exact newlines_start apart returned
  | cons u s ih =>
    rw [List.flatMap_cons, List.append_assoc, newlines_code, newlines]
    split
    · rw [ih, List.flatMap_cons, code_other (by decide : unit '\n' ∉ escapes.map Prod.fst)]
      rfl
    · split
      · exact ih false
      · rw [ih, List.flatMap_cons, List.append_assoc]

end Tokens

/-- A part of a template: fixed markup, a hole whose value is escaped, or one that is not. -/
inductive Piece
  | markup (s : Units)
  | escaped (s : Units)
  | bare (s : Units)
  deriving DecidableEq

namespace Piece

def render : Piece → Units
  | .markup s | .bare s => s
  | .escaped s => replaceEach escapes s

/-- What the reader of the template expects of a piece. -/
def meaning : Piece → List Token
  | .markup s => (run .data s).2
  | .escaped s | .bare s => emit (shown s)

/-- Fixed markup leaves no tag open in the middle and has no carriage return, and what is not
escaped needs no escape. -/
def Proper : Piece → Prop
  | .markup s => (run .data s).1 = .data ∧ unit '\r' ∉ s
  | .escaped _ => True
  | .bare s => ∀ u ∈ s, Plain u

instance : (piece : Piece) → Decidable piece.Proper
  | .markup _ => inferInstanceAs (Decidable (_ ∧ _))
  | .escaped _ => inferInstanceAs (Decidable True)
  | .bare s => List.decidableBAll Plain s

theorem proper_markup {s : Units} (closed : (run .data s).1 = .data ∧ unit '\r' ∉ s) :
    (markup s).Proper := closed

/-- A piece in the input stream. -/
def stream : Piece → Units
  | .markup s => s
  | .escaped s | .bare s => replaceEach escapes (newlines false s)

theorem run_stream {piece : Piece} (proper : piece.Proper) :
    run .data piece.stream = (.data, piece.meaning) := by
  cases piece with
  | markup s => exact Prod.ext proper.1 rfl
  | escaped s => exact run_escaped _
  | bare s => exact run_escaped _

def hole : Piece → Option Units
  | .markup _ => none
  | .escaped s | .bare s => some s

/-- What follows a hole does not begin with a line feed. -/
theorem newlines_render {piece : Piece} (proper : piece.Proper) {t : Units}
    (apart : piece.hole.isSome = true → t.head? ≠ some (unit '\n')) :
    newlines false (piece.render ++ t) = piece.stream ++ newlines false t := by
  cases piece with
  | markup s => exact newlines_append proper.2 t
  | escaped s => exact newlines_escaped s (apart rfl) false
  | bare s =>
    rw [render, ← replaceEach_plain proper, newlines_escaped s (apart rfl) false,
      replaceEach_plain proper]
    rfl

end Piece

/-- A template literal. -/
abbrev Template := List Piece

namespace Template

def render (t : Template) : Units := t.flatMap Piece.render

def meaning (t : Template) : List Token := t.flatMap Piece.meaning

def Proper (t : Template) : Prop := ∀ piece ∈ t, piece.Proper

instance (t : Template) : Decidable t.Proper := inferInstanceAs (Decidable (∀ piece ∈ t, _))

end Template

/-- The tags among tokens. -/
def tagsOf (tokens : List Token) : List Units := tokens.filterMap fun
  | .tag content => some content
  | .char _ => none

/-- The name that a tag begins with. -/
def nameOf (content : Units) : Units := content.takeWhile (· != unit ' ')

/-- What is open after the tags, the innermost first. -/
def nest : List Units → List Units → Option (List Units)
  | opened, [] => some opened
  | opened, content :: rest =>
    if content.head? = some (unit '/') then
      match opened with
      | name :: outer => if name = content.tail then nest outer rest else none
      | [] => none
    else nest (nameOf content :: opened) rest

theorem nest_append (opened a b : List Units) :
    nest opened (a ++ b) = (nest opened a).bind fun inner => nest inner b := by
  induction a generalizing opened with
  | nil => rfl
  | cons content a ih =>
    simp only [List.cons_append, nest]
    split
    · cases opened with
      | nil => rfl
      | cons name outer =>
        dsimp only
        split
        · exact ih outer
        · rfl
    · exact ih _

/-- What is open around a fragment stays open. -/
theorem nest_around {opened inner a : List Units} (nested : nest opened a = some inner)
    (outer : List Units) : nest (opened ++ outer) a = some (inner ++ outer) := by
  induction a generalizing opened with
  | nil =>
    cases nested
    rfl
  | cons content a ih =>
    simp only [nest] at nested ⊢
    split at nested
    · rename_i closing
      rw [if_pos closing]
      cases opened with
      | nil => cases nested
      | cons name below =>
        dsimp only [List.cons_append] at nested ⊢
        split at nested
        · rename_i same
          rw [if_pos same]
          exact ih nested
        · cases nested
    · rename_i opens
      rw [if_neg opens]
      exact ih nested

/-- A fragment that is nested by itself changes nothing around it. -/
theorem nest_skip {b : List Units} (nested : nest [] b = some []) (opened a c : List Units) :
    nest opened (a ++ (b ++ c)) = nest opened (a ++ c) := by
  rw [nest_append, nest_append]
  apply Option.bind_congr
  intro inner _
  have around : nest inner b = some inner := by simpa using nest_around nested inner
  rw [nest_append, around]
  rfl

/-- Every element is closed, the inner ones first. -/
def Nested (tokens : List Token) : Prop := nest [] (tagsOf tokens) = some []

/-- The text is all that one of the elements has in it. -/
def Encloses (tokens : List Token) (text : Units) : Prop :=
  ∃ before opening after, opening.head? ≠ some (unit '/') ∧
    tokens = before ++ .tag opening :: (emit text ++ .tag (unit '/' :: nameOf opening) :: after)

theorem tagsOf_append (k l : List Token) : tagsOf (k ++ l) = tagsOf k ++ tagsOf l :=
  List.filterMap_append

@[simp] theorem tagsOf_emit (s : Units) : tagsOf (emit s) = [] := by
  induction s with
  | nil => rfl
  | cons u s ih => exact ih

namespace Piece

def tags : Piece → List Units
  | .markup s => tagsOf (run .data s).2
  | .escaped _ | .bare _ => []

/-- The tag that fixed markup begins with. -/
def first : Piece → Option Units
  | .markup s => match (run .data s).2 with
    | .tag content :: _ => some content
    | _ => none
  | .escaped _ | .bare _ => none

/-- The tag that fixed markup ends with. -/
def last : Piece → Option Units
  | .markup s => match (run .data s).2.getLast? with
    | some (.tag content) => some content
    | _ => none
  | .escaped _ | .bare _ => none

variable {piece : Piece} {text content : Units}

theorem tagsOf_meaning (piece : Piece) : tagsOf piece.meaning = piece.tags := by
  cases piece with
  | markup s => rfl
  | escaped s => exact tagsOf_emit _
  | bare s => exact tagsOf_emit _

theorem meaning_hole (filled : piece.hole = some text) : piece.meaning = emit (shown text) := by
  cases piece <;> cases filled <;> rfl

theorem meaning_first (begins : piece.first = some content) :
    ∃ rest, piece.meaning = .tag content :: rest := by
  cases piece with
  | markup s =>
    simp only [first] at begins
    split at begins
    · rename_i rest ran
      cases begins
      exact ⟨rest, ran⟩
    · cases begins
  | escaped s => cases begins
  | bare s => cases begins

/-- A piece that begins with a tag does not begin with a line feed. -/
theorem first_head (begins : piece.first = some content) (t : Units) :
    (piece.render ++ t).head? ≠ some (unit '\n') := by
  obtain ⟨rest, begins⟩ := meaning_first begins
  cases piece with
  | markup s =>
    cases s with
    | nil => cases begins
    | cons u s =>
      intro newline
      obtain rfl : u = unit '\n' := Option.some.inj newline
      cases begins
  | escaped s =>
    cases text : shown s <;> simp [meaning, text, emit] at begins
  | bare s =>
    cases text : shown s <;> simp [meaning, text, emit] at begins

theorem meaning_last (ends : piece.last = some content) :
    ∃ start, piece.meaning = start ++ [.tag content] := by
  cases piece with
  | markup s =>
    simp only [last] at ends
    split at ends
    · rename_i ran
      cases ends
      exact List.getLast?_eq_some_iff.mp ran
    · cases ends
  | escaped s => cases ends
  | bare s => cases ends

end Piece

/-- A tag that opens an element and the one that closes it. -/
def pair : Option Units → Option Units → Bool
  | some opening, some closing =>
    opening.head? != some (unit '/') && closing == unit '/' :: nameOf opening
  | _, _ => false

/-- Every hole is all of an element; the tag is the one before the template. -/
def Framed : Option Units → Template → Bool
  | _, [] => true
  | opening, piece :: rest =>
    (piece.hole.isNone || pair opening (rest.head?.bind Piece.first)) && Framed piece.last rest

namespace Template

variable {t : Template}

/-- The tags of a template are those of its fixed markup. -/
theorem tagsOf_meaning (t : Template) : tagsOf t.meaning = t.flatMap Piece.tags := by
  induction t with
  | nil => rfl
  | cons piece t ih =>
    rw [meaning, List.flatMap_cons, ← meaning, tagsOf_append, ih, Piece.tagsOf_meaning,
      List.flatMap_cons]

/-- A template is read part by part. -/
theorem nest_take {opened inner : List Units} (t : Template) (i : Nat)
    (first : nest opened ((t.take i).flatMap Piece.tags) = some inner) :
    nest opened (t.flatMap Piece.tags) = nest inner ((t.drop i).flatMap Piece.tags) := by
  have split : t.flatMap Piece.tags =
      (t.take i).flatMap Piece.tags ++ (t.drop i).flatMap Piece.tags := by
    rw [← List.flatMap_append, List.take_append_drop]
  rw [split, nest_append, first]
  rfl

/-- A rendered template is read as the template, whatever its holes hold. -/
theorem tokens_render (proper : t.Proper) {opening : Option Units}
    (framed : Framed opening t = true) : tokens t.render = some t.meaning := by
  have ran : run .data (newlines false t.render) = (.data, t.meaning) := by
    induction t generalizing opening with
    | nil => rfl
    | cons piece t ih =>
      simp only [Framed, Bool.and_eq_true, Bool.or_eq_true] at framed
      have first := Piece.run_stream (proper piece List.mem_cons_self)
      have proper' : Proper t := fun other inside =>
        proper other (List.mem_cons_of_mem piece inside)
      have rest := ih proper' framed.2
      rw [render, List.flatMap_cons, ← render,
        Piece.newlines_render (proper piece List.mem_cons_self), run_data (by rw [first]), first,
        rest]
      · rfl
      · -- the tag that closes the element of the hole comes next
        intro filled
        have pairs := framed.1.resolve_left (by simp [Option.isSome_iff_ne_none.mp filled])
        cases t with
        | nil => simp [pair] at pairs
        | cons next t =>
          cases begins : next.first with
          | none => simp [begins, pair] at pairs
          | some closing => exact Piece.first_head begins _
  rw [tokens, ran]

theorem encloses_hole {before : List Token} {opening : Option Units}
    (ends : ∀ content, opening = some content → ∃ start, before = start ++ [.tag content])
    (framed : Framed opening t = true) {text : Units} (inside : text ∈ t.filterMap Piece.hole) :
    Encloses (before ++ t.meaning) (shown text) := by
  induction t generalizing before opening with
  | nil => cases inside
  | cons piece rest ih =>
    simp only [Framed, Bool.and_eq_true, Bool.or_eq_true] at framed
    obtain ⟨here, later⟩ := framed
    rw [meaning, List.flatMap_cons, ← meaning]
    by_cases filled : piece.hole = some text
    · -- the tags around the hole
      rw [filled, Option.isNone_some] at here
      have pairs := here.resolve_left Bool.false_ne_true
      cases opening with
      | none => cases pairs
      | some opening =>
        cases rest with
        | nil => cases pairs
        | cons next rest =>
          cases begins : next.first with
          | none => simp [begins, pair] at pairs
          | some closing =>
            simp only [List.head?_cons, Option.bind_some, begins, pair, Bool.and_eq_true,
              bne_iff_ne, beq_iff_eq] at pairs
            obtain ⟨opens, rfl⟩ := pairs
            obtain ⟨start, rfl⟩ := ends opening rfl
            obtain ⟨after, begins⟩ := Piece.meaning_first begins
            refine ⟨start, opening, after ++ Template.meaning rest, opens, ?_⟩
            simp [meaning, Piece.meaning_hole filled, begins]
    · have inside : text ∈ rest.filterMap Piece.hole := by
        rw [List.filterMap_cons] at inside
        split at inside
        · exact inside
        · rename_i value same
          rcases List.mem_cons.mp inside with rfl | inside
          · exact absurd same filled
          · exact inside
      rw [← List.append_assoc]
      apply ih _ later inside
      intro content last
      obtain ⟨start, ends⟩ := Piece.meaning_last last
      exact ⟨before ++ start, by rw [ends, List.append_assoc]⟩

/-- A template that takes any texts in its holes. -/
structure Sound (t : Template) : Prop where
  proper : t.Proper
  nested : nest [] (t.flatMap Piece.tags) = some []
  framed : Framed none t = true

/-- A string is read with these tags, nested, and with each text, as it is shown, as all of an
element. -/
def Reads (s : Units) (tags texts : List Units) : Prop :=
  ∃ read, tokens s = some read ∧ tagsOf read = tags ∧ Nested read ∧
    ∀ text ∈ texts, Encloses read (shown text)

theorem Sound.reads (sound : t.Sound) :
    Reads t.render (t.flatMap Piece.tags) (t.filterMap Piece.hole) := by
  refine ⟨t.meaning, tokens_render sound.proper sound.framed, tagsOf_meaning t, ?_, ?_⟩
  · rw [Nested, tagsOf_meaning]
    exact sound.nested
  · intro text inside
    have alone : Encloses ([] ++ t.meaning) (shown text) := by
      apply encloses_hole _ sound.framed inside
      intro content absent
      cases absent
    exact alone

end Template

end Markup
