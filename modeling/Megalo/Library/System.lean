import Mathlib.Logic.Function.Basic

/-! Guarded transition systems. One executable step function serves replay and
proof: a run is a list of actions, and a condition on steps cuts out the runs
whose every step meets it. Nothing here is about one particular system. -/
namespace Transition

/-- An action that is not enabled has no next state. -/
structure System (S A : Type*) where
  step : S → A → Option S

namespace System

variable {S A : Type*} (sys : System S A) {ok ok' : S → A → Prop} {s t u : S} {a : A}

def run (s : S) : List A → Option S
  | [] => some s
  | a :: rest => (sys.step s a).bind fun t => run t rest

/-- Every step of the replay meets the condition in the state it starts from. -/
def Meets (ok : S → A → Prop) (s : S) : List A → Prop
  | [] => True
  | a :: rest => ok s a ∧ ∀ t, sys.step s a = some t → Meets ok t rest

/-- What holds in every state of the replay. -/
def Throughout (P : S → Prop) (s : S) : List A → Prop
  | [] => P s
  | a :: rest => P s ∧ ∀ t, sys.step s a = some t → Throughout P t rest

/-- The states reached by enabled steps that all meet the condition. -/
inductive ReachableVia (ok : S → A → Prop) (s : S) : S → Prop where
  | start : ReachableVia ok s s
  | step {t u : S} {a : A} (reached : ReachableVia ok s t) (met : ok t a)
      (taken : sys.step t a = some u) : ReachableVia ok s u

abbrev Reachable (s t : S) : Prop := sys.ReachableVia (fun _ _ => True) s t

variable {sys}

theorem ReachableVia.trans (first : sys.ReachableVia ok s t) (second : sys.ReachableVia ok t u) :
    sys.ReachableVia ok s u := by
  induction second with
  | start => exact first
  | step _ met taken ih => exact .step ih met taken

theorem ReachableVia.mono (weaker : ∀ t a, ok t a → ok' t a)
    (reached : sys.ReachableVia ok s t) : sys.ReachableVia ok' s t := by
  induction reached with
  | start => exact .start
  | step _ met taken ih => exact .step ih (weaker _ _ met) taken

theorem ReachableVia.reachable (reached : sys.ReachableVia ok s t) : sys.Reachable s t :=
  reached.mono fun _ _ _ => trivial

/-- The induction every safety theorem uses: holds at the start, kept by a step. -/
theorem ReachableVia.invariant {I : S → Prop} (initial : I s)
    (kept : ∀ t a u, I t → ok t a → sys.step t a = some u → I u)
    (reached : sys.ReachableVia ok s t) : I t := by
  induction reached with
  | start => exact initial
  | step _ met taken ih => exact kept _ _ _ ih met taken

/-- The same induction on top of an invariant already known of these states. -/
theorem ReachableVia.invariant_given {J I : S → Prop}
    (known : ∀ t, sys.ReachableVia ok s t → J t) (initial : I s)
    (kept : ∀ t a u, J t → J u → I t → ok t a → sys.step t a = some u → I u)
    (reached : sys.ReachableVia ok s t) : I t := by
  induction reached with
  | start => exact initial
  | step earlier met taken ih =>
    exact kept _ _ _ (known _ earlier) (known _ (.step earlier met taken)) ih met taken

/-- A view of the state under which every step is a step of another system or nothing: what is
reached is reached there too. -/
theorem ReachableVia.view {S' A' : Type*} {sys' : System S' A'} {f : S → S'}
    (each : ∀ t a u, sys.step t a = some u → f u = f t ∨ ∃ b, sys'.step (f t) b = some (f u))
    (reached : sys.ReachableVia ok s t) : sys'.Reachable (f s) (f t) := by
  induction reached with
  | start => exact .start
  | step _ _ taken ih =>
    rcases each _ _ _ taken with same | ⟨b, moved⟩
    · rw [same]
      exact ih
    · exact .step ih trivial moved

/-- A part of another system: what the part reaches, the whole reaches with it. -/
theorem ReachableVia.embed {S' A' : Type*} (sys' : System S' A') (via : S' → A' → Prop)
    (f : S → S') (each : ∀ t a u, ok t a → sys.step t a = some u →
      ∃ b, via (f t) b ∧ sys'.step (f t) b = some (f u))
    (reached : sys.ReachableVia ok s t) : sys'.ReachableVia via (f s) (f t) := by
  induction reached with
  | start => exact .start
  | step _ met taken ih =>
    obtain ⟨b, allowed, moved⟩ := each _ _ _ met taken
    exact .step ih allowed moved

/-- While a measure can be brought down the goal is ahead. -/
theorem ReachableVia.descend {J P : S → Prop} (measure : S → Nat)
    (each : ∀ t, J t → ¬ P t → ∃ a u, ok t a ∧ sys.step t a = some u ∧ J u ∧
      measure u < measure t) (initial : J s) : ∃ t, sys.ReachableVia ok s t ∧ J t ∧ P t := by
  induction left : measure s using Nat.strongRecOn generalizing s with
  | ind n ih =>
    by_cases arrived : P s
    · exact ⟨s, .start, initial, arrived⟩
    · obtain ⟨a, u, met, taken, kept, less⟩ := each s initial arrived
      obtain ⟨t, reached, holds, goal⟩ := ih _ (left ▸ less) kept rfl
      exact ⟨t, ReachableVia.trans (.step .start met taken) reached, holds, goal⟩

theorem run_append (s : S) (as bs : List A) :
    sys.run s (as ++ bs) = (sys.run s as).bind fun t => sys.run t bs := by
  induction as generalizing s with
  | nil => rfl
  | cons a rest ih =>
    simp only [List.cons_append, run, Option.bind_assoc]
    exact congrArg _ (funext fun t => ih t)

theorem run_reachableVia {as : List A} (ran : sys.run s as = some t)
    (met : sys.Meets ok s as) : sys.ReachableVia ok s t := by
  induction as generalizing s with
  | nil =>
    cases Option.some.inj ran
    exact .start
  | cons a rest ih =>
    obtain ⟨u, taken, ran⟩ := Option.bind_eq_some_iff.mp ran
    exact ReachableVia.trans (.step .start met.1 taken) (ih ran (met.2 u taken))

theorem meets_of_forall {as : List A} (all : ∀ a ∈ as, ∀ s, ok s a) (s : S) :
    sys.Meets ok s as := by
  induction as generalizing s with
  | nil => trivial
  | cons a rest ih =>
    exact ⟨all a List.mem_cons_self s, fun t _ => ih (fun b hb => all b (.tail _ hb)) t⟩

/-- A flag that a step raises exactly when it fails a test: at the end of a run it says
whether every step passed. -/
theorem run_raises {J P : S → Prop}
    (kept : ∀ s a t, J s → ok s a → sys.step s a = some t → J t)
    (raises : ∀ s a t, J s → ok s a → sys.step s a = some t → (P t ↔ P s ∨ ¬ ok' s a))
    {as : List A} (initial : J s) (met : sys.Meets ok s as) (ran : sys.run s as = some t) :
    P t ↔ P s ∨ ¬ sys.Meets ok' s as := by
  induction as generalizing s with
  | nil =>
    cases Option.some.inj ran
    simp only [Meets, not_true_eq_false, or_false]
  | cons a rest ih =>
    obtain ⟨u, taken, ran⟩ := Option.bind_eq_some_iff.mp ran
    have after : (∀ v, sys.step s a = some v → sys.Meets ok' v rest) ↔ sys.Meets ok' u rest := by
      simp only [taken, Option.some.injEq, forall_eq']
    rw [ih (kept s a u initial met.1 taken) (met.2 u taken) ran,
      raises s a u initial met.1 taken, Meets, after, not_and_or, or_assoc]

/-- A property that a step keeps exactly when it passes a test holds throughout the runs
whose steps all pass. -/
theorem throughout_iff {J P : S → Prop}
    (step : ∀ s a t, J s → P s → sys.step s a = some t → J t ∧ (P t ↔ ok s a)) {as : List A}
    (initial : J s) (holds : P s) (ran : sys.run s as = some t) :
    sys.Throughout P s as ↔ sys.Meets ok s as := by
  induction as generalizing s with
  | nil => exact iff_of_true holds trivial
  | cons a rest ih =>
    obtain ⟨u, taken, ran⟩ := Option.bind_eq_some_iff.mp ran
    obtain ⟨after, next⟩ := step s a u initial holds taken
    simp only [Throughout, Meets, taken, Option.some.injEq, forall_eq', holds, true_and]
    constructor
    · intro always
      have landed : P u := by
        cases rest with
        | nil => exact always
        | cons b rest => exact always.1
      exact ⟨next.mp landed, (ih after landed ran).mp always⟩
    · intro ⟨passed, rest_meets⟩
      exact (ih after (next.mpr passed) ran).mpr rest_meets

theorem run_passes (as : List A) (p : S → Bool) (passes : (sys.run s as).any p = true) :
    ∃ t, sys.run s as = some t ∧ p t = true := by
  cases ran : sys.run s as with
  | none => simp [ran] at passes
  | some t => exact ⟨t, rfl, by simpa [ran] using passes⟩

def check (sys : System S A) (ok : S → A → Bool) (s : S) : List A → Bool
  | [] => true
  | a :: rest => ok s a && (sys.step s a).all fun t => check sys ok t rest

theorem meets_of_check {test : S → A → Bool} {as : List A} (checked : sys.check test s as = true) :
    sys.Meets (fun t a => test t a = true) s as := by
  induction as generalizing s with
  | nil => trivial
  | cons a rest ih =>
    simp only [check, Bool.and_eq_true] at checked
    refine ⟨checked.1, fun t taken => ih ?_⟩
    simpa only [taken, Option.all_some] using checked.2

theorem run_reachable {as : List A} (ran : sys.run s as = some t) : sys.Reachable s t :=
  run_reachableVia ran (meets_of_forall (fun _ _ _ => trivial) s)

end System

section Update

variable {K V : Type*} [DecidableEq K] {f : K → V} {k l : K} {v w : V}

theorem update_cases (found : Function.update f k v l = w) :
    l = k ∧ v = w ∨ l ≠ k ∧ f l = w := by
  by_cases same : l = k
  · subst same
    exact .inl ⟨rfl, by rwa [Function.update_self] at found⟩
  · exact .inr ⟨same, by rwa [Function.update_of_ne same] at found⟩

theorem update_kept (found : f l = w) (other : f k ≠ w) : Function.update f k v l = w := by
  rw [Function.update_of_ne, found]
  rintro rfl
  exact other found

end Update

end Transition
