import Megalo.Library.System
import Mathlib.Algebra.BigOperators.Group.List.Basic
import Mathlib.Algebra.Group.Int.Defs
import Mathlib.Tactic.Ring

/-! Any number of threads over one shared state, moving one at a time in any order,
and the two rules that carry an invariant over such a run: each thread's assertion is
kept by its own moves and by the others', and a sum over the threads moves by one term. -/
namespace Transition

/-- A thread moves by itself on the shared state; what is outside the threads moves too. -/
structure Composite (G L I E : Type*) where
  starts : G → L → Bool
  move : Nat → I → G → L → Option (G × L)
  outside : E → G → Option G

structure Config (G L : Type*) where
  shared : G
  threads : List L

inductive Turn (L I E : Type*)
  | start (l : L)
  | run (i : Nat) (input : I)
  | outside (e : E)

/-- The turn is one of the thread's own moves. -/
def Turn.isRun {L I E : Type*} (n : Nat) : Turn L I E → Bool
  | .run i _ => i == n
  | _ => false

namespace Composite

variable {G L I E : Type*} (c : Composite G L I E)

def step (s : Config G L) : Turn L I E → Option (Config G L)
  | .start l => if c.starts s.shared l then some ⟨s.shared, s.threads ++ [l]⟩ else none
  | .run i input => s.threads[i]?.bind fun l =>
    (c.move i input s.shared l).map fun moved => ⟨moved.1, s.threads.set i moved.2⟩
  | .outside e => (c.outside e s.shared).map fun g => ⟨g, s.threads⟩

def system : System (Config G L) (Turn L I E) := ⟨c.step⟩

inductive Took (s : Config G L) : Turn L I E → Config G L → Prop
  | start {l : L} (starts : c.starts s.shared l = true) :
      Took s (.start l) ⟨s.shared, s.threads ++ [l]⟩
  | run {i : Nat} {input : I} {l l' : L} {g : G} (found : s.threads[i]? = some l)
      (moved : c.move i input s.shared l = some (g, l')) :
      Took s (.run i input) ⟨g, s.threads.set i l'⟩
  | outside {e : E} {g : G} (moved : c.outside e s.shared = some g) :
      Took s (.outside e) ⟨g, s.threads⟩

variable {c} {s s' : Config G L} {a : Turn L I E}

theorem took_of_step (taken : c.step s a = some s') : c.Took s a s' := by
  cases a with
  | start l =>
    simp only [step, Option.ite_none_right_eq_some, Option.some.injEq] at taken
    obtain ⟨starts, rfl⟩ := taken
    exact .start starts
  | run i input =>
    simp only [step, Option.bind_eq_some_iff, Option.map_eq_some_iff] at taken
    obtain ⟨l, found, ⟨g, l'⟩, moved, rfl⟩ := taken
    exact .run found moved
  | outside e =>
    simp only [step, Option.map_eq_some_iff] at taken
    obtain ⟨g, moved, rfl⟩ := taken
    exact .outside moved

theorem getElem?_append_one {ls : List L} {l k : L} {i : Nat}
    (found : (ls ++ [l])[i]? = some k) : ls[i]? = some k ∨ i = ls.length ∧ k = l := by
  obtain ⟨bound, same⟩ := List.getElem?_eq_some_iff.mp found
  by_cases inside : i < ls.length
  · exact .inl (List.getElem?_append_left inside ▸ found)
  · have last : i = ls.length := by
      simp only [List.length_append, List.length_singleton] at bound
      omega
    subst last
    exact .inr ⟨rfl, by simpa using same.symm⟩

theorem getElem?_set_some {ls : List L} {l k : L} {i j : Nat}
    (found : (ls.set i l)[j]? = some k) : j = i ∧ k = l ∨ j ≠ i ∧ ls[j]? = some k := by
  by_cases same : j = i
  · subst same
    obtain ⟨bound, eq⟩ := List.getElem?_eq_some_iff.mp found
    exact .inl ⟨rfl, by simpa using eq.symm⟩
  · exact .inr ⟨same, List.getElem?_set_ne (Ne.symm same) ▸ found⟩

theorem getElem?_append_kept {ls : List L} {l k : L} {i : Nat} (found : ls[i]? = some k) :
    (ls ++ [l])[i]? = some k := by
  rw [List.getElem?_append_left (List.getElem?_eq_some_iff.mp found).1, found]

theorem getElem?_set_kept {ls : List L} {l k : L} {i j : Nat} (found : ls[j]? = some k)
    (other : ls[i]? ≠ some k) : (ls.set i l)[j]? = some k := by
  rw [List.getElem?_set_ne, found]
  rintro rfl
  exact other found

/-- An assertion that every thread's own move keeps and no turn of another breaks. -/
theorem Took.each_kept {P : Nat → G → L → Prop} (took : c.Took s a s')
    (each : ∀ i l, s.threads[i]? = some l → P i s.shared l)
    (starts : ∀ l, a = .start l → c.starts s.shared l = true → P s.threads.length s.shared l)
    (own : ∀ i input l g l', a = .run i input → s.threads[i]? = some l →
      c.move i input s.shared l = some (g, l') → P i s.shared l → P i g l')
    (others : ∀ i l, s.threads[i]? = some l → (∀ input, a ≠ .run i input) →
      P i s.shared l → P i s'.shared l) :
    ∀ i l, s'.threads[i]? = some l → P i s'.shared l := by
  cases took with
  | start ready =>
    intro i k at_i
    rcases getElem?_append_one at_i with old | ⟨rfl, rfl⟩
    · exact each i k old
    · exact starts k rfl ready
  | run found moved =>
    intro j k at_j
    rcases getElem?_set_some at_j with ⟨rfl, rfl⟩ | ⟨other, old⟩
    · exact own _ _ _ _ _ rfl found moved (each _ _ found)
    · refine others j k old (fun input same => ?_) (each j k old)
      cases same
      exact other rfl
  | outside moved => exact fun i k at_i => others i k at_i (fun _ => nofun) (each i k at_i)

/-- A thread whose every move brings a measure down has at most as many moves as it measures. -/
theorem run_bounded (measure : L → Nat)
    (less : ∀ i input g l g' l', c.move i input g l = some (g', l') → measure l' < measure l)
    {as : List (Turn L I E)} {n : Nat} {l : L} (found : s.threads[n]? = some l)
    (ran : c.system.run s as = some s') :
    ∃ l', s'.threads[n]? = some l' ∧ measure l' + as.countP (Turn.isRun n) ≤ measure l := by
  induction as generalizing s l with
  | nil =>
    cases Option.some.inj ran
    exact ⟨l, found, Nat.le_refl _⟩
  | cons a rest ih =>
    obtain ⟨t, taken, ran⟩ := Option.bind_eq_some_iff.mp ran
    have took : c.Took s a t := took_of_step taken
    rw [List.countP_cons]
    cases took with
    | start =>
      obtain ⟨l', after, bound⟩ := ih (getElem?_append_kept found) ran
      exact ⟨l', after, by simpa [Turn.isRun] using bound⟩
    | @run i input k k' g' own moved =>
      by_cases same : i = n
      · subst same
        cases own.symm.trans found
        have inside : i < s.threads.length := (List.getElem?_eq_some_iff.mp found).1
        obtain ⟨l', after, bound⟩ := ih (List.getElem?_set_self inside) ran
        have down := less i input s.shared _ g' k' moved
        refine ⟨l', after, ?_⟩
        simp only [Turn.isRun, beq_self_eq_true, if_true]
        omega
      · obtain ⟨l', after, bound⟩ := ih (by rw [List.getElem?_set_ne same, found]) ran
        exact ⟨l', after, by simpa [Turn.isRun, same] using bound⟩
    | @outside e g moved =>
      obtain ⟨l', after, bound⟩ := ih (s := ⟨g, s.threads⟩) found ran
      exact ⟨l', after, by simpa [Turn.isRun] using bound⟩

theorem sum_set (weight : L → Int) {ls : List L} {i : Nat} {l l' : L} (found : ls[i]? = some l) :
    ((ls.set i l').map weight).sum = (ls.map weight).sum - weight l + weight l' := by
  obtain ⟨bound, rfl⟩ := List.getElem?_eq_some_iff.mp found
  rw [List.map_set, List.sum_set', dif_pos (by simpa using bound), List.getElem_map]
  ring

theorem sum_append_one (weight : L → Int) (ls : List L) (l : L) :
    ((ls ++ [l]).map weight).sum = (ls.map weight).sum + weight l := by
  simp only [List.map_append, List.sum_append, List.map_cons, List.map_nil, List.sum_cons,
    List.sum_nil, add_zero]

end Composite

end Transition
