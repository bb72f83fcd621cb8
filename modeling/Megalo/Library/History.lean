import Mathlib.Data.List.Basic

/-! Histories: what happened, the last first, and what is true of each moment with the moments
before it. Nothing here is about one particular system. -/
namespace History

variable {M : Type*} {P Q : M → List M → Prop} {history later earlier : List M} {moment : M}

/-- Every moment stands in the relation to the moments before it. -/
def Each (P : M → List M → Prop) : List M → Prop
  | [] => True
  | moment :: earlier => P moment earlier ∧ Each P earlier

theorem Each.suffix (each : Each P (later ++ earlier)) : Each P earlier := by
  induction later with
  | nil => exact each
  | cons _ later ih => exact ih each.2

theorem Each.at_split (each : Each P (later ++ moment :: earlier)) : P moment earlier :=
  each.suffix.1

theorem Each.of_mem (each : Each P history) (inside : moment ∈ history) :
    ∃ later earlier, history = later ++ moment :: earlier ∧ P moment earlier := by
  obtain ⟨later, earlier, rfl⟩ := List.append_of_mem inside
  exact ⟨later, earlier, rfl, each.at_split⟩

theorem Each.mono (weaker : ∀ moment earlier, P moment earlier → Q moment earlier)
    (each : Each P history) : Each Q history := by
  induction history with
  | nil => trivial
  | cons moment earlier ih => exact ⟨weaker moment earlier each.1, ih each.2⟩

theorem each_iff : Each P history ↔ ∀ later moment earlier,
    history = later ++ moment :: earlier → P moment earlier := by
  constructor
  · rintro each later moment earlier rfl
    exact each.at_split
  · intro split
    induction history with
    | nil => trivial
    | cons moment earlier ih =>
      refine ⟨split [] moment earlier rfl, ih ?_⟩
      rintro later moment' earlier' rfl
      exact split (moment :: later) moment' earlier' rfl

end History
