import Mathlib.Data.List.AList
import Mathlib.Tactic.Linarith

/-! A keyed store in which every write of a key, and every deletion of a key that is
there, moves the key's stamp. A transaction that watches a key compares stamps. -/
namespace Stamped

structure Store (K V : Type) where
  data : AList (fun _ : K => V)
  stamp : K → Nat

namespace Store

variable {K V : Type} [DecidableEq K] (s : Store K V)

def get (k : K) : Option V := s.data.lookup k

def keys : List K := s.data.keys

def put (k : K) (v : V) : Store K V :=
  ⟨s.data.insert k v, Function.update s.stamp k (s.stamp k + 1)⟩

def drop (k : K) : Store K V :=
  if (s.get k).isSome then ⟨s.data.erase k, Function.update s.stamp k (s.stamp k + 1)⟩ else s

def dropAll (s : Store K V) : List K → Store K V
  | [] => s
  | k :: ks => dropAll (s.drop k) ks

def tally (p : K → V → Bool) : Nat := s.data.entries.countP fun e => p e.1 e.2

variable {s} {k l : K} {v : V}

theorem mem_keys : k ∈ s.keys ↔ ∃ v, s.get k = some v := by
  rw [keys, ← AList.mem_keys, ← AList.lookup_isSome, Option.isSome_iff_exists]
  rfl

@[simp] theorem get_put_self : (s.put k v).get k = some v := AList.lookup_insert s.data

theorem get_put_of_ne (ne : l ≠ k) : (s.put k v).get l = s.get l := AList.lookup_insert_ne ne

@[simp] theorem get_drop_self : (s.drop k).get k = none := by
  unfold drop
  split
  · exact AList.lookup_erase k s.data
  · rename_i absent
    exact Option.not_isSome_iff_eq_none.mp absent

theorem get_drop_of_ne (ne : l ≠ k) : (s.drop k).get l = s.get l := by
  unfold drop
  split
  · exact AList.lookup_erase_ne ne
  · rfl

theorem stamp_put_self : (s.put k v).stamp k = s.stamp k + 1 := Function.update_self ..

theorem stamp_put_of_ne (ne : l ≠ k) : (s.put k v).stamp l = s.stamp l :=
  Function.update_of_ne ne ..

theorem stamp_drop_of_ne (ne : l ≠ k) : (s.drop k).stamp l = s.stamp l := by
  unfold drop
  split
  · exact Function.update_of_ne ne ..
  · rfl

theorem tally_put_new {p : K → V → Bool} (absent : s.get k = none) :
    ((s.put k v).tally p : Int) = s.tally p + if p k v then 1 else 0 := by
  have missing : k ∉ s.data := by
    intro member
    have := AList.lookup_isSome.mpr member
    simp [show s.data.lookup k = none from absent] at this
  rw [tally, put, AList.entries_insert_of_notMem missing, List.countP_cons]
  split <;> simp [tally]

theorem tally_put_old {p : K → V → Bool} {old : V} (present : s.get k = some old) :
    ((s.put k v).tally p : Int) =
      s.tally p - (if p k old then 1 else 0) + if p k v then 1 else 0 := by
  have member : k ∈ s.data := AList.lookup_isSome.mp (by
    rw [show s.data.lookup k = some old from present]; rfl)
  obtain ⟨found, before, after, _, split, erased⟩ := List.exists_of_kerase member
  have same : found = old := by
    have inside : (⟨k, found⟩ : Sigma fun _ : K => V) ∈ s.data.entries := by
      rw [split]
      exact List.mem_append_right _ List.mem_cons_self
    have looked := (List.mem_dlookup_iff s.data.nodupKeys).mpr inside
    exact (Option.some.inj (present.symm.trans (Option.mem_def.mp looked))).symm
  subst same
  have total : (s.tally p : Int) =
      before.countP (fun e => p e.1 e.2) + after.countP (fun e => p e.1 e.2) +
        if p k found then 1 else 0 := by
    rw [tally, split, List.countP_append, List.countP_cons]
    split_ifs <;> push_cast <;> omega
  rw [total, tally, put, AList.entries_insert, List.countP_cons, erased, List.countP_append]
  split_ifs <;> simp

theorem tally_eq_zero {p : K → V → Bool} (fails : ∀ k v, s.get k = some v → p k v = false) :
    s.tally p = 0 := by
  refine List.countP_eq_zero.mpr fun e member => ?_
  have got : s.get e.1 = some e.2 := List.mem_dlookup_iff s.data.nodupKeys |>.mpr member
  simp [fails e.1 e.2 got]

section Later

/-- What holds of a store and any store that later writes make of it: a stamp that has
not moved vouches for the value. -/
def Later (s t : Store K V) : Prop :=
  ∀ k, s.stamp k ≤ t.stamp k ∧ (t.stamp k = s.stamp k → t.get k = s.get k)

variable {t u : Store K V}

theorem Later.refl : Later s s := fun _ => ⟨Nat.le_refl _, fun _ => rfl⟩

theorem Later.trans (first : Later s t) (second : Later t u) : Later s u := by
  intro k
  obtain ⟨le, same⟩ := first k
  obtain ⟨le', same'⟩ := second k
  refine ⟨Nat.le_trans le le', fun unmoved => ?_⟩
  have middle : t.stamp k = s.stamp k := Nat.le_antisymm (unmoved ▸ le') le
  exact (same' (unmoved.trans middle.symm)).trans (same middle)

theorem later_put : Later s (s.put k v) := by
  intro l
  by_cases same : l = k
  · subst same
    rw [stamp_put_self]
    exact ⟨Nat.le_succ _, fun unmoved => absurd unmoved (Nat.succ_ne_self _)⟩
  · rw [stamp_put_of_ne same, get_put_of_ne same]
    exact ⟨Nat.le_refl _, fun _ => rfl⟩

theorem stamp_drop_self (present : (s.get k).isSome = true) :
    (s.drop k).stamp k = s.stamp k + 1 := by
  rw [drop, if_pos present]
  exact Function.update_self ..

theorem later_drop : Later s (s.drop k) := by
  intro l
  by_cases same : l = k
  · subst same
    by_cases present : (s.get l).isSome = true
    · rw [stamp_drop_self present]
      exact ⟨Nat.le_succ _, fun unmoved => absurd unmoved (Nat.succ_ne_self _)⟩
    · rw [drop, if_neg present]
      exact ⟨Nat.le_refl _, fun _ => rfl⟩
  · rw [stamp_drop_of_ne same, get_drop_of_ne same]
    exact ⟨Nat.le_refl _, fun _ => rfl⟩

theorem later_dropAll (ks : List K) : Later s (s.dropAll ks) := by
  induction ks generalizing s with
  | nil => exact .refl
  | cons k ks ih => exact later_drop.trans ih

theorem get_dropAll (ks : List K) : (s.dropAll ks).get l = if l ∈ ks then none else s.get l := by
  induction ks generalizing s with
  | nil => rfl
  | cons k ks ih =>
    have split : (s.drop k).get l = if l = k then none else s.get l := by
      by_cases same : l = k
      · rw [if_pos same, same, get_drop_self]
      · rw [if_neg same, get_drop_of_ne same]
    rw [dropAll, ih, split]
    by_cases same : l = k <;> by_cases later : l ∈ ks <;> simp [same, later]

theorem stamp_dropAll {ks : List K} (present : (s.get k).isSome = true) (named : k ∈ ks) :
    (s.dropAll ks).stamp k = s.stamp k + 1 := by
  have absent : ∀ (ks : List K) {s : Store K V}, s.get k = none →
      (s.dropAll ks).stamp k = s.stamp k := by
    intro ks
    induction ks with
    | nil => exact fun _ => rfl
    | cons l ks ih =>
      intro s none
      by_cases same : l = k
      · subst same
        rw [dropAll, drop, if_neg (by simp [none]), ih none]
      · have other : k ≠ l := Ne.symm same
        rw [dropAll, ih (by rw [get_drop_of_ne other, none]), stamp_drop_of_ne other]
  induction ks generalizing s with
  | nil => cases named
  | cons l ks ih =>
    by_cases same : l = k
    · subst same
      rw [dropAll, absent ks get_drop_self, stamp_drop_self present]
    · have other : k ≠ l := Ne.symm same
      rw [dropAll, ih (by rwa [get_drop_of_ne other]) ((List.mem_cons.mp named).resolve_left other),
        stamp_drop_of_ne other]

/-- A reader that compares stamps at the end of its transaction saw this value. -/
def Saw (s : Store K V) (k : K) (stamp : Nat) (v : V) : Prop :=
  stamp ≤ s.stamp k ∧ (s.stamp k = stamp → s.get k = some v)

theorem Saw.later {n : Nat} (saw : Saw s k n v) (later : Later s t) : Saw t k n v := by
  obtain ⟨le, same⟩ := later k
  refine ⟨Nat.le_trans saw.1 le, fun unmoved => ?_⟩
  have before : s.stamp k = n := Nat.le_antisymm (unmoved ▸ le) saw.1
  exact (same (unmoved.trans before.symm)).trans (saw.2 before)

theorem saw_of_get {n : Nat} (watched : n ≤ s.stamp k) (got : s.get k = some v) : Saw s k n v :=
  ⟨watched, fun _ => got⟩

end Later

end Store

end Stamped
