import Mathlib.Data.List.ReduceOption
import Mathlib.Data.List.Nodup
import Mathlib.Data.List.Perm.Basic

/-! The Map of JavaScript. It is a list of slots in the order in which the keys came; a deleted key
leaves an empty slot, and an iteration goes from slot to slot of the list as it then is. -/

/-- No key stands in two slots. -/
structure JSMap (K V : Type*) where
  slots : List (Option (K × V))
  distinct : (slots.reduceOption.map Prod.fst).Nodup

namespace JSMap

theorem reduceOption_filter {α : Type*} (slots : List (Option α)) (p : α → Bool) :
    (slots.map (Option.filter p)).reduceOption = slots.reduceOption.filter p := by
  induction slots with
  | nil => rfl
  | cons slot rest ih =>
    cases slot with
    | none => simpa using ih
    | some e =>
      by_cases pass : p e = true
      · simp [Option.filter, pass, ih]
      · simp [Option.filter, pass, ih]

theorem reduceOption_none {α β : Type*} (slots : List (Option α)) :
    (slots.map fun _ => (none : Option β)).reduceOption = [] := by
  induction slots with
  | nil => rfl
  | cons slot rest ih => simp

variable {K V : Type*} (m : JSMap K V)

def entries : List (K × V) := m.slots.reduceOption

def keys : List K := m.entries.map Prod.fst

def values : List V := m.entries.map Prod.snd

def empty : JSMap K V := ⟨[], List.nodup_nil⟩

def clear : JSMap K V where
  slots := m.slots.map fun _ => none
  distinct := by
    rw [reduceOption_none]
    exact List.nodup_nil

/-- The values are changed in place. -/
def mapValues (f : K → V → V) : JSMap K V where
  slots := m.slots.map (Option.map fun e => (e.1, f e.1 e.2))
  distinct := by
    rw [List.reduceOption_map, List.map_map]
    exact m.distinct

theorem entries_clear : m.clear.entries = [] := reduceOption_none _

theorem entries_mapValues (f : K → V → V) :
    (m.mapValues f).entries = m.entries.map fun e => (e.1, f e.1 e.2) :=
  List.reduceOption_map

variable [DecidableEq K] (k : K) (v : V)

def get : Option V := (m.entries.find? fun e => e.1 == k).map Prod.snd

def has : Bool := (m.get k).isSome

section Lists

variable {k v} {l : List (K × V)}

theorem find?_eq_some (distinct : (l.map Prod.fst).Nodup) :
    (l.find? fun e => e.1 == k).map Prod.snd = some v ↔ (k, v) ∈ l := by
  induction l with
  | nil => simp
  | cons e rest ih =>
    rw [List.map_cons, List.nodup_cons] at distinct
    by_cases same : e.1 = k
    · subst same
      simp only [List.find?_cons, beq_self_eq_true, Option.map_some, Option.some.injEq,
        List.mem_cons]
      constructor
      · rintro rfl
        exact .inl rfl
      · rintro (equal | inside)
        · rw [← equal]
        · exact absurd (List.mem_map_of_mem inside) distinct.1
    · have other : (e.1 == k) = false := beq_false_of_ne same
      simp only [List.find?_cons, other, ih distinct.2, List.mem_cons]
      constructor
      · exact .inr
      · rintro (rfl | inside)
        · exact absurd rfl same
        · exact inside

theorem perm_filter_ne (distinct : (l.map Prod.fst).Nodup) (member : (k, v) ∈ l) :
    (l.map Prod.snd).Perm (v :: (l.filter fun e => e.1 != k).map Prod.snd) := by
  induction l with
  | nil => cases member
  | cons e rest ih =>
    rw [List.map_cons, List.nodup_cons] at distinct
    rcases List.mem_cons.mp member with rfl | inside
    · have kept : rest.filter (fun e => e.1 != k) = rest := by
        refine List.filter_eq_self.mpr fun e inside => bne_iff_ne.mpr fun same => ?_
        exact distinct.1 (List.mem_map.mpr ⟨e, inside, same⟩)
      simp [kept]
    · have other : e.1 ≠ k := by
        rintro rfl
        exact distinct.1 (List.mem_map.mpr ⟨_, inside, rfl⟩)
      have kept : (e :: rest).filter (fun e => e.1 != k) = e :: rest.filter (fun e => e.1 != k) :=
        List.filter_cons_of_pos (bne_iff_ne.mpr other)
      rw [kept, List.map_cons, List.map_cons]
      exact ((ih distinct.2 inside).cons _).trans (.swap ..)

end Lists

/-- A key that is there keeps its slot. -/
def set : JSMap K V :=
  if there : m.has k = true then
    ⟨m.slots.map (Option.map fun e => if e.1 = k then (k, v) else e), by
      rw [List.reduceOption_map, List.map_map]
      have same : (Prod.fst ∘ fun e : K × V => if e.1 = k then (k, v) else e) = Prod.fst := by
        funext e
        by_cases equal : e.1 = k
        · simp [equal]
        · simp [equal]
      rw [same]
      exact m.distinct⟩
  else
    ⟨m.slots ++ [some (k, v)], by
      rw [List.reduceOption_append, List.map_append]
      refine m.distinct.append (List.nodup_singleton k) ?_
      intro key inside last
      rw [List.mem_singleton.mp last] at inside
      obtain ⟨e, member, rfl⟩ := List.mem_map.mp inside
      have found : m.get e.1 = some e.2 := (find?_eq_some m.distinct).mpr member
      exact there (by rw [has, found]; rfl)⟩

def delete : JSMap K V where
  slots := m.slots.map (Option.filter fun e => e.1 != k)
  distinct := by
    rw [reduceOption_filter]
    exact m.distinct.sublist (List.filter_sublist.map _)

section Reads

variable {m k v} {l : K} {w : V}

theorem get_eq_some : m.get k = some v ↔ (k, v) ∈ m.entries := find?_eq_some m.distinct

theorem get_eq_none : m.get k = none ↔ k ∉ m.keys := by
  rw [Option.eq_none_iff_forall_ne_some]
  constructor
  · intro absent member
    obtain ⟨e, inside, rfl⟩ := List.mem_map.mp member
    exact absent e.2 (get_eq_some.mpr inside)
  · intro absent v found
    exact absent (List.mem_map_of_mem (get_eq_some.mp found))

theorem mem_keys : k ∈ m.keys ↔ ∃ v, m.get k = some v := by
  rw [← Option.isSome_iff_exists, Option.isSome_iff_ne_none, Ne, get_eq_none, not_not]

/-- Two maps with the same entries up to their order. -/
theorem get_congr {n : JSMap K V} (same : ∀ v, (k, v) ∈ m.entries ↔ (k, v) ∈ n.entries) :
    m.get k = n.get k := by
  apply Option.ext
  intro v
  rw [get_eq_some, get_eq_some]
  exact same v

theorem entries_delete : (m.delete k).entries = m.entries.filter fun e => e.1 != k :=
  reduceOption_filter _ _

theorem entries_set_new (new : m.get k = none) : (m.set k v).entries = m.entries ++ [(k, v)] := by
  have absent : ¬ m.has k = true := by rw [has, new]; nofun
  rw [set, dif_neg absent]
  exact List.reduceOption_append _ _

theorem entries_set_old (old : m.get k = some w) :
    (m.set k v).entries = m.entries.map fun e => if e.1 = k then (k, v) else e := by
  have there : m.has k = true := by rw [has, old]; rfl
  rw [set, dif_pos there]
  exact List.reduceOption_map

@[simp] theorem get_delete_self : (m.delete k).get k = none := by
  rw [Option.eq_none_iff_forall_ne_some]
  intro v found
  rw [get_eq_some, entries_delete, List.mem_filter] at found
  exact absurd rfl (bne_iff_ne.mp found.2)

theorem get_delete_ne (other : l ≠ k) : (m.delete k).get l = m.get l := by
  apply get_congr
  intro v
  rw [entries_delete, List.mem_filter]
  exact and_iff_left (bne_iff_ne.mpr other)

@[simp] theorem get_clear : m.clear.get k = none := by
  rw [get, entries_clear]
  rfl

@[simp] theorem get_empty : (empty : JSMap K V).get k = none := rfl

@[simp] theorem get_set_self : (m.set k v).get k = some v := by
  rw [get_eq_some]
  cases found : m.get k with
  | none =>
    rw [entries_set_new found]
    exact List.mem_append_right _ List.mem_cons_self
  | some w =>
    rw [entries_set_old found, List.mem_map]
    exact ⟨(k, w), get_eq_some.mp found, if_pos rfl⟩

theorem get_set_ne (other : l ≠ k) : (m.set k v).get l = m.get l := by
  apply get_congr
  intro u
  cases found : m.get k with
  | none =>
    rw [entries_set_new found, List.mem_append, List.mem_singleton, Prod.mk.injEq]
    exact or_iff_left fun same => other same.1
  | some w =>
    rw [entries_set_old found, List.mem_map]
    constructor
    · rintro ⟨e, inside, same⟩
      by_cases equal : e.1 = k
      · rw [if_pos equal, Prod.mk.injEq] at same
        exact absurd same.1.symm other
      · rw [if_neg equal] at same
        exact same ▸ inside
    · exact fun inside => ⟨(l, u), inside, if_neg other⟩

theorem get_set : (m.set k v).get l = if l = k then some v else m.get l := by
  by_cases same : l = k
  · rw [same, get_set_self, if_pos rfl]
  · rw [get_set_ne same, if_neg same]

theorem get_delete : (m.delete k).get l = if l = k then none else m.get l := by
  by_cases same : l = k
  · rw [same, get_delete_self, if_pos rfl]
  · rw [get_delete_ne same, if_neg same]

theorem get_mapValues (f : K → V → V) : (m.mapValues f).get k = (m.get k).map (f k) := by
  apply Option.ext
  intro u
  rw [get_eq_some, entries_mapValues, List.mem_map, Option.map_eq_some_iff]
  constructor
  · rintro ⟨e, inside, same⟩
    obtain ⟨rfl, rfl⟩ := Prod.mk.inj same
    exact ⟨e.2, get_eq_some.mpr inside, rfl⟩
  · rintro ⟨v, found, rfl⟩
    exact ⟨(k, v), get_eq_some.mp found, rfl⟩

end Reads

section Values

variable {m k v} {w : V}

theorem values_delete (found : m.get k = some v) :
    m.values.Perm (v :: (m.delete k).values) := by
  rw [values, values, entries_delete]
  exact perm_filter_ne m.distinct (get_eq_some.mp found)

theorem values_set_new (new : m.get k = none) : (m.set k v).values = m.values ++ [v] := by
  rw [values, entries_set_new new, List.map_append]
  rfl

/-- A value that is replaced by one of the same image leaves the images as they are. -/
theorem map_values_set_old (old : m.get k = some w) (f : V → W) (same : f v = f w) :
    (m.set k v).values.map f = m.values.map f := by
  rw [values, values, entries_set_old old, List.map_map, List.map_map, List.map_map]
  apply List.map_congr_left
  intro e inside
  by_cases equal : e.1 = k
  · have found : m.get k = some e.2 := get_eq_some.mpr (equal ▸ inside)
    have value : w = e.2 := Option.some.inj (old.symm.trans found)
    simp only [Function.comp_apply, if_pos equal, same, value]
  · simp only [Function.comp_apply, if_neg equal]

end Values

end JSMap
