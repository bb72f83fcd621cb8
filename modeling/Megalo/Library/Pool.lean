import Mathlib.Data.List.Nodup

/-! A pool of objects that are made once and lent out again and again. An object is known by the
number in which it was made, so that a list that holds a number twice holds one object twice. -/
namespace Pool

/-- Every object made is in one of the two lists, and there once. -/
def Whole (lent free : List Nat) (made : Nat) : Prop :=
  ∀ n, (lent ++ free).count n = if n < made then 1 else 0

variable {lent free lent' free' : List Nat} {made n : Nat}

theorem Whole.empty : Whole [] [] 0 := fun _ => rfl

theorem Whole.perm (whole : Whole lent free made) (perm : (lent' ++ free').Perm (lent ++ free)) :
    Whole lent' free' made := by
  intro n
  rw [perm.count_eq n]
  exact whole n

theorem Whole.nodup (whole : Whole lent free made) : (lent ++ free).Nodup := by
  rw [List.nodup_iff_count_le_one]
  intro n
  rw [whole n]
  split <;> decide

theorem Whole.lent_nodup (whole : Whole lent free made) : lent.Nodup :=
  (List.nodup_append.mp whole.nodup).1

theorem Whole.apart (whole : Whole lent free made) (isLent : n ∈ lent) : n ∉ free :=
  fun isFree => (List.nodup_append.mp whole.nodup).2.2 n isLent n isFree rfl

theorem Whole.not_made (whole : Whole lent free made) : made ∉ lent ++ free := by
  rw [← List.count_eq_zero, whole made, if_neg (Nat.lt_irrefl made)]

/-- The object given back last is lent first. -/
theorem Whole.take (whole : Whole lent (free ++ [n]) made) : Whole (lent ++ [n]) free made := by
  refine whole.perm ?_
  rw [List.append_assoc]
  exact List.perm_append_comm.append_left lent

theorem Whole.make (whole : Whole lent free made) : Whole (lent ++ [made]) free (made + 1) := by
  intro n
  have added : (lent ++ [made] ++ free).Perm (made :: (lent ++ free)) := by
    rw [List.append_assoc]
    exact List.perm_middle
  rw [added.count_eq n, List.count_cons, whole n]
  by_cases new : n = made
  · subst n
    rw [if_neg (Nat.lt_irrefl made), if_pos (Nat.lt_succ_self made), beq_self_eq_true, if_pos rfl]
  · have other : (made == n) = false := beq_false_of_ne fun same => new same.symm
    have below : n < made + 1 ↔ n < made := by omega
    simp only [other, below, Bool.false_eq_true, if_false, Nat.add_zero]

theorem Whole.release (whole : Whole lent free made) (isLent : n ∈ lent) :
    Whole (lent.erase n) (free ++ [n]) made := by
  refine whole.perm ?_
  have back : (n :: lent.erase n ++ free).Perm (lent ++ free) :=
    (List.perm_cons_erase isLent).symm.append_right free
  rw [← List.append_assoc]
  exact List.perm_append_comm.trans back

end Pool
