import Megalo.Domain
import Mathlib.Data.List.Infix

/-! The key layout of libs/infra/redis/redis.go and the patterns of KEYS. -/
namespace Megalo.Redis

def activeSessionKey : String := "session:active"

def sessionMetaKey (sessionID : String) : String := "session:" ++ sessionID ++ ":meta"

def sessionMetricsKey (sessionID : String) : String := "session:" ++ sessionID ++ ":metrics"

/-- The key of PublishEvent, with event.CreatedAt.UnixNano(). -/
def sessionEventKey (sessionID : String) (createdAt : Int) : String :=
  "session:" ++ sessionID ++ ":event:" ++ toString createdAt

def sessionSlaveKey (sessionID slaveID : String) : String :=
  "session:" ++ sessionID ++ ":slave:" ++ slaveID

def sessionSlavePattern (sessionID : String) : String := "session:" ++ sessionID ++ ":slave:*"

/-- The patterns of KEYS, less the bracket classes: no pattern here has one. -/
def glob : List Char → List Char → Bool
  | [], s => s.isEmpty
  | '*' :: p, s => s.tails.any (glob p)
  | '?' :: p, s => match s with
    | [] => false
    | _ :: s => glob p s
  | '\\' :: c :: p, s => match s with
    | [] => false
    | d :: s => c == d && glob p s
  | c :: p, s => match s with
    | [] => false
    | d :: s => c == d && glob p s

def Plain (c : Char) : Prop := c ≠ '*' ∧ c ≠ '?' ∧ c ≠ '\\'

theorem glob_plain {c : Char} (plain : Plain c) (p : List Char) (d : Char) (s : List Char) :
    glob (c :: p) (d :: s) = (c == d && glob p s) := by
  obtain ⟨star, mark, escape⟩ := plain
  rw [glob.eq_def]
  split <;> simp_all

theorem glob_plain_nil {c : Char} (plain : Plain c) (p : List Char) :
    glob (c :: p) [] = false := by
  obtain ⟨star, mark, escape⟩ := plain
  rw [glob.eq_def]
  split <;> simp_all

theorem glob_star {p : List Char} (plain : ∀ c ∈ p, Plain c) (s : List Char) :
    glob (p ++ ['*']) s = true ↔ p <+: s := by
  induction p generalizing s with
  | nil =>
    simp only [List.nil_append, glob, List.any_eq_true, List.nil_prefix, iff_true]
    exact ⟨[], (List.mem_tails [] s).mpr List.nil_suffix, rfl⟩
  | cons c p ih =>
    have first := plain c List.mem_cons_self
    cases s with
    | nil => simp [glob_plain_nil first]
    | cons d s =>
      rw [List.cons_append, glob_plain first, Bool.and_eq_true, beq_iff_eq,
        ih fun e he => plain e (List.mem_cons_of_mem c he), List.cons_prefix_cons]

theorem slavePattern_split (S : String) :
    (sessionSlavePattern S).toList = (sessionSlaveKey S "").toList ++ ['*'] := by
  simp [sessionSlavePattern, sessionSlaveKey]

theorem sessionSlaveKey_plain {S : String} (plain : ∀ c ∈ S.toList, Plain c) :
    ∀ c ∈ (sessionSlaveKey S "").toList, Plain c := by
  have literal : ∀ c ∈ "session:".toList ++ ":slave:".toList, Plain c := by
    simp [Plain]
  intro c member
  simp only [sessionSlaveKey, String.toList_append, List.mem_append] at member
  rcases member with ((start | name) | middle) | tail
  · exact literal c (List.mem_append_left _ start)
  · exact plain c name
  · exact literal c (List.mem_append_right _ middle)
  · cases tail

theorem uuid_plain (u : UUID) : ∀ c ∈ u.text.toList, Plain c := by
  intro c member
  refine ⟨?_, ?_, ?_⟩ <;> rintro rfl <;> exact u.notMem_of_not_uuidChar (by decide) member

theorem matches_slavePattern {S : String} (plain : ∀ c ∈ S.toList, Plain c) (k : String) :
    glob (sessionSlavePattern S).toList k.toList = true ↔ ∃ id, k = sessionSlaveKey S id := by
  rw [slavePattern_split, glob_star (sessionSlaveKey_plain plain)]
  constructor
  · rintro ⟨tail, split⟩
    refine ⟨String.ofList tail, String.toList_inj.mp ?_⟩
    rw [← split]
    simp [sessionSlaveKey]
  · rintro ⟨id, rfl⟩
    exact ⟨id.toList, by simp [sessionSlaveKey]⟩

theorem sessionSlaveKey_injective (S : String) : Function.Injective (sessionSlaveKey S) := by
  intro a b same
  have lists := congrArg String.toList same
  simp only [sessionSlaveKey, String.toList_append, List.append_cancel_left_eq] at lists
  exact String.toList_inj.mp lists

theorem sessionSlaveKey_ne_metrics (S id : String) :
    sessionSlaveKey S id ≠ sessionMetricsKey S := by
  intro same
  have lists := congrArg String.toList same
  simp only [sessionSlaveKey, sessionMetricsKey, String.toList_append, List.append_assoc,
    List.append_cancel_left_eq] at lists
  simp at lists

theorem sessionSlaveKey_ne_meta (S id : String) : sessionSlaveKey S id ≠ sessionMetaKey S := by
  intro same
  have lists := congrArg String.toList same
  simp only [sessionSlaveKey, sessionMetaKey, String.toList_append, List.append_assoc,
    List.append_cancel_left_eq] at lists
  simp at lists

theorem sessionMetaKey_ne_metrics (S : String) : sessionMetaKey S ≠ sessionMetricsKey S := by
  intro same
  have lists := congrArg String.toList same
  simp only [sessionMetaKey, sessionMetricsKey, String.toList_append, List.append_assoc,
    List.append_cancel_left_eq] at lists
  simp at lists

/-- The keys of a session go on with a colon after its id, and session:active has none there. -/
theorem ne_active {S rest k : String} (named : k = "session:" ++ S ++ (":" ++ rest)) :
    k ≠ activeSessionKey := by
  rintro rfl
  have lists := congrArg String.toList named
  have literal : "session:active".toList = "session:".toList ++ "active".toList := by decide
  simp only [activeSessionKey, literal, String.toList_append, List.append_assoc,
    List.append_cancel_left_eq] at lists
  have colon : ':' ∈ "active".toList := by
    rw [lists]
    simp
  exact absurd colon (by decide)

theorem sessionSlaveKey_ne_active (S id : String) : sessionSlaveKey S id ≠ activeSessionKey :=
  @ne_active S ("slave:" ++ id) _ (String.toList_inj.mp (by simp [sessionSlaveKey]))

theorem sessionMetaKey_ne_active (S : String) : sessionMetaKey S ≠ activeSessionKey :=
  @ne_active S "meta" _ (String.toList_inj.mp (by simp [sessionMetaKey]))

theorem sessionMetricsKey_ne_active (S : String) : sessionMetricsKey S ≠ activeSessionKey :=
  @ne_active S "metrics" _ (String.toList_inj.mp (by simp [sessionMetricsKey]))

end Megalo.Redis
