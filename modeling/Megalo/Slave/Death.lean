import Megalo.Slave.Life

/-! The cause of death. Stress and disease end only a live pod, but the first test of mutateLife
does not look at the status: a pod that dies of something else may still run out of turns. -/
namespace Megalo.Slave

def Dying (s : Service) : Prop := s.pod.status = .terminating ∨ s.pod.status = .gone

/-- After any call that leaves the pod dying, no later calls change its DeathReason. -/
def Fixed (rand : Rand) (s : Service) (calls : List Call) : Prop :=
  ∀ earlier later rest, calls = earlier ++ later ++ rest → Dying (s.after rand earlier) →
    ((s.after rand earlier).after rand later).pod.deathReason =
      (s.after rand earlier).pod.deathReason

/-- The call uses up the last turn of a pod that is terminating for another reason. -/
def Expires (s : Service) (c : Call) : Prop :=
  s.executes c = true ∧ s.pod.status = .terminating ∧ s.pod.deathReason ≠ .lifespan ∧
    s.pod.remaining ≤ 1

section Death

variable {rand : Rand} {p : PodState} {s : Service} {c : Call}

theorem applyEvent_remaining (rand : Rand) (rng : rand.Source) (eventID : Int32) (p : PodState) :
    (p.applyEvent rand eventID rng).1.remaining = p.remaining ∧
      (p.applyEvent rand eventID rng).1.status = p.status ∧
      (p.applyEvent rand eventID rng).1.deathReason = p.deathReason := by
  unfold PodState.applyEvent
  split_ifs
  · exact ⟨rfl, rfl, rfl⟩
  · exact ⟨rfl, rfl, rfl⟩
  · exact ⟨rfl, rfl, rfl⟩
  · unfold PodState.applyFirewall
    dsimp only
    split <;> exact ⟨rfl, rfl, rfl⟩
  · exact ⟨rfl, rfl, rfl⟩

theorem tick_spent : p.tick.remaining ≤ 0 ↔ p.remaining ≤ 1 := by
  rw [Int32.le_iff_toInt_le, Int32.le_iff_toInt_le, Int32.toInt_zero, Int32.toInt_one]
  have ticked : p.tick.remaining.toInt =
      if p.remaining.toInt > 0 then p.remaining.toInt - 1 else p.remaining.toInt :=
    toInt_lower p.remaining
  rw [ticked]
  split <;> omega

/-- mutateLife leaves a terminating pod dying, and its reason alone while it has turns. -/
theorem mutateLife_terminating (rand : Rand) (rng : rand.Source)
    (terminating : p.status = .terminating) :
    ((p.mutateLife rand rng).status = .terminating ∨ (p.mutateLife rand rng).status = .gone) ∧
      (p.mutateLife rand rng).deathReason =
        if p.remaining ≤ 0 then .lifespan else p.deathReason := by
  unfold PodState.mutateLife
  by_cases spent : p.remaining ≤ 0
  · simp only [spent, if_true, reduceCtorEq, false_and, if_false, true_and]
    split
    · exact ⟨.inr rfl, rfl⟩
    · exact ⟨.inl rfl, rfl⟩
  · simp only [spent, if_false, terminating, reduceCtorEq, false_and, true_and]
    split
    · exact ⟨.inr rfl, rfl⟩
    · exact ⟨.inl terminating, rfl⟩

/-- One call of a dying pod keeps the reason exactly where it does not use up the last turn. -/
theorem called_dying (rand : Rand) (c : Call) (dying : Dying s) : Dying (s.called rand c) ∧
    ((s.called rand c).pod.deathReason = s.pod.deathReason ↔ ¬ Expires s c) := by
  cases executes : s.executes c with
  | false =>
    have idle : s.called rand c = s := called_idle executes
    rw [idle]
    refine ⟨dying, iff_of_true rfl fun expires => ?_⟩
    cases executes.symm.trans expires.1
  | true =>
    have notGone : s.pod.status ≠ .gone := (executes_iff.mp executes).2.2
    have terminating : s.pod.status = .terminating := dying.resolve_right notGone
    obtain ⟨remaining, status, deathReason⟩ :=
      applyEvent_remaining rand (rand.newSource c.req.seed) c.req.eventID s.pod.tick
    obtain ⟨after, reason⟩ := mutateLife_terminating rand
      (s.pod.tick.applyEvent rand c.req.eventID (rand.newSource c.req.seed)).2
      (status.trans terminating)
    have spent : s.pod.tick.remaining ≤ 0 ↔ s.pod.remaining ≤ 1 := tick_spent
    rw [remaining, deathReason] at reason
    rw [Dying, called_pod executes]
    refine ⟨after, ?_⟩
    simp only [reason, spent, Expires, executes, terminating, true_and]
    by_cases last : s.pod.remaining ≤ 1
    · simp only [last, if_true, and_true, not_not]
      exact eq_comm
    · simp only [last, if_false, and_false, not_false_eq_true, iff_true]
      rfl

theorem after_append (earlier later : List Call) :
    s.after rand (earlier ++ later) = (s.after rand earlier).after rand later :=
  List.foldl_append

theorem after_dying {later : List Call} (dying : Dying s)
    (spared : ∀ before c rest, later = before ++ c :: rest → ¬ Expires (s.after rand before) c) :
    (s.after rand later).pod.deathReason = s.pod.deathReason := by
  induction later generalizing s with
  | nil => rfl
  | cons c rest ih =>
    obtain ⟨still, kept⟩ := called_dying rand c dying
    have same := kept.mpr (spared [] c rest rfl)
    have tail := ih still fun before d rest' split => spared (c :: before) d rest' (by rw [split]; rfl)
    exact tail.trans same

/-- In a run of calls, whatever the pod was set up with, the reason of death is fixed exactly
where no call uses up the last turn of a pod that is terminating for another reason. -/
theorem death_fixed {calls : List Call} : Fixed rand s calls ↔
    ∀ earlier c later, calls = earlier ++ c :: later → ¬ Expires (s.after rand earlier) c := by
  constructor
  · intro fixed earlier c later split expires
    have dying : Dying (s.after rand earlier) := .inl expires.2.1
    have same := fixed earlier [c] later (by rw [split, List.append_assoc]; rfl) dying
    exact (called_dying rand c dying).2.mp same expires
  · intro spared earlier later rest split dying
    apply after_dying dying
    intro before c rest' split'
    rw [← after_append]
    apply spared (earlier ++ before) c (rest' ++ rest)
    rw [split, split', List.append_assoc, List.append_assoc, List.append_assoc]
    rfl

/-- The largest numbers, and floats that spare whoever they are drawn for. -/
def Rand.sparing : Rand where
  Source := Unit
  newSource _ := ()
  intn _ n := (n - 1, ())
  float64 _ := (1 / 2, ())
  intn_lt _ _ pos := Nat.sub_lt pos Nat.one_pos
  float64_range _ := ⟨by decide +kernel, by decide +kernel⟩

def hits (n : Nat) : List Call := List.replicate n ⟨1, 1, 7, ""⟩

/-- Four hits of 25 end a pod of five turns, and the fifth call makes its reason the lifespan. -/
theorem death_recounted : ¬ Fixed .sparing
    (setupPod 0 "slave-1" "slave-service-0" "uid-1" "10.0.0.10" { sampleService with
      initialRemainingTurns := 5 }) (hits 5) := by
  intro fixed
  have same := fixed (hits 4) (hits 1) [] rfl (.inl (by decide +kernel))
  exact absurd same (by decide +kernel)

end Death

end Megalo.Slave
