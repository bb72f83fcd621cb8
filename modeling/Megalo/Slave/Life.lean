import Megalo.Slave.Pod
import Mathlib.Algebra.Order.Group.MinMax
import Mathlib.Algebra.Order.Group.Int
import Mathlib.Tactic.SplitIfs

/-! The life of a pod. Over the integers each event has its plain effect, and the laws of
a life are kept by one event after another; for as long as no counter can leave int32,
ExecuteEvent does to the pod exactly what the event does over the integers. -/
namespace Megalo.Slave

/-- What the events of a life change, over the integers. -/
structure Vitals where
  turnsLived : Int
  remaining : Int
  stress : Int
  fear : Int
  status : SlaveStatus
  deathReason : DeathReason
  infected : Bool
  firewall : Bool

def PodState.vitals (p : PodState) : Vitals where
  turnsLived := p.turnsLived.toInt
  remaining := p.remaining.toInt
  stress := p.stress.toInt
  fear := p.fear.toInt
  status := p.status
  deathReason := p.deathReason
  infected := p.infected
  firewall := p.firewall

namespace Vitals

def tick (v : Vitals) : Vitals :=
  { v with
    turnsLived := v.turnsLived + 1
    remaining := if v.remaining > 0 then v.remaining - 1 else v.remaining
    stress := if v.stress > 0 then v.stress - 1 else v.stress
    fear := if v.fear > 0 then v.fear - 1 else v.fear }

section Events

variable (rand : Rand)

def applyHit (v : Vitals) (rng : rand.Source) : Vitals × rand.Source :=
  let (hit, rng) := rand.intn rng 16
  let damage := if v.firewall then (10 + hit + 1) / 2 else 10 + hit
  let (dread, rng) := rand.intn rng 10
  ({ v with stress := v.stress + damage, fear := v.fear + (8 + dread : Nat) }, rng)

def applyScare (v : Vitals) (rng : rand.Source) : Vitals × rand.Source :=
  let (scare, rng) := rand.intn rng 12
  let shake := if v.firewall then (7 * (14 + scare) + 5) / 10 else 14 + scare
  ({ v with fear := v.fear + shake }, rng)

def applyInfection (v : Vitals) (rng : rand.Source) : Vitals × rand.Source :=
  let (sick, rng) := rand.intn rng 8
  let (dread, rng) := rand.intn rng 4
  ({ v with
    infected := true
    stress := v.stress + (6 + sick : Nat)
    fear := v.fear + (5 + dread : Nat) }, rng)

def applyFirewall (v : Vitals) (rng : rand.Source) : Vitals × rand.Source :=
  let v := { v with firewall := !v.firewall }
  if v.firewall then
    ({ v with stress := max (v.stress - 4) 0, fear := max (v.fear - 2) 0 }, rng)
  else
    let (load, rng) := rand.intn rng 8
    ({ v with stress := v.stress + load }, rng)

def recover (v : Vitals) : Vitals :=
  { v with stress := max (v.stress - 1) 0, fear := max (v.fear - 2) 0 }

def applyEvent (eventID : Int32) (v : Vitals) (rng : rand.Source) : Vitals × rand.Source :=
  if eventID = 1 then v.applyHit rand rng
  else if eventID = 2 then v.applyScare rand rng
  else if eventID = 3 then v.applyInfection rand rng
  else if eventID = 4 then v.applyFirewall rand rng
  else (v.recover, rng)

def mutateLife (v : Vitals) (rng : rand.Source) : Vitals :=
  let v :=
    if v.remaining ≤ 0 then { v with status := .terminating, deathReason := .lifespan } else v
  let v :=
    if v.status = .live ∧ v.stress ≥ 85 then
      { v with status := .terminating, deathReason := .userAction }
    else v
  let (v, rng) :=
    if v.status = .live ∧ v.infected = true ∧ v.fear > 70 then
      let (chance, rng) := rand.float64 rng
      if chance < deathChance then
        ({ v with status := .terminating, deathReason := .disease }, rng)
      else (v, rng)
    else (v, rng)
  if v.status = .terminating ∧ (rand.float64 rng).1 < deathChance then { v with status := .gone }
  else v

/-- One event of a pod that is not gone. -/
def event (eventID : Int32) (seed : Int64) (v : Vitals) : Vitals :=
  let (v, rng) := v.tick.applyEvent rand eventID (rand.newSource seed)
  v.mutateLife rand rng

end Events

end Vitals

section Exact

variable {rand : Rand} {rng : rand.Source} {p : PodState}

theorem toInt_raise {a : Int32} {n : Nat} (low : 0 ≤ a.toInt) (small : n ≤ 25)
    (room : a.toInt + n ≤ 2147483647) : (a + .ofNat n).toInt = a.toInt + n := by
  have own : (Int32.ofNat n).toInt = n := Int32.toInt_ofNat_of_lt (by omega)
  rw [Int32.toInt_add, own, Int.bmod_eq_of_le] <;> omega

theorem toInt_lower (a : Int32) :
    (if a > 0 then a - 1 else a).toInt = if a.toInt > 0 then a.toInt - 1 else a.toInt := by
  have positive : a > 0 ↔ a.toInt > 0 := by
    rw [gt_iff_lt, Int32.lt_iff_toInt_lt, Int32.toInt_zero]
  have top := a.toInt_lt
  by_cases h : a.toInt > 0
  · rw [if_pos (positive.mpr h), if_pos h, Int32.toInt_sub, Int32.toInt_one, Int.bmod_eq_of_le] <;>
      omega
  · rw [if_neg (fun pos => h (positive.mp pos)), if_neg h]

theorem toInt_maxInt32 {a k : Int32} (low : 0 ≤ a.toInt) (small : 0 ≤ k.toInt) :
    (maxInt32 (a - k) 0).toInt = max (a.toInt - k.toInt) 0 := by
  have top := a.toInt_lt
  have top' := k.toInt_lt
  have difference : (a - k).toInt = a.toInt - k.toInt := by
    rw [Int32.toInt_sub, Int.bmod_eq_of_le] <;> omega
  have above : a - k > 0 ↔ a.toInt - k.toInt > 0 := by
    rw [gt_iff_lt, Int32.lt_iff_toInt_lt, Int32.toInt_zero, difference]
  unfold maxInt32
  by_cases h : a.toInt - k.toInt > 0
  · rw [if_pos (above.mpr h), difference, max_eq_left (by omega)]
  · rw [if_neg (fun pos => h (above.mp pos)), Int32.toInt_zero, max_eq_right (by omega)]

/-- Room for one more event. -/
def PodState.Roomy (p : PodState) : Prop :=
  0 ≤ p.stress.toInt ∧ p.stress.toInt + 25 ≤ 2147483647 ∧
    0 ≤ p.fear.toInt ∧ p.fear.toInt + 25 ≤ 2147483647

theorem tick_exact (room : p.turnsLived.toInt < 2147483647) : p.tick.vitals = p.vitals.tick := by
  have bottom := p.turnsLived.le_toInt
  have turns : (p.turnsLived + 1).toInt = p.turnsLived.toInt + 1 := by
    rw [Int32.toInt_add, Int32.toInt_one, Int.bmod_eq_of_le] <;> omega
  simp only [PodState.tick, PodState.vitals, Vitals.tick, turns, toInt_lower]
  rfl

theorem tick_roomy (roomy : p.Roomy) : p.tick.Roomy := by
  obtain ⟨low, room, low', room'⟩ := roomy
  simp only [PodState.Roomy, PodState.tick, toInt_lower]
  refine ⟨?_, ?_, ?_, ?_⟩ <;> split <;> omega

theorem Rand.draw (rand : Rand) (rng : rand.Source) {n : Nat} (positive : 0 < n) :
    ∃ k next, rand.intn rng n = (k, next) ∧ k < n :=
  ⟨_, _, rfl, rand.intn_lt rng n positive⟩

theorem applyHit_exact (roomy : p.Roomy) :
    ((p.applyHit rand rng).1.vitals, (p.applyHit rand rng).2) = p.vitals.applyHit rand rng := by
  obtain ⟨low, room, low', room'⟩ := roomy
  obtain ⟨hit, rng', drawn, _⟩ := rand.draw rng (by decide : 0 < 16)
  obtain ⟨dread, _, drawn', _⟩ := rand.draw rng' (by decide : 0 < 10)
  simp only [PodState.applyHit, PodState.vitals, Vitals.applyHit, drawn, drawn', Prod.mk.injEq,
    and_true]
  rw [toInt_raise low (by split <;> omega) (by split <;> omega),
    toInt_raise low' (by omega) (by omega)]

theorem applyScare_exact (roomy : p.Roomy) :
    ((p.applyScare rand rng).1.vitals, (p.applyScare rand rng).2) =
      p.vitals.applyScare rand rng := by
  obtain ⟨_, _, low, room⟩ := roomy
  obtain ⟨scare, _, drawn, _⟩ := rand.draw rng (by decide : 0 < 12)
  simp only [PodState.applyScare, PodState.vitals, Vitals.applyScare, drawn, Prod.mk.injEq,
    and_true]
  rw [toInt_raise low (by split <;> omega) (by split <;> omega)]

theorem applyInfection_exact (roomy : p.Roomy) :
    ((p.applyInfection rand rng).1.vitals, (p.applyInfection rand rng).2) =
      p.vitals.applyInfection rand rng := by
  obtain ⟨low, room, low', room'⟩ := roomy
  obtain ⟨sick, rng', drawn, _⟩ := rand.draw rng (by decide : 0 < 8)
  obtain ⟨dread, _, drawn', _⟩ := rand.draw rng' (by decide : 0 < 4)
  simp only [PodState.applyInfection, PodState.vitals, Vitals.applyInfection, drawn, drawn',
    Prod.mk.injEq, and_true]
  rw [toInt_raise low (by omega) (by omega), toInt_raise low' (by omega) (by omega)]

theorem recover_exact (roomy : p.Roomy) : p.recover.vitals = p.vitals.recover := by
  obtain ⟨low, _, low', _⟩ := roomy
  simp only [PodState.recover, PodState.vitals, Vitals.recover]
  rw [toInt_maxInt32 low (by decide), toInt_maxInt32 low' (by decide)]
  rfl

theorem applyFirewall_exact (roomy : p.Roomy) :
    ((p.applyFirewall rand rng).1.vitals, (p.applyFirewall rand rng).2) =
      p.vitals.applyFirewall rand rng := by
  obtain ⟨low, room, low', _⟩ := roomy
  obtain ⟨load, _, drawn, _⟩ := rand.draw rng (by decide : 0 < 8)
  cases up : p.firewall with
  | true =>
    simp only [PodState.applyFirewall, PodState.vitals, Vitals.applyFirewall, up, Bool.not_true,
      Bool.false_eq_true, if_false, drawn]
    rw [toInt_raise low (by omega) (by omega)]
  | false =>
    simp only [PodState.applyFirewall, PodState.vitals, Vitals.applyFirewall, up, Bool.not_false,
      if_true]
    rw [toInt_maxInt32 low (by decide), toInt_maxInt32 low' (by decide)]
    rfl

theorem applyEvent_exact (rand : Rand) (rng : rand.Source) (eventID : Int32) (roomy : p.Roomy) :
    ((p.applyEvent rand eventID rng).1.vitals, (p.applyEvent rand eventID rng).2) =
      p.vitals.applyEvent rand eventID rng := by
  unfold PodState.applyEvent Vitals.applyEvent
  split_ifs
  · exact applyHit_exact roomy
  · exact applyScare_exact roomy
  · exact applyInfection_exact roomy
  · exact applyFirewall_exact roomy
  · rw [recover_exact roomy]

theorem mutateLife_exact : (p.mutateLife rand rng).vitals = p.vitals.mutateLife rand rng := by
  have spent : p.vitals.remaining ≤ 0 ↔ p.remaining ≤ 0 := by
    rw [Int32.le_iff_toInt_le]
    rfl
  have broken : p.vitals.stress ≥ 85 ↔ p.stress ≥ 85 := by
    rw [ge_iff_le, ge_iff_le, Int32.le_iff_toInt_le]
    rfl
  have afraid : p.vitals.fear > 70 ↔ p.fear > 70 := by
    rw [gt_iff_lt, gt_iff_lt, Int32.lt_iff_toInt_lt]
    rfl
  have status : p.vitals.status = p.status := rfl
  have infected : p.vitals.infected = p.infected := rfl
  unfold PodState.mutateLife Vitals.mutateLife
  by_cases h : p.remaining ≤ 0
  · simp only [spent, h, if_true, reduceCtorEq, false_and, if_false, true_and]
    split <;> rfl
  · by_cases h' : p.status = .live ∧ p.stress ≥ 85
    · simp only [spent, h, if_false, status, broken, h', and_self, if_true, reduceCtorEq, false_and,
        true_and]
      split <;> rfl
    · simp only [spent, h, if_false, status, broken, h', infected, afraid]
      split
      · split
        · simp only [true_and]
          split <;> rfl
        · simp only [status]
          split <;> rfl
      · simp only [status]
        split <;> rfl

end Exact

section Laws

variable {rand : Rand} {rng : rand.Source} {turns : Int} {v : Vitals}

/-- The laws of a life that began with the given number of turns. -/
structure Lived (turns : Int) (v : Vitals) : Prop where
  lived : 0 ≤ v.turnsLived
  left : v.remaining = max (turns - v.turnsLived) 0
  stress : 0 ≤ v.stress ∧ v.stress ≤ 25 * v.turnsLived
  fear : 0 ≤ v.fear ∧ v.fear ≤ 25 * v.turnsLived
  live : v.status = .live ↔ v.deathReason = .unspecified
  sound : v.status = .live → 0 < v.remaining ∧ v.stress < 85
  status : v.status = .live ∨ v.status = .terminating ∨ v.status = .gone
  reason : v.status ≠ .live →
    v.deathReason = .lifespan ∨ v.deathReason = .userAction ∨ v.deathReason = .disease
  lifespan : v.deathReason = .lifespan → v.remaining = 0
  disease : v.deathReason = .disease → v.infected = true

/-- One event: a tick, and an effect on the counters and flags. -/
structure Affected (v w : Vitals) : Prop where
  turnsLived : w.turnsLived = v.turnsLived + 1
  remaining : w.remaining = if v.remaining > 0 then v.remaining - 1 else v.remaining
  stress : 0 ≤ w.stress ∧ w.stress ≤ v.stress + 25
  fear : 0 ≤ w.fear ∧ w.fear ≤ v.fear + 25
  status : w.status = v.status
  deathReason : w.deathReason = v.deathReason
  infected : v.infected = true → w.infected = true

theorem applyEvent_affected (rand : Rand) (rng : rand.Source) (eventID : Int32)
    (stress : 0 ≤ v.stress) (fear : 0 ≤ v.fear) :
    Affected v (v.tick.applyEvent rand eventID rng).1 := by
  have eased : 0 ≤ v.tick.stress ∧ v.tick.stress ≤ v.stress := by
    simp only [Vitals.tick]
    split <;> omega
  have calmed : 0 ≤ v.tick.fear ∧ v.tick.fear ≤ v.fear := by
    simp only [Vitals.tick]
    split <;> omega
  unfold Vitals.applyEvent
  split_ifs
  · obtain ⟨hit, rng', drawn, _⟩ := rand.draw rng (by decide : 0 < 16)
    obtain ⟨dread, _, drawn', _⟩ := rand.draw rng' (by decide : 0 < 10)
    simp only [Vitals.applyHit, drawn, drawn']
    refine ⟨rfl, rfl, ?_, ?_, rfl, rfl, id⟩
    · dsimp only
      split <;> omega
    · dsimp only
      omega
  · obtain ⟨scare, _, drawn, _⟩ := rand.draw rng (by decide : 0 < 12)
    simp only [Vitals.applyScare, drawn]
    refine ⟨rfl, rfl, ?_, ?_, rfl, rfl, id⟩
    · dsimp only
      omega
    · dsimp only
      split <;> omega
  · obtain ⟨sick, rng', drawn, _⟩ := rand.draw rng (by decide : 0 < 8)
    obtain ⟨dread, _, drawn', _⟩ := rand.draw rng' (by decide : 0 < 4)
    simp only [Vitals.applyInfection, drawn, drawn']
    refine ⟨rfl, rfl, ?_, ?_, rfl, rfl, fun _ => rfl⟩ <;> dsimp only <;> omega
  · obtain ⟨load, _, drawn, _⟩ := rand.draw rng (by decide : 0 < 8)
    simp only [Vitals.applyFirewall, drawn]
    split
    · refine ⟨rfl, rfl, ?_, ?_, rfl, rfl, id⟩ <;> dsimp only <;> omega
    · refine ⟨rfl, rfl, ?_, ?_, rfl, rfl, id⟩ <;> dsimp only <;> omega
  · refine ⟨rfl, rfl, ?_, ?_, rfl, rfl, id⟩ <;> simp only [Vitals.recover] <;> omega

/-- How mutateLife leaves the status and the reason of death; it changes nothing else. -/
inductive Mutated (v : Vitals) : SlaveStatus → DeathReason → Prop
  | kept (left : 0 < v.remaining) (calm : v.status = .live → v.stress < 85) :
      Mutated v v.status v.deathReason
  | faded (left : 0 < v.remaining) (before : v.status = .terminating) :
      Mutated v .gone v.deathReason
  | expired {status : SlaveStatus} (dying : status = .terminating ∨ status = .gone)
      (spent : v.remaining ≤ 0) : Mutated v status .lifespan
  | broken {status : SlaveStatus} (dying : status = .terminating ∨ status = .gone)
      (left : 0 < v.remaining) (before : v.status = .live) : Mutated v status .userAction
  | sickened {status : SlaveStatus} (dying : status = .terminating ∨ status = .gone)
      (left : 0 < v.remaining) (before : v.status = .live) (ill : v.infected = true) :
      Mutated v status .disease

theorem mutateLife_mutated : ∃ status deathReason, Mutated v status deathReason ∧
    v.mutateLife rand rng = { v with status, deathReason } := by
  unfold Vitals.mutateLife
  by_cases spent : v.remaining ≤ 0
  · simp only [spent, if_true, reduceCtorEq, false_and, if_false, true_and]
    split
    · exact ⟨_, _, .expired (.inr rfl) spent, rfl⟩
    · exact ⟨_, _, .expired (.inl rfl) spent, rfl⟩
  · have left : 0 < v.remaining := by omega
    by_cases broken : v.status = .live ∧ v.stress ≥ 85
    · simp only [spent, if_false, broken, and_self, if_true, reduceCtorEq, false_and, true_and]
      split
      · exact ⟨_, _, .broken (.inr rfl) left broken.1, rfl⟩
      · exact ⟨_, _, .broken (.inl rfl) left broken.1, rfl⟩
    · have calm : v.status = .live → v.stress < 85 := fun live => by
        by_contra high
        exact broken ⟨live, by omega⟩
      simp only [spent, if_false, broken]
      split
      · rename_i ill
        split
        · simp only [true_and]
          split
          · exact ⟨_, _, .sickened (.inr rfl) left ill.1 ill.2.1, rfl⟩
          · exact ⟨_, _, .sickened (.inl rfl) left ill.1 ill.2.1, rfl⟩
        · simp only [ill.1, reduceCtorEq, false_and, if_false]
          exact ⟨_, _, .kept left calm, rfl⟩
      · split
        · rename_i fades
          exact ⟨_, _, .faded left fades.1, rfl⟩
        · exact ⟨_, _, .kept left calm, rfl⟩

/-- The status of a pod only moves forward. -/
def onward : SlaveStatus → SlaveStatus → Prop
  | .live, .live | .live, .terminating | .live, .gone => True
  | .terminating, .terminating | .terminating, .gone | .gone, .gone => True
  | _, _ => False

theorem lived_mutated {w : Vitals} {status : SlaveStatus} {deathReason : DeathReason}
    (lived : Lived turns v) (before : v.status ≠ .gone) (affected : Affected v w)
    (mutated : Mutated w status deathReason) :
    Lived turns { w with status, deathReason } ∧ onward v.status status := by
  have passed : 0 ≤ w.turnsLived := by
    have := lived.lived
    rw [affected.turnsLived]
    omega
  have left : w.remaining = max (turns - w.turnsLived) 0 := by
    rw [affected.remaining, affected.turnsLived, lived.left]
    split <;> omega
  have stress : 0 ≤ w.stress ∧ w.stress ≤ 25 * w.turnsLived := by
    have := affected.stress
    have := lived.stress
    rw [affected.turnsLived]
    omega
  have fear : 0 ≤ w.fear ∧ w.fear ≤ 25 * w.turnsLived := by
    have := affected.fear
    have := lived.fear
    rw [affected.turnsLived]
    omega
  have dies (dying : status = .terminating ∨ status = .gone)
      (reason : deathReason = .lifespan ∨ deathReason = .userAction ∨ deathReason = .disease)
      (lifespan : deathReason = .lifespan → w.remaining = 0)
      (disease : deathReason = .disease → w.infected = true) :
      Lived turns { w with status, deathReason } ∧ onward v.status status := by
    have dead : status ≠ .live := by rcases dying with rfl | rfl <;> nofun
    have caused : deathReason ≠ .unspecified := by rcases reason with rfl | rfl | rfl <;> nofun
    refine ⟨⟨passed, left, stress, fear, iff_of_false dead caused, fun live => absurd live dead,
      .inr dying, fun _ => reason, lifespan, disease⟩, ?_⟩
    rcases lived.status with h | h | h <;> rcases dying with rfl | rfl <;> simp_all [onward]
  cases mutated with
  | kept remains calm =>
    rw [affected.status, affected.deathReason]
    refine ⟨⟨passed, left, stress, fear, lived.live, ?_, lived.status, lived.reason, ?_, ?_⟩, ?_⟩
    · exact fun live => ⟨remains, calm (affected.status.trans live)⟩
    · intro lifespan
      have spent : v.remaining = 0 := lived.lifespan lifespan
      have := affected.remaining
      rw [spent] at this
      exact this
    · exact fun disease => affected.infected (lived.disease disease)
    · rcases lived.status with h | h | h <;> simp_all [onward]
  | faded remains ending =>
    have terminating : v.status = .terminating := affected.status.symm.trans ending
    have notLive : v.status ≠ .live := by rw [terminating]; nofun
    rw [affected.deathReason] at dies ⊢
    refine dies (.inr rfl) (lived.reason notLive) (fun lifespan => ?_) fun disease => ?_
    · have := affected.remaining
      rw [lived.lifespan lifespan] at this
      exact this
    · exact affected.infected (lived.disease disease)
  | expired dying spent =>
    refine dies dying (.inl rfl) (fun _ => ?_) nofun
    omega
  | broken dying remains => exact dies dying (.inr (.inl rfl)) nofun nofun
  | sickened dying remains _ ill => exact dies dying (.inr (.inr rfl)) nofun fun _ => ill

theorem lived_event (rand : Rand) (eventID : Int32) (seed : Int64) (lived : Lived turns v)
    (before : v.status ≠ .gone) : Lived turns (v.event rand eventID seed) ∧
      onward v.status (v.event rand eventID seed).status ∧
      (v.infected = true → (v.event rand eventID seed).infected = true) ∧
      (v.event rand eventID seed).turnsLived = v.turnsLived + 1 := by
  have affected := applyEvent_affected rand (rand.newSource seed) eventID
    lived.stress.1 lived.fear.1
  simp only [Vitals.event]
  generalize v.tick.applyEvent rand eventID (rand.newSource seed) = next at affected ⊢
  obtain ⟨w, rng⟩ := next
  obtain ⟨status, deathReason, mutated, same⟩ := @mutateLife_mutated rand rng w
  dsimp only
  rw [same]
  obtain ⟨after, moves⟩ := lived_mutated lived before affected mutated
  exact ⟨after, moves, affected.infected, affected.turnsLived⟩

end Laws

section Calls

structure Call where
  now : Time
  req : ExecuteEventRequest

variable (rand : Rand) (s : Service)

def Service.called (c : Call) : Service := (executeEvent rand c.now c.req s).2

def Service.after (calls : List Call) : Service := calls.foldl (Service.called rand) s

/-- The call is for this pod, and the pod is not gone. -/
def Service.executes (s : Service) (c : Call) : Bool :=
  s.accepts c.req.targetPod && s.pod.status != .gone

/-- The number of calls that execute. -/
def Service.executed (s : Service) : List Call → Nat
  | [] => 0
  | c :: rest => executed (s.called rand c) rest + if s.executes c then 1 else 0

/-- What one call does to the pod. -/
structure Called (c : Call) : Prop where
  onward : onward s.pod.status (s.called rand c).pod.status
  infected : s.pod.infected = true → (s.called rand c).pod.infected = true
  refused : ∀ err, (executeEvent rand c.now c.req s).1 = .error err → s.called rand c = s
  gone : s.pod.status = .gone → s.called rand c = s
  exact : s.executes c = true →
    (s.called rand c).pod.vitals = s.pod.vitals.event rand c.req.eventID c.req.seed

/-- What a run of calls has made of a pod that was set up with the given number of turns. -/
structure Life (turns : Int32) (calls : List Call) : Prop where
  lived : Lived turns.toInt (s.after rand calls).pod.vitals
  counted : (s.after rand calls).pod.turnsLived.toInt = s.executed rand calls
  ended : turns.toInt ≤ s.executed rand calls → (s.after rand calls).pod.status ≠ .live

variable {rand s} {c : Call} {turns : Int}

theorem executes_iff : s.executes c = true ↔ s.pod.podID ≠ "" ∧
    ¬ (c.req.targetPod ≠ "" ∧ s.pod.matchesTarget c.req.targetPod = false) ∧
      s.pod.status ≠ .gone := by
  simp only [Service.executes, Service.accepts, Bool.and_eq_true, bne_iff_ne, Bool.or_eq_true,
    beq_iff_eq, ne_eq, not_and, Bool.not_eq_false, and_assoc]
  refine and_congr_right fun _ => and_congr_left fun _ => ?_
  rw [or_iff_not_imp_left]

theorem called_idle (idle : s.executes c = false) : s.called rand c = s := by
  unfold Service.called executeEvent
  split_ifs with setup missed gone
  · rfl
  · rfl
  · rfl
  · have executes : s.executes c = true := executes_iff.mpr ⟨setup, missed, gone⟩
    rw [executes] at idle
    cases idle

theorem called_pod (executes : s.executes c = true) : (s.called rand c).pod =
    let next := s.pod.tick.applyEvent rand c.req.eventID (rand.newSource c.req.seed)
    { next.1.mutateLife rand next.2 with observedAt := c.now } := by
  obtain ⟨setup, missed, gone⟩ := executes_iff.mp executes
  simp only [Service.called, executeEvent, if_neg setup, if_neg missed, if_neg gone]

theorem called_refused {err : String} (failed : (executeEvent rand c.now c.req s).1 = .error err) :
    s.called rand c = s := by
  unfold Service.called
  unfold executeEvent at failed ⊢
  split_ifs at failed ⊢ <;> rfl

theorem vitals_observed (p : PodState) (now : Time) :
    PodState.vitals { p with observedAt := now } = p.vitals := rfl

theorem called_exact (rand : Rand) (executes : s.executes c = true)
    (room : s.pod.turnsLived.toInt < 2147483647) (roomy : s.pod.Roomy) :
    (s.called rand c).pod.vitals = s.pod.vitals.event rand c.req.eventID c.req.seed := by
  have affected := applyEvent_exact rand (rand.newSource c.req.seed) c.req.eventID
    (tick_roomy roomy)
  rw [tick_exact room] at affected
  rw [called_pod executes, Vitals.event, ← affected]
  generalize s.pod.tick.applyEvent rand c.req.eventID (rand.newSource c.req.seed) = next
  exact (vitals_observed _ c.now).trans mutateLife_exact

theorem called_kept (rand : Rand) (c : Call) (lived : Lived turns s.pod.vitals)
    (room : s.pod.turnsLived.toInt < 85899345) : Called rand s c ∧
      Lived turns (s.called rand c).pod.vitals ∧ (s.called rand c).pod.turnsLived.toInt =
        s.pod.turnsLived.toInt + if s.executes c then 1 else 0 := by
  cases executes : s.executes c with
  | false =>
    have same : s.called rand c = s := called_idle executes
    have stays : onward s.pod.status s.pod.status := by
      rcases lived.status with h | h | h <;> simp only [PodState.vitals] at h <;> rw [h] <;> trivial
    refine ⟨⟨?_, ?_, fun _ => called_refused, fun _ => same, ?_⟩, ?_⟩
    · exact same.symm ▸ stays
    · exact same.symm ▸ id
    · simp only [executes, Bool.false_eq_true, false_implies]
    · rw [same]
      exact ⟨lived, (Int.add_zero _).symm⟩
  | true =>
    have notGone : s.pod.vitals.status ≠ .gone := (executes_iff.mp executes).2.2
    have roomy : s.pod.Roomy := by
      obtain ⟨low, high⟩ := lived.stress
      obtain ⟨low', high'⟩ := lived.fear
      simp only [PodState.vitals] at low high low' high'
      exact ⟨low, by omega, low', by omega⟩
    have exact := called_exact rand executes (by omega) roomy
    obtain ⟨after, moves, kept, counted⟩ := lived_event rand c.req.eventID c.req.seed lived
      notGone
    rw [← exact] at after moves kept counted
    refine ⟨⟨moves, kept, fun _ => called_refused, ?_, fun _ => exact⟩, after, counted⟩
    exact fun gone => absurd gone notGone

theorem lived_after (rand : Rand) (calls : List Call) (lived : Lived turns s.pod.vitals)
    (room : s.pod.turnsLived.toInt + calls.length ≤ 85899345) :
    Lived turns (s.after rand calls).pod.vitals ∧ (s.after rand calls).pod.turnsLived.toInt =
      s.pod.turnsLived.toInt + s.executed rand calls := by
  induction calls generalizing s with
  | nil => exact ⟨lived, (Int.add_zero _).symm⟩
  | cons c rest ih =>
    rw [List.length_cons] at room
    obtain ⟨_, next, counted⟩ := called_kept rand c lived (by omega)
    obtain ⟨after, total⟩ := ih next (by rw [counted]; split <;> omega)
    refine ⟨after, total.trans ?_⟩
    rw [counted, Service.executed]
    split <;> omega

theorem lived_setup {turns : Int32} (positive : 0 < turns)
    (own : s.initialRemainingTurns = turns) (now : Time) (podID podName podUID podIP : String) :
    Lived turns.toInt (setupPod now podID podName podUID podIP s).pod.vitals := by
  have first : 0 < turns.toInt := Int32.lt_iff_toInt_lt.mp positive
  refine ⟨?_, ?_, ?_, ?_, ?_, ?_, ?_, ?_, nofun, nofun⟩
  · exact Int.le_refl 0
  · simp only [setupPod, PodState.vitals, own, Int32.toInt_zero]
    omega
  · exact ⟨Int.le_refl 0, Int.le_refl 0⟩
  · exact ⟨Int.le_refl 0, Int.le_refl 0⟩
  · exact iff_of_true rfl rfl
  · simp only [setupPod, PodState.vitals, own, Int32.toInt_zero]
    omega
  · exact .inl rfl
  · exact fun dead => absurd rfl dead

theorem executed_le (calls : List Call) : s.executed rand calls ≤ calls.length := by
  induction calls generalizing s with
  | nil => exact Nat.le_refl 0
  | cons c rest ih =>
    have fewer : (s.called rand c).executed rand rest ≤ rest.length := ih
    rw [Service.executed, List.length_cons]
    split <;> omega

theorem called_after {calls earlier later : List Call} (split : calls = earlier ++ c :: later)
    (lived : Lived turns s.pod.vitals)
    (room : s.pod.turnsLived.toInt + calls.length ≤ 85899345) :
    Called rand (s.after rand earlier) c := by
  rw [split, List.length_append, List.length_cons] at room
  obtain ⟨before, counted⟩ := lived_after rand earlier lived (by omega)
  have few : s.executed rand earlier ≤ earlier.length := executed_le earlier
  exact (called_kept rand c before (by omega)).1

/-- From SetupPod on, every call keeps the laws of the pod's life, and none of its counters
ever leaves int32. -/
theorem slave_lives (rand : Rand) {turns : Int32} (positive : 0 < turns) {s : Service}
    (own : s.initialRemainingTurns = turns) (now : Time) (podID podName podUID podIP : String)
    (calls : List Call) (bound : calls.length ≤ 85899345) :
    Life rand (setupPod now podID podName podUID podIP s) turns calls ∧
      ∀ earlier c later, calls = earlier ++ c :: later →
        Called rand ((setupPod now podID podName podUID podIP s).after rand earlier) c := by
  have lived := lived_setup positive own now podID podName podUID podIP
  have unborn : (setupPod now podID podName podUID podIP s).pod.turnsLived.toInt = 0 := rfl
  generalize setupPod now podID podName podUID podIP s = born at lived unborn
  obtain ⟨after, counted⟩ := lived_after rand calls lived (by omega)
  rw [unborn, Int.zero_add] at counted
  refine ⟨⟨after, counted, fun spent live => ?_⟩, fun earlier c later split => ?_⟩
  · have remains := (after.sound live).1
    rw [after.left] at remains
    simp only [PodState.vitals, counted] at remains
    omega
  · exact called_after split lived (by omega)

/-- A hit, a call for another pod, and two more events, of a pod that lives two turns. -/
def twoTurns : List Call :=
  [⟨1, 1, 7, ""⟩, ⟨2, 1, 7, "slave-2"⟩, ⟨3, 5, 7, ""⟩, ⟨4, 5, 7, ""⟩]

def sampleService : Service :=
  ⟨2, "", "", "", "", "", 0, 0, .unspecified, .unspecified, 0, 0, 0, false, false⟩

theorem slave_lives_two :
    Life .least (setupPod 0 "slave-1" "slave-service-0" "uid-1" "10.0.0.10" sampleService) 2
        twoTurns ∧
      ((setupPod 0 "slave-1" "slave-service-0" "uid-1" "10.0.0.10" sampleService).after .least
        twoTurns).pod.status = .gone :=
  ⟨(slave_lives .least (by decide) rfl 0 "slave-1" "slave-service-0" "uid-1" "10.0.0.10" twoTurns
    (by decide)).1, by decide +kernel⟩

end Calls

end Megalo.Slave
