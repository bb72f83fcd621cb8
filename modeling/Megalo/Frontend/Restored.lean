import Megalo.Frontend.Report
import Megalo.Library.Timestamp

/-! The return of an eliminated pod. A state observed after the pod was seen GONE brings it back;
which came first is read off the texts of the two instants. -/
namespace Megalo.Frontend

open Timestamp

/-- A state that is not GONE, for an eliminated pod of the same container whose record is GONE. -/
structure Returning (s : GameState) (x : String) (previous pod : SlaveState) (t u : Stamp) :
    Prop where
  eliminated : x ∈ s.xrEliminatedPodIds
  shown : s.podsById.lookup x = some previous
  gone : previous.status = .gone
  own : pod.slaveID = x
  live : pod.status ≠ .gone
  same : pod.k8sPodUID = previous.k8sPodUID
  seen : previous.observedAt = t.text
  observed : pod.observedAt = u.text

section Restored

variable {s : GameState} {x : String} {previous pod : SlaveState} {t u : Stamp}

theorem notBefore_iff : notBefore u.text t.text = true ↔ ¬ u.text < t.text := by
  rw [notBefore, decide_eq_true_iff]
  exact Iff.rfl

/-- upsertPod takes the pod off the list where the text of its instant is not before. -/
theorem upsert_restores (returning : Returning s x previous pod t u) :
    x ∉ (s.upsertPod pod).xrEliminatedPodIds ↔ ¬ u.text < t.text := by
  obtain ⟨eliminated, shown, gone, rfl, live, same, seen, observed⟩ := returning
  have restores : shouldRestoreEliminatedPod (some previous) pod = true ↔ ¬ u.text < t.text := by
    simp only [shouldRestoreEliminatedPod, gone, seen, observed, Bool.or_eq_true, bne_iff_ne,
      Bool.and_eq_true, beq_self_eq_true, true_and, notBefore_iff, same, ne_eq, not_true_eq_false,
      false_or]
  rw [← restores]
  simp only [GameState.upsertPod, shown, eliminated, live, ne_eq, not_false_eq_true, true_and]
  by_cases restore : shouldRestoreEliminatedPod (some previous) pod = true
  · simp [restore]
  · simp [restore, eliminated]

/-- An eliminated pod comes back by time exactly where the texts of the two instants are in
the order of the instants. -/
theorem restored_by_time (returning : Returning s x previous pod t u) :
    (x ∉ (s.upsertPod pod).xrEliminatedPodIds ↔ t.time.nanoseconds ≤ u.time.nanoseconds) ↔
      ¬ Stamp.Swapped t u := by
  rw [upsert_restores returning]
  exact Stamp.text_le_iff

def sampleTime (nanosecond : Nat) (small : nanosecond < 1000000000) : DateTime where
  year := 2026
  month := 1
  day := 1
  hour := 0
  minute := 0
  second := 6
  nanosecond
  year_lt := by decide
  month_pos := by decide
  month_le := by decide
  day_pos := by decide
  day_le := by decide
  hour_lt := by decide
  minute_lt := by decide
  second_lt := by decide
  nanosecond_lt := small

/-- 2026-01-01T00:00:06.000Z -/
def goneAt : Stamp := ⟨sampleTime 0 (by decide), .js, fun _ => rfl⟩

/-- 2026-01-01T00:00:06.5Z -/
def halfLater : Stamp := ⟨sampleTime 500000000 (by decide), .go, nofun⟩

/-- 2026-01-01T00:00:06.0005Z -/
def justLater : Stamp := ⟨sampleTime 500000 (by decide), .go, nofun⟩

def eliminatedSample : GameState :=
  { GameStore.sample.state with
    podsById := (∅ : Pods).insert UUID.sampleSlave.text (.sample .gone goneAt.text)
    xrEliminatedPodIds := [UUID.sampleSlave.text] }

theorem sample_returning (u : Stamp) : Returning eliminatedSample UUID.sampleSlave.text
    (.sample .gone goneAt.text) (.sample .live u.text) goneAt u where
  eliminated := List.mem_cons_self
  shown := AList.lookup_insert _
  gone := rfl
  own := rfl
  live := nofun
  same := rfl
  seen := rfl
  observed := rfl

theorem restored_by_time_half :
    (UUID.sampleSlave.text ∉
        (eliminatedSample.upsertPod (.sample .live halfLater.text)).xrEliminatedPodIds ↔
      goneAt.time.nanoseconds ≤ halfLater.time.nanoseconds) ↔ ¬ Stamp.Swapped goneAt halfLater :=
  restored_by_time (sample_returning halfLater)

/-- The live state is half a millisecond later, and the pod stays eliminated. -/
theorem not_restored_just_later :
    ¬ (UUID.sampleSlave.text ∉
        (eliminatedSample.upsertPod (.sample .live justLater.text)).xrEliminatedPodIds ↔
      goneAt.time.nanoseconds ≤ justLater.time.nanoseconds) := by
  rw [upsert_restores (sample_returning justLater)]
  have later : goneAt.time.nanoseconds ≤ justLater.time.nanoseconds := by decide +kernel
  have earlier : justLater.text < goneAt.text := by decide +kernel
  exact fun claimed => claimed.mpr later earlier

end Restored

end Megalo.Frontend
