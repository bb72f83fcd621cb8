import Megalo.Library.JsonStruct
import Megalo.Proto.SlaveState
import Megalo.Redis.Client

/-! The JSON of libs/domain/models.go, which is what the client of Redis stores and publishes. -/
namespace Megalo.Wire

open Json (Datum Fields Struct marshal unmarshal)

def timeField (t : Time) : Datum := .time (t + Proto.zeroTime : Nat)

def eventFields (event : Event) : Fields :=
  [("event_id", .int32 event.eventID), ("seed", .int64 event.seed),
    ("target_pod", .string event.targetPod), ("session_id", .string event.sessionID),
    ("source", .string event.source), ("created_at", timeField event.createdAt)]

def sessionMetaFields (m : SessionMeta) : Fields :=
  [("session_id", .string m.sessionID), ("started_at", timeField m.startedAt)]

def sessionMetricsFields (m : SessionMetrics) : Fields :=
  [("session_id", .string m.sessionID), ("live_slaves", .int32 m.liveSlaves),
    ("gone_slaves", .int32 m.goneSlaves), ("updated_at", timeField m.updatedAt)]

def slaveStateFields (state : SlaveState) : Fields :=
  [("session_id", .string state.sessionID), ("slave_id", .string state.slaveID),
    ("k8s_pod_name", .string state.k8sPodName), ("k8s_pod_uid", .string state.k8sPodUID),
    ("pod_ip", .string state.podIP), ("status", .string state.status.text),
    ("death_reason", .string state.deathReason.text), ("turns_lived", .int32 state.turnsLived),
    ("remaining_turns", .int32 state.remainingTurns), ("stress", .int32 state.stress),
    ("fear", .int32 state.fear), ("infected", .bool state.infected),
    ("firewall", .bool state.firewall), ("observed_at", timeField state.observedAt),
    ("source", .string state.source)]

def eventStruct : Struct :=
  [("event_id", .int32), ("seed", .int64), ("target_pod", .string), ("session_id", .string),
    ("source", .string), ("created_at", .time)]

def sessionMetaStruct : Struct := [("session_id", .string), ("started_at", .time)]

def sessionMetricsStruct : Struct :=
  [("session_id", .string), ("live_slaves", .int32), ("gone_slaves", .int32),
    ("updated_at", .time)]

def slaveStateStruct : Struct :=
  [("session_id", .string), ("slave_id", .string), ("k8s_pod_name", .string),
    ("k8s_pod_uid", .string), ("pod_ip", .string), ("status", .string),
    ("death_reason", .string), ("turns_lived", .int32), ("remaining_turns", .int32),
    ("stress", .int32), ("fear", .int32), ("infected", .bool), ("firewall", .bool),
    ("observed_at", .time), ("source", .string)]

/-- DecodeEvent, as the fields of the event; so with the others. -/
def decodeEvent (payload : List Char) : Option Fields := unmarshal eventStruct payload

def decodeSlaveState (payload : List Char) : Option Fields := unmarshal slaveStateStruct payload

def decodeSessionMeta (payload : List Char) : Option Fields := unmarshal sessionMetaStruct payload

def decodeSessionMetrics (payload : List Char) : Option Fields :=
  unmarshal sessionMetricsStruct payload

/-- What the client marshals. -/
inductive Record
  | event (e : Event)
  | sessionMeta (m : SessionMeta)
  | metrics (m : SessionMetrics)
  | slave (state : SlaveState)

namespace Record

def fields : Record → Fields
  | .event e => eventFields e
  | .sessionMeta m => sessionMetaFields m
  | .metrics m => sessionMetricsFields m
  | .slave state => slaveStateFields state

/-- The decoder of the keys, or of the channel, that such a record goes to. -/
def decode : Record → List Char → Option Fields
  | .event _ => decodeEvent
  | .sessionMeta _ => decodeSessionMeta
  | .metrics _ => decodeSessionMetrics
  | .slave _ => decodeSlaveState

def struct : Record → Struct
  | .event _ => eventStruct
  | .sessionMeta _ => sessionMetaStruct
  | .metrics _ => sessionMetricsStruct
  | .slave _ => slaveStateStruct

def time : Record → Time
  | .event e => e.createdAt
  | .sessionMeta m => m.startedAt
  | .metrics m => m.updatedAt
  | .slave state => state.observedAt

/-- The text of a record is read as the record and as no other, of whatever kind, and there is
one unless the time is past what RFC 3339 can say. -/
structure Kept (r : Record) : Prop where
  read : ∀ text, marshal r.fields = some text → r.decode text = some r.fields
  alone : ∀ text q, marshal r.fields = some text → marshal q.fields = some text → q = r
  written : (∃ text, marshal r.fields = some text) ↔
    Timestamp.yearOf (r.time + Proto.zeroTime) < 10000

end Record

section Kept

variable {r q : Record}

theorem distinct (r : Record) : Json.Distinct r.fields := by
  unfold Json.Distinct
  cases r with
  | event e => exact (by decide : (eventStruct.map Prod.fst).Nodup)
  | sessionMeta m => exact (by decide : (sessionMetaStruct.map Prod.fst).Nodup)
  | metrics m => exact (by decide : (sessionMetricsStruct.map Prod.fst).Nodup)
  | slave state => exact (by decide : (slaveStateStruct.map Prod.fst).Nodup)

theorem fields_struct (r : Record) : r.fields.struct = r.struct := by
  cases r <;> rfl

theorem decode_eq (r : Record) (payload : List Char) :
    r.decode payload = unmarshal r.struct payload := by
  cases r <;> rfl

theorem status_text_inj {a b : SlaveStatus} : a.text = b.text ↔ a = b := by
  cases a <;> cases b <;> decide

theorem reason_text_inj {a b : DeathReason} : a.text = b.text ↔ a = b := by
  cases a <;> cases b <;> decide

theorem timeField_inj {t u : Time} : timeField t = timeField u ↔ t = u := by
  constructor
  · intro same
    have shifted := Int.ofNat.inj (Datum.time.inj same)
    exact Nat.add_right_cancel shifted
  · rintro rfl
    rfl

theorem fields_inj {r q : Record} (same : r.fields = q.fields) : r = q := by
  have lengths := congrArg List.length same
  cases r with
  | event a =>
    cases q with
    | event b =>
      change eventFields a = eventFields b at same
      cases a
      cases b
      simp only [eventFields, List.cons.injEq, Prod.mk.injEq, true_and, and_true,
        Datum.int32.injEq, Datum.int64.injEq, Datum.string.injEq, timeField_inj] at same
      obtain ⟨rfl, rfl, rfl, rfl, rfl, rfl⟩ := same
      rfl
    | sessionMeta b | metrics b | slave b =>
      simp [Record.fields, eventFields, sessionMetaFields, sessionMetricsFields,
        slaveStateFields] at lengths
  | sessionMeta a =>
    cases q with
    | sessionMeta b =>
      change sessionMetaFields a = sessionMetaFields b at same
      cases a
      cases b
      simp only [sessionMetaFields, List.cons.injEq, Prod.mk.injEq, true_and, and_true,
        Datum.string.injEq, timeField_inj] at same
      obtain ⟨rfl, rfl⟩ := same
      rfl
    | event b | metrics b | slave b =>
      simp [Record.fields, eventFields, sessionMetaFields, sessionMetricsFields,
        slaveStateFields] at lengths
  | metrics a =>
    cases q with
    | metrics b =>
      change sessionMetricsFields a = sessionMetricsFields b at same
      cases a
      cases b
      simp only [sessionMetricsFields, List.cons.injEq, Prod.mk.injEq, true_and, and_true,
        Datum.string.injEq, Datum.int32.injEq, timeField_inj] at same
      obtain ⟨rfl, rfl, rfl, rfl⟩ := same
      rfl
    | event b | sessionMeta b | slave b =>
      simp [Record.fields, eventFields, sessionMetaFields, sessionMetricsFields,
        slaveStateFields] at lengths
  | slave a =>
    cases q with
    | slave b =>
      change slaveStateFields a = slaveStateFields b at same
      cases a
      cases b
      simp only [slaveStateFields, List.cons.injEq, Prod.mk.injEq, true_and, and_true,
        Datum.string.injEq, Datum.int32.injEq, Datum.bool.injEq, timeField_inj, status_text_inj,
        reason_text_inj] at same
      obtain ⟨rfl, rfl, rfl, rfl, rfl, rfl, rfl, rfl, rfl, rfl, rfl, rfl, rfl, rfl, rfl⟩ := same
      rfl
    | event b | sessionMeta b | metrics b =>
      simp [Record.fields, eventFields, sessionMetaFields, sessionMetricsFields,
        slaveStateFields] at lengths

/-- The four structs differ in how many fields they have. -/
theorem struct_of_length {r q : Record} (same : r.fields.length = q.fields.length) :
    r.struct = q.struct := by
  have count (r : Record) : r.fields.length = r.struct.length := by
    rw [← fields_struct, Json.Fields.struct, List.length_map]
  rw [count, count] at same
  cases r <;> cases q <;> first | rfl | simp [Record.struct, eventStruct, sessionMetaStruct,
    sessionMetricsStruct, slaveStateStruct] at same

theorem member_time (t : Time) (name : String) : (Json.member (name, timeField t)).isSome = true ↔
    Timestamp.yearOf (t + Proto.zeroTime) < 10000 := by
  rw [Json.member, Option.isSome_map]
  change ((Json.writeTime _).map _).isSome = true ↔ _
  rw [Option.isSome_map]
  exact Json.writeTime_isSome _

/-- Only a time may have no text. -/
theorem written_iff (r : Record) : (∃ text, marshal r.fields = some text) ↔
    Timestamp.yearOf (r.time + Proto.zeroTime) < 10000 := by
  rw [Json.marshal_isSome_iff]
  constructor
  · intro all
    cases r with
    | event e => exact (member_time _ _).mp (all ("created_at", timeField e.createdAt) (by
        simp [Record.fields, eventFields]))
    | sessionMeta m => exact (member_time _ _).mp (all ("started_at", timeField m.startedAt) (by
        simp [Record.fields, sessionMetaFields]))
    | metrics m => exact (member_time _ _).mp (all ("updated_at", timeField m.updatedAt) (by
        simp [Record.fields, sessionMetricsFields]))
    | slave state =>
      exact (member_time _ _).mp (all ("observed_at", timeField state.observedAt) (by
        simp [Record.fields, slaveStateFields]))
  · intro year f inside
    have time (name : String) : (Json.member (name, timeField r.time)).isSome = true :=
      (member_time r.time name).mpr year
    cases r with
    | event e =>
      simp only [Record.fields, eventFields, List.mem_cons, List.not_mem_nil, or_false] at inside
      rcases inside with rfl | rfl | rfl | rfl | rfl | rfl <;> first | rfl | exact time _
    | sessionMeta m =>
      simp only [Record.fields, sessionMetaFields, List.mem_cons, List.not_mem_nil,
        or_false] at inside
      rcases inside with rfl | rfl <;> first | rfl | exact time _
    | metrics m =>
      simp only [Record.fields, sessionMetricsFields, List.mem_cons, List.not_mem_nil,
        or_false] at inside
      rcases inside with rfl | rfl | rfl | rfl <;> first | rfl | exact time _
    | slave state =>
      simp only [Record.fields, slaveStateFields, List.mem_cons, List.not_mem_nil,
        or_false] at inside
      rcases inside with rfl | rfl | rfl | rfl | rfl | rfl | rfl | rfl | rfl | rfl | rfl | rfl |
        rfl | rfl | rfl <;> first | rfl | exact time _

theorem read_back {text : List Char} (written : marshal r.fields = some text) :
    unmarshal r.struct text = some r.fields := by
  have blank : ∀ c ∈ ([] : List Char), c ∈ [' ', '\t', '\n', '\r'] := by simp
  have whole := Json.unmarshal_marshal (distinct r) written blank
  rwa [List.append_nil, fields_struct] at whole

theorem record_kept (r : Record) : r.Kept where
  read := by
    intro text written
    rw [decode_eq]
    exact read_back written
  alone := by
    intro text q written other
    have names := Json.marshal_names other written
    have lengths := congrArg List.length names
    simp only [List.length_map] at lengths
    have read := read_back other
    rw [struct_of_length lengths, read_back written] at read
    exact (fields_inj (Option.some.inj read)).symm
  written := written_iff r

end Kept

end Megalo.Wire
