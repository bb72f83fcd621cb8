import Mathlib.Data.List.Basic

/-! The shared data of the services: libs/domain/models.go, the identifiers
uuid.NewString returns, and the two Go string tests the services branch on. -/
namespace Megalo

/-- An instant, in nanoseconds; the zero instant is Go's zero time. -/
abbrev Time := Nat

/-- The characters strings.TrimSpace removes (unicode.IsSpace). -/
def isSpace (c : Char) : Bool :=
  c.toNat ∈ [9, 10, 11, 12, 13, 32, 0x85, 0xA0, 0x1680, 0x2028, 0x2029, 0x202F, 0x205F, 0x3000] ||
    (0x2000 ≤ c.toNat && c.toNat ≤ 0x200A)

/-- strings.TrimSpace(s) == "" -/
def isBlank (s : String) : Bool := s.toList.all isSpace

def uuidChar (c : Char) : Bool :=
  (48 ≤ c.toNat && c.toNat ≤ 57) || (97 ≤ c.toNat && c.toNat ≤ 102) || c.toNat == 45

/-- What uuid.NewString returns: 36 lower-case hexadecimal digits and hyphens. -/
structure UUID where
  text : String
  length : text.toList.length = 36
  chars : text.toList.all uuidChar = true
  deriving DecidableEq

namespace UUID

variable (u : UUID)

theorem mem_uuidChar {c : Char} (h : c ∈ u.text.toList) : uuidChar c = true :=
  List.all_eq_true.mp u.chars c h

theorem notMem_of_not_uuidChar {c : Char} (h : uuidChar c = false) : c ∉ u.text.toList := by
  intro hc
  simp only [u.mem_uuidChar hc, Bool.true_eq_false] at h

theorem ne_of_length {s : String} (h : s.toList.length ≠ 36) : u.text ≠ s := by
  intro he
  exact h (he ▸ u.length)

theorem text_injective {u v : UUID} (same : u.text = v.text) : u = v := by
  cases u
  cases v
  cases same
  rfl

theorem text_ne_empty : u.text ≠ "" := u.ne_of_length (by decide)

theorem uuidChar_not_space {c : Char} (h : uuidChar c = true) : isSpace c = false := by
  simp only [uuidChar, Bool.or_eq_true, Bool.and_eq_true, decide_eq_true_eq, beq_iff_eq] at h
  simp only [isSpace, List.mem_cons, List.not_mem_nil, or_false, Bool.or_eq_false_iff,
    Bool.and_eq_false_iff, decide_eq_false_iff_not]
  omega

theorem not_blank : isBlank u.text = false := by
  have nonempty : u.text.toList ≠ [] := by
    intro he
    have := u.length
    simp only [he, List.length_nil] at this
    contradiction
  obtain ⟨c, rest, hl⟩ := List.exists_cons_of_ne_nil nonempty
  have member : uuidChar c = true := u.mem_uuidChar (hl ▸ List.mem_cons_self)
  have plain : isSpace c = false := uuidChar_not_space member
  simp only [isBlank, hl, List.all_cons, plain, Bool.false_and]

def sample : UUID :=
  ⟨"0b6f7a52-3c1d-4e8f-9a2b-5d6c7e8f9a0b", by decide, by decide⟩

def sampleSlave : UUID :=
  ⟨"7f3e2d1c-9b8a-4765-8432-1f0e9d8c7b6a", by decide, by decide⟩

end UUID

inductive SlaveStatus
  | unspecified
  | live
  | terminating
  | gone
  deriving DecidableEq

/-- The text a status has in JSON. -/
def SlaveStatus.text : SlaveStatus → String
  | .unspecified => "SLAVE_STATUS_UNSPECIFIED"
  | .live => "SLAVE_STATUS_LIVE"
  | .terminating => "SLAVE_STATUS_TERMINATING"
  | .gone => "SLAVE_STATUS_GONE"

inductive DeathReason
  | unspecified
  | lifespan
  | disease
  | processDown
  | podDown
  | userAction
  deriving DecidableEq

def DeathReason.text : DeathReason → String
  | .unspecified => "DEATH_REASON_UNSPECIFIED"
  | .lifespan => "DEATH_REASON_LIFESPAN"
  | .disease => "DEATH_REASON_DISEASE"
  | .processDown => "DEATH_REASON_PROCESS_DOWN"
  | .podDown => "DEATH_REASON_POD_DOWN"
  | .userAction => "DEATH_REASON_USER_ACTION"

structure Event where
  eventID : Int32
  seed : Int64
  targetPod : String
  sessionID : String
  source : String
  createdAt : Time
  deriving DecidableEq

structure SessionMeta where
  sessionID : String
  startedAt : Time
  deriving DecidableEq

def SessionMeta.zero : SessionMeta := ⟨"", 0⟩

structure SessionMetrics where
  sessionID : String
  liveSlaves : Int32
  goneSlaves : Int32
  updatedAt : Time
  deriving DecidableEq

structure SlaveState where
  sessionID : String
  slaveID : String
  k8sPodName : String
  k8sPodUID : String
  podIP : String
  status : SlaveStatus
  deathReason : DeathReason
  turnsLived : Int32
  remainingTurns : Int32
  stress : Int32
  fear : Int32
  infected : Bool
  firewall : Bool
  observedAt : Time
  source : String
  deriving DecidableEq

/-- domain.SlaveState with no field set. Its status is the empty text, which no test of
the services tells from an unspecified one. -/
def SlaveState.zero : SlaveState :=
  ⟨"", "", "", "", "", .unspecified, .unspecified, 0, 0, 0, 0, false, false, 0, ""⟩

def SlaveState.sample (status : SlaveStatus) : SlaveState :=
  ⟨UUID.sample.text, UUID.sampleSlave.text, "slave-service-0", "uid-1", "10.0.0.10", status,
    .unspecified, 0, 3, 0, 0, false, false, 3, "controller-service"⟩

/-- isTerminalState, one copy in each service. -/
def isTerminalState (status : SlaveStatus) : Bool :=
  status == .terminating || status == .gone

end Megalo
