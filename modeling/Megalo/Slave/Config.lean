import Megalo.Slave.Death
import Megalo.Library.Scan

/-! The configuration of the slave service, libs/config/config.go, and the lifespan that it gives
the pod. The number of turns is scanned as an int64 and narrowed to an int32. -/
namespace Megalo.Slave

open Scan (Decimal)

/-- os.Getenv, which is empty for a variable that is not set, and os.Hostname. -/
structure Environment where
  getenv : String → String
  hostname : Except String String

structure SlaveConfig where
  gRPCAddr : String
  controllerGRPCTarget : String
  podID : String
  k8sPodName : String
  k8sPodUID : String
  podIP : String
  initialRemainingTurns : Int32
  deriving DecidableEq

variable (env : Environment)

def envOrDefault (key defaultValue : String) : String :=
  if env.getenv key ≠ "" then env.getenv key else defaultValue

def envOrDefaultInt32 (key : String) (defaultValue : Int32) : Int32 :=
  if env.getenv key ≠ "" then
    match Scan.sscan isSpace (env.getenv key) with
    | some parsed => Int32.ofInt parsed
    | none => defaultValue
  else defaultValue

/-- SLAVE_POD_ID, or the name of the host. -/
def podIDFromEnv : Except String String :=
  if envOrDefault env "SLAVE_POD_ID" "" = "" then
    match env.hostname with
    | .error err => .error ("get hostname for SLAVE_POD_ID fallback: " ++ err)
    | .ok hostname => .ok hostname
  else .ok (envOrDefault env "SLAVE_POD_ID" "")

def checkSlaveConfig (cfg : SlaveConfig) : Except String SlaveConfig :=
  if cfg.gRPCAddr = "" then .error "SLAVE_GRPC_ADDR is required"
  else if cfg.controllerGRPCTarget = "" then .error "SLAVE_CONTROLLER_GRPC_TARGET is required"
  else if cfg.podID = "" then .error "SLAVE_POD_ID is required"
  else if cfg.k8sPodName = "" then .error "SLAVE_K8S_POD_NAME is required"
  else if cfg.k8sPodUID = "" then .error "SLAVE_K8S_POD_UID is required"
  else if cfg.podIP = "" then .error "SLAVE_POD_IP is required"
  else .ok cfg

def loadSlave : Except String SlaveConfig :=
  match podIDFromEnv env with
  | .error err => .error err
  | .ok podID => checkSlaveConfig
    { gRPCAddr := envOrDefault env "SLAVE_GRPC_ADDR" ":50051"
      controllerGRPCTarget := envOrDefault env "SLAVE_CONTROLLER_GRPC_TARGET" "localhost:50052"
      podID
      k8sPodName := envOrDefault env "SLAVE_K8S_POD_NAME" "slave-service-0"
      k8sPodUID := envOrDefault env "SLAVE_K8S_POD_UID" "slave-service-0-uid"
      podIP := envOrDefault env "SLAVE_POD_IP" "127.0.0.1"
      initialRemainingTurns := envOrDefaultInt32 env "SLAVE_INITIAL_REMAINING_TURNS" 10 }

/-- What main makes of the configuration: a service that has its pod set up. -/
def startService (now : Time) (cfg : SlaveConfig) : Service :=
  setupPod now cfg.podID cfg.k8sPodName cfg.k8sPodUID cfg.podIP
    ⟨cfg.initialRemainingTurns, ⟨"", "", "", "", "", 0, 0, .unspecified, .unspecified, 0, 0, 0,
      false, false⟩⟩

/-- There is no id for the pod, and LoadSlave fails whatever the other variables are. -/
def Unnamed : Prop := podIDFromEnv env = .ok "" ∨ ∃ err, podIDFromEnv env = .error err

def FitsInt32 (n : Int) : Prop := -2147483648 ≤ n ∧ n < 2147483648

instance (n : Int) : Decidable (FitsInt32 n) := inferInstanceAs (Decidable (_ ∧ _))

/-- What a lifespan of n asks for: n, or the default where int32 has no n. -/
def wanted (n : Int) : Int := if FitsInt32 n then n else 10

/-- The number of turns is the wanted one in the configuration, in the pod and at the controller,
and a positive one lets the pod live. -/
structure LifespanKept (n : Int) : Prop where
  loads : FitsInt32 n → Unnamed env ∨ ∃ cfg, loadSlave env = .ok cfg
  yields : ∀ cfg, loadSlave env = .ok cfg → cfg.initialRemainingTurns.toInt = wanted n
  remaining : ∀ cfg now, loadSlave env = .ok cfg →
    (startService now cfg).pod.remaining.toInt = wanted n
  registered : ∀ cfg now pod, loadSlave env = .ok cfg →
    registrationInfo (startService now cfg) = some pod → pod.initialTurn.toInt = wanted n
  lives : 0 < n → ∀ cfg now, loadSlave env = .ok cfg → 0 < (startService now cfg).pod.remaining

section Load

variable {env}

theorem envOrDefault_ne {key defaultValue : String} (given : defaultValue ≠ "") :
    envOrDefault env key defaultValue ≠ "" := by
  unfold envOrDefault
  split
  · assumption
  · exact given

/-- LoadSlave fails only for want of an id. -/
theorem loadSlave_cases (env : Environment) : Unnamed env ∧ (∀ cfg, loadSlave env ≠ .ok cfg) ∨
    ¬ Unnamed env ∧ ∃ cfg, loadSlave env = .ok cfg ∧ cfg.initialRemainingTurns =
      envOrDefaultInt32 env "SLAVE_INITIAL_REMAINING_TURNS" 10 := by
  unfold loadSlave
  cases named : podIDFromEnv env with
  | error err => exact .inl ⟨.inr ⟨err, named⟩, nofun⟩
  | ok podID =>
    by_cases empty : podID = ""
    · subst empty
      refine .inl ⟨.inl named, ?_⟩
      simp only [checkSlaveConfig, envOrDefault_ne (by decide : ":50051" ≠ ""),
        envOrDefault_ne (by decide : "localhost:50052" ≠ ""), if_false, if_true]
      exact nofun
    · have known : ¬ Unnamed env := by
        rintro (none | ⟨err, failed⟩)
        · cases named.symm.trans none
          exact empty rfl
        · cases named.symm.trans failed
      refine .inr ⟨known, ?_⟩
      simp only [checkSlaveConfig, envOrDefault_ne (by decide : ":50051" ≠ ""),
        envOrDefault_ne (by decide : "localhost:50052" ≠ ""), empty,
        envOrDefault_ne (by decide : "slave-service-0" ≠ ""),
        envOrDefault_ne (by decide : "slave-service-0-uid" ≠ ""),
        envOrDefault_ne (by decide : "127.0.0.1" ≠ ""), if_false]
      exact ⟨_, rfl, rfl⟩

theorem solid {c : Char} (plain : Scan.isDigit 10 c = true ∨ c = '+' ∨ c = '-') :
    isSpace c = false := by
  have range : 43 ≤ c.toNat ∧ c.toNat ≤ 57 := by
    rcases plain with decimal | rfl | rfl
    · have := Scan.between_of_decimal decimal
      omega
    · decide
    · decide
  simp only [isSpace, List.mem_cons, List.not_mem_nil, or_false, Bool.or_eq_false_iff,
    Bool.and_eq_false_iff, decide_eq_false_iff_not]
  omega

theorem text_ne_empty (d : Decimal) : d.text ≠ "" := by
  intro empty
  have none : d.sign ++ d.digits = [] := String.ofList_injective empty
  exact d.filled (List.append_eq_nil_iff.mp none).2

/-- The variable comes through as the number that Sscan reads, wrapped to an int32. -/
theorem envOrDefaultInt32_toInt {key : String} {defaultValue : Int32} {d : Decimal}
    (given : env.getenv key = d.text) (low : -(2 ^ 63) ≤ d.number) (high : d.number < 2 ^ 63) :
    (envOrDefaultInt32 env key defaultValue).toInt = d.scanned.bmod (2 ^ 32) := by
  rw [envOrDefaultInt32, given, if_pos (text_ne_empty d),
    Scan.sscan_decimal isSpace d (fun _ => solid) low high]
  exact Int32.toInt_ofInt

theorem bmod_fits {n : Int} (fits : FitsInt32 n) : n.bmod (2 ^ 32) = n := by
  obtain ⟨low, high⟩ := fits
  rw [Int.bmod_eq_of_le] <;> omega

/-- What Sscan reads is no further from zero than the number. -/
theorem scanned_fits {d : Decimal} (fits : FitsInt32 d.number) : FitsInt32 d.scanned := by
  obtain ⟨m, le, scanned⟩ := Scan.scanned_le d
  rw [scanned]
  unfold FitsInt32 Decimal.number Decimal.withSign at *
  split <;> simp_all <;> omega

/-- The wrapped number is the wanted one. -/
theorem wrapped_iff {d : Decimal} : d.scanned.bmod (2 ^ 32) = wanted d.number ↔
    FitsInt32 d.number ∧ (d.leadingZero = false ∨ d.number.natAbs < 8) ∨
      ¬ FitsInt32 d.number ∧ d.scanned.bmod (2 ^ 32) = 10 := by
  unfold wanted
  by_cases fits : FitsInt32 d.number
  · simp only [fits, if_true, true_and, not_true_eq_false, false_and, or_false]
    rw [bmod_fits (scanned_fits fits), Scan.scanned_eq_iff]
  · simp only [fits, if_false, false_and, not_false_eq_true, true_and, false_or]

/-- For every decimal integer within int64: the lifespan is kept where LoadSlave fails anyway, or
the number fits and Go reads it as it is written, or it does not fit and happens to wrap to the
default. -/
theorem lifespan_kept {d : Decimal} (given : env.getenv "SLAVE_INITIAL_REMAINING_TURNS" = d.text)
    (low : -(2 ^ 63) ≤ d.number) (high : d.number < 2 ^ 63) : LifespanKept env d.number ↔
      Unnamed env ∨ FitsInt32 d.number ∧ (d.leadingZero = false ∨ d.number.natAbs < 8) ∨
        ¬ FitsInt32 d.number ∧ d.scanned.bmod (2 ^ 32) = 10 := by
  rw [← wrapped_iff]
  rcases loadSlave_cases env with ⟨unnamed, fails⟩ | ⟨named, cfg, loaded, turns⟩
  · refine iff_of_true ⟨fun _ => .inl unnamed, ?_, ?_, ?_, ?_⟩ (.inl unnamed)
    · exact fun cfg ok => absurd ok (fails cfg)
    · exact fun cfg _ ok => absurd ok (fails cfg)
    · exact fun cfg _ _ ok => absurd ok (fails cfg)
    · exact fun _ cfg _ ok => absurd ok (fails cfg)
  · have wraps : cfg.initialRemainingTurns.toInt = d.scanned.bmod (2 ^ 32) := by
      rw [turns]
      exact envOrDefaultInt32_toInt given low high
    constructor
    · intro kept
      exact .inr (wraps ▸ kept.yields cfg loaded)
    · intro condition
      have same := wraps.trans (condition.resolve_left named)
      have only : ∀ other, loadSlave env = .ok other → other = cfg := by
        intro other ok
        cases loaded.symm.trans ok
        rfl
      constructor
      · exact fun _ => .inr ⟨cfg, loaded⟩
      · intro other ok
        rw [only other ok]
        exact same
      · intro other now ok
        rw [only other ok]
        exact same
      · intro other now pod ok info
        rw [only other ok] at info
        unfold registrationInfo at info
        split at info
        · cases info
        · cases info
          exact same
      · intro positive other now ok
        rw [only other ok, Int32.lt_iff_toInt_lt, Int32.toInt_zero]
        change 0 < cfg.initialRemainingTurns.toInt
        rw [same, wanted]
        split <;> omega

/-- A pod without turns dies of old age at its first event. -/
theorem dies_at_once {s : Service} {c : Call} (rand : Rand) (spent : s.pod.remaining ≤ 0)
    (executes : s.executes c = true) : (s.called rand c).pod.deathReason = .lifespan := by
  have last : s.pod.tick.remaining ≤ 0 := by
    rw [tick_spent, Int32.le_iff_toInt_le, Int32.toInt_one]
    rw [Int32.le_iff_toInt_le, Int32.toInt_zero] at spent
    omega
  rw [called_pod executes]
  obtain ⟨remaining, -, -⟩ :=
    applyEvent_remaining rand (rand.newSource c.req.seed) c.req.eventID s.pod.tick
  unfold PodState.mutateLife
  simp only [remaining, last, if_true, reduceCtorEq, false_and, if_false, true_and]
  split <;> rfl

def sampleEnvironment (turns : Decimal) : Environment where
  getenv key :=
    if key = "SLAVE_INITIAL_REMAINING_TURNS" then turns.text
    else if key = "SLAVE_POD_ID" then "slave-1"
    else ""
  hostname := .error "no host name"

def seven : Decimal :=
  ⟨['+'], ['0', '7'], by decide, by decide, List.all_eq_true.mp (by decide)⟩

/-- 2^32 -/
def beyond : Decimal :=
  ⟨[], ['4', '2', '9', '4', '9', '6', '7', '2', '9', '6'],
    by decide, by decide, List.all_eq_true.mp (by decide)⟩

theorem lifespan_kept_seven : LifespanKept (sampleEnvironment seven) 7 ↔
    Unnamed (sampleEnvironment seven) ∨
      FitsInt32 7 ∧ (seven.leadingZero = false ∨ Int.natAbs 7 < 8) ∨
        ¬ FitsInt32 7 ∧ seven.scanned.bmod (2 ^ 32) = 10 :=
  lifespan_kept (d := seven) (by decide +kernel) (by decide +kernel) (by decide +kernel)

/-- The pod starts without turns, and its first event finds it dead of old age. -/
theorem lifespan_wraps : beyond.number = 4294967296 ∧
    ¬ LifespanKept (sampleEnvironment beyond) beyond.number ∧
      ∃ cfg, loadSlave (sampleEnvironment beyond) = .ok cfg ∧
        (startService 0 cfg).pod.remaining = 0 ∧
          ((startService 0 cfg).called .sparing ⟨1, 1, 7, ""⟩).pod.deathReason = .lifespan := by
  obtain ⟨cfg, loaded, spent⟩ : ∃ cfg, loadSlave (sampleEnvironment beyond) = .ok cfg ∧
      (startService 0 cfg).pod.remaining = 0 ∧
        (startService 0 cfg).executes ⟨1, 1, 7, ""⟩ = true :=
    ⟨⟨":50051", "localhost:50052", "slave-1", "slave-service-0", "slave-service-0-uid",
      "127.0.0.1", 0⟩, by decide +kernel, by decide +kernel, by decide +kernel⟩
  refine ⟨by decide +kernel, fun kept => ?_, cfg, loaded, spent.1, ?_⟩
  · have alive := kept.lives (by decide +kernel) cfg 0 loaded
    rw [spent.1] at alive
    exact absurd alive (by decide)
  · exact dies_at_once .sparing (by rw [spent.1]; decide) spent.2

end Load

end Megalo.Slave
