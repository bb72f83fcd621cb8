import Megalo.Auth.Signing

/-! The gate of the master service: withCloudflareAccessAuth of cloudflare_access_auth.go before its
handlers, for any number of requests over one cache of signing keys. The parser of the tokens is
the library's; what a section meets is what it is for signingKey. -/
namespace Megalo.Auth

open Transition

def errMissingCloudflareAccessToken : String := "missing cloudflare access token"

/-- strings.TrimSpace -/
def trimSpace (s : String) : String :=
  String.ofList ((s.toList.dropWhile isSpace).reverse.dropWhile isSpace).reverse

/-- strings.ToLower, as far as ASCII: no other letter becomes one of "bearer ". -/
def toLowerASCII (c : Char) : Char :=
  if 65 ≤ c.toNat ∧ c.toNat ≤ 90 then Char.ofNat (c.toNat + 32) else c

/-- What the gate reads of a request. -/
structure Request where
  /-- r.Header.Get -/
  header : String → String
  /-- r.Cookie -/
  cookie : String → Option String

/-- jwt.Parser, configured with the method RS256, the audience and the issuer: ParseWithClaims
parses, asks for the key of the kid header, and verifies. -/
structure Parser where
  /-- The kid header of a well-formed token, when it is a string. -/
  parse : String → Except String (Option String)
  /-- The signature and the claims. -/
  verify : Time → String → PublicKey → Except String Unit
  /-- The error of a parser that did not get its key. -/
  unverifiable : String → String

/-- cloudflareAccessVerifier, as far as it does not change. -/
structure Gate where
  enabled : Bool
  tokenHeader : String
  tokenCookie : String
  jwksTTL : Nat
  parser : Parser

/-- http.StatusUnauthorized -/
def statusUnauthorized : Nat := 401

/-- http.StatusForbidden -/
def statusForbidden : Nat := 403

inductive GateStage
  | arrived
  /-- The parser waits for its key. -/
  | keying (token : String) (call : SigningCall)
  /-- next.ServeHTTP -/
  | served
  /-- http.Error, and the error that is logged. -/
  | rejected (status : Nat) (err : String)

structure GateRequest where
  request : Request
  stage : GateStage

namespace Gate

variable (g : Gate) (r : Request)

/-- authorization[len("bearer "):], behind the prefix in any case. -/
def bearer (authorization : String) : Option String :=
  if (authorization.toList.take 7).map toLowerASCII = "bearer ".toList then
    some (trimSpace (String.ofList (authorization.toList.drop 7)))
  else none

def tokenFromRequest : Except String String :=
  let token := trimSpace (r.header g.tokenHeader)
  if token ≠ "" then .ok token
  else match (r.cookie g.tokenCookie).map trimSpace with
    | some token =>
      if token ≠ "" then .ok token else fromAuthorization (trimSpace (r.header "Authorization"))
    | none => fromAuthorization (trimSpace (r.header "Authorization"))
where
  fromAuthorization (authorization : String) : Except String String :=
    match bearer authorization with
    | some token => if token ≠ "" then .ok token else .error errMissingCloudflareAccessToken
    | none => .error errMissingCloudflareAccessToken

/-- What withCloudflareAccessAuth makes of VerifyRequest's error, as VerifyRequest wraps it. -/
def invalid (err : String) : GateStage :=
  .rejected statusForbidden (errInvalidCloudflareAccessToken ++ ": " ++ err)

/-- VerifyRequest as far as the key function. -/
def arrive : GateStage :=
  if !g.enabled then .served
  else match g.tokenFromRequest r with
    | .error err => .rejected statusUnauthorized err
    | .ok token => match g.parser.parse token with
      | .error err => invalid err
      | .ok header =>
        let kid := trimSpace (header.getD "")
        if kid = "" then
          invalid (g.parser.unverifiable (errInvalidCloudflareAccessToken ++ ": missing kid header"))
        else .keying token ⟨kid, .reading .first⟩

/-- The rest of VerifyRequest, from what signingKey has returned. -/
def finish (now : Time) (token : String) : Except String PublicKey → GateStage
  | .error err => invalid (g.parser.unverifiable err)
  | .ok key => match g.parser.verify now token key with
    | .error err => invalid err
    | .ok () => .served

def move (i : Section) (v : Verifier) (q : GateRequest) : Option (Verifier × GateRequest) :=
  match q.stage with
  | .arrived => some (v, { q with stage := g.arrive q.request })
  | .keying token call => match call.stage with
    | .returned result =>
      if v.clock ≤ i.now then
        some ({ v with clock := i.now }, { q with stage := g.finish i.now token result })
      else none
    | _ => (v.move g.jwksTTL i call).map fun (v, call) => (v, { q with stage := .keying token call })
  | .served | .rejected .. => none

end Gate

/-- The requests come as they please. -/
def gate (g : Gate) : Composite Verifier GateRequest Section Empty where
  starts _ q := match q.stage with
    | .arrived => true
    | _ => false
  move _ := g.move
  outside := nofun

def GateStage.answered : GateStage → Bool
  | .served | .rejected .. => true
  | _ => false

/-- What let a request through. -/
structure Pass where
  token : String
  header : Option String
  key : PublicKey
  /-- When the key was read from the cache, and when the token was verified. -/
  read : Time
  verified : Time

def Pass.kid (pass : Pass) : String := trimSpace (pass.header.getD "")

/-- The token is the request's, and was verified under a key that was fresh when it was read. -/
structure Verified (g : Gate) (history : List Moment) (r : Request) (pass : Pass) : Prop where
  token : g.tokenFromRequest r = .ok pass.token
  header : g.parser.parse pass.token = .ok pass.header
  kid : pass.kid ≠ ""
  verifies : g.parser.verify pass.verified pass.token pass.key = .ok ()
  ordered : pass.read ≤ pass.verified
  fresh : ∃ later earlier, history = later ++ .returned pass.kid pass.key pass.read :: earlier ∧
    ReadFresh g.jwksTTL earlier pass.kid pass.key pass.read

section Requests

variable {g : Gate} {r : Request} {v v' : Verifier} {i : Section} {q q' : GateRequest}
  {call call' : SigningCall}

theorem fromAuthorization_cases (authorization : String) :
    (∃ token, Gate.tokenFromRequest.fromAuthorization authorization = .ok token ∧ token ≠ "") ∨
      Gate.tokenFromRequest.fromAuthorization authorization =
        .error errMissingCloudflareAccessToken := by
  unfold Gate.tokenFromRequest.fromAuthorization
  split
  · split
    · rename_i token _ filled
      exact .inl ⟨token, rfl, filled⟩
    · exact .inr rfl
  · exact .inr rfl

/-- A token is not empty, and there is one error. -/
theorem tokenFromRequest_cases (g : Gate) (r : Request) :
    (∃ token, g.tokenFromRequest r = .ok token ∧ token ≠ "") ∨
      g.tokenFromRequest r = .error errMissingCloudflareAccessToken := by
  unfold Gate.tokenFromRequest
  dsimp only
  split
  · rename_i filled
    exact .inl ⟨_, rfl, filled⟩
  · split
    · split
      · rename_i token _ filled
        exact .inl ⟨token, rfl, filled⟩
      · exact fromAuthorization_cases _
    · exact fromAuthorization_cases _

/-- What is known of a request at its stage. -/
def KnownAt (g : Gate) (v : Verifier) (r : Request) : GateStage → Prop
  | .arrived => True
  | .keying token call => g.enabled = true ∧ g.tokenFromRequest r = .ok token ∧
      (∃ header, g.parser.parse token = .ok header ∧ call.kid = trimSpace (header.getD "")) ∧
      call.kid ≠ "" ∧ ∀ key, call.stage = .returned (.ok key) →
        ∃ time, time ≤ v.clock ∧ .returned call.kid key time ∈ v.history
  | .served => g.enabled = true → ∃ pass, Verified g v.history r pass
  | .rejected status err => g.enabled = true ∧
      (status = statusUnauthorized ∧ err = errMissingCloudflareAccessToken ∧
          g.tokenFromRequest r = .error err ∨
        status = statusForbidden ∧ ∃ token, g.tokenFromRequest r = .ok token)

theorem invalid_known (enabled : g.enabled = true) {token : String}
    (found : g.tokenFromRequest r = .ok token) (err : String) :
    KnownAt g v r (Gate.invalid err) := ⟨enabled, .inr ⟨rfl, token, found⟩⟩

theorem arrive_known (g : Gate) (v : Verifier) (r : Request) : KnownAt g v r (g.arrive r) := by
  unfold Gate.arrive
  split
  · rename_i disabled
    intro enabled
    rw [enabled] at disabled
    cases disabled
  · rename_i on
    have enabled : g.enabled = true := by simpa using on
    split
    · rename_i err missing
      refine ⟨enabled, .inl ⟨rfl, ?_, missing⟩⟩
      rcases tokenFromRequest_cases g r with ⟨token, found, -⟩ | error
      · cases found.symm.trans missing
      · exact Except.error.inj (missing.symm.trans error)
    · rename_i token found
      split
      · exact invalid_known enabled found _
      · rename_i header parsed
        dsimp only
        split
        · exact invalid_known enabled found _
        · rename_i named
          exact ⟨enabled, found, ⟨header, parsed, rfl⟩, named, nofun⟩

/-- The history has only grown, and time has passed. -/
structure Later (v v' : Verifier) : Prop where
  clock : v.clock ≤ v'.clock
  history : ∃ newer, v'.history = newer ++ v.history

theorem Later.refl (v : Verifier) : Later v v := ⟨Nat.le_refl _, [], rfl⟩

theorem Verified.later {pass : Pass} (verified : Verified g v.history r pass)
    (later : Later v v') : Verified g v'.history r pass := by
  obtain ⟨newer, grown⟩ := later.history
  obtain ⟨after, earlier, split, fresh⟩ := verified.fresh
  refine { verified with fresh := ⟨newer ++ after, earlier, ?_, fresh⟩ }
  rw [grown, split, List.append_assoc]

theorem KnownAt.later {stage : GateStage} (known : KnownAt g v r stage) (later : Later v v') :
    KnownAt g v' r stage := by
  obtain ⟨newer, grown⟩ := later.history
  cases stage with
  | arrived => trivial
  | keying token call =>
    obtain ⟨enabled, found, parsed, named, told⟩ := known
    refine ⟨enabled, found, parsed, named, fun key returned => ?_⟩
    obtain ⟨time, past, inside⟩ := told key returned
    rw [grown]
    exact ⟨time, Nat.le_trans past later.clock, List.mem_append_right newer inside⟩
  | served =>
    intro enabled
    obtain ⟨pass, verified⟩ := known enabled
    exact ⟨pass, verified.later later⟩
  | rejected status err => exact known

theorem finish_known (fresh : Fresh g.jwksTTL v) {token : String} {call : SigningCall}
    {result : Except String PublicKey} (returned : call.stage = .returned result)
    (known : KnownAt g v r (.keying token call)) {now : Time} (ticked : v.clock ≤ now) :
    KnownAt g v r (g.finish now token result) := by
  obtain ⟨enabled, found, ⟨header, parsed, named⟩, filled, told⟩ := known
  unfold Gate.finish
  split
  · exact invalid_known enabled found _
  · rename_i key
    split
    · exact invalid_known enabled found _
    · rename_i verifies
      intro _
      obtain ⟨read, past, inside⟩ := told key returned
      obtain ⟨after, earlier, split⟩ := List.append_of_mem inside
      have known := fresh.served _ _ _ _ _ split
      rw [named] at split known filled
      exact ⟨⟨token, header, key, read, now⟩, found, parsed, filled, verifies,
        Nat.le_trans past ticked, after, earlier, split, known⟩

theorem move_later (moved : v.move g.jwksTTL i call = some (v', call')) : Later v v' := by
  obtain ⟨ticked, passes, u, took, rfl⟩ := move_cases moved
  refine ⟨Nat.le_trans ticked passes, ?_⟩
  rcases (signingKey_cases took).2 with ⟨key, -, -, rfl⟩ | ⟨-, rfl | ⟨keys, -, rfl⟩⟩
  · exact ⟨[.returned call.kid key i.now], rfl⟩
  · exact ⟨[], rfl⟩
  · exact ⟨[.installed i.later i.answer.document], rfl⟩

/-- A section of a call: what it was called for stays, and a key that it returns was read. -/
theorem keying_known {token : String} (known : KnownAt g v r (.keying token call))
    (moved : v.move g.jwksTTL i call = some (v', call')) :
    KnownAt g v' r (.keying token call') := by
  obtain ⟨enabled, found, ⟨header, parsed, named⟩, filled, -⟩ := known
  obtain ⟨-, passes, u, took, same⟩ := move_cases moved
  have kid : call'.kid = call.kid := (signingKey_cases took).1
  refine ⟨enabled, found, ⟨header, parsed, kid.trans named⟩, kid ▸ filled, fun key returned => ?_⟩
  exact ⟨i.now, by rw [same]; exact passes, (move_history moved).2 key returned⟩

/-- What a move of a request is. -/
theorem gateMove_cases (moved : g.move i v q = some (v', q')) : q'.request = q.request ∧
    (q.stage = .arrived ∧ v' = v ∧ q'.stage = g.arrive q.request ∨
      (∃ token call call', q.stage = .keying token call ∧
        v.move g.jwksTTL i call = some (v', call') ∧ q'.stage = .keying token call') ∨
      ∃ token call result, q.stage = .keying token call ∧ call.stage = .returned result ∧
        v.clock ≤ i.now ∧ v' = { v with clock := i.now } ∧
        q'.stage = g.finish i.now token result) := by
  obtain ⟨request, stage⟩ := q
  cases stage with
  | arrived =>
    cases moved
    exact ⟨rfl, .inl ⟨rfl, rfl, rfl⟩⟩
  | keying token call =>
    obtain ⟨kid, stage⟩ := call
    have keyed {stage : Stage} (moved : (v.move g.jwksTTL i ⟨kid, stage⟩).map
        (fun (v, call) => (v, GateRequest.mk request (.keying token call))) = some (v', q')) :
        q'.request = request ∧ ∃ call', v.move g.jwksTTL i ⟨kid, stage⟩ = some (v', call') ∧
          q'.stage = .keying token call' := by
      obtain ⟨⟨u, call'⟩, took, same⟩ := Option.map_eq_some_iff.mp moved
      cases same
      exact ⟨rfl, call', took, rfl⟩
    cases stage with
    | reading round =>
      obtain ⟨same, call', took, stage⟩ := keyed moved
      exact ⟨same, .inr (.inl ⟨token, _, call', rfl, took, stage⟩)⟩
    | refreshing force =>
      obtain ⟨same, call', took, stage⟩ := keyed moved
      exact ⟨same, .inr (.inl ⟨token, _, call', rfl, took, stage⟩)⟩
    | returned result =>
      simp only [Gate.move] at moved
      split at moved
      · rename_i ticked
        cases moved
        exact ⟨rfl, .inr (.inr ⟨token, _, result, rfl, rfl, ticked, rfl, rfl⟩)⟩
      · cases moved
  | served => cases moved
  | rejected status err => cases moved

theorem gateMove_kept (fresh : Fresh g.jwksTTL v) (known : KnownAt g v q.request q.stage)
    (moved : g.move i v q = some (v', q')) :
    Fresh g.jwksTTL v' ∧ Later v v' ∧ KnownAt g v' q'.request q'.stage := by
  obtain ⟨same, ⟨-, still, stage⟩ | ⟨token, call, call', keying, took, stage⟩ |
    ⟨token, call, result, keying, returned, ticked, rfl, stage⟩⟩ := gateMove_cases moved
  · rw [same, stage, still]
    exact ⟨fresh, .refl v, arrive_known g v q.request⟩
  · rw [same, stage]
    rw [keying] at known
    exact ⟨fresh.move took, move_later took, keying_known known took⟩
  · rw [same, stage]
    rw [keying] at known
    have passed : Later v { v with clock := i.now } := ⟨ticked, [], rfl⟩
    exact ⟨fresh.tick ticked, passed, (finish_known fresh returned known ticked).later passed⟩

/-- How many sections a call has left at most. -/
def Stage.left : Stage → Nat
  | .reading .first => 5
  | .refreshing false => 4
  | .reading .second => 3
  | .refreshing true => 2
  | .reading .third => 1
  | .returned _ => 0

/-- How many moves a request has left at most. -/
def GateStage.left : GateStage → Nat
  | .arrived => 7
  | .keying _ call => call.stage.left + 1
  | .served | .rejected .. => 0

theorem move_left (moved : v.move g.jwksTTL i call = some (v', call')) :
    call'.stage.left < call.stage.left := by
  obtain ⟨-, -, u, took, -⟩ := move_cases moved
  obtain ⟨kid, stage⟩ := call
  cases stage with
  | reading round =>
    simp only [Verifier.signingKey] at took
    split at took
    · cases took
      cases round <;> simp [Stage.left]
    · cases took
      cases round <;> simp [Stage.left]
  | refreshing force =>
    cases took
    cases force <;> dsimp only <;> split <;> simp [Stage.left]
  | returned result => cases took

theorem finish_left (now : Time) (token : String) (result : Except String PublicKey) :
    (g.finish now token result).left = 0 := by
  unfold Gate.finish
  split
  · rfl
  · split <;> rfl

theorem arrive_left (g : Gate) (r : Request) : (g.arrive r).left ≤ 6 := by
  unfold Gate.arrive
  dsimp only
  repeat' split
  all_goals first
    | exact Nat.zero_le 6
    | exact Nat.le_refl 6

theorem gateMove_left (moved : g.move i v q = some (v', q')) : q'.stage.left < q.stage.left := by
  obtain ⟨-, ⟨arrived, -, stage⟩ | ⟨token, call, call', keying, took, stage⟩ |
    ⟨token, call, result, keying, -, -, -, stage⟩⟩ := gateMove_cases moved
  · rw [arrived, stage]
    exact Nat.lt_succ_of_le (arrive_left g q.request)
  · rw [keying, stage]
    exact Nat.succ_lt_succ (move_left took)
  · rw [keying, stage, finish_left]
    exact Nat.succ_pos _

theorem Stage.left_le (stage : Stage) : stage.left ≤ 5 := by
  cases stage with
  | reading round => cases round <;> decide
  | refreshing force => cases force <;> decide
  | returned result => exact Nat.zero_le 5

theorem GateStage.left_le (stage : GateStage) : stage.left ≤ 7 := by
  cases stage with
  | arrived => exact Nat.le_refl 7
  | keying token call => exact Nat.le_trans (Nat.succ_le_succ call.stage.left_le) (by decide)
  | served => exact Nat.zero_le 7
  | rejected status err => exact Nat.zero_le 7

theorem answered_of_left {stage : GateStage} (none : stage.left = 0) : stage.answered = true := by
  cases stage with
  | arrived => cases none
  | keying token call => cases none
  | served => rfl
  | rejected status err => rfl

end Requests

section Runs

variable {g : Gate} {s : Config Verifier GateRequest}

/-- What holds of any number of requests, however they and their fetches interleave. -/
structure GateKept (g : Gate) (s : Config Verifier GateRequest) : Prop where
  served : ∀ (n : Nat) q, s.threads[n]? = some q → q.stage = .served → g.enabled = true →
    ∃ pass, Verified g s.shared.history q.request pass
  /-- 401 for a request without a token, 403 for any other. -/
  rejected : ∀ (n : Nat) q status err, s.threads[n]? = some q → q.stage = .rejected status err →
    g.enabled = true ∧ (status = statusUnauthorized ∧ err = errMissingCloudflareAccessToken ∧
        g.tokenFromRequest q.request = .error err ∨
      status = statusForbidden ∧ ∃ token, g.tokenFromRequest q.request = .ok token)
  /-- A request without an answer can go on, and has one after seven moves of its own. -/
  moves : ∀ (n : Nat) q, s.threads[n]? = some q → q.stage.answered = false →
    ∃ i t, (gate g).system.step s (.run n i) = some t
  bounded : ∀ (n : Nat) q as t, s.threads[n]? = some q → (gate g).system.run s as = some t →
    as.countP (Turn.isRun n) ≤ 7 ∧ (as.countP (Turn.isRun n) = 7 →
      ∃ q', t.threads[n]? = some q' ∧ q'.stage.answered = true)

theorem gate_reachable {start : Time}
    (reached : (gate g).system.Reachable ⟨.initial start, []⟩ s) :
    Fresh g.jwksTTL s.shared ∧
      ∀ (n : Nat) q, s.threads[n]? = some q → KnownAt g s.shared q.request q.stage := by
  apply reached.invariant
  · refine ⟨⟨nofun, ?_⟩, nofun⟩
    intro later kid key time earlier split
    cases later <;> cases split
  · rintro t a u ⟨fresh, known⟩ - taken
    have took : (gate g).Took t a u := Composite.took_of_step taken
    have kept : Fresh g.jwksTTL u.shared ∧ Later t.shared u.shared := by
      cases took with
      | start => exact ⟨fresh, .refl _⟩
      | run found moved =>
        obtain ⟨fresh', later, -⟩ := gateMove_kept fresh (known _ _ found) moved
        exact ⟨fresh', later⟩
      | outside => contradiction
    refine ⟨kept.1, ?_⟩
    apply took.each_kept (P := fun _ v q => KnownAt g v q.request q.stage) known
    · intro q _ starts
      obtain ⟨request, stage⟩ := q
      cases stage with
      | arrived => trivial
      | keying => cases starts
      | served => cases starts
      | rejected => cases starts
    · intro n i q v' q' _ found moved _
      exact (gateMove_kept fresh (known n q found) moved).2.2
    · intro n q _ _ before
      exact before.later kept.2

/-- Any clock that is late enough lets a request go on. -/
theorem gate_moves {v : Verifier} {q : GateRequest} (unanswered : q.stage.answered = false) :
    ∃ moved, g.move ⟨v.clock, v.clock, .failed ""⟩ v q = some moved := by
  obtain ⟨request, stage⟩ := q
  cases stage with
  | arrived => exact ⟨_, rfl⟩
  | keying token call =>
    obtain ⟨kid, stage⟩ := call
    cases stage with
    | reading round =>
      cases hit : v.cachedSigningKey ⟨v.clock, v.clock, .failed ""⟩ kid with
      | some key => exact ⟨_, by simp [Gate.move, Verifier.move, Verifier.signingKey, hit]; rfl⟩
      | none => exact ⟨_, by simp [Gate.move, Verifier.move, Verifier.signingKey, hit]; rfl⟩
    | refreshing force => exact ⟨_, by simp [Gate.move, Verifier.move, Verifier.signingKey]; rfl⟩
    | returned result => exact ⟨_, if_pos (Nat.le_refl _)⟩
  | served => cases unanswered
  | rejected status err => cases unanswered

/-- Any number of requests, interleaved at the mutex, with fetches that bring anything or fail. -/
theorem gate_kept {start : Time} (reached : (gate g).system.Reachable ⟨.initial start, []⟩ s) :
    GateKept g s := by
  obtain ⟨-, known⟩ := gate_reachable reached
  constructor
  · intro n q found served
    have passed := known n q found
    rw [served] at passed
    exact passed
  · intro n q status err found rejected
    have failed := known n q found
    rw [rejected] at failed
    exact failed
  · intro n q found unanswered
    obtain ⟨moved, took⟩ := gate_moves (g := g) (v := s.shared) unanswered
    refine ⟨⟨s.shared.clock, s.shared.clock, .failed ""⟩, ⟨moved.1, s.threads.set n moved.2⟩, ?_⟩
    have stepped : ((gate g).move n ⟨s.shared.clock, s.shared.clock, .failed ""⟩ s.shared q).map
        (fun moved => Config.mk moved.1 (s.threads.set n moved.2)) =
        some ⟨moved.1, s.threads.set n moved.2⟩ := Option.map_eq_some_iff.mpr ⟨moved, took, rfl⟩
    exact Option.bind_eq_some_iff.mpr ⟨q, found, stepped⟩
  · intro n q as t found ran
    obtain ⟨q', after, bound⟩ := Composite.run_bounded (fun q => q.stage.left)
      (fun _ _ _ _ _ _ => gateMove_left) found ran
    have most := q.stage.left_le
    refine ⟨by omega, fun all => ⟨q', after, answered_of_left (by omega)⟩⟩

/-- A parser that knows one token, signed with the key of the samples until the time 100. -/
def sampleParser : Parser where
  parse token := if token = "a.b.c" then .ok (some " k1 ") else .error "token is malformed"
  verify now _ key :=
    if key ≠ ⟨209, 65537⟩ then .error "token signature is invalid"
    else if now < 100 then .ok () else .error "token is expired"
  unverifiable err := "token is unverifiable: " ++ err

def sampleGate : Gate := ⟨true, "Cf-Access-Jwt-Assertion", "CF_Authorization", 300, sampleParser⟩

def bearing (token : String) : Request where
  header name := if name = "Authorization" then "bEARER  " ++ token else ""
  cookie _ := some " "

/-- One token is verified in time and once too late, one request has none, one has another. -/
def fourRequests : List (Turn GateRequest Section Empty) :=
  let jwks := sampleAnswer [paddedKey]
  let run (n now : Nat) : Turn GateRequest Section Empty := .run n ⟨now, now, jwks⟩
  [.start ⟨bearing "a.b.c", .arrived⟩, .start ⟨bearing "a.b.c", .arrived⟩,
    .start ⟨bearing "", .arrived⟩, .start ⟨bearing "x", .arrived⟩,
    run 0 10, run 1 10, run 2 10, run 3 10, run 0 10, run 0 20, run 1 30, run 0 30,
    run 0 40, run 1 200]

def fourAnswers (s : Config Verifier GateRequest) : Bool :=
  match s.threads.map GateRequest.stage with
  | [.served, .rejected late _, .rejected missing _, .rejected malformed _] =>
    late == 403 && missing == 401 && malformed == 403
  | _ => false

theorem gate_kept_four : ∃ s,
    (gate sampleGate).system.run ⟨.initial 0, []⟩ fourRequests = some s ∧ fourAnswers s = true ∧
      GateKept sampleGate s := by
  obtain ⟨s, ran, passes⟩ := System.run_passes fourRequests fourAnswers (by decide +kernel :
    ((gate sampleGate).system.run ⟨.initial 0, []⟩ fourRequests).any fourAnswers = true)
  exact ⟨s, ran, passes, gate_kept (System.run_reachable ran)⟩

end Runs

end Megalo.Auth
