import Megalo.Auth.Jwks
import Megalo.Library.Interleave

/-! The cache of signing keys, and any number of signingKey calls over it. A call holds the
verifier's mutex for one section at a time, and lets go of it in between. -/
namespace Megalo.Auth

open Transition

/-- The key that a document has for a kid: that of its last RSA entry with it. -/
def keyFor (jwks : List JWK) (kid : String) : Option PublicKey :=
  (jwks.filter fun jwk => isRSA jwk.kty && jwk.kid == kid).getLast?.bind fun jwk =>
    (parseCloudflareRSAPublicKey jwk).toOption

inductive Moment
  /-- A document took the cache's place. -/
  | installed (time : Time) (jwks : List JWK)
  /-- signingKey returned the key that it read from the cache at this time. -/
  | returned (kid : String) (key : PublicKey) (time : Time)

/-- cloudflareAccessVerifier, as far as it changes. -/
structure Verifier where
  jwksCache : Keys
  jwksExpires : Time
  clock : Time
  /-- What happened, the last first; no section reads it. -/
  history : List Moment

def Verifier.initial (clock : Time) : Verifier := ⟨∅, 0, clock, []⟩

/-- What a section meets: the clock when it begins, and after its fetch. -/
structure Section where
  now : Time
  later : Time
  answer : Answer

def Answer.document : Answer → List JWK
  | .answered _ (.ok jwks) => jwks
  | _ => []

/-- The three reads of the cache. -/
inductive Round
  | first
  | second
  | third

inductive Stage
  | reading (round : Round)
  | refreshing (force : Bool)
  | returned (result : Except String PublicKey)

structure SigningCall where
  kid : String
  stage : Stage

def errInvalidCloudflareAccessToken : String := "invalid cloudflare access token"

namespace Verifier

variable (jwksTTL : Nat) (i : Section) (v : Verifier)

def cachedSigningKey (kid : String) : Option PublicKey :=
  if v.jwksCache.keys.length = 0 then none
  else if i.now > v.jwksExpires then none
  else v.jwksCache.lookup kid

def refreshSigningKeys (force : Bool) : Option String × Verifier :=
  if !force && decide (v.jwksCache.keys.length > 0) && decide (i.now < v.jwksExpires) then (none, v)
  else match fetchSigningKeys i.answer with
    | .error err =>
      (some (errInvalidCloudflareAccessToken ++ ": fetch signing keys: " ++ err), v)
    | .ok keys => (none, { v with
        jwksCache := keys
        jwksExpires := i.later + jwksTTL
        history := .installed i.later i.answer.document :: v.history })

/-- The next section of signingKey. -/
def signingKey (call : SigningCall) : Option (Verifier × SigningCall) :=
  match call.stage with
  | .reading round => match v.cachedSigningKey i call.kid with
    | some key => some ({ v with history := .returned call.kid key i.now :: v.history },
        { call with stage := .returned (.ok key) })
    | none => some (v, { call with stage := match round with
        | .first => .refreshing false
        | .second => .refreshing true
        | .third => .returned (.error (errInvalidCloudflareAccessToken ++
            ": signing key not found for kid=" ++ call.kid)) })
  | .refreshing force =>
    let (err, v) := v.refreshSigningKeys jwksTTL i force
    some (v, { call with stage := match err with
      | some err => .returned (.error err)
      | none => .reading (if force then .third else .second) })
  | .returned _ => none

/-- The clock does not run backwards. -/
def move (call : SigningCall) : Option (Verifier × SigningCall) :=
  if v.clock ≤ i.now ∧ i.now ≤ i.later then
    (v.signingKey jwksTTL i call).map fun (v, call) => ({ v with clock := i.later }, call)
  else none

end Verifier

/-- The calls come as they please. -/
def signing (jwksTTL : Nat) : Composite Verifier SigningCall Section Empty where
  starts _ call := match call.stage with
    | .reading .first => true
    | _ => false
  move _ i v call := v.move jwksTTL i call
  outside := nofun

/-- The document installed last, and when. -/
def lastInstalled : List Moment → Option (Time × List JWK)
  | [] => none
  | .installed time jwks :: _ => some (time, jwks)
  | .returned .. :: earlier => lastInstalled earlier

section Document

variable {jwks : List JWK} {jwk : JWK} {keys keys' : Keys} {kid : String}

theorem keyFor_append : keyFor (jwks ++ [jwk]) kid =
    if isRSA jwk.kty = true ∧ jwk.kid = kid then (parseCloudflareRSAPublicKey jwk).toOption
    else keyFor jwks kid := by
  unfold keyFor
  rw [List.filter_append]
  by_cases own : isRSA jwk.kty = true ∧ jwk.kid = kid
  · simp [own]
  · have other : (isRSA jwk.kty && jwk.kid == kid) = false := by
      simpa only [Bool.and_eq_false_imp, beq_eq_false_iff_ne, not_and, ne_eq] using own
    simp [own, other]

theorem addKey_lookup (added : addKey keys jwk = .ok keys') : keys'.lookup kid =
    if isRSA jwk.kty = true ∧ jwk.kid = kid ∧ isBlank kid = false then
      (parseCloudflareRSAPublicKey jwk).toOption
    else keys.lookup kid := by
  unfold addKey at added
  split at added
  · rename_i foreign
    cases added
    rw [if_neg]
    rintro ⟨rsa, -⟩
    simp [rsa] at foreign
  · split at added
    · rename_i rsa blank
      cases added
      rw [if_neg]
      rintro ⟨-, rfl, filled⟩
      cases blank.symm.trans filled
    · rename_i rsa filled
      split at added
      · cases added
      · rename_i publicKey parsed
        cases added
        by_cases same : jwk.kid = kid
        · subst same
          have known : isRSA jwk.kty = true ∧ jwk.kid = jwk.kid ∧ isBlank jwk.kid = false :=
            ⟨by simpa using rsa, rfl, by simpa using filled⟩
          rw [if_pos known, AList.lookup_insert, parsed]
          rfl
        · rw [if_neg fun known => same known.2.1, AList.lookup_insert_ne (Ne.symm same)]

/-- The map that the loop builds has for a kid the key that the document has. -/
theorem addKeys_lookup (added : jwks.foldlM addKey ∅ = .ok keys) : keys.lookup kid =
    if isBlank kid then none else keyFor jwks kid := by
  induction jwks using List.reverseRecOn generalizing keys with
  | nil =>
    cases added
    rw [AList.lookup_empty]
    split <;> rfl
  | append_singleton jwks jwk ih =>
    rw [List.foldlM_append] at added
    cases before : jwks.foldlM addKey ∅ with
    | error err =>
      rw [before] at added
      cases added
    | ok earlier =>
      rw [before] at added
      simp only [List.foldlM_cons, List.foldlM_nil, bind_pure] at added
      have last : addKey earlier jwk = .ok keys := added
      rw [addKey_lookup last, ih before, keyFor_append]
      cases isBlank kid with
      | true => simp
      | false => simp

theorem document_loaded {answer : Answer} (fetched : fetchSigningKeys answer = .ok keys) :
    answer.document.foldlM addKey ∅ = .ok keys := by
  unfold fetchSigningKeys at fetched
  split at fetched
  · cases fetched
  · split at fetched
    · cases fetched
    · split at fetched
      · cases fetched
      · split at fetched
        · cases fetched
        · rename_i keys' added
          split at fetched
          · cases fetched
          · cases fetched
            exact added

end Document

section Fresh

variable {jwksTTL : Nat} {v v' : Verifier} {i : Section} {call call' : SigningCall}

/-- The key was the last installed document's, installed at most jwksTTL before. -/
def ReadFresh (jwksTTL : Nat) (earlier : List Moment) (kid : String) (key : PublicKey)
    (time : Time) : Prop :=
  ∃ installed jwks, lastInstalled earlier = some (installed, jwks) ∧ keyFor jwks kid = some key ∧
    installed ≤ time ∧ time ≤ installed + jwksTTL

/-- What the verifier's mutex protects. -/
structure Fresh (jwksTTL : Nat) (v : Verifier) : Prop where
  cache : ∀ kid key, v.jwksCache.lookup kid = some key → ∃ installed jwks,
    lastInstalled v.history = some (installed, jwks) ∧ keyFor jwks kid = some key ∧
      installed ≤ v.clock ∧ v.jwksExpires = installed + jwksTTL
  served : ∀ later kid key time earlier,
    v.history = later ++ .returned kid key time :: earlier → ReadFresh jwksTTL earlier kid key time

theorem Fresh.tick (fresh : Fresh jwksTTL v) {clock : Time} (later : v.clock ≤ clock) :
    Fresh jwksTTL { v with clock } := by
  constructor
  · intro kid key cached
    obtain ⟨installed, jwks, last, own, past, expires⟩ := fresh.cache kid key cached
    exact ⟨installed, jwks, last, own, Nat.le_trans past later, expires⟩
  · exact fresh.served

theorem cached_read {kid : String} {key : PublicKey}
    (hit : v.cachedSigningKey i kid = some key) :
    v.jwksCache.lookup kid = some key ∧ i.now ≤ v.jwksExpires := by
  unfold Verifier.cachedSigningKey at hit
  split at hit
  · cases hit
  · split at hit
    · cases hit
    · rename_i valid
      exact ⟨hit, Nat.not_lt.mp valid⟩

theorem Fresh.read (fresh : Fresh jwksTTL v) {kid : String} {key : PublicKey}
    (hit : v.cachedSigningKey i kid = some key) (ticked : v.clock ≤ i.now) :
    Fresh jwksTTL { v with history := .returned kid key i.now :: v.history } := by
  obtain ⟨cached, valid⟩ := cached_read hit
  constructor
  · exact fresh.cache
  · intro later kid' key' time earlier split
    rcases List.cons_eq_append_iff.mp split with ⟨-, whole⟩ | ⟨rest, -, whole⟩
    · cases whole
      obtain ⟨installed, jwks, last, own, past, expires⟩ := fresh.cache kid key cached
      exact ⟨installed, jwks, last, own, Nat.le_trans past ticked, expires ▸ valid⟩
    · exact fresh.served rest kid' key' time earlier whole

theorem Fresh.install (fresh : Fresh jwksTTL v) {keys : Keys}
    (loaded : fetchSigningKeys i.answer = .ok keys) : Fresh jwksTTL { v with
      jwksCache := keys
      jwksExpires := i.later + jwksTTL
      clock := i.later
      history := .installed i.later i.answer.document :: v.history } := by
  constructor
  · intro kid key cached
    dsimp only at cached
    rw [addKeys_lookup (document_loaded loaded)] at cached
    split at cached
    · cases cached
    · exact ⟨i.later, i.answer.document, rfl, cached, Nat.le_refl _, rfl⟩
  · intro later kid key time earlier split
    rcases List.cons_eq_append_iff.mp split with ⟨-, whole⟩ | ⟨rest, -, whole⟩
    · cases whole
    · exact fresh.served rest kid key time earlier whole

/-- What a refresh does: nothing, or the document of its fetch takes the cache's place. -/
theorem refresh_cases (jwksTTL : Nat) (i : Section) (v : Verifier) (force : Bool) :
    (v.refreshSigningKeys jwksTTL i force).2 = v ∨
      ∃ keys, fetchSigningKeys i.answer = .ok keys ∧
        (v.refreshSigningKeys jwksTTL i force).2 = { v with
          jwksCache := keys
          jwksExpires := i.later + jwksTTL
          history := .installed i.later i.answer.document :: v.history } := by
  unfold Verifier.refreshSigningKeys
  split
  · exact .inl rfl
  · split
    · exact .inl rfl
    · rename_i keys loaded
      exact .inr ⟨keys, loaded, rfl⟩

/-- What a section does to the verifier, and when it is the one that returns a key. -/
theorem signingKey_cases (moved : v.signingKey jwksTTL i call = some (v', call')) :
    call'.kid = call.kid ∧
    ((∃ key, v.cachedSigningKey i call.kid = some key ∧ call'.stage = .returned (.ok key) ∧
        v' = { v with history := .returned call.kid key i.now :: v.history }) ∨
      (∀ key, call'.stage ≠ .returned (.ok key)) ∧
        (v' = v ∨ ∃ keys, fetchSigningKeys i.answer = .ok keys ∧ v' = { v with
          jwksCache := keys
          jwksExpires := i.later + jwksTTL
          history := .installed i.later i.answer.document :: v.history })) := by
  obtain ⟨kid, stage⟩ := call
  cases stage with
  | reading round =>
    simp only [Verifier.signingKey] at moved
    split at moved
    · rename_i key hit
      cases moved
      exact ⟨rfl, .inl ⟨key, hit, rfl, rfl⟩⟩
    · cases moved
      refine ⟨rfl, .inr ⟨fun key => ?_, .inl rfl⟩⟩
      cases round <;> nofun
  | refreshing force =>
    cases moved
    refine ⟨rfl, .inr ⟨fun key => ?_, refresh_cases jwksTTL i v force⟩⟩
    dsimp only
    split <;> nofun
  | returned result => cases moved

theorem move_cases (moved : v.move jwksTTL i call = some (v', call')) :
    v.clock ≤ i.now ∧ i.now ≤ i.later ∧ ∃ u, v.signingKey jwksTTL i call = some (u, call') ∧
      v' = { u with clock := i.later } := by
  unfold Verifier.move at moved
  split at moved
  · rename_i ticked
    obtain ⟨⟨u, c⟩, took, same⟩ := Option.map_eq_some_iff.mp moved
    cases same
    exact ⟨ticked.1, ticked.2, u, took, rfl⟩
  · cases moved

theorem Fresh.move (fresh : Fresh jwksTTL v)
    (moved : v.move jwksTTL i call = some (v', call')) : Fresh jwksTTL v' := by
  obtain ⟨ticked, passes, u, took, rfl⟩ := move_cases moved
  have clock : v.clock ≤ i.later := Nat.le_trans ticked passes
  rcases (signingKey_cases took).2 with ⟨key, hit, -, rfl⟩ | ⟨-, rfl | ⟨keys, loaded, rfl⟩⟩
  · exact (fresh.read hit ticked).tick clock
  · exact fresh.tick clock
  · exact fresh.install loaded

/-- The history only grows, and a call that returns a key stands in it. -/
theorem move_history (moved : v.move jwksTTL i call = some (v', call')) :
    (∀ moment, moment ∈ v.history → moment ∈ v'.history) ∧
      ∀ key, call'.stage = .returned (.ok key) → .returned call'.kid key i.now ∈ v'.history := by
  obtain ⟨-, -, u, took, rfl⟩ := move_cases moved
  obtain ⟨kid, ⟨key, -, stage, rfl⟩ | ⟨other, unchanged⟩⟩ := signingKey_cases took
  · refine ⟨fun moment => List.mem_cons_of_mem _, fun key' returned => ?_⟩
    cases stage.symm.trans returned
    rw [kid]
    exact List.mem_cons_self
  · refine ⟨fun moment old => ?_, fun key returned => absurd returned (other key)⟩
    rcases unchanged with rfl | ⟨keys, -, rfl⟩
    · exact old
    · exact List.mem_cons_of_mem _ old

theorem move_failed (moved : v.move jwksTTL i call = some (v', call')) {err : String}
    (failed : fetchSigningKeys i.answer = .error err) :
    v'.jwksCache = v.jwksCache ∧ v'.jwksExpires = v.jwksExpires := by
  obtain ⟨-, -, u, took, rfl⟩ := move_cases moved
  rcases (signingKey_cases took).2 with ⟨key, -, -, rfl⟩ | ⟨-, rfl | ⟨keys, loaded, -⟩⟩
  · exact ⟨rfl, rfl⟩
  · exact ⟨rfl, rfl⟩
  · cases failed.symm.trans loaded

end Fresh

section Runs

variable {jwksTTL : Nat} {s : Config Verifier SigningCall}

/-- What was installed last is what was there before, or was installed in between. -/
theorem lastInstalled_append {middle earlier : List Moment} {installed time : Time}
    {jwks jwks' : List JWK}
    (last : lastInstalled (middle ++ .installed installed jwks :: earlier) = some (time, jwks')) :
    jwks' = jwks ∨ .installed time jwks' ∈ middle := by
  induction middle with
  | nil =>
    cases last
    exact .inl rfl
  | cons moment middle ih =>
    cases moment with
    | installed again other =>
      cases last
      exact .inr List.mem_cons_self
    | returned kid key read => exact (ih last).imp_right (List.mem_cons_of_mem _)

/-- A call that has returned a key read it from the cache. -/
def Told (v : Verifier) (call : SigningCall) : Prop :=
  ∀ key, call.stage = .returned (.ok key) → ∃ time, .returned call.kid key time ∈ v.history

/-- The keys that the calls of a run return, and the documents they come from. -/
structure KeysFresh (jwksTTL : Nat) (s : Config Verifier SigningCall) : Prop where
  told : ∀ (n : Nat) call, s.threads[n]? = some call → Told s.shared call
  /-- Every read is of the document installed last, at most jwksTTL before. -/
  fresh : ∀ later kid key time earlier,
    s.shared.history = later ++ .returned kid key time :: earlier →
      ReadFresh jwksTTL earlier kid key time
  /-- A fetch that fails leaves the cache and its expiry alone. -/
  kept : ∀ n i t err, (signing jwksTTL).system.step s (.run n i) = some t →
    fetchSigningKeys i.answer = .error err →
      t.shared.jwksCache = s.shared.jwksCache ∧ t.shared.jwksExpires = s.shared.jwksExpires
  /-- A key that a document lacks is read after it only when a later document has it. -/
  revoked : ∀ later kid key time middle installed jwks earlier,
    s.shared.history =
      later ++ .returned kid key time :: (middle ++ .installed installed jwks :: earlier) →
    keyFor jwks kid ≠ some key →
      ∃ again jwks', .installed again jwks' ∈ middle ∧ keyFor jwks' kid = some key

theorem fresh_reachable {start : Time}
    (reached : (signing jwksTTL).system.Reachable ⟨.initial start, []⟩ s) :
    Fresh jwksTTL s.shared ∧
      ∀ (n : Nat) call, s.threads[n]? = some call → Told s.shared call := by
  apply reached.invariant
  · refine ⟨⟨nofun, ?_⟩, nofun⟩
    intro later kid key time earlier split
    cases later <;> cases split
  · rintro t a u ⟨fresh, told⟩ - taken
    have took : (signing jwksTTL).Took t a u := Composite.took_of_step taken
    have grows : ∀ moment, moment ∈ t.shared.history → moment ∈ u.shared.history := by
      cases took with
      | start => exact fun _ => id
      | run found moved => exact (move_history moved).1
      | outside => contradiction
    refine ⟨?_, ?_⟩
    · cases took with
      | start => exact fresh
      | run found moved => exact fresh.move moved
      | outside => contradiction
    · apply took.each_kept told
      · intro call _ starts key returned
        simp [signing, returned] at starts
      · intro n i call v call' _ _ moved _ key returned
        exact ⟨i.now, (move_history moved).2 key returned⟩
      · intro n call found _ before key returned
        obtain ⟨time, inside⟩ := before key returned
        exact ⟨time, grows _ inside⟩

/-- Any number of calls, interleaved at the mutex, with fetches that bring anything or fail. -/
theorem keys_fresh {start : Time}
    (reached : (signing jwksTTL).system.Reachable ⟨.initial start, []⟩ s) :
    KeysFresh jwksTTL s := by
  obtain ⟨fresh, told⟩ := fresh_reachable reached
  constructor
  · exact told
  · exact fresh.served
  · intro n i t err taken failed
    have took : (signing jwksTTL).Took s (.run n i) t := Composite.took_of_step taken
    cases took with
    | run found moved => exact move_failed moved failed
  · intro later kid key time middle installed jwks earlier split absent
    obtain ⟨again, jwks', last, own, -, -⟩ := fresh.served _ _ _ _ _ split
    rcases lastInstalled_append last with rfl | inside
    · exact absurd own absent
    · exact ⟨again, jwks', inside, own⟩

def sampleAnswer (jwks : List JWK) : Answer := .answered 200 (.ok jwks)

/-- A call finds its key after a refresh; after a rotation, and past the expiry of the first
document, it does not find it any more. -/
def rotation : List (Turn SigningCall Section Empty) :=
  let jwks := sampleAnswer [paddedKey]
  let rotated := sampleAnswer [{ paddedKey with kid := "k2" }]
  let run (n now : Nat) (answer : Answer) : Turn SigningCall Section Empty :=
    .run n ⟨now, now + 1, answer⟩
  [.start ⟨"k1", .reading .first⟩, .start ⟨"k1", .reading .first⟩,
    run 0 10 jwks, run 0 20 jwks, run 0 30 jwks, run 1 330 rotated, run 1 340 rotated,
    run 1 350 rotated, run 1 360 (.failed "timeout")]

/-- The first call has its key, the second its error. -/
def rotated (s : Config Verifier SigningCall) : Bool :=
  match s.threads.map SigningCall.stage with
  | [.returned (.ok key), .returned (.error _)] => key == ⟨209, 65537⟩
  | _ => false

theorem keys_fresh_rotation : ∃ s, (signing 300).system.run ⟨.initial 0, []⟩ rotation = some s ∧
    rotated s = true ∧ KeysFresh 300 s := by
  obtain ⟨s, ran, passes⟩ := System.run_passes rotation rotated
    (by decide +kernel : ((signing 300).system.run ⟨.initial 0, []⟩ rotation).any rotated = true)
  exact ⟨s, ran, passes, keys_fresh (System.run_reachable ran)⟩

end Runs

end Megalo.Auth
