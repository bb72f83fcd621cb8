import Megalo.Scene.Pods
import Megalo.Library.Binary64
import Megalo.Library.Pool
import Mathlib.Data.List.Induction

/-! The gusts of the scene and the pool of their entries: launchGust, advanceGusts, removeGust and
clearGusts of scene.ts, less the positions and the pictures. -/
namespace Megalo.Scene

structure GustEntry where
  remaining : Rat
  hitPodIds : List String
  deriving DecidableEq

inductive GustSource
  | hand (handedness : Hand)
  | desktop
  deriving DecidableEq

structure Gusts where
  /-- Whether initPhysics has made the world. -/
  physicsWorld : Bool
  gusts : List Nat
  gustPool : List Nat
  entry : Nat → GustEntry
  /-- The entries made so far. -/
  made : Nat
  lastGustSource : Option GustSource

/-- GUST_LIFETIME, in seconds. -/
def gustLifetime : Rat := Binary64.round (28 / 100)

namespace Gusts

def initial : Gusts := ⟨false, [], [], fun _ => ⟨0, []⟩, 0, none⟩

variable (s : Gusts)

/-- A change of an entry in place. -/
def setEntry (gust : Nat) (f : GustEntry → GustEntry) : Gusts :=
  { s with entry := Function.update s.entry gust (f (s.entry gust)) }

def acquireGust : Option (Nat × Gusts) :=
  if !s.physicsWorld then none
  else match s.gustPool.getLast? with
    | some pooled => some (pooled, { s with gustPool := s.gustPool.dropLast })
    | none => some (s.made, { s with
        entry := Function.update s.entry s.made ⟨0, []⟩
        made := s.made + 1 })

/-- The entry is that of the gust where the source returns true. -/
def launchGust (source : GustSource) : Option Nat × Gusts :=
  if !s.physicsWorld then (none, s)
  else match s.acquireGust with
    | none => (none, s)
    | some (gust, s) =>
      let s := s.setEntry gust fun e => { e with remaining := gustLifetime, hitPodIds := [] }
      (some gust, { s with gusts := s.gusts ++ [gust], lastGustSource := some source })

/-- The pool is not looked at. -/
def removeGust (gust : Nat) : Gusts :=
  let s := { s with gusts := s.gusts.erase gust }.setEntry gust fun e =>
    { e with remaining := 0, hitPodIds := [] }
  { s with gustPool := s.gustPool ++ [gust] }

/-- The loop of clearGusts, which takes the last gust first. -/
def clearFrom (s : Gusts) : Nat → Gusts
  | 0 => s
  | n + 1 => match s.gusts.getLast? with
    | some gust => clearFrom (s.removeGust gust) n
    | none => s

def clearGusts : Gusts := s.clearFrom s.gusts.length

/-- What PodScene.reset does to the gusts. -/
def reset : Gusts := { s.clearGusts with lastGustSource := none }

/-- A turn of the first loop of advanceGusts, which collects what has expired. -/
def age (delta : Rat) (s : Gusts × List Nat) (gust : Nat) : Gusts × List Nat :=
  let t := s.1.setEntry gust fun e =>
    { e with remaining := Binary64.sub e.remaining delta }
  if (t.entry gust).remaining ≤ 0 then (t, s.2 ++ [gust]) else (t, s.2)

/-- A pod in the gust; the calls of applyGustToPod are told. -/
def hitPod (gust : Nat) (s : Gusts × List (Nat × String)) (slaveId : String) :
    Gusts × List (Nat × String) :=
  if (s.1.entry gust).hitPodIds.contains slaveId then s
  else
    (s.1.setEntry gust fun e => { e with hitPodIds := e.hitPodIds ++ [slaveId] },
      s.2 ++ [(gust, slaveId)])

/-- A turn of the second loop. -/
def strike (touching : Nat → List String) (s : Gusts × List (Nat × String)) (gust : Nat) :
    Gusts × List (Nat × String) :=
  if (s.1.entry gust).remaining ≤ 0 then s else (touching gust).foldl (hitPod gust) s

/-- advanceGusts, with the pods that touch each gust. -/
def advanceGusts (delta : Rat) (touching : Nat → List String) : Gusts × List (Nat × String) :=
  if !s.physicsWorld || s.gusts.isEmpty then (s, [])
  else
    let (s, expired) := s.gusts.foldl (age delta) (s, [])
    let (s, calls) := s.gusts.foldl (strike touching) (s, [])
    (expired.foldl removeGust s, calls)

end Gusts

/-- A call of applyGustToPod, with the use that its entry was in. -/
def tell (uses : Nat → Nat) (call : Nat × String) : Nat × Nat × String :=
  (call.1, uses call.1, call.2)

section Loops

variable {s t : Gusts} {gust : Nat} {uses : Nat → Nat} {before : List (Nat × Nat × String)}

/-- A loop that keeps an invariant and gets something done at each turn, which no later turn undoes. -/
theorem foldl_each {α β : Type} {f : β → α → β} {l : List α} (Kept : β → Prop) (Done : α → β → Prop)
    (turn : ∀ b, ∀ a ∈ l, Kept b → Kept (f b a) ∧ Done a (f b a))
    (stays : ∀ b a, ∀ other ∈ l, Kept b → Done a b → Done a (f b other)) {b : β} (initial : Kept b) :
    Kept (l.foldl f b) ∧ ∀ a ∈ l, Done a (l.foldl f b) := by
  induction l using List.reverseRecOn with
  | nil => exact ⟨initial, fun a ha => absurd ha List.not_mem_nil⟩
  | append_singleton l last ih =>
    have earlier {a : α} (ha : a ∈ l) : a ∈ l ++ [last] := List.mem_append_left _ ha
    have atLast : last ∈ l ++ [last] := List.mem_append_right l (List.mem_singleton_self last)
    obtain ⟨kept, done⟩ := ih (fun b a ha => turn b a (earlier ha))
      (fun b a other ho => stays b a other (earlier ho))
    rw [List.foldl_append, List.foldl_cons, List.foldl_nil]
    obtain ⟨kept', done'⟩ := turn _ last atLast kept
    refine ⟨kept', fun a ha => ?_⟩
    rcases List.mem_append.mp ha with ha | ha
    · exact stays _ a last atLast kept (done a ha)
    · rw [List.mem_singleton.mp ha]
      exact done'

/-- What the first loop makes of the entries. -/
def aged (s : Gusts) (delta : Rat) (flying : List Nat) : Gusts :=
  { s with entry := fun gust =>
      if gust ∈ flying then
        { s.entry gust with remaining := Binary64.sub (s.entry gust).remaining delta }
      else s.entry gust }

theorem foldl_age {flying : List Nat} (nodup : flying.Nodup) (delta : Rat) (s : Gusts)
    (expired : List Nat) : flying.foldl (Gusts.age delta) (s, expired) =
      (aged s delta flying,
        expired ++ flying.filter fun gust => Binary64.sub (s.entry gust).remaining delta ≤ 0) := by
  induction flying generalizing s expired with
  | nil => simp [aged]
  | cons gust rest ih =>
    obtain ⟨once, nodup⟩ := List.nodup_cons.mp nodup
    have apart {other : Nat} (ho : other ∈ rest) : other ≠ gust := fun same => once (same ▸ ho)
    let t := s.setEntry gust fun e =>
      { e with remaining := Binary64.sub e.remaining delta }
    have turn : Gusts.age delta (s, expired) gust =
        (t, expired ++ [gust].filter fun gust =>
          Binary64.sub (s.entry gust).remaining delta ≤ 0) := by
      by_cases spent : Binary64.sub (s.entry gust).remaining delta ≤ 0
      · simp [Gusts.age, Gusts.setEntry, t, spent]
      · simp [Gusts.age, Gusts.setEntry, t, spent]
    have entries : aged t delta rest = aged s delta (gust :: rest) := by
      simp only [aged, t, Gusts.setEntry]
      congr 1
      funext other
      by_cases same : other = gust
      · subst other
        simp [once]
      · simp [same]
    have later : (rest.filter fun gust => Binary64.sub (t.entry gust).remaining delta ≤ 0) =
        rest.filter fun gust => Binary64.sub (s.entry gust).remaining delta ≤ 0 := by
      refine List.filter_congr fun other ho => ?_
      have kept : t.entry other = s.entry other := Function.update_of_ne (apart ho) _ _
      rw [kept]
    rw [List.foldl_cons, turn, ih nodup, entries, later, List.append_assoc, ← List.filter_append]
    rfl

/-- The hit sets of the gusts that fly, against what has been called. -/
structure Marked (uses : Nat → Nat) (s : Gusts) (applied : List (Nat × Nat × String)) : Prop where
  hit : ∀ gust ∈ s.gusts, ∀ slaveId,
    slaveId ∈ (s.entry gust).hitPodIds ↔ (gust, uses gust, slaveId) ∈ applied
  fresh : ∀ call ∈ applied, call.2.1 ≤ uses call.1
  once : applied.Nodup

/-- What the second loop may do: it calls, and marks, but leaves the times. -/
structure Struck (s t : Gusts × List (Nat × String)) : Prop where
  same : t.1 = { s.1 with entry := t.1.entry }
  remaining : ∀ gust, (t.1.entry gust).remaining = (s.1.entry gust).remaining
  calls : s.2 <+: t.2

theorem Struck.refl (s : Gusts × List (Nat × String)) : Struck s s :=
  ⟨rfl, fun _ => rfl, List.prefix_refl _⟩

theorem Struck.trans {s t u : Gusts × List (Nat × String)} (first : Struck s t)
    (second : Struck t u) : Struck s u where
  same := by rw [second.same, first.same]
  remaining gust := (second.remaining gust).trans (first.remaining gust)
  calls := first.calls.trans second.calls

theorem Struck.gusts {s t : Gusts × List (Nat × String)} (struck : Struck s t) :
    t.1.gusts = s.1.gusts := by rw [struck.same]

/-- A call of applyGustToPod has been made in this use of the entry. -/
def Called (uses : Nat → Nat) (before : List (Nat × Nat × String)) (gust : Nat) (slaveId : String)
    (s : Gusts × List (Nat × String)) : Prop :=
  (gust, uses gust, slaveId) ∈ before ++ s.2.map (tell uses)

theorem Struck.called {s t : Gusts × List (Nat × String)} {slaveId : String} (struck : Struck s t)
    (called : Called uses before gust slaveId s) : Called uses before gust slaveId t := by
  obtain ⟨more, grown⟩ := struck.calls
  simp only [Called, ← grown, List.map_append, ← List.append_assoc]
  exact List.mem_append_left _ called

/-- What the second loop keeps. -/
def Told (uses : Nat → Nat) (before : List (Nat × Nat × String)) (s : Gusts × List (Nat × String)) :
    Prop := Marked uses s.1 (before ++ s.2.map (tell uses))

theorem hitPod_struck (gust : Nat) (s : Gusts × List (Nat × String)) (slaveId : String) :
    Struck s (Gusts.hitPod gust s slaveId) := by
  unfold Gusts.hitPod
  split
  · exact .refl s
  · refine ⟨rfl, fun other => ?_, List.prefix_append _ _⟩
    by_cases same : other = gust
    · subst other
      simp [Gusts.setEntry]
    · simp [Gusts.setEntry, same]

theorem hitPod_told {s : Gusts × List (Nat × String)} (slaveId : String)
    (flying : gust ∈ s.1.gusts) (told : Told uses before s) :
    Told uses before (Gusts.hitPod gust s slaveId) ∧
      Called uses before gust slaveId (Gusts.hitPod gust s slaveId) := by
  unfold Gusts.hitPod
  split
  · rename_i seen
    exact ⟨told, (told.hit gust flying slaveId).mp (by simpa using seen)⟩
  · rename_i unseen
    have new : (gust, uses gust, slaveId) ∉ before ++ s.2.map (tell uses) := fun called =>
      unseen (by simpa using (told.hit gust flying slaveId).mpr called)
    have grown : before ++ (s.2 ++ [(gust, slaveId)]).map (tell uses) =
        (before ++ s.2.map (tell uses)) ++ [(gust, uses gust, slaveId)] := by
      simp [tell]
    refine ⟨?_, by simp [Called, tell]⟩
    simp only [Told, grown]
    refine ⟨fun other ho id => ?_, fun call hc => ?_, ?_⟩
    · rw [List.mem_append, ← told.hit other ho id]
      by_cases same : other = gust
      · subst other
        simp [Gusts.setEntry]
      · simp [Gusts.setEntry, same]
    · rcases List.mem_append.mp hc with hc | hc
      · exact told.fresh call hc
      · rw [List.mem_singleton.mp hc]
    · refine List.nodup_append.mpr ⟨told.once, List.nodup_singleton _, ?_⟩
      intro a ha b hb same
      rw [List.mem_singleton.mp hb] at same
      exact new (same ▸ ha)

theorem foldl_hitPod {s : Gusts × List (Nat × String)} (slaveIds : List String)
    (flying : gust ∈ s.1.gusts) (told : Told uses before s) :
    (Struck s (slaveIds.foldl (Gusts.hitPod gust) s) ∧
      Told uses before (slaveIds.foldl (Gusts.hitPod gust) s)) ∧
      ∀ slaveId ∈ slaveIds,
        Called uses before gust slaveId (slaveIds.foldl (Gusts.hitPod gust) s) := by
  refine foldl_each (fun t => Struck s t ∧ Told uses before t)
    (fun slaveId t => Called uses before gust slaveId t) ?_ ?_ ⟨.refl s, told⟩
  · intro t slaveId _ ⟨struck, told⟩
    have hit := hitPod_told slaveId (struck.gusts ▸ flying) told
    exact ⟨⟨struck.trans (hitPod_struck gust t slaveId), hit.1⟩, hit.2⟩
  · intro t slaveId other _ _ called
    exact (hitPod_struck gust t other).called called

theorem strike_told (touching : Nat → List String) {s : Gusts × List (Nat × String)}
    (flying : gust ∈ s.1.gusts) (told : Told uses before s) :
    (Struck s (Gusts.strike touching s gust) ∧ Told uses before (Gusts.strike touching s gust)) ∧
      (0 < (s.1.entry gust).remaining → ∀ slaveId ∈ touching gust,
        Called uses before gust slaveId (Gusts.strike touching s gust)) := by
  unfold Gusts.strike
  split
  · rename_i spent
    exact ⟨⟨.refl s, told⟩, fun left => absurd left (not_lt.mpr spent)⟩
  · have struck := foldl_hitPod (touching gust) flying told
    exact ⟨struck.1, fun _ => struck.2⟩

theorem foldl_strike (touching : Nat → List String) {s : Gusts × List (Nat × String)}
    (told : Told uses before s) :
    (Struck s (s.1.gusts.foldl (Gusts.strike touching) s) ∧
      Told uses before (s.1.gusts.foldl (Gusts.strike touching) s)) ∧
      ∀ gust ∈ s.1.gusts, 0 < (s.1.entry gust).remaining → ∀ slaveId ∈ touching gust,
        Called uses before gust slaveId (s.1.gusts.foldl (Gusts.strike touching) s) := by
  refine foldl_each (fun t => Struck s t ∧ Told uses before t)
    (fun gust t => 0 < (s.1.entry gust).remaining → ∀ slaveId ∈ touching gust,
      Called uses before gust slaveId t) ?_ ?_ ⟨.refl s, told⟩
  · intro t gust flying ⟨struck, told⟩
    have turn := strike_told touching (struck.gusts ▸ flying) told
    refine ⟨⟨struck.trans turn.1.1, turn.1.2⟩, fun left => turn.2 ?_⟩
    rw [struck.remaining gust]
    exact left
  · intro t gust other flying ⟨struck, told⟩ done left slaveId touched
    have turn := strike_told touching (struck.gusts ▸ flying) told
    exact turn.1.1.called (done left slaveId touched)

end Loops

section Pool

variable {s t : Gusts} {gust : Nat}

/-- Every entry made is in one of gusts and gustPool, once. -/
abbrev Pooled (s : Gusts) : Prop := Pool.Whole s.gusts s.gustPool s.made

theorem acquireGust_cases {g : Nat} (acquired : s.acquireGust = some (g, t)) :
    t.physicsWorld = s.physicsWorld ∧ t.gusts = s.gusts ∧
      (∀ other, other ≠ g → t.entry other = s.entry other) ∧
      (s.gustPool = t.gustPool ++ [g] ∧ t.made = s.made ∨
        t.gustPool = s.gustPool ∧ g = s.made ∧ t.made = s.made + 1) := by
  unfold Gusts.acquireGust at acquired
  split at acquired
  · cases acquired
  · split at acquired
    · rename_i last
      cases acquired
      exact ⟨rfl, rfl, fun _ _ => rfl,
        .inl ⟨(List.dropLast_append_getLast? g (Option.mem_def.mpr last)).symm, rfl⟩⟩
    · cases acquired
      refine ⟨rfl, rfl, fun other apart => ?_, .inr ⟨rfl, rfl, rfl⟩⟩
      exact Function.update_of_ne apart _ _

/-- A launch that returns true has put an entry that did not fly among the gusts, as new. -/
structure Launched (s t : Gusts) (gust : Nat) : Prop where
  world : t.physicsWorld = true
  gusts : t.gusts = s.gusts ++ [gust]
  entry : t.entry gust = ⟨gustLifetime, []⟩
  others : ∀ other, other ≠ gust → t.entry other = s.entry other
  pooled : Pooled s → Pooled t ∧ gust ∉ s.gusts

theorem launchGust_cases (s : Gusts) (source : GustSource) :
    s.launchGust source = (none, s) ∨
      ∃ gust t, s.launchGust source = (some gust, t) ∧ Launched s t gust := by
  unfold Gusts.launchGust
  split
  · exact .inl rfl
  · rename_i world
    split
    · exact .inl rfl
    · rename_i g t acquired
      have spec := acquireGust_cases acquired
      refine .inr ⟨g, _, rfl, ?_, ?_, ?_, fun other apart => ?_, fun pooled => ?_⟩
      · simpa [Gusts.setEntry, spec.1] using world
      · simp [Gusts.setEntry, spec.2.1]
      · simp [Gusts.setEntry]
      · rw [← spec.2.2.1 other apart]
        exact Function.update_of_ne apart _ _
      · obtain ⟨_, gusts, _, ⟨pool, made⟩ | ⟨pool, rfl, made⟩⟩ := spec
        · rw [Pooled, pool] at pooled
          refine ⟨?_, fun flying => pooled.apart flying (by simp)⟩
          simpa [Pooled, Gusts.setEntry, gusts, made] using pooled.take
        · refine ⟨?_, fun flying => pooled.not_made (List.mem_append_left _ flying)⟩
          simpa [Pooled, Gusts.setEntry, gusts, pool, made] using pooled.make

theorem removeGust_pooled (pooled : Pooled s) (flying : gust ∈ s.gusts) :
    Pooled (s.removeGust gust) :=
  pooled.release flying

/-- The last loop of advanceGusts. -/
theorem foldl_removeGust {expired : List Nat} (pooled : Pooled s) (nodup : expired.Nodup)
    (flying : ∀ gust ∈ expired, gust ∈ s.gusts) :
    Pooled (expired.foldl Gusts.removeGust s) ∧
      (expired.foldl Gusts.removeGust s).physicsWorld = s.physicsWorld ∧
      (∀ gust, gust ∈ (expired.foldl Gusts.removeGust s).gusts ↔
        gust ∈ s.gusts ∧ gust ∉ expired) ∧
      (expired.foldl Gusts.removeGust s).gustPool = s.gustPool ++ expired ∧
      ∀ gust, gust ∉ expired → (expired.foldl Gusts.removeGust s).entry gust = s.entry gust := by
  induction expired generalizing s with
  | nil => simp [pooled]
  | cons first rest ih =>
    obtain ⟨once, nodup⟩ := List.nodup_cons.mp nodup
    have isFlying := flying first List.mem_cons_self
    have gone : ∀ gust, gust ∈ (s.removeGust first).gusts ↔ gust ≠ first ∧ gust ∈ s.gusts :=
      fun gust => pooled.lent_nodup.mem_erase_iff
    obtain ⟨pooled', world, gusts, pool, entry⟩ := ih (removeGust_pooled pooled isFlying) nodup
      fun gust later => (gone gust).mpr
        ⟨fun same => once (same ▸ later), flying gust (List.mem_cons_of_mem _ later)⟩
    refine ⟨pooled', world, fun gust => ?_, ?_, fun gust kept => ?_⟩
    · rw [List.foldl_cons, gusts gust, gone gust, List.mem_cons, not_or]
      tauto
    · rw [List.foldl_cons, pool]
      simp [Gusts.removeGust, Gusts.setEntry]
    · obtain ⟨apart, kept⟩ := not_or.mp (fun ho => kept (List.mem_cons.mpr ho))
      rw [List.foldl_cons, entry gust kept]
      exact Function.update_of_ne apart _ _

theorem clearFrom_spec {n : Nat} (length : s.gusts.length = n) (pooled : Pooled s) :
    Pooled (s.clearFrom n) ∧ (s.clearFrom n).gusts = [] := by
  induction n generalizing s with
  | zero => exact ⟨pooled, List.eq_nil_of_length_eq_zero length⟩
  | succ n ih =>
    unfold Gusts.clearFrom
    split
    · rename_i last found
      have flying : last ∈ s.gusts := List.mem_of_getLast? found
      refine ih ?_ (removeGust_pooled pooled flying)
      change (s.gusts.erase last).length = n
      rw [List.length_erase_of_mem flying, length, Nat.add_sub_cancel]
    · rename_i none
      rw [List.getLast?_eq_none_iff] at none
      exact ⟨pooled, none⟩

theorem clearGusts_spec (pooled : Pooled s) : Pooled s.clearGusts ∧ s.clearGusts.gusts = [] :=
  clearFrom_spec rfl pooled

/-- What a frame does to the gusts: those whose time is over go to the pool, and the others have
hit all that they touch. -/
structure Advanced (uses : Nat → Nat) (before : List (Nat × Nat × String)) (delta : Rat)
    (touching : Nat → List String) (s : Gusts) (t : Gusts × List (Nat × String)) : Prop where
  pooled : Pooled t.1
  world : t.1.physicsWorld = s.physicsWorld
  told : Told uses before t
  flying : ∀ gust, gust ∈ t.1.gusts ↔
    gust ∈ s.gusts ∧ 0 < Binary64.sub (s.entry gust).remaining delta
  spent : ∀ gust ∈ s.gusts, Binary64.sub (s.entry gust).remaining delta ≤ 0 → gust ∈ t.1.gustPool
  remaining : ∀ gust ∈ t.1.gusts,
    (t.1.entry gust).remaining = Binary64.sub (s.entry gust).remaining delta
  hits : ∀ gust ∈ t.1.gusts, ∀ slaveId ∈ touching gust, Called uses before gust slaveId t

/-- The last loop, after the second has made of the aged gusts what it may. -/
theorem Struck.advanced {uses : Nat → Nat} {before : List (Nat × Nat × String)} {delta : Rat}
    {touching : Nat → List String} {u : Gusts × List (Nat × String)} (pooled : Pooled s)
    (struck : Struck (aged s delta s.gusts, []) u) (told : Told uses before u)
    (done : ∀ gust ∈ s.gusts, 0 < ((aged s delta s.gusts).entry gust).remaining →
      ∀ slaveId ∈ touching gust, Called uses before gust slaveId u) :
    Advanced uses before delta touching s
      ((s.gusts.filter fun gust =>
        Binary64.sub (s.entry gust).remaining delta ≤ 0).foldl Gusts.removeGust u.1, u.2) := by
  have left {gust : Nat} (flying : gust ∈ s.gusts) :
      (u.1.entry gust).remaining = Binary64.sub (s.entry gust).remaining delta := by
    rw [struck.remaining gust]
    simp [aged, flying]
  have gusts : u.1.gusts = s.gusts := struck.gusts
  have pooled' : Pooled u.1 := by
    rw [struck.same]
    exact pooled
  have isExpired (gust : Nat) :
      (gust ∈ s.gusts.filter fun gust => Binary64.sub (s.entry gust).remaining delta ≤ 0) ↔
        gust ∈ s.gusts ∧ Binary64.sub (s.entry gust).remaining delta ≤ 0 := by
    rw [List.mem_filter, decide_eq_true_iff]
  obtain ⟨pooled'', world, kept, pool, entry⟩ := foldl_removeGust pooled'
    (pooled.lent_nodup.filter _) fun gust spent => gusts ▸ ((isExpired gust).mp spent).1
  have flying (gust : Nat) := kept gust
  simp only [gusts, isExpired, not_and, not_le] at flying
  have stays {gust : Nat}
      (still : gust ∈ s.gusts ∧ 0 < Binary64.sub (s.entry gust).remaining delta) :=
    entry gust fun spent => not_le.mpr still.2 ((isExpired gust).mp spent).2
  refine ⟨pooled'', ?_, ⟨fun gust flies slaveId => ?_, told.fresh, told.once⟩, fun gust => ?_,
    fun gust flies spent => ?_, fun gust flies => ?_, fun gust flies => ?_⟩
  · rw [world, struck.same]
    rfl
  · have still := (flying gust).mp flies
    rw [stays ⟨still.1, still.2 still.1⟩]
    exact told.hit gust (gusts ▸ still.1) slaveId
  · rw [flying gust]
    exact and_congr_right fun flies => ⟨fun still => still flies, fun still _ => still⟩
  · rw [pool]
    exact List.mem_append_right _ ((isExpired gust).mpr ⟨flies, spent⟩)
  · have still := (flying gust).mp flies
    rw [stays ⟨still.1, still.2 still.1⟩]
    exact left still.1
  · have still := (flying gust).mp flies
    refine done gust still.1 ?_
    rw [← struck.remaining gust, left still.1]
    exact still.2 still.1

theorem advanceGusts_spec {uses : Nat → Nat} {before : List (Nat × Nat × String)}
    (world : s.gusts ≠ [] → s.physicsWorld = true) (pooled : Pooled s)
    (marked : Marked uses s before) (delta : Rat) (touching : Nat → List String) :
    Advanced uses before delta touching s (s.advanceGusts delta touching) := by
  unfold Gusts.advanceGusts
  split
  · rename_i idle
    have none : s.gusts = [] := by
      by_contra some
      simp [world some, some] at idle
    refine ⟨pooled, rfl, ?_, ?_, ?_, ?_, ?_⟩
    · simpa [Told] using marked
    all_goals simp [none]
  · rw [foldl_age pooled.lent_nodup, List.nil_append]
    have told : Told uses before (aged s delta s.gusts, []) := by
      refine ⟨fun gust flying slaveId => ?_, by simpa using marked.fresh, by simpa using marked.once⟩
      have hit := marked.hit gust flying slaveId
      have flies : gust ∈ s.gusts := flying
      simpa [aged, flies] using hit
    obtain ⟨⟨struck, told'⟩, done⟩ := foldl_strike touching told
    exact struck.advanced pooled told' done

end Pool

end Megalo.Scene
