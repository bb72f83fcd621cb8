import Megalo.Frontend.Store
import Megalo.Library.Markup

/-! What main.ts writes into innerHTML: the rows of the pods, the selected pod and the activity,
with names that any caller of RegisterSlave may have chosen. -/
namespace Megalo.Frontend

open Markup

def escapeHTML (value : Units) : Units :=
  let value := replaceAll (unit '&') (units "&amp;") value
  let value := replaceAll (unit '<') (units "&lt;") value
  let value := replaceAll (unit '>') (units "&gt;") value
  replaceAll (unit '"') (units "&quot;") value

/-- The lines of a template literal. -/
def lines (l : List String) : Units := [unit '\n'].intercalate (l.map units)

def shortId (value : Units) (length : Nat) : Units :=
  if value.length ≤ length then value else value.take length

def humanizeStatus : SlaveStatus → String
  | .live => "live"
  | .terminating => "terminating"
  | .gone => "gone"
  | .unspecified => "unknown"

def humanizeDeathReason : DeathReason → String
  | .podDown => "fell"
  | .userAction => "hand"
  | .disease => "disease"
  | .lifespan => "lifespan"
  | .processDown => "process"
  | .unspecified => "unspecified"

inductive ActivityKind
  | system
  | action
  | state
  deriving DecidableEq

def ActivityKind.name : ActivityKind → String
  | .system => "system"
  | .action => "action"
  | .state => "state"

/-- An entry of the activity list, less its id. -/
structure ActivityEntry where
  kind : ActivityKind
  message : String
  createdAt : String

/-- An element that is put into a list of the page. -/
structure Element where
  classes : List String
  innerHTML : Template

section Render

variable (pod : SlaveState)

def statusToneClass : String :=
  if pod.status = .gone then "tone-gone"
  else if pod.status = .terminating then "tone-warn"
  else if pod.infected then "tone-muted"
  else if pod.firewall then "tone-accent"
  else "tone-live"

def renderPodAvatarMarkup : Units :=
  let classes := ["pod-avatar", if pod.status = .gone then "is-gone" else "",
    if pod.firewall then "has-firewall" else "", if pod.infected then "is-infected" else ""]
  lines ["", "    <span class=\""] ++
    [unit ' '].intercalate ((classes.filter (· ≠ "")).map units) ++
    lines ["\" aria-hidden=\"true\">",
      "      <span class=\"pod-ear left\"></span>",
      "      <span class=\"pod-ear right\"></span>",
      "      <span class=\"pod-eye left\"><span class=\"pod-pupil\"></span></span>",
      "      <span class=\"pod-eye right\"><span class=\"pod-pupil\"></span></span>",
      "      <span class=\"pod-nose\"></span>",
      "      <span class=\"pod-tooth left\"></span>",
      "      <span class=\"pod-tooth right\"></span>",
      "    </span>",
      "  "]

/-- The innerHTML of a button in renderPodStrip. -/
def podChip : Template :=
  [.markup (lines ["", "      <span class=\"pod-cell pod-cell-main\">", "        "]),
    .markup (renderPodAvatarMarkup pod),
    .markup (lines ["", "        <span class=\"pod-ident\">", "          <strong>"]),
    .escaped (units pod.k8sPodName),
    .markup (lines ["</strong>", "          <small>"]),
    .escaped (shortId (units pod.slaveID) 12),
    .markup (lines ["</small>", "        </span>", "      </span>",
      "      <span class=\"pod-cell\" data-label=\"Status\">",
      "        <span class=\"status-badge "] ++ units (statusToneClass pod) ++ units "\">"),
    .bare (units (humanizeStatus pod.status)),
    .markup (lines ["</span>", "      </span>",
      "      <span class=\"pod-cell\" data-label=\"Stress\"><strong>"]),
    .bare (units pod.stress.repr),
    .markup (lines ["</strong></span>",
      "      <span class=\"pod-cell\" data-label=\"Fear\"><strong>"]),
    .bare (units pod.fear.repr),
    .markup (lines ["</strong></span>",
      "      <span class=\"pod-cell\" data-label=\"Turns\"><strong>"]),
    .bare (units pod.turnsLived.repr),
    .markup (lines ["</strong></span>", "    "])]

/-- The innerHTML of renderSelectedPanel, for a pod. -/
def selectedPanel : Template :=
  [.markup (lines ["", "    <div class=\"selected-header\">", "      "]),
    .markup (renderPodAvatarMarkup pod),
    .markup (lines ["", "      <div>", "        <h4>"]),
    .escaped (units pod.k8sPodName),
    .markup (lines ["</h4>", "        <p class=\"selected-meta\">"]),
    .escaped (units pod.slaveID),
    .markup (lines ["</p>", "      </div>", "    </div>", "    <div class=\"selected-tags\">",
      "      <span class=\"mini-pill "] ++ units (statusToneClass pod) ++ units "\">"),
    .bare (units (humanizeStatus pod.status)),
    .markup (lines ["</span>", "      "]),
    .markup (if pod.firewall then units "<span class=\"mini-pill tone-accent\">firewall</span>"
      else []),
    .markup (lines ["", "      "]),
    .markup (if pod.infected then units "<span class=\"mini-pill tone-muted\">infected</span>"
      else []),
    .markup (lines ["", "    </div>", "    <dl class=\"stat-grid\">",
      "      <div><dt>Stress</dt><dd>"]),
    .bare (units pod.stress.repr),
    .markup (lines ["</dd></div>", "      <div><dt>Fear</dt><dd>"]),
    .bare (units pod.fear.repr),
    .markup (lines ["</dd></div>", "      <div><dt>Turns</dt><dd>"]),
    .bare (units pod.turnsLived.repr),
    .markup (lines ["</dd></div>", "      <div><dt>Remain</dt><dd>"]),
    .bare (units pod.remainingTurns.repr),
    .markup (lines ["</dd></div>", "      <div><dt>Reason</dt><dd>"]),
    .bare (units (humanizeDeathReason pod.deathReason)),
    .markup (lines ["</dd></div>", "      <div><dt>Source</dt><dd>"]),
    .escaped (units pod.source),
    .markup (lines ["</dd></div>", "    </dl>", "  "])]

def renderSelectedPanel : Option SlaveState → Element
  | none => ⟨["empty-panel"], [.markup (units "No pod selected")]⟩
  | some pod => ⟨["selected-panel"], selectedPanel pod⟩

def renderPodStrip (pods : List SlaveState) (selectedPodId hoveredPodId : Option String) :
    List Element :=
  pods.map fun pod =>
    { classes := ["pod-chip", "gopher-peek-target"] ++
        (if some pod.slaveID = selectedPodId then ["is-selected"] else []) ++
        (if some pod.slaveID = hoveredPodId then ["is-hovered"] else []) ++
        (if pod.status = .gone then ["is-gone"] else [])
      innerHTML := podChip pod }

/-- How a time is shown is up to the browser. -/
def activityItem (toLocaleTimeString : String → Units) (entry : ActivityEntry) : Template :=
  [.markup (lines ["", "      <span>"]),
    .escaped (units entry.message),
    .markup (lines ["</span>", "      <time>"]),
    .bare (toLocaleTimeString entry.createdAt),
    .markup (lines ["</time>", "    "])]

def renderActivity (toLocaleTimeString : String → Units) (activity : List ActivityEntry) :
    List Element :=
  if activity = [] then [⟨["activity-empty"], [.markup (units "No events")]⟩]
  else activity.map fun entry =>
    ⟨["activity-item", "is-" ++ entry.kind.name], activityItem toLocaleTimeString entry⟩

end Render

section Shown

/-- A hole with escapeHTML is an escaped one. -/
theorem render_escaped (s : Units) : (Piece.escaped s).render = escapeHTML s := rfl

example : tokens (escapeHTML (units "<b>&lt;")) = some (emit (units "<b>&lt;")) := by decide

theorem unitsOf_small {c : Char} (small : c.toNat < 65536) : unitsOf c = [unit c] := if_pos small

/-- The digits and the sign need no escape. -/
theorem plain_repr (n : Int) : ∀ u ∈ units n.repr, Plain u := by
  have range : ∀ c ∈ n.repr.toList, 44 < c.toNat ∧ c.toNat < 58 := by
    have digits (m : Nat) : ∀ c ∈ m.repr.toList, 44 < c.toNat ∧ c.toNat < 58 := by
      intro c inside
      rw [Nat.toList_repr] at inside
      have digit := Nat.isDigit_of_mem_toDigits (by decide) (by decide) inside
      have between : 48 ≤ c.toNat ∧ c.toNat ≤ 57 := Char.isDigit_iff_toNat.mp digit
      omega
    cases n with
    | ofNat m => exact digits m
    | negSucc m =>
      intro c inside
      rw [Int.repr, String.toList_append] at inside
      rcases List.mem_append.mp inside with sign | digit
      · have dash : c = '-' := by simpa using sign
        subst dash
        decide
      · exact digits (m + 1) c digit
  have digit : ∀ n < 58, 44 < n → Plain n.toUInt16 := by decide
  intro u inside
  obtain ⟨c, there, same⟩ := List.mem_flatMap.mp inside
  obtain ⟨low, high⟩ := range c there
  rw [unitsOf_small (by omega), List.mem_singleton] at same
  subst same
  exact digit c.toNat high low

theorem plain_status (status : SlaveStatus) : ∀ u ∈ units (humanizeStatus status), Plain u := by
  cases status <;> apply plain_of_all <;> rw [humanizeStatus, units_ofList] <;> decide +kernel

theorem plain_reason (reason : DeathReason) :
    ∀ u ∈ units (humanizeDeathReason reason), Plain u := by
  cases reason <;> apply plain_of_all <;> rw [humanizeDeathReason, units_ofList] <;>
    decide +kernel

theorem avatar_read (pod : SlaveState) :
    (Piece.markup (renderPodAvatarMarkup pod)).Proper ∧
      nest [] (Piece.markup (renderPodAvatarMarkup pod)).tags = some [] := by
  unfold renderPodAvatarMarkup
  generalize pod.firewall = firewall, pod.infected = infected
  by_cases gone : pod.status = .gone <;> simp only [gone, if_true, if_false] <;>
    cases firewall <;> cases infected <;>
    simp -implicitDefEqProofs only [lines, List.map_cons, List.map_nil] <;>
    (repeat rw [units_ofList]) <;> decide +kernel

theorem tone_cases (pod : SlaveState) : statusToneClass pod = "tone-gone" ∨
    statusToneClass pod = "tone-warn" ∨ statusToneClass pod = "tone-muted" ∨
    statusToneClass pod = "tone-accent" ∨ statusToneClass pod = "tone-live" := by
  unfold statusToneClass
  split_ifs <;> simp

theorem chip_proper (pod : SlaveState) : (podChip pod).Proper := by
  unfold Template.Proper podChip
  iterate 15 rw [List.forall_mem_cons]
  refine ⟨?_, (avatar_read pod).1, ?_, trivial, ?_, trivial, ?_, plain_status _, ?_, plain_repr _,
    ?_, plain_repr _, ?_, plain_repr _, ?_, fun _ inside => absurd inside List.not_mem_nil⟩
  case refine_4 =>
    rcases tone_cases pod with tone | tone | tone | tone | tone <;> rw [tone] <;>
      apply Piece.proper_markup <;>
      simp -implicitDefEqProofs only [lines, List.map_cons, List.map_nil] <;>
      (repeat rw [units_ofList]) <;> decide +kernel
  all_goals
    apply Piece.proper_markup
    simp -implicitDefEqProofs only [lines, List.map_cons, List.map_nil]
    repeat rw [units_ofList]
    decide +kernel

theorem chip_nested (pod : SlaveState) : nest [] ((podChip pod).flatMap Piece.tags) = some [] := by
  have before : nest [] (((podChip pod).take 6).flatMap Piece.tags) =
      some [units "small", units "span", units "span"] := by
    simp -implicitDefEqProofs only [podChip, List.take_succ_cons, List.take_zero,
      List.flatMap_cons, List.flatMap_nil]
    rw [nest_skip (avatar_read pod).2]
    simp -implicitDefEqProofs only [Piece.tags, List.nil_append, List.append_nil, lines,
      List.map_cons, List.map_nil]
    repeat rw [units_ofList]
    decide +kernel
  -- the tone is within a tag
  have status : nest [units "small", units "span", units "span"]
      ((((podChip pod).drop 6).take 1).flatMap Piece.tags) =
      some [units "span", units "span"] := by
    simp -implicitDefEqProofs only [podChip, List.drop_succ_cons, List.drop_zero,
      List.take_succ_cons, List.take_zero, List.flatMap_cons, List.flatMap_nil, Piece.tags,
      List.append_nil, lines, List.map_cons, List.map_nil]
    rcases tone_cases pod with tone | tone | tone | tone | tone <;> rw [tone] <;>
      (repeat rw [units_ofList]) <;> decide +kernel
  rw [Template.nest_take _ 6 before, Template.nest_take _ 1 status]
  simp -implicitDefEqProofs only [podChip, List.drop_succ_cons, List.drop_zero,
    List.flatMap_cons, List.flatMap_nil, Piece.tags, List.nil_append, List.append_nil, lines,
    List.map_cons, List.map_nil]
  repeat rw [units_ofList]
  decide +kernel

theorem chip_framed (pod : SlaveState) : Framed none (podChip pod) = true := by
  simp -implicitDefEqProofs only [podChip, Framed, Piece.hole, Option.isNone_none,
    Option.isNone_some, List.head?_cons, Option.bind_some, Bool.true_or, Bool.false_or,
    Bool.true_and, Bool.and_true, Bool.and_eq_true]
  rcases tone_cases pod with tone | tone | tone | tone | tone <;> rw [tone] <;>
    simp -implicitDefEqProofs only [lines, List.map_cons, List.map_nil] <;>
    (repeat rw [units_ofList]) <;> decide +kernel

theorem chip_sound (pod : SlaveState) : (podChip pod).Sound :=
  ⟨chip_proper pod, chip_nested pod, chip_framed pod⟩

/-- What of a pod its markup may depend on; no name and no number is in it. -/
structure Look where
  status : SlaveStatus
  firewall : Bool
  infected : Bool

def SlaveState.look (pod : SlaveState) : Look := ⟨pod.status, pod.firewall, pod.infected⟩

/-- A pod of this look. -/
def Look.sample (look : Look) : SlaveState :=
  { sessionID := "", slaveID := "", k8sPodName := "", k8sPodUID := "", podIP := "",
    status := look.status, deathReason := .unspecified, turnsLived := 0, remainingTurns := 0,
    stress := 0, fear := 0, infected := look.infected, firewall := look.firewall,
    observedAt := "", source := "" }

theorem chip_tags (pod : SlaveState) :
    (podChip pod).flatMap Piece.tags = (podChip pod.look.sample).flatMap Piece.tags := rfl

theorem panel_proper (pod : SlaveState) : (selectedPanel pod).Proper := by
  have pill (on : Bool) (s : Units) (closed : (run .data s).1 = .data ∧ unit '\r' ∉ s) :
      (Piece.markup (if on then s else [])).Proper := by
    cases on
    · exact Piece.proper_markup ⟨rfl, List.not_mem_nil⟩
    · exact Piece.proper_markup closed
  unfold Template.Proper selectedPanel
  iterate 25 rw [List.forall_mem_cons]
  refine ⟨?_, (avatar_read pod).1, ?_, trivial, ?_, trivial, ?_, plain_status _, ?_, ?_, ?_, ?_,
    ?_, plain_repr _, ?_, plain_repr _, ?_, plain_repr _, ?_, plain_repr _, ?_, plain_reason _,
    ?_, trivial, ?_, fun _ inside => absurd inside List.not_mem_nil⟩
  case refine_4 =>
    rcases tone_cases pod with tone | tone | tone | tone | tone <;> rw [tone] <;>
      apply Piece.proper_markup <;>
      simp -implicitDefEqProofs only [lines, List.map_cons, List.map_nil] <;>
      (repeat rw [units_ofList]) <;> decide +kernel
  case refine_6 | refine_8 =>
    apply pill
    repeat rw [units_ofList]
    decide +kernel
  all_goals
    apply Piece.proper_markup
    simp -implicitDefEqProofs only [lines, List.map_cons, List.map_nil]
    repeat rw [units_ofList]
    decide +kernel

theorem panel_nested (pod : SlaveState) :
    nest [] ((selectedPanel pod).flatMap Piece.tags) = some [] := by
  have before : nest [] (((selectedPanel pod).take 6).flatMap Piece.tags) =
      some [units "p", units "div", units "div"] := by
    simp -implicitDefEqProofs only [selectedPanel, List.take_succ_cons, List.take_zero,
      List.flatMap_cons, List.flatMap_nil]
    rw [nest_skip (avatar_read pod).2]
    simp -implicitDefEqProofs only [Piece.tags, List.nil_append, List.append_nil, lines,
      List.map_cons, List.map_nil]
    repeat rw [units_ofList]
    decide +kernel
  have status : nest [units "p", units "div", units "div"]
      ((((selectedPanel pod).drop 6).take 1).flatMap Piece.tags) =
      some [units "span", units "div"] := by
    simp -implicitDefEqProofs only [selectedPanel, List.drop_succ_cons, List.drop_zero,
      List.take_succ_cons, List.take_zero, List.flatMap_cons, List.flatMap_nil, Piece.tags,
      List.append_nil, lines, List.map_cons, List.map_nil]
    rcases tone_cases pod with tone | tone | tone | tone | tone <;> rw [tone] <;>
      (repeat rw [units_ofList]) <;> decide +kernel
  rw [Template.nest_take _ 6 before, Template.nest_take _ 1 status]
  simp -implicitDefEqProofs only [selectedPanel, List.drop_succ_cons, List.drop_zero,
    List.flatMap_cons, List.flatMap_nil, Piece.tags, List.nil_append, List.append_nil, lines,
    List.map_cons, List.map_nil]
  generalize pod.firewall = firewall, pod.infected = infected
  cases firewall <;> cases infected <;>
    simp -implicitDefEqProofs only [Bool.false_eq_true, if_true, if_false] <;>
    (repeat rw [units_ofList]) <;> decide +kernel

theorem panel_framed (pod : SlaveState) : Framed none (selectedPanel pod) = true := by
  simp -implicitDefEqProofs only [selectedPanel, Framed, Piece.hole, Option.isNone_none,
    Option.isNone_some, List.head?_cons, Option.bind_some, Bool.true_or, Bool.false_or,
    Bool.true_and, Bool.and_true, Bool.and_eq_true]
  rcases tone_cases pod with tone | tone | tone | tone | tone <;> rw [tone] <;>
    simp -implicitDefEqProofs only [lines, List.map_cons, List.map_nil] <;>
    (repeat rw [units_ofList]) <;> decide +kernel

theorem panel_sound (pod : SlaveState) : (selectedPanel pod).Sound :=
  ⟨panel_proper pod, panel_nested pod, panel_framed pod⟩

theorem panel_tags (pod : SlaveState) :
    (selectedPanel pod).flatMap Piece.tags =
      (selectedPanel pod.look.sample).flatMap Piece.tags := rfl

theorem item_sound {toLocaleTimeString : String → Units} {entry : ActivityEntry}
    (plain : ∀ u ∈ toLocaleTimeString entry.createdAt, Plain u) :
    (activityItem toLocaleTimeString entry).Sound := by
  constructor
  · unfold Template.Proper activityItem
    iterate 5 rw [List.forall_mem_cons]
    refine ⟨?_, trivial, ?_, plain, ?_, fun _ inside => absurd inside List.not_mem_nil⟩
    all_goals
      apply Piece.proper_markup
      simp -implicitDefEqProofs only [lines, List.map_cons, List.map_nil]
      repeat rw [units_ofList]
      decide +kernel
  · simp -implicitDefEqProofs only [activityItem, List.flatMap_cons, List.flatMap_nil, Piece.tags,
      List.nil_append, List.append_nil, lines, List.map_cons, List.map_nil]
    repeat rw [units_ofList]
    decide +kernel
  · simp -implicitDefEqProofs only [activityItem, Framed, Piece.hole, Option.isNone_none,
      Option.isNone_some, List.head?_cons, Option.bind_some, Bool.true_or, Bool.false_or,
      Bool.true_and, Bool.and_true, lines, List.map_cons, List.map_nil]
    repeat rw [units_ofList]
    decide +kernel

/-- What the page shows of the pods and of the activity. -/
structure PageRead (toLocaleTimeString : String → Units) : Prop where
  strip : ∃ tags : Look → List Units, ∀ pods selectedPodId hoveredPodId,
    List.Forall₂ (fun pod button => Template.Reads button.innerHTML.render (tags pod.look)
      [units pod.k8sPodName, shortId (units pod.slaveID) 12, units (humanizeStatus pod.status),
        units pod.stress.repr, units pod.fear.repr, units pod.turnsLived.repr])
      pods (renderPodStrip pods selectedPodId hoveredPodId)
  panel : ∃ tags : Look → List Units, ∀ pod,
    Template.Reads (renderSelectedPanel (some pod)).innerHTML.render (tags pod.look)
      [units pod.k8sPodName, units pod.slaveID, units (humanizeStatus pod.status),
        units pod.stress.repr, units pod.fear.repr, units pod.turnsLived.repr,
        units pod.remainingTurns.repr, units (humanizeDeathReason pod.deathReason),
        units pod.source]
  activity : ∃ tags : List Units, ∀ entries, entries ≠ [] →
    List.Forall₂ (fun entry item => Template.Reads item.innerHTML.render tags
      [units entry.message, toLocaleTimeString entry.createdAt])
      entries (renderActivity toLocaleTimeString entries)

/-- Whatever a slave calls itself, the page is read with the tags that main.ts writes, and with
each name as the text of one element. -/
theorem page_read {toLocaleTimeString : String → Units}
    (plain : ∀ createdAt, ∀ u ∈ toLocaleTimeString createdAt, Plain u) :
    PageRead toLocaleTimeString where
  strip := by
    refine ⟨fun look => (podChip look.sample).flatMap Piece.tags, ?_⟩
    intro pods selectedPodId hoveredPodId
    rw [renderPodStrip, List.forall₂_map_right_iff, List.forall₂_same]
    intro pod _
    have read := (chip_sound pod).reads
    rw [chip_tags] at read
    exact read
  panel := by
    refine ⟨fun look => (selectedPanel look.sample).flatMap Piece.tags, ?_⟩
    intro pod
    have read := (panel_sound pod).reads
    rw [panel_tags] at read
    exact read
  activity := by
    refine ⟨(activityItem (fun _ => []) ⟨.system, "", ""⟩).flatMap Piece.tags, ?_⟩
    intro entries some_entry
    rw [renderActivity, if_neg some_entry, List.forall₂_map_right_iff, List.forall₂_same]
    intro entry _
    exact (item_sound (plain entry.createdAt)).reads

theorem page_read_clock : (∀ u ∈ units "9:41:00", Plain u) ∧
    PageRead fun _ => units "9:41:00" := by
  have plain : ∀ u ∈ units "9:41:00", Plain u := by
    apply plain_of_all
    rw [units_ofList]
    decide +kernel
  exact ⟨plain, page_read fun _ => plain⟩

end Shown

end Megalo.Frontend
