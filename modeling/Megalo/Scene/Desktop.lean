import Megalo.Scene.Hands
import Megalo.Scene.Hold
import Megalo.Library.History

/-! The mouse and the keyboard of scene.ts over the scene with its hands: looking around, the pod
under the reticle, the click that crushes it, and the gust of the desktop. The events of the page
come in any order; a click selects first, and what the selection updates comes before the crush. -/
namespace Megalo.Scene

open Transition

/-- What the desktop did, for the properties only. -/
inductive DesktopMoment
  /-- onHover was told the pod under the reticle. -/
  | hovered (slaveId : Option String)
  /-- The pod under the reticle was dropped without a word. -/
  | dropped
  /-- onSelect -/
  | selected (slaveId : String)
  /-- triggerDesktopGust has launched a gust. -/
  | gust (now : Rat)
  | reset

structure Desktop where
  hands : Hands
  /-- renderer.xr.isPresenting -/
  isPresenting : Bool
  desktopInputActive : Bool
  desktopLookActive : Bool
  /-- document.pointerLockElement is the canvas. -/
  isPointerLocked : Bool
  desktopYaw : Rat
  desktopPitch : Rat
  desktopTargetPodId : Option String
  desktopPressedKeys : List String
  desktopGustCooldownUntil : Rat
  /-- A click has selected this pod and is about to crush it. -/
  clicking : Option String
  /-- The last first. -/
  history : List DesktopMoment

/-- DESKTOP_LOOK_SENSITIVITY -/
def desktopLookSensitivity : Rat := Binary64.round (24 / 10000)

/-- DESKTOP_MAX_PITCH, 0.48 of Math.PI; DESKTOP_MIN_PITCH is its negation. -/
def desktopMaxPitch : Rat := Binary64.round (15079644737231006 / 10000000000000000)

/-- The pitch of resetDesktopCamera. -/
def desktopRestPitch : Rat := Binary64.round (-24 / 100)

namespace Desktop

def initial : Desktop where
  hands := .initial
  isPresenting := false
  desktopInputActive := false
  desktopLookActive := false
  isPointerLocked := false
  desktopYaw := 0
  desktopPitch := desktopRestPitch
  desktopTargetPodId := none
  desktopPressedKeys := []
  desktopGustCooldownUntil := 0
  clicking := none
  history := []

variable (s : Desktop)

def tell (moment : DesktopMoment) : Desktop := { s with history := moment :: s.history }

def scene : PodScene := s.hands.field.scene

def isDesktopSceneActive : Bool := s.desktopInputActive && !s.isPresenting

def setDesktopTargetPod (slaveId : Option String) (notifyHover : Bool) : Desktop :=
  if s.desktopTargetPodId = slaveId then s
  else { s with desktopTargetPodId := slaveId }.tell
    (if notifyHover then .hovered slaveId else .dropped)

/-- What every way out of the desktop's controls clears; the pointer lock ends by its own event. -/
def clearControls : Desktop :=
  { s with desktopPressedKeys := [], desktopLookActive := false }.setDesktopTargetPod none false

def setDesktopActive (active : Bool) : Desktop :=
  if s.desktopInputActive = active then s
  else if active then { s with desktopInputActive := true }
  else { s with desktopInputActive := false }.clearControls

/-- The pods that the reticle's ray meets, in their order; a mesh in the pool has the name "". -/
def updateDesktopTargeting (intersections : List String) : Desktop :=
  if !s.isDesktopSceneActive then s.setDesktopTargetPod none true
  else s.setDesktopTargetPod (intersections.find? fun slaveId =>
    slaveId != "" && s.scene.isPodInteractable slaveId) true

/-- What removePodEntry does to the reticle, for the entries that an update has removed. -/
def dropRemoved (before : PodScene) : Desktop :=
  match s.desktopTargetPodId with
  | some targetId =>
    if before.meshById.has targetId && !s.scene.meshById.has targetId then
      s.setDesktopTargetPod none false
    else s
  | none => s

/-- As far as onSelect. -/
def handleDesktopPointerDown (button : Nat) : Desktop :=
  if !s.isDesktopSceneActive then s
  else if button = 2 then
    if s.isPointerLocked then s else { s with desktopLookActive := true }
  else if button ≠ 0 || (s.desktopLookActive && !s.isPointerLocked) then s
  else match s.desktopTargetPodId with
    | none => s
    | some targetId =>
      if targetId = "" || !s.scene.isPodInteractable targetId then s
      else { s with clicking := some targetId }.tell (.selected targetId)

def handleDesktopPointerMove (movementX movementY : Rat) : Desktop :=
  if !s.isDesktopSceneActive || (!s.desktopLookActive && !s.isPointerLocked) then s
  else { s with
    desktopYaw := Binary64.sub s.desktopYaw (Binary64.mul movementX desktopLookSensitivity)
    desktopPitch := max (-desktopMaxPitch) (min desktopMaxPitch
      (Binary64.sub s.desktopPitch (Binary64.mul movementY desktopLookSensitivity))) }

def handleDesktopPointerUp (button : Nat) : Desktop :=
  if button ≠ 2 || s.isPointerLocked then s else { s with desktopLookActive := false }

def triggerDesktopGust (nowMs : Rat) : Desktop :=
  if !s.isDesktopSceneActive || decide (nowMs < s.desktopGustCooldownUntil) then s
  else match s.hands.gusts.launchGust .desktop with
    | (none, _) => s
    | (some _, gusts) => { s with
        hands := { s.hands with gusts }
        desktopGustCooldownUntil := Binary64.add nowMs gustCooldownMs }.tell (.gust nowMs)

def isMoveKey (code : String) : Bool :=
  code == "KeyW" || code == "KeyA" || code == "KeyS" || code == "KeyD"

/-- desktopPressedKeys.add -/
def pressKey (code : String) : Desktop :=
  if s.desktopPressedKeys.contains code then s
  else { s with desktopPressedKeys := s.desktopPressedKeys ++ [code] }

/-- KeyR tells onDesktopBinding the pod under the reticle and changes nothing. -/
def handleDesktopKeyDown (code : String) (repeated ignored : Bool) (nowMs : Rat) : Desktop :=
  if !s.isDesktopSceneActive || ignored then s
  else if code = "Escape" then
    if s.isPointerLocked then s else { s with desktopLookActive := false }
  else if isMoveKey code then s.pressKey code
  else if code = "KeyE" && !repeated then s.triggerDesktopGust nowMs
  else s

def handleDesktopKeyUp (code : String) (ignored : Bool) : Desktop :=
  if !s.isDesktopSceneActive || ignored then s
  else if isMoveKey code then { s with desktopPressedKeys := s.desktopPressedKeys.erase code }
  else s

def handleDesktopWindowBlur : Desktop :=
  { s with desktopPressedKeys := [], desktopLookActive := false }

def handlePointerLockChange (isPointerLocked : Bool) : Desktop :=
  let s := { s with isPointerLocked, desktopLookActive := false }
  if isPointerLocked then s else { s with desktopPressedKeys := [] }

/-- reset, beside what it does to the rest of the scene. -/
def resetControls : Desktop :=
  let s := { s with desktopYaw := 0, desktopPitch := desktopRestPitch }.clearControls
  { s with desktopGustCooldownUntil := 0 }.tell .reset

end Desktop

inductive DesktopAction
  | setDesktopActive (active : Bool)
  | pointerDown (button : Nat)
  /-- startPodCrush, at the end of a click. -/
  | crush
  | pointerMove (movementX movementY : Rat)
  | pointerUp (button : Nat)
  | keyDown (code : String) (repeated ignored : Bool) (nowMs : Rat)
  | keyUp (code : String) (ignored : Bool)
  | blur
  | pointerLockChange (isPointerLocked : Bool)
  /-- enterXR, before it asks for a session. -/
  | enterXR
  /-- The session is presented. -/
  | presented
  | updateWristHud (frame : XRFrame)
  | desktopFrame (intersections : List String)
  | handleXREnd
  | exitXR
  | reset
  | update (pods : List Frontend.SlaveState) (eliminated : List String)
  | initializePhysics
  | simulate (delta : Rat)
  | visit (under : Bool)
  | hit
  | advanceGusts (delta : Rat) (touching : Nat → List String)

namespace Desktop

variable (normalize : Vector3 → Vector3) (engine : Engine)

/-- A step of the rest of the scene. -/
def scenes (s : Desktop) (action : HandsAction) : Option Desktop :=
  ((Scene.hands normalize engine).step s.hands action).map fun hands => { s with hands }

/-- An event of the page runs between the frames of the simulation. -/
def idle (s : Desktop) : Bool :=
  match s.hands.field.phase with
  | .idle => true
  | _ => false

def task (s : Desktop) (next : Desktop) : Option Desktop := if s.idle then some next else none

def update (s : Desktop) (pods : List Frontend.SlaveState) (eliminated : List String) :
    Option Desktop :=
  (s.scenes normalize engine (.field (.update pods eliminated))).map fun next =>
    next.dropRemoved s.scene

/-- A click has selected the pod. Nothing but what the page does when its store has changed comes
before the crush: it sets whether the desktop is active and updates the scene. -/
def crushNext (s : Desktop) (targetId : String) : DesktopAction → Option Desktop
  | .crush =>
    { s with clicking := none }.scenes normalize engine (.field (.startPodCrush targetId))
  | .setDesktopActive active => some (s.setDesktopActive active)
  | .update pods eliminated => s.update normalize engine pods eliminated
  | _ => none

def event (s : Desktop) : DesktopAction → Option Desktop
  | .setDesktopActive active => some (s.setDesktopActive active)
  | .pointerDown button => s.task (s.handleDesktopPointerDown button)
  | .crush => none
  | .pointerMove movementX movementY => s.task (s.handleDesktopPointerMove movementX movementY)
  | .pointerUp button => s.task (s.handleDesktopPointerUp button)
  | .keyDown code repeated ignored nowMs =>
    s.task (s.handleDesktopKeyDown code repeated ignored nowMs)
  | .keyUp code ignored => s.task (s.handleDesktopKeyUp code ignored)
  | .blur => s.task s.handleDesktopWindowBlur
  | .pointerLockChange isPointerLocked => s.task (s.handlePointerLockChange isPointerLocked)
  | .enterXR => if s.isPresenting then none else s.task s.clearControls
  | .presented => if s.isPresenting then none else s.task { s with isPresenting := true }
  | .updateWristHud frame =>
    if s.isPresenting then s.scenes normalize engine (.updateWristHud frame) else none
  | .desktopFrame intersections =>
    if s.isPresenting then none
    else (s.scenes normalize engine (.field .desktopFrame)).map fun s =>
      s.updateDesktopTargeting intersections
  | .handleXREnd => (s.scenes normalize engine (.field .handleXREnd)).map fun s =>
      { s with isPresenting := false }.clearControls
  | .exitXR => (s.scenes normalize engine (.field .exitXR)).map fun s =>
      { s with isPresenting := false }
  | .reset => (s.scenes normalize engine (.field .reset)).map resetControls
  | .update pods eliminated => s.update normalize engine pods eliminated
  | .initializePhysics => s.scenes normalize engine (.field .initializePhysics)
  | .simulate delta => s.scenes normalize engine (.field (.simulate delta))
  | .visit under => s.scenes normalize engine (.field (.visit under))
  | .hit => s.scenes normalize engine (.field .hit)
  | .advanceGusts delta touching => s.scenes normalize engine (.advanceGusts delta touching)

def step (s : Desktop) (a : DesktopAction) : Option Desktop :=
  match s.clicking with
  | some targetId => s.crushNext normalize engine targetId a
  | none => s.event normalize engine a

end Desktop

def desktop (normalize : Vector3 → Vector3) (engine : Engine) : System Desktop DesktopAction :=
  ⟨Desktop.step normalize engine⟩

/-- What onHover was told last. -/
def lastHover : List DesktopMoment → Option String
  | [] => none
  | .hovered slaveId :: _ => slaveId
  | _ :: earlier => lastHover earlier

/-- Since onHover was told last a pod has been dropped without a word. -/
def droppedSince : List DesktopMoment → Bool
  | [] => false
  | .hovered _ :: _ => false
  | .dropped :: _ => true
  | _ :: earlier => droppedSince earlier

/-- The pod under the reticle, by what was told and dropped. -/
def underReticle (history : List DesktopMoment) : Option String :=
  if droppedSince history then none else lastHover history

theorem underReticle_some {history : List DesktopMoment} {slaveId : String}
    (rests : underReticle history = some slaveId) :
    lastHover history = some slaveId ∧ droppedSince history = false := by
  unfold underReticle at rests
  split at rests
  · cases rests
  · rename_i kept
    exact ⟨rests, Bool.not_eq_true _ ▸ kept⟩

/-- When the last gust was launched, since a reset. -/
def lastGust : List DesktopMoment → Option Rat
  | [] => none
  | .gust now :: _ => some now
  | .reset :: _ => none
  | _ :: earlier => lastGust earlier

/-- What is true of a moment with the moments before it. -/
def DesktopTold : DesktopMoment → List DesktopMoment → Prop
  | .selected slaveId, earlier => underReticle earlier = some slaveId
  | .gust now, earlier =>
    ∀ before, lastGust earlier = some before → Binary64.add before gustCooldownMs ≤ now
  | _, _ => True

/-- What holds of the controls between any two events. -/
structure Controlled (s : Desktop) : Prop where
  inactive : s.desktopInputActive = false →
    s.desktopPressedKeys = [] ∧ s.desktopLookActive = false ∧ s.desktopTargetPodId = none
  keys : s.desktopPressedKeys.Nodup ∧ ∀ code ∈ s.desktopPressedKeys, Desktop.isMoveKey code = true
  target : s.desktopTargetPodId = underReticle s.history
  cooldown : ∀ before, lastGust s.history = some before →
    s.desktopGustCooldownUntil = Binary64.add before gustCooldownMs
  pitch : -desktopMaxPitch ≤ s.desktopPitch ∧ s.desktopPitch ≤ desktopMaxPitch
  told : History.Each DesktopTold s.history
  pointed : ∀ slaveId, s.desktopTargetPodId = some slaveId → s.scene.meshById.has slaveId = true

section Controls

variable {s t : Desktop}

theorem centred : -desktopMaxPitch ≤ desktopRestPitch ∧ desktopRestPitch ≤ desktopMaxPitch := by
  constructor <;> decide +kernel

theorem Controlled.initial : Controlled .initial where
  inactive _ := ⟨rfl, rfl, rfl⟩
  keys := ⟨List.nodup_nil, nofun⟩
  target := rfl
  cooldown := nofun
  pitch := centred
  told := trivial
  pointed := nofun

/-- The controls see nothing of the rest of the scene. -/
def Desktop.controls (s : Desktop) := (s.desktopInputActive, s.desktopLookActive,
  s.desktopPitch, s.desktopTargetPodId, s.desktopPressedKeys, s.desktopGustCooldownUntil, s.history)

theorem Controlled.aside (controlled : Controlled s) (same : t.controls = s.controls)
    (mesh : ∀ slaveId, s.desktopTargetPodId = some slaveId →
      s.scene.meshById.has slaveId = true → t.scene.meshById.has slaveId = true) :
    Controlled t := by
  simp only [Desktop.controls, Prod.mk.injEq] at same
  obtain ⟨active, look, pitch, target, keys, cooldown, history⟩ := same
  constructor
  · rw [active, look, target, keys]; exact controlled.inactive
  · rw [keys]; exact controlled.keys
  · rw [target, history]; exact controlled.target
  · rw [history, cooldown]; exact controlled.cooldown
  · rw [pitch]; exact controlled.pitch
  · rw [history]; exact controlled.told
  · rw [target]; exact fun slaveId rests => mesh slaveId rests (controlled.pointed slaveId rests)

theorem Controlled.hover (controlled : Controlled s) {slaveId : Option String}
    (ready : ∀ id, slaveId = some id →
      s.desktopInputActive = true ∧ s.scene.meshById.has id = true) :
    Controlled (s.setDesktopTargetPod slaveId true) := by
  unfold Desktop.setDesktopTargetPod
  split
  · exact controlled
  · refine ⟨fun off => ?_, controlled.keys, rfl, controlled.cooldown, controlled.pitch,
      ⟨trivial, controlled.told⟩, fun id rests => (ready id rests).2⟩
    have none : slaveId = none := by
      cases it : slaveId with
      | none => rfl
      | some id => cases off.symm.trans (ready id it).1
    exact ⟨(controlled.inactive off).1, (controlled.inactive off).2.1, none⟩

/-- Whatever has become of the scene, and with it of the pod under the reticle. -/
theorem Controlled.drop (controlled : Controlled s) (hands : Hands) :
    Controlled ({ s with hands }.setDesktopTargetPod none false) := by
  unfold Desktop.setDesktopTargetPod
  split
  · rename_i none
    exact ⟨controlled.inactive, controlled.keys, controlled.target, controlled.cooldown,
      controlled.pitch, controlled.told, fun _ rests => absurd (none.symm.trans rests) nofun⟩
  · exact ⟨fun off => ⟨(controlled.inactive off).1, (controlled.inactive off).2.1, rfl⟩,
      controlled.keys, rfl, controlled.cooldown, controlled.pitch, ⟨trivial, controlled.told⟩,
      nofun⟩

theorem Controlled.clear (controlled : Controlled s) (hands : Hands) (active : Bool) :
    Controlled { s with hands, desktopInputActive := active }.clearControls := by
  unfold Desktop.clearControls Desktop.setDesktopTargetPod
  split
  · rename_i none
    exact ⟨fun _ => ⟨rfl, rfl, none⟩, ⟨List.nodup_nil, nofun⟩, controlled.target,
      controlled.cooldown, controlled.pitch, controlled.told,
      fun _ rests => absurd (none.symm.trans rests) nofun⟩
  · exact ⟨fun _ => ⟨rfl, rfl, rfl⟩, ⟨List.nodup_nil, nofun⟩, rfl, controlled.cooldown,
      controlled.pitch, ⟨trivial, controlled.told⟩, nofun⟩

theorem Controlled.activate (controlled : Controlled s) (active : Bool) :
    Controlled (s.setDesktopActive active) := by
  unfold Desktop.setDesktopActive
  split
  · exact controlled
  · split
    · exact ⟨nofun, controlled.keys, controlled.target, controlled.cooldown, controlled.pitch,
        controlled.told, controlled.pointed⟩
    · exact controlled.clear s.hands false

theorem active_of_scene (active : ¬ (!s.isDesktopSceneActive) = true) :
    s.desktopInputActive = true := by
  simp only [Desktop.isDesktopSceneActive, Bool.not_eq_true', Bool.not_eq_false,
    Bool.and_eq_true] at active
  exact active.1

theorem Controlled.targeting (controlled : Controlled s) (intersections : List String) :
    Controlled (s.updateDesktopTargeting intersections) := by
  unfold Desktop.updateDesktopTargeting
  split
  · exact controlled.hover nofun
  · rename_i active
    refine controlled.hover fun id first => ⟨active_of_scene active, ?_⟩
    have ready := List.find?_some first
    rw [Bool.and_eq_true] at ready
    exact (interactable ready.2).1

theorem Controlled.look (controlled : Controlled s) (active : s.desktopInputActive = true)
    (look : Bool) : Controlled { s with desktopLookActive := look } :=
  ⟨fun off => absurd (active.symm.trans off) nofun, controlled.keys, controlled.target,
    controlled.cooldown, controlled.pitch, controlled.told, controlled.pointed⟩

theorem Controlled.unlook (controlled : Controlled s) :
    Controlled { s with desktopLookActive := false } :=
  ⟨fun off => ⟨(controlled.inactive off).1, rfl, (controlled.inactive off).2.2⟩, controlled.keys,
    controlled.target, controlled.cooldown, controlled.pitch, controlled.told, controlled.pointed⟩

theorem Controlled.release (controlled : Controlled s) :
    Controlled { s with desktopPressedKeys := [] } :=
  ⟨fun off => ⟨rfl, (controlled.inactive off).2⟩, ⟨List.nodup_nil, nofun⟩, controlled.target,
    controlled.cooldown, controlled.pitch, controlled.told, controlled.pointed⟩

theorem Controlled.pointerDown (controlled : Controlled s) (button : Nat) :
    Controlled (s.handleDesktopPointerDown button) := by
  unfold Desktop.handleDesktopPointerDown
  split
  · exact controlled
  · rename_i active
    split
    · split
      · exact controlled
      · exact controlled.look (active_of_scene active) true
    · split
      · exact controlled
      · split
        · exact controlled
        · rename_i targetId target
          split
          · exact controlled
          · exact ⟨controlled.inactive, controlled.keys, controlled.target, controlled.cooldown,
              controlled.pitch, ⟨controlled.target.symm.trans target, controlled.told⟩,
              controlled.pointed⟩

theorem Controlled.pointerMove (controlled : Controlled s) (movementX movementY : Rat) :
    Controlled (s.handleDesktopPointerMove movementX movementY) := by
  unfold Desktop.handleDesktopPointerMove
  split
  · exact controlled
  · refine ⟨controlled.inactive, controlled.keys, controlled.target, controlled.cooldown,
      ⟨le_max_left _ _, max_le ?_ (min_le_left _ _)⟩, controlled.told, controlled.pointed⟩
    decide +kernel

theorem Controlled.pointerUp (controlled : Controlled s) (button : Nat) :
    Controlled (s.handleDesktopPointerUp button) := by
  unfold Desktop.handleDesktopPointerUp
  split
  · exact controlled
  · exact controlled.unlook

theorem Controlled.lock (controlled : Controlled s) (locked : Bool) :
    Controlled (s.handlePointerLockChange locked) := by
  have unlooked : Controlled { s with isPointerLocked := locked, desktopLookActive := false } :=
    controlled.unlook.aside rfl fun _ _ there => there
  unfold Desktop.handlePointerLockChange
  dsimp only
  split
  · exact unlooked
  · exact unlooked.release

theorem Controlled.gust (controlled : Controlled s) (nowMs : Rat) :
    Controlled (s.triggerDesktopGust nowMs) := by
  unfold Desktop.triggerDesktopGust
  split
  · exact controlled
  · rename_i ready
    simp only [Bool.or_eq_true, not_or, decide_eq_true_eq, not_lt] at ready
    split
    · exact controlled
    · refine ⟨controlled.inactive, controlled.keys, controlled.target, ?_, controlled.pitch,
        ⟨?_, controlled.told⟩, controlled.pointed⟩
      · rintro before ⟨⟩
        rfl
      · intro before last
        rw [← controlled.cooldown before last]
        exact ready.2

theorem Controlled.keyDown (controlled : Controlled s) (code : String) (repeated ignored : Bool)
    (nowMs : Rat) : Controlled (s.handleDesktopKeyDown code repeated ignored nowMs) := by
  unfold Desktop.handleDesktopKeyDown
  split
  · exact controlled
  · rename_i active
    simp only [Bool.or_eq_true, not_or] at active
    split
    · split
      · exact controlled
      · exact controlled.unlook
    · split
      · rename_i move
        unfold Desktop.pressKey
        split
        · exact controlled
        · rename_i new
          refine ⟨fun off => absurd ((active_of_scene active.1).symm.trans off) nofun, ⟨?_, ?_⟩,
            controlled.target, controlled.cooldown, controlled.pitch, controlled.told,
            controlled.pointed⟩
          · rw [List.contains_iff_mem] at new
            exact List.nodup_append.mpr ⟨controlled.keys.1, List.nodup_singleton _,
              fun _ old _ last same => new (List.mem_singleton.mp last ▸ same ▸ old)⟩
          · intro key pressed
            rcases List.mem_append.mp pressed with old | last
            · exact controlled.keys.2 key old
            · rw [List.mem_singleton.mp last]
              exact move
      · split
        · exact controlled.gust nowMs
        · exact controlled

theorem Controlled.keyUp (controlled : Controlled s) (code : String) (ignored : Bool) :
    Controlled (s.handleDesktopKeyUp code ignored) := by
  unfold Desktop.handleDesktopKeyUp
  split
  · exact controlled
  · split
    · refine ⟨fun off => ?_, ⟨controlled.keys.1.erase code, fun key pressed =>
        controlled.keys.2 key (List.mem_of_mem_erase pressed)⟩, controlled.target,
        controlled.cooldown, controlled.pitch, controlled.told, controlled.pointed⟩
      rw [(controlled.inactive off).1]
      exact ⟨rfl, (controlled.inactive off).2⟩
    · exact controlled

theorem Controlled.reset (controlled : Controlled s) (hands : Hands) :
    Controlled { s with hands }.resetControls := by
  have turned : Controlled { s with desktopYaw := 0, desktopPitch := desktopRestPitch } :=
    ⟨controlled.inactive, controlled.keys, controlled.target, controlled.cooldown, centred,
      controlled.told, controlled.pointed⟩
  have cleared : Controlled
      { s with hands, desktopYaw := 0, desktopPitch := desktopRestPitch }.clearControls :=
    turned.clear hands s.desktopInputActive
  exact ⟨cleared.inactive, cleared.keys, cleared.target, nofun, cleared.pitch,
    ⟨trivial, cleared.told⟩, cleared.pointed⟩

end Controls

section Meshes

/-- Only an update and a reset take a mesh away. -/
def keepsMeshes : HandsAction → Bool
  | .field .reset | .field (.update ..) => false
  | _ => true

variable {normalize : Vector3 → Vector3} {engine : Engine} {f g : Field} {s t : Desktop}

theorem field_mesh {action : FieldAction} (kept : keepsMeshes (.field action) = true)
    (taken : (field engine).step f action = some g) : g.scene.meshById = f.scene.meshById := by
  have task {scene : PodScene} (same : scene.meshById = f.scene.meshById)
      (taken : f.task scene = some g) : g.scene.meshById = f.scene.meshById := by
    obtain ⟨_, rfl⟩ := Field.task_eq taken
    exact same
  cases action with
  | update pods eliminated => cases kept
  | reset => cases kept
  | initializePhysics => exact task initializePhysics_meshById taken
  | startPodCrush id => exact task (startPodCrush_same id).meshById taken
  | updateWristHud input => exact task (updateWristHud_same input).meshById taken
  | desktopFrame => exact task desktopFrame_same.meshById taken
  | handleXREnd => exact task handleXREnd_same.meshById taken
  | exitXR => exact task exitXR_same.meshById taken
  | simulate delta =>
    simp only [field] at taken
    split at taken
    · split at taken
      · cases taken
        exact (advanceCrushes_same delta).meshById
      · cases taken
    · cases taken
  | visit under =>
    simp only [field] at taken
    split at taken
    · split at taken
      · cases taken
        exact (visited_same _ under).meshById
      · cases taken
        rfl
    · cases taken
  | hit =>
    simp only [field] at taken
    split at taken
    · cases taken
      rfl
    · cases taken
      rfl
    · cases taken

theorem hands_mesh {r u : Hands} {action : HandsAction} (kept : keepsMeshes action = true)
    (taken : (hands normalize engine).step r action = some u) :
    u.field.scene.meshById = r.field.scene.meshById := by
  rcases hands_cases taken with ⟨frame, -, -, -, rfl⟩ | ⟨action, next, rfl, stepped, rfl⟩ |
    ⟨_, _, -, -, rfl⟩ | ⟨-, rfl⟩
  · rw [updateWristHud_field]
    exact (updateWristHud_same _).meshById
  · rw [follow_field]
    exact field_mesh kept stepped
  · rfl
  · rfl

theorem scenes_eq {action : HandsAction} (taken : s.scenes normalize engine action = some t) :
    ∃ next, (Scene.hands normalize engine).step s.hands action = some next ∧
      t = { s with hands := next } := by
  obtain ⟨next, stepped, rfl⟩ := Option.map_eq_some_iff.mp taken
  exact ⟨next, stepped, rfl⟩

theorem Controlled.scenes (controlled : Controlled s) {action : HandsAction}
    (kept : keepsMeshes action = true) (taken : s.scenes normalize engine action = some t) :
    Controlled t := by
  obtain ⟨next, stepped, rfl⟩ := scenes_eq taken
  refine controlled.aside rfl fun slaveId _ there => ?_
  rw [← there]
  exact congrArg (JSMap.has · slaveId) (hands_mesh kept stepped)

/-- An update drops the pod under the reticle when it takes its mesh away. -/
theorem Controlled.update (controlled : Controlled s) {pods : List Frontend.SlaveState}
    {eliminated : List String} (taken : s.update normalize engine pods eliminated = some t) :
    Controlled t := by
  obtain ⟨next, stepped, rfl⟩ := Option.map_eq_some_iff.mp taken
  obtain ⟨hands, -, rfl⟩ := scenes_eq stepped
  unfold Desktop.dropRemoved
  split
  · rename_i targetId target
    have pointed := controlled.pointed targetId target
    split
    · exact controlled.drop hands
    · rename_i shown
      rw [Bool.and_eq_true, not_and, Bool.not_eq_true', Bool.not_eq_false] at shown
      refine controlled.aside rfl fun slaveId rests _ => ?_
      cases target.symm.trans rests
      exact shown pointed
  · rename_i none
    refine controlled.aside rfl fun slaveId rests _ => ?_
    cases none.symm.trans rests

theorem Desktop.task_eq {next : Desktop} (taken : s.task next = some t) : t = next := by
  unfold Desktop.task at taken
  split at taken
  · exact (Option.some.inj taken).symm
  · cases taken

theorem Controlled.task (controlled : Controlled t) {r u : Desktop} (taken : r.task t = some u) :
    Controlled u := by
  rw [Desktop.task_eq taken]
  exact controlled

theorem crushNext_controlled (controlled : Controlled s) {targetId : String} {a : DesktopAction}
    (taken : s.crushNext normalize engine targetId a = some t) : Controlled t := by
  unfold Desktop.crushNext at taken
  split at taken
  · have clicked : Controlled { s with clicking := none } :=
      controlled.aside rfl fun _ _ there => there
    exact clicked.scenes rfl taken
  · cases taken
    exact controlled.activate _
  · exact controlled.update taken
  · cases taken

theorem event_controlled (controlled : Controlled s) {a : DesktopAction}
    (taken : s.event normalize engine a = some t) : Controlled t := by
  cases a with
  | setDesktopActive active =>
    cases taken
    exact controlled.activate active
  | pointerDown button => exact (controlled.pointerDown button).task taken
  | crush => cases taken
  | pointerMove movementX movementY =>
    exact (controlled.pointerMove movementX movementY).task taken
  | pointerUp button => exact (controlled.pointerUp button).task taken
  | keyDown code repeated ignored nowMs =>
    exact (controlled.keyDown code repeated ignored nowMs).task taken
  | keyUp code ignored => exact (controlled.keyUp code ignored).task taken
  | blur => exact controlled.release.unlook.task taken
  | pointerLockChange locked => exact (controlled.lock locked).task taken
  | enterXR =>
    simp only [Desktop.event] at taken
    split at taken
    · cases taken
    · exact (controlled.clear s.hands s.desktopInputActive).task taken
  | presented =>
    simp only [Desktop.event] at taken
    split at taken
    · cases taken
    · have presented : Controlled { s with isPresenting := true } :=
        controlled.aside rfl fun _ _ there => there
      exact presented.task taken
  | updateWristHud frame =>
    simp only [Desktop.event] at taken
    split at taken
    · exact controlled.scenes rfl taken
    · cases taken
  | desktopFrame intersections =>
    simp only [Desktop.event] at taken
    split at taken
    · cases taken
    · obtain ⟨next, stepped, rfl⟩ := Option.map_eq_some_iff.mp taken
      exact (controlled.scenes rfl stepped).targeting intersections
  | handleXREnd =>
    obtain ⟨next, stepped, rfl⟩ := Option.map_eq_some_iff.mp taken
    obtain ⟨hands, -, rfl⟩ := scenes_eq stepped
    have ended : Controlled { s with isPresenting := false } :=
      controlled.aside rfl fun _ _ there => there
    exact ended.clear hands s.desktopInputActive
  | exitXR =>
    obtain ⟨next, stepped, rfl⟩ := Option.map_eq_some_iff.mp taken
    exact (controlled.scenes rfl stepped).aside rfl fun _ _ there => there
  | reset =>
    obtain ⟨next, stepped, rfl⟩ := Option.map_eq_some_iff.mp taken
    obtain ⟨hands, -, rfl⟩ := scenes_eq stepped
    exact controlled.reset hands
  | update pods eliminated => exact controlled.update taken
  | initializePhysics => exact controlled.scenes rfl taken
  | simulate delta => exact controlled.scenes rfl taken
  | visit under => exact controlled.scenes rfl taken
  | hit => exact controlled.scenes rfl taken
  | advanceGusts delta touching => exact controlled.scenes rfl taken

theorem step_controlled (controlled : Controlled s) {a : DesktopAction}
    (taken : (desktop normalize engine).step s a = some t) : Controlled t := by
  change Desktop.step normalize engine s a = some t at taken
  unfold Desktop.step at taken
  split at taken
  · exact crushNext_controlled controlled taken
  · exact event_controlled controlled taken

end Meshes

section Below

variable {normalize : Vector3 → Vector3} {engine : Engine} {s t : Desktop}

@[simp] theorem setDesktopTargetPod_hands (slaveId : Option String) (notifyHover : Bool) :
    (s.setDesktopTargetPod slaveId notifyHover).hands = s.hands := by
  unfold Desktop.setDesktopTargetPod
  split <;> rfl

@[simp] theorem clearControls_hands : s.clearControls.hands = s.hands :=
  setDesktopTargetPod_hands none false

@[simp] theorem resetControls_hands : s.resetControls.hands = s.hands := clearControls_hands

@[simp] theorem setDesktopActive_hands (active : Bool) :
    (s.setDesktopActive active).hands = s.hands := by
  unfold Desktop.setDesktopActive
  split
  · rfl
  · split
    · rfl
    · exact clearControls_hands

@[simp] theorem updateDesktopTargeting_hands (intersections : List String) :
    (s.updateDesktopTargeting intersections).hands = s.hands := by
  unfold Desktop.updateDesktopTargeting
  split <;> exact setDesktopTargetPod_hands _ true

@[simp] theorem dropRemoved_hands (before : PodScene) : (s.dropRemoved before).hands = s.hands := by
  unfold Desktop.dropRemoved
  split
  · split
    · exact setDesktopTargetPod_hands none false
    · rfl
  · rfl

@[simp] theorem handleDesktopPointerDown_hands (button : Nat) :
    (s.handleDesktopPointerDown button).hands = s.hands := by
  unfold Desktop.handleDesktopPointerDown
  repeat' split
  all_goals rfl

@[simp] theorem handleDesktopPointerMove_hands (movementX movementY : Rat) :
    (s.handleDesktopPointerMove movementX movementY).hands = s.hands := by
  unfold Desktop.handleDesktopPointerMove
  split <;> rfl

@[simp] theorem handleDesktopPointerUp_hands (button : Nat) :
    (s.handleDesktopPointerUp button).hands = s.hands := by
  unfold Desktop.handleDesktopPointerUp
  split <;> rfl

@[simp] theorem handlePointerLockChange_hands (locked : Bool) :
    (s.handlePointerLockChange locked).hands = s.hands := by
  unfold Desktop.handlePointerLockChange
  dsimp only
  split <;> rfl

@[simp] theorem handleDesktopKeyUp_hands (code : String) (ignored : Bool) :
    (s.handleDesktopKeyUp code ignored).hands = s.hands := by
  unfold Desktop.handleDesktopKeyUp
  repeat' split
  all_goals rfl

/-- What an event makes of the hands: nothing, or a step of theirs. -/
def Below (normalize : Vector3 → Vector3) (engine : Engine) (s t : Desktop) : Prop :=
  t.hands = s.hands ∨ ∃ action, (hands normalize engine).step s.hands action = some t.hands

theorem triggerDesktopGust_below (nowMs : Rat) :
    Below normalize engine s (s.triggerDesktopGust nowMs) := by
  unfold Desktop.triggerDesktopGust
  split
  · exact .inl rfl
  · split
    · exact .inl rfl
    · rename_i gusts launched
      refine .inr ⟨.triggerDesktopGust, ?_⟩
      simp only [hands, launched]
      rfl

theorem handleDesktopKeyDown_below (code : String) (repeated ignored : Bool) (nowMs : Rat) :
    Below normalize engine s (s.handleDesktopKeyDown code repeated ignored nowMs) := by
  unfold Desktop.handleDesktopKeyDown Desktop.pressKey
  repeat' split
  all_goals first
    | exact .inl rfl
    | exact triggerDesktopGust_below nowMs

theorem Below.task {next : Desktop} (below : Below normalize engine s next)
    (taken : s.task next = some t) : Below normalize engine s t := by
  rw [Desktop.task_eq taken]
  exact below

theorem scenes_below {action : HandsAction} {f : Desktop → Desktop}
    (taken : (s.scenes normalize engine action).map f = some t)
    (same : ∀ next, (f next).hands = next.hands) : Below normalize engine s t := by
  obtain ⟨next, scenes, rfl⟩ := Option.map_eq_some_iff.mp taken
  obtain ⟨hands, stepped, rfl⟩ := scenes_eq scenes
  refine .inr ⟨action, ?_⟩
  rw [same]
  exact stepped

theorem scenes_below_self {action : HandsAction}
    (taken : s.scenes normalize engine action = some t) : Below normalize engine s t :=
  scenes_below (f := id) (by rwa [Option.map_id]) fun _ => rfl

theorem step_below {a : DesktopAction} (taken : (desktop normalize engine).step s a = some t) :
    Below normalize engine s t := by
  have quiet {next : Desktop} (same : next.hands = s.hands) (taken : s.task next = some t) :
      Below normalize engine s t := Below.task (.inl same) taken
  change Desktop.step normalize engine s a = some t at taken
  unfold Desktop.step at taken
  split at taken
  · unfold Desktop.crushNext at taken
    split at taken
    · exact scenes_below_self (s := { s with clicking := none }) taken
    · cases taken
      exact .inl (setDesktopActive_hands _)
    · exact scenes_below taken fun next => dropRemoved_hands _
    · cases taken
  · cases a with
    | setDesktopActive active =>
      cases taken
      exact .inl (setDesktopActive_hands active)
    | pointerDown button => exact quiet (handleDesktopPointerDown_hands button) taken
    | crush => cases taken
    | pointerMove movementX movementY =>
      exact quiet (handleDesktopPointerMove_hands movementX movementY) taken
    | pointerUp button => exact quiet (handleDesktopPointerUp_hands button) taken
    | keyDown code repeated ignored nowMs =>
      exact (handleDesktopKeyDown_below code repeated ignored nowMs).task taken
    | keyUp code ignored => exact quiet (handleDesktopKeyUp_hands code ignored) taken
    | blur =>
      have same : s.handleDesktopWindowBlur.hands = s.hands := rfl
      exact quiet same taken
    | pointerLockChange locked => exact quiet (handlePointerLockChange_hands locked) taken
    | enterXR =>
      simp only [Desktop.event] at taken
      split at taken
      · cases taken
      · exact quiet clearControls_hands taken
    | presented =>
      simp only [Desktop.event] at taken
      split at taken
      · cases taken
      · have same : { s with isPresenting := true }.hands = s.hands := rfl
        exact quiet same taken
    | updateWristHud frame =>
      simp only [Desktop.event] at taken
      split at taken
      · exact scenes_below_self taken
      · cases taken
    | desktopFrame intersections =>
      simp only [Desktop.event] at taken
      split at taken
      · cases taken
      · exact scenes_below taken fun next => updateDesktopTargeting_hands intersections
    | handleXREnd =>
      simp only [Desktop.event] at taken
      exact scenes_below taken fun next => clearControls_hands
    | exitXR =>
      simp only [Desktop.event] at taken
      exact scenes_below taken fun next => rfl
    | reset =>
      simp only [Desktop.event] at taken
      exact scenes_below taken fun next => resetControls_hands
    | update pods eliminated => exact scenes_below taken fun next => dropRemoved_hands _
    | initializePhysics => exact scenes_below_self taken
    | simulate delta => exact scenes_below_self taken
    | visit under => exact scenes_below_self taken
    | hit => exact scenes_below_self taken
    | advanceGusts delta touching => exact scenes_below_self taken

/-- The hands of the desktop are the hands that the other modules know. -/
theorem desktop_hands (reached : (desktop normalize engine).Reachable .initial s) :
    (hands normalize engine).Reachable .initial s.hands :=
  reached.view (f := Desktop.hands) fun _ _ _ taken => step_below taken

end Below

section Runs

variable {normalize : Vector3 → Vector3} {engine : Engine} {s : Desktop}

theorem controlled_reachable (reached : (desktop normalize engine).Reachable .initial s) :
    Controlled s :=
  reached.invariant .initial fun _ _ _ controlled _ taken => step_controlled controlled taken

/-- What holds between any two events of the page, however they follow each other. -/
structure DesktopKept (normalize : Vector3 → Vector3) (engine : Engine) (s : Desktop) : Prop where
  hands : (hands normalize engine).Reachable .initial s.hands
  /-- While setDesktopActive has the desktop's input off. -/
  inactive : s.desktopInputActive = false →
    s.desktopPressedKeys = [] ∧ s.desktopLookActive = false ∧ s.desktopTargetPodId = none
  keys : s.desktopPressedKeys.Nodup ∧
    ∀ code ∈ s.desktopPressedKeys, code ∈ ["KeyW", "KeyA", "KeyS", "KeyD"]
  /-- A pod under the reticle is the one that onHover was told last. -/
  target : ∀ slaveId, s.desktopTargetPodId = some slaveId →
    lastHover s.history = some slaveId ∧ droppedSince s.history = false
  /-- When there is none, onHover was told so, or the pod was dropped without a word. -/
  untargeted : s.desktopTargetPodId = none →
    lastHover s.history = none ∨ droppedSince s.history = true
  pointed : ∀ slaveId, s.desktopTargetPodId = some slaveId → s.scene.meshById.has slaveId = true
  /-- A click selects the pod that was under the reticle. -/
  selected : ∀ later slaveId earlier, s.history = later ++ .selected slaveId :: earlier →
    lastHover earlier = some slaveId ∧ droppedSince earlier = false
  /-- From one gust to the next, unless a reset is between, there is the cooldown. -/
  spaced : ∀ later now earlier before, s.history = later ++ .gust now :: earlier →
    lastGust earlier = some before → Binary64.add before gustCooldownMs ≤ now
  pitch : -desktopMaxPitch ≤ s.desktopPitch ∧ s.desktopPitch ≤ desktopMaxPitch

theorem desktop_kept (reached : (desktop normalize engine).Reachable .initial s) :
    DesktopKept normalize engine s := by
  have controlled := controlled_reachable reached
  constructor
  · exact desktop_hands reached
  · exact controlled.inactive
  · refine ⟨controlled.keys.1, fun code pressed => ?_⟩
    have move := controlled.keys.2 code pressed
    simp only [Desktop.isMoveKey, Bool.or_eq_true, beq_iff_eq] at move
    simp only [List.mem_cons, List.not_mem_nil, or_false]
    tauto
  · exact fun slaveId rests => underReticle_some (controlled.target.symm.trans rests)
  · intro none
    have empty : underReticle s.history = Option.none := controlled.target.symm.trans none
    unfold underReticle at empty
    split at empty
    · exact .inr ‹_›
    · exact .inl empty
  · exact controlled.pointed
  · intro later slaveId earlier split
    have told := controlled.told
    rw [split] at told
    exact underReticle_some told.at_split
  · intro later now earlier before split last
    have told := controlled.told
    rw [split] at told
    exact told.at_split before last
  · exact controlled.pitch

/-- The pod is clicked, an update takes it away, and two gusts are launched as fast as they can. -/
def clicksAndGusts : List DesktopAction :=
  [.initializePhysics, .setDesktopActive true, .update [samplePod "a" .live] [],
    .desktopFrame ["a"], .pointerDown 2, .pointerMove 10 (-2000), .pointerUp 2,
    .pointerDown 0, .update [samplePod "a" .live] [], .crush, .keyDown "KeyW" false false 1000,
    .keyDown "KeyE" false false 1000, .keyDown "KeyE" false false 1600,
    .keyDown "KeyE" false false 1680, .update [] []]

/-- The pod is gone from the reticle, the second gust came too soon and the third did not. -/
def letGo (s : Desktop) : Bool :=
  s.desktopTargetPodId == none && s.desktopGustCooldownUntil == 2360 && s.clicking == none &&
    s.desktopPressedKeys == ["KeyW"] && s.desktopPitch == desktopMaxPitch

theorem desktop_kept_click : ∃ s,
    (desktop id .exact).run .initial clicksAndGusts = some s ∧ letGo s = true ∧
      DesktopKept id .exact s := by
  obtain ⟨s, ran, passes⟩ := System.run_passes clicksAndGusts letGo (by decide +kernel :
    ((desktop id .exact).run .initial clicksAndGusts).any letGo = true)
  exact ⟨s, ran, passes, desktop_kept (System.run_reachable ran)⟩

end Runs

end Megalo.Scene
