import OneplusHal.AlertSlider.KeyHandler
import OneplusHal.Lib.Machine

/-!
The dialog on the screen. A dialog that is showing moves to a new state by an animation; one that is
hidden takes it on at once. An update that finds an animation under way cancels it, and a cancelled
animation ends like any other: with its own position and background.

What an animation computes on its way, the coordinates of a frame, comes with the inputs.
-/

namespace OneplusHal.AlertSlider

open OneplusHal

/-- `Surface.ROTATION_0` and so on. -/
inductive Rotation
  | rotation0
  | rotation90
  | rotation180
  | rotation270
  deriving DecidableEq

inductive Background
  | top
  | topFlip
  | top90
  | top90Flip
  | top270
  | top270Flip
  | middle
  | bottom
  | bottomFlip
  | bottom90
  | bottom90Flip
  | bottom270
  | bottom270Flip
  deriving DecidableEq

inductive Icon
  | volumeRingerMute
  | volumeRingerVibrate
  | volumeRinger
  | notificationsAlert
  | notificationsSilence
  | alarm
  | info
  deriving DecidableEq

/-- The texts of the modes. -/
inductive Caption
  | silent
  | vibration
  | normal
  | dndPriorityOnly
  | dndTotalSilence
  | dndAlarmsOnly
  | none
  deriving DecidableEq

def iconFor (ringerMode : Int) : Icon :=
  if ringerMode = RINGER_MODE_SILENT then .volumeRingerMute
  else if ringerMode = RINGER_MODE_VIBRATE then .volumeRingerVibrate
  else if ringerMode = RINGER_MODE_NORMAL then .volumeRinger
  else if ringerMode = ZEN_PRIORITY_ONLY then .notificationsAlert
  else if ringerMode = ZEN_TOTAL_SILENCE then .notificationsSilence
  else if ringerMode = ZEN_ALARMS_ONLY then .alarm
  else .info

def textFor (ringerMode : Int) : Caption :=
  if ringerMode = RINGER_MODE_SILENT then .silent
  else if ringerMode = RINGER_MODE_VIBRATE then .vibration
  else if ringerMode = RINGER_MODE_NORMAL then .normal
  else if ringerMode = ZEN_PRIORITY_ONLY then .dndPriorityOnly
  else if ringerMode = ZEN_TOTAL_SILENCE then .dndTotalSilence
  else if ringerMode = ZEN_ALARMS_ONLY then .dndAlarmsOnly
  else .none

/-- What a dialog reads from its display and its resources when it is made. -/
structure Placement where
  rotation : Rotation
  flip : Bool
  length : Int
  xPos : Int
  yPos : Int

namespace Placement

def isLandscape (p : Placement) : Bool :=
  p.rotation = .rotation90 || p.rotation = .rotation270

def delta (p : Placement) (position : Int) : Int :=
  p.length * (if position = POSITION_TOP then -1 else if position = POSITION_BOTTOM then 1 else 0)

def endX (p : Placement) (position : Int) : Int :=
  if p.isLandscape then p.xPos + p.delta position else p.xPos

def endY (p : Placement) (position : Int) : Int :=
  if p.isLandscape then p.yPos else p.yPos + p.delta position

def backgroundFor (p : Placement) (position : Int) : Background :=
  match p.rotation with
  | .rotation90 =>
      if position = POSITION_TOP then if p.flip then .top90Flip else .top90
      else if position = POSITION_BOTTOM then if p.flip then .bottom90Flip else .bottom90
      else .middle
  | .rotation270 =>
      if position = POSITION_TOP then if p.flip then .top270Flip else .top270
      else if position = POSITION_BOTTOM then if p.flip then .bottom270Flip else .bottom270
      else .middle
  | .rotation0 | .rotation180 =>
      if position = POSITION_TOP then if p.flip then .topFlip else .top
      else if position = POSITION_MIDDLE then .middle
      else if position = POSITION_BOTTOM then if p.flip then .bottomFlip else .bottom
      else .middle

end Placement

/-- What is to be seen of a dialog; the views of a new one are as the layout has them. -/
@[ext] structure Look where
  x : Int
  y : Int
  background : Option Background := none
  icon : Option Icon := none
  text : Option Caption := none

/-- What the listener of an animation has captured. -/
structure Animation where
  endX : Int
  endY : Int
  position : Int

structure AnimatedDialog where
  placement : Placement
  look : Look
  isShowing : Bool := false
  isAnimating : Bool := false
  /-- `animator`, while it runs -/
  animator : Option Animation := none

namespace AnimatedDialog

def create (p : Placement) : AnimatedDialog where
  placement := p
  look := { x := p.xPos, y := p.yPos }

def applyUiMode (ringerMode : Int) (d : AnimatedDialog) : AnimatedDialog :=
  { d with look := { d.look with
      icon := some (iconFor ringerMode), text := some (textFor ringerMode) } }

def applyPositionAndBackground (endX endY position : Int) (d : AnimatedDialog) : AnimatedDialog :=
  { d with look := { d.look with
      x := endX, y := endY, background := some (d.placement.backgroundFor position) } }

def onAnimationStart (ringerMode : Int) (d : AnimatedDialog) : AnimatedDialog :=
  { d with isAnimating := true }.applyUiMode ringerMode

/-- The animation runs no more, and its listener hears of it. -/
def onAnimationEnd (d : AnimatedDialog) : AnimatedDialog :=
  match d.animator with
  | none => d
  | some a =>
      let d := { d with animator := none }.applyPositionAndBackground a.endX a.endY a.position
      { d with isAnimating := false }

def onAnimationUpdate (x y : Int) (d : AnimatedDialog) : AnimatedDialog :=
  match d.animator with
  | none => d
  | some _ => { d with look := { d.look with x, y } }

def animatePosition (endX endY position ringerMode : Int) (d : AnimatedDialog) : AnimatedDialog :=
  let d := if d.isAnimating then d.onAnimationEnd else d
  { d with animator := some ⟨endX, endY, position⟩ }.onAnimationStart ringerMode

def updateState (position ringerMode : Int) (d : AnimatedDialog) : AnimatedDialog :=
  let endX := d.placement.endX position
  let endY := d.placement.endY position
  if d.isShowing then d.animatePosition endX endY position ringerMode
  else (d.applyUiMode ringerMode).applyPositionAndBackground endX endY position

inductive Input
  /-- `setState` -/
  | state (position ringerMode : Int)
  | show
  | dismiss
  /-- a frame of the animation -/
  | frame (x y : Int)
  | animationEnd

def step (d : AnimatedDialog) : Input → AnimatedDialog
  | .state position ringerMode => d.updateState position ringerMode
  | .show => { d with isShowing := true }
  | .dismiss => { d with isShowing := false }
  | .frame x y => d.onAnimationUpdate x y
  | .animationEnd => d.onAnimationEnd

end AnimatedDialog

/-! ### A dialog that does not animate -/

namespace Placement

/-- A dialog in a state. -/
def look (p : Placement) (position ringerMode : Int) : Look where
  x := p.endX position
  y := p.endY position
  background := some (p.backgroundFor position)
  icon := some (iconFor ringerMode)
  text := some (textFor ringerMode)

/-- The dialog that takes on every state at once. -/
def plain (p : Placement) (l : Look) : AnimatedDialog.Input → Look
  | .state position ringerMode => p.look position ringerMode
  | _ => l

def IsPosition (position : Int) : Prop :=
  position = POSITION_TOP ∨ position = POSITION_MIDDLE ∨ position = POSITION_BOTTOM

/-- No two positions of the slider have the same background. -/
theorem backgroundFor_inj (p : Placement) {position position' : Int} (h : IsPosition position)
    (h' : IsPosition position') (heq : p.backgroundFor position = p.backgroundFor position') :
    position = position' := by
  obtain ⟨rotation, flip, length, xPos, yPos⟩ := p
  cases rotation <;> cases flip <;> obtain rfl | rfl | rfl := h <;>
    obtain rfl | rfl | rfl := h' <;>
    first
      | rfl
      | cases heq

end Placement

theorem iconFor_inj {mode mode' : Int} (h : 0 ≤ mode ∧ mode ≤ 5) (h' : 0 ≤ mode' ∧ mode' ≤ 5)
    (heq : iconFor mode = iconFor mode') : mode = mode' := by
  have hcases : ∀ m : Int, 0 ≤ m ∧ m ≤ 5 → m = 0 ∨ m = 1 ∨ m = 2 ∨ m = 3 ∨ m = 4 ∨ m = 5 := by
    omega
  obtain rfl | rfl | rfl | rfl | rfl | rfl := hcases mode h <;>
    obtain rfl | rfl | rfl | rfl | rfl | rfl := hcases mode' h' <;>
    first
      | rfl
      | cases heq

/-- What a dialog shows tells the positions and the modes of the slider apart. -/
theorem Placement.look_inj (p : Placement) {position position' mode mode' : Int}
    (hposition : IsPosition position) (hposition' : IsPosition position')
    (hmode : 0 ≤ mode ∧ mode ≤ 5) (hmode' : 0 ≤ mode' ∧ mode' ≤ 5)
    (h : p.look position mode = p.look position' mode') : position = position' ∧ mode = mode' := by
  have hbackground := Option.some.inj (congrArg Look.background h)
  have hicon := Option.some.inj (congrArg Look.icon h)
  exact ⟨p.backgroundFor_inj hposition hposition' hbackground, iconFor_inj hmode hmode' hicon⟩

namespace AnimatedDialog

variable {d : AnimatedDialog} {l : Look}

/-- The dialog is at, or on its way to, what the other one shows. -/
structure Follows (d : AnimatedDialog) (l : Look) : Prop where
  flag : d.isAnimating = d.animator.isSome
  icon : d.look.icon = l.icon
  text : d.look.text = l.text
  rest : d.animator = none → d.look = l
  aim : ∀ a, d.animator = some a →
    l.x = a.endX ∧ l.y = a.endY ∧ l.background = some (d.placement.backgroundFor a.position)

theorem follows_create (p : Placement) : (create p).Follows ⟨p.xPos, p.yPos, none, none, none⟩ where
  flag := rfl
  icon := rfl
  text := rfl
  rest := fun _ => rfl
  aim := nofun

theorem Follows.animator_eq_none (h : d.Follows l) (hrest : d.isAnimating = false) :
    d.animator = none :=
  Option.isNone_iff_eq_none.mp (Option.isSome_eq_false_iff.mp (h.flag.symm.trans hrest))

theorem placement_onAnimationEnd : d.onAnimationEnd.placement = d.placement := by
  rw [onAnimationEnd]
  split <;> rfl

theorem placement_step (d : AnimatedDialog) (i : Input) : (d.step i).placement = d.placement := by
  cases i with
  | state position ringerMode =>
      rw [step, updateState]
      split
      · show (if d.isAnimating then d.onAnimationEnd else d).placement = d.placement
        split
        · exact placement_onAnimationEnd
        · rfl
      · rfl
  | «show» => rfl
  | dismiss => rfl
  | frame x y =>
      rw [step, onAnimationUpdate]
      split <;> rfl
  | animationEnd => exact placement_onAnimationEnd

/-- No state comes to a hidden dialog that is animating. -/
def Calm (d : AnimatedDialog) : Input → Prop
  | .state _ _ => d.isShowing = false → d.isAnimating = false
  | _ => True

theorem Follows.onAnimationEnd (h : d.Follows l) : d.onAnimationEnd.Follows l := by
  rw [AnimatedDialog.onAnimationEnd]
  split
  · exact h
  · rename_i a ha
    obtain ⟨hx, hy, hbackground⟩ := h.aim a ha
    have hlook : ({ d.look with
        x := a.endX, y := a.endY, background := some (d.placement.backgroundFor a.position) } :
          Look) = l :=
      Look.ext hx.symm hy.symm hbackground.symm h.icon h.text
    exact ⟨rfl, h.icon, h.text, fun _ => hlook, nofun⟩

theorem Follows.onAnimationUpdate (h : d.Follows l) (x y : Int) :
    (d.onAnimationUpdate x y).Follows l := by
  rw [AnimatedDialog.onAnimationUpdate]
  split
  · exact h
  · rename_i a ha
    exact ⟨h.flag, h.icon, h.text, fun hnone => (nomatch ha.symm.trans hnone), h.aim⟩

/-- An animation aims at the new state. -/
theorem follows_animatePosition (position ringerMode : Int) :
    (d.animatePosition (d.placement.endX position) (d.placement.endY position) position
      ringerMode).Follows (d.placement.look position ringerMode) := by
  have hplacement : (if d.isAnimating then d.onAnimationEnd else d).placement = d.placement := by
    split
    · exact placement_onAnimationEnd
    · rfl
  refine ⟨rfl, rfl, rfl, nofun, ?_⟩
  rintro a ⟨⟩
  refine ⟨rfl, rfl, ?_⟩
  show _ = some ((if d.isAnimating then d.onAnimationEnd else d).placement.backgroundFor position)
  rw [hplacement]
  rfl

theorem Follows.step (h : d.Follows l) {i : Input} (hi : d.Calm i) :
    (d.step i).Follows (d.placement.plain l i) := by
  cases i with
  | state position ringerMode =>
      rw [AnimatedDialog.step, updateState]
      split
      · exact follows_animatePosition position ringerMode
      · rename_i hhidden
        have hflag : d.isAnimating = false := hi (Bool.eq_false_iff.mpr hhidden)
        have hnone := h.animator_eq_none hflag
        exact ⟨h.flag, rfl, rfl, fun _ => rfl, fun a ha => nomatch hnone.symm.trans ha⟩
  | «show» => exact ⟨h.flag, h.icon, h.text, h.rest, h.aim⟩
  | dismiss => exact ⟨h.flag, h.icon, h.text, h.rest, h.aim⟩
  | frame x y => exact h.onAnimationUpdate x y
  | animationEnd => exact h.onAnimationEnd

theorem Follows.run (h : d.Follows l) {is : List Input}
    (his : Machine.Along AnimatedDialog.step Calm d is) :
    (Machine.run AnimatedDialog.step d is).Follows (is.foldl d.placement.plain l) := by
  induction is generalizing d l with
  | nil => exact h
  | cons i is ih =>
      have hrest := ih (h.step his.1) his.2
      rwa [placement_step] at hrest

/-- Unless a state comes to a hidden dialog while it animates, a dialog at rest looks as if it had
never animated. -/
theorem look_of_rest (p : Placement) {is : List Input}
    (his : Machine.Along step Calm (create p) is)
    (hrest : (Machine.run step (create p) is).isAnimating = false) :
    (Machine.run step (create p) is).look =
      is.foldl p.plain ⟨p.xPos, p.yPos, none, none, none⟩ := by
  have hfollows := (follows_create p).run his
  exact hfollows.rest (hfollows.animator_eq_none hrest)

/-- The slider goes from the top to the middle and, before the dialog is there, to the bottom. -/
theorem look_of_rest_bottom :
    (Machine.run step (create ⟨.rotation90, true, 150, 700, 24⟩)
      [.state 1 0, .show, .state 2 1, .frame 610 24, .state 3 2, .frame 720 24,
        .animationEnd]).look = ⟨850, 24, some .bottom90Flip, some .volumeRinger, some .normal⟩ := by
  have hcalm : Machine.Along step Calm (create ⟨.rotation90, true, 150, 700, 24⟩)
      [.state 1 0, .show, .state 2 1, .frame 610 24, .state 3 2, .frame 720 24, .animationEnd] :=
    ⟨fun _ => rfl, trivial, nofun, trivial, nofun, trivial, trivial, trivial⟩
  rw [look_of_rest _ hcalm rfl]
  rfl

end AnimatedDialog

end OneplusHal.AlertSlider
