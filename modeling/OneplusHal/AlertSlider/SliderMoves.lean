import Mathlib.Algebra.Group.Int.Defs
import OneplusHal.AlertSlider.KeyHandler
import OneplusHal.Lib.Machine
import OneplusHal.Lib.Text

/-!
From the events of the kernel to the modes of the phone.

An event names a position, in one of two ways, or none; a position submits a task. Whatever comes
between its steps, a task leaves the modes, the broadcast and the vibration that its position calls
for, so that the executor, once it has caught up, has made the moves of the events one after the
other.
-/

namespace OneplusHal.AlertSlider

open OneplusHal

/-- A `UEvent`: the value of each key that it has. -/
structure UEvent where
  get : String → Option (List Char)

/-- Kotlin's `String.toInt`; `none` is its exception. -/
def toInt (s : List Char) : Option Int :=
  (Text.wholeNumber s).filter fun n => -2 ^ 31 ≤ n ∧ n < 2 ^ 31

def contains (s : List Char) (part : String) : Bool :=
  s.tails.any fun rest => part.toList.isPrefixOf rest

/-- The position of the extcon state; the name of one cable is `(null)`. -/
def positionOfState (state : List Char) : Option Int :=
  let none := contains state "USB=0"
  let vibration := contains state "HOST=0"
  let silent := contains state "null)=0"
  if none && !vibration && !silent then some POSITION_BOTTOM
  else if !none && vibration && !silent then some POSITION_MIDDLE
  else if !none && !vibration && silent then some POSITION_TOP
  else Option.none

/-- The position that an event names; the outer `none` is an exception. -/
def UEvent.position (event : UEvent) : Option (Option Int) :=
  match event.get "SWITCH_STATE" with
  | some value => (toInt value).map some
  | none =>
      match event.get "STATE" with
      | some state => some (positionOfState state)
      | none => some none

namespace KeyHandler

def onUEvent (prefs : Preferences) (event : UEvent) (k : KeyHandler) : Option KeyHandler :=
  event.position.map fun position =>
    match position with
    | some position => k.handleMode prefs position
    | none => k

/-- What can happen to the service; an exception ends it. -/
inductive Happening
  | uevent (prefs : Preferences) (event : UEvent)
  | input (i : Input)

def happen (k : KeyHandler) : Happening → Option KeyHandler
  | .uevent prefs event => k.onUEvent prefs event
  | .input i => some (k.step i)

def live (k : KeyHandler) (hs : List Happening) : Option KeyHandler := hs.foldlM happen k

/-! ### Moves -/

/-- What the moves of the slider have led to; the last broadcast and vibration come first. -/
structure Outcome where
  zenMode : Int
  ringerMode : Int
  notifications : List (Int × Int)
  vibrations : List Vibration

def IsZen (mode : Int) : Prop :=
  mode = ZEN_PRIORITY_ONLY ∨ mode = ZEN_TOTAL_SILENCE ∨ mode = ZEN_ALARMS_ONLY

def IsRinger (mode : Int) : Prop :=
  mode = RINGER_MODE_SILENT ∨ mode = RINGER_MODE_VIBRATE ∨ mode = RINGER_MODE_NORMAL

instance (mode : Int) : Decidable (IsZen mode) := inferInstanceAs (Decidable (_ ∨ _))

instance (mode : Int) : Decidable (IsRinger mode) := inferInstanceAs (Decidable (_ ∨ _))

def vibrationOf (mode : Int) : Option Vibration :=
  if mode = RINGER_MODE_VIBRATE then some .modeVibration
  else if mode = RINGER_MODE_NORMAL then some .modeNormal
  else none

namespace Outcome

/-- The mode of the move is announced and felt. -/
def announce (o : Outcome) (t : Task) : Outcome :=
  { o with
    notifications := (if t.showDialog then [(t.position, t.mode)] else []) ++ o.notifications
    vibrations := (vibrationOf t.mode).toList ++ o.vibrations }

/-- Do not disturb goes with the ring tone on, and every ringer mode with do not disturb off. -/
def setMode (o : Outcome) (mode : Int) : Outcome :=
  if IsRinger mode then { o with zenMode := ZEN_MODE_OFF, ringerMode := mode }
  else if IsZen mode then
    { o with zenMode := mode - ZEN_OFFSET, ringerMode := RINGER_MODE_NORMAL }
  else o

def move (o : Outcome) (t : Task) : Outcome := (o.setMode t.mode).announce t

end Outcome

variable {k : KeyHandler} {t : Task}

def outcome (k : KeyHandler) : Outcome :=
  ⟨k.zenMode, k.ringerMode, k.notifications, k.vibrations⟩

/-- The outcome once the executor has caught up. -/
def outlook (k : KeyHandler) : Outcome :=
  k.tasks.foldl Outcome.move <|
    match k.running with
    | some (.muting t) => k.outcome.announce t
    | some (.unmuting t) => k.outcome.announce t
    | none => k.outcome

theorem outcome_finish (t : Task) (k : KeyHandler) :
    (k.finish t).outcome = k.outcome.announce t := by
  simp only [finish, vibrateIfNeeded, outcome, Outcome.announce, vibrationOf]
  cases t.showDialog <;> split_ifs <;> rfl

theorem tasks_finish (t : Task) (k : KeyHandler) : (k.finish t).tasks = k.tasks := by
  simp only [finish, vibrateIfNeeded]
  cases t.showDialog <;> split_ifs <;> rfl

theorem running_finish (t : Task) (k : KeyHandler) : (k.finish t).running = none := by
  simp only [finish, vibrateIfNeeded]
  cases t.showDialog <;> split_ifs <;> rfl

theorem outlook_finish (t : Task) (k : KeyHandler) :
    (k.finish t).outlook = k.tasks.foldl Outcome.move (k.outcome.announce t) := by
  rw [outlook, tasks_finish, running_finish, outcome_finish]

theorem outlook_unmuteIfMuted (t : Task) (k : KeyHandler) :
    (k.unmuteIfMuted t).outlook = k.tasks.foldl Outcome.move (k.outcome.announce t) := by
  rw [unmuteIfMuted]
  split
  · rfl
  · exact outlook_finish t k

theorem adjustMute_apart (owner : Owner) (k : KeyHandler) :
    (k.adjustMute owner).tasks = k.tasks ∧ (k.adjustMute owner).running = k.running ∧
      (k.adjustMute owner).outcome = k.outcome := by
  rw [adjustMute]
  split <;> exact ⟨rfl, rfl, rfl⟩

theorem adjustUnmute_apart (k : KeyHandler) :
    k.adjustUnmute.tasks = k.tasks ∧ k.adjustUnmute.running = k.running ∧
      k.adjustUnmute.outcome = k.outcome := by
  rw [adjustUnmute]
  split <;> exact ⟨rfl, rfl, rfl⟩

theorem outlook_congr {k' : KeyHandler} (h : k'.tasks = k.tasks ∧ k'.running = k.running ∧
    k'.outcome = k.outcome) : k'.outlook = k.outlook := by
  rw [outlook, outlook, h.1, h.2.1, h.2.2]

theorem Outcome.setMode_of_isRinger {mode : Int} (h : IsRinger mode) (o : Outcome) :
    o.setMode mode = { o with zenMode := ZEN_MODE_OFF, ringerMode := mode } := if_pos h

theorem Outcome.setMode_of_isZen {mode : Int} (hringer : ¬IsRinger mode) (h : IsZen mode)
    (o : Outcome) :
    o.setMode mode =
      { o with zenMode := mode - ZEN_OFFSET, ringerMode := RINGER_MODE_NORMAL } := by
  rw [setMode, if_neg hringer, if_pos h]

theorem Outcome.setMode_of_not {mode : Int} (hringer : ¬IsRinger mode) (h : ¬IsZen mode)
    (o : Outcome) : o.setMode mode = o := by
  rw [setMode, if_neg hringer, if_neg h]

/-- A task that mutes media. -/
theorem outlook_muting (t : Task) (k : KeyHandler) :
    KeyHandler.outlook { k.adjustMute .slider with running := some (.muting t) } =
      k.tasks.foldl Outcome.move (k.outcome.announce t) := by
  obtain ⟨htasks, -, houtcome⟩ := adjustMute_apart .slider k
  show (k.adjustMute .slider).tasks.foldl Outcome.move
    ((k.adjustMute .slider).outcome.announce t) = _
  rw [htasks, houtcome]

/-- A task begins. -/
theorem outlook_start (t : Task) (k : KeyHandler) :
    (k.start t).outlook = k.tasks.foldl Outcome.move (k.outcome.move t) := by
  rw [start, Outcome.move]
  by_cases hsilent : t.mode = RINGER_MODE_SILENT
  · rw [if_pos hsilent, Outcome.setMode_of_isRinger (Or.inl hsilent)]
    dsimp only
    split
    · exact outlook_muting t _
    · exact outlook_finish t _
  by_cases hringer : t.mode = RINGER_MODE_VIBRATE ∨ t.mode = RINGER_MODE_NORMAL
  · rw [if_neg hsilent, if_pos hringer, Outcome.setMode_of_isRinger (Or.inr hringer)]
    exact outlook_unmuteIfMuted t _
  have hnone : ¬IsRinger t.mode := not_or.mpr ⟨hsilent, hringer⟩
  rw [if_neg hsilent, if_neg hringer]
  split
  case isTrue hzen =>
    rw [Outcome.setMode_of_isZen hnone hzen]
    exact outlook_unmuteIfMuted t _
  case isFalse hzen =>
    rw [Outcome.setMode_of_not hnone hzen]
    exact outlook_finish t k

theorem outlook_execute (k : KeyHandler) : k.execute.outlook = k.outlook := by
  rw [execute]
  split
  · rename_i t hrunning
    rw [outlook_finish, outlook, hrunning]
    rfl
  · rename_i t hrunning
    obtain ⟨htasks, -, houtcome⟩ := adjustUnmute_apart k
    rw [outlook_finish, outlook, hrunning, htasks, houtcome]
  · rename_i hrunning
    split
    · rfl
    · rename_i t rest htasks
      rw [outlook_start, outlook, hrunning, htasks, List.foldl_cons]
      rfl

/-- What a position submits. -/
def taskOf (prefs : Preferences) (position : Int) : Option Task :=
  (modeOf prefs position).map fun mode => ⟨position, mode, prefs.muteMedia, prefs.showDialog⟩

theorem outlook_handleMode (prefs : Preferences) (position : Int) (k : KeyHandler) :
    (k.handleMode prefs position).outlook =
      (taskOf prefs position).toList.foldl Outcome.move k.outlook := by
  rw [handleMode, taskOf]
  split
  · rename_i hmode
    rw [hmode]
    rfl
  · rename_i mode hmode
    rw [hmode, outlook]
    exact List.foldl_append

/-- The moves that an event of the kernel, or a position, asks for. -/
def moves : Happening → List Task
  | .uevent prefs event => (event.position.join.bind (taskOf prefs)).toList
  | .input (.sliderMoved prefs position) => (taskOf prefs position).toList
  | .input _ => []

theorem outlook_step (i : Input) (k : KeyHandler) :
    (k.step i).outlook = (moves (.input i)).foldl Outcome.move k.outlook := by
  cases i with
  | sliderMoved prefs position => exact outlook_handleMode prefs position k
  | execute => exact outlook_execute k
  | userMute => exact outlook_congr (adjustMute_apart .user k)
  | userUnmute => exact outlook_congr (adjustUnmute_apart k)
  | deliver =>
      rw [step]
      split
      · rfl
      · rw [onReceive]
        split <;> rfl
  | deliverOther streamType muted _ =>
      rw [step, onReceive]
      split <;> rfl

theorem outlook_happen {k' : KeyHandler} {h : Happening} (hk : k.happen h = some k') :
    k'.outlook = (moves h).foldl Outcome.move k.outlook := by
  cases h with
  | input i =>
      cases hk
      exact outlook_step i k
  | uevent prefs event =>
      obtain ⟨position, hposition, rfl⟩ := Option.map_eq_some_iff.mp hk
      rw [moves, hposition]
      cases position with
      | none => rfl
      | some position => exact outlook_handleMode prefs position k

theorem outlook_live {k' : KeyHandler} {hs : List Happening} (hk : k.live hs = some k') :
    k'.outlook = (hs.flatMap moves).foldl Outcome.move k.outlook := by
  induction hs generalizing k with
  | nil =>
      cases hk
      rfl
  | cons h hs ih =>
      obtain ⟨k₁, hstep, hrest⟩ := Option.bind_eq_some_iff.mp hk
      rw [ih hrest, outlook_happen hstep, List.flatMap_cons, List.foldl_append]

/-- Once the executor has caught up, the modes are those of the last move that the kernel has asked
for, and each move has been announced and felt once, in order, whatever the user and the broadcasts
about muted streams did meanwhile. -/
theorem outcome_of_idle (userMuted : Bool) {hs : List Happening}
    (hk : (onCreate userMuted).live hs = some k) (htasks : k.tasks = [])
    (hidle : k.running = none) :
    k.outcome =
      (hs.flatMap moves).foldl Outcome.move ⟨ZEN_MODE_OFF, RINGER_MODE_NORMAL, [], []⟩ := by
  have houtlook := outlook_live hk
  rw [outlook, htasks, hidle] at houtlook
  exact houtlook

/-- The slider is moved to the top, where do not disturb is, and back to the middle. -/
def upAndBack : List Happening :=
  let event (value : Char) : UEvent :=
    ⟨fun key => if key = "SWITCH_STATE" then some [value] else none⟩
  let prefs : Preferences := ⟨true, true, ZEN_PRIORITY_ONLY, RINGER_MODE_VIBRATE, 2⟩
  [.uevent prefs (event '1'), .uevent prefs (event '2'), .input .execute, .input .userMute,
    .input .execute]

theorem outcome_of_idle_upAndBack :
    ((onCreate false).live upAndBack).map outcome =
      some ⟨ZEN_MODE_OFF, RINGER_MODE_VIBRATE, [(2, 1), (1, 3)], [.modeVibration]⟩ := by
  have hk : ∃ k, (onCreate false).live upAndBack = some k ∧ k.tasks = [] ∧ k.running = none :=
    ⟨_, rfl, rfl, rfl⟩
  obtain ⟨k, hk, htasks, hidle⟩ := hk
  rw [hk, Option.map_some, outcome_of_idle false hk htasks hidle]
  rfl

end KeyHandler

end OneplusHal.AlertSlider
