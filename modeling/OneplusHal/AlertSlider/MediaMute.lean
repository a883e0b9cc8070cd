import OneplusHal.AlertSlider.KeyHandler
import OneplusHal.Lib.Machine

/-!
Who may unmute media.

A move to a mode that is not silent goes by the flag `wasMuted`. The flag is right as long
as it is set exactly with the mutes of the slider. It goes wrong in three ways: a move to
silent sets it over a mute of the user; a late broadcast about an unmute clears it under a
mute of the slider; and the user mutes while it is still set, or after it has been read.
In a run without these, every move unmutes the mutes of the slider and no other.
-/

namespace OneplusHal.AlertSlider

open OneplusHal

namespace KeyHandler

variable {k : KeyHandler}

/-- The modes other than silent. -/
def NonSilent (mode : Int) : Prop :=
  (mode = RINGER_MODE_VIBRATE ∨ mode = RINGER_MODE_NORMAL) ∨
    mode = ZEN_PRIORITY_ONLY ∨ mode = ZEN_TOTAL_SILENCE ∨ mode = ZEN_ALARMS_ONLY

/-- The next step of the executor decides a move to a mode that is not silent: it unmutes
media, or it has read that the flag is not set. -/
def Decides (k : KeyHandler) : Prop :=
  match k.running with
  | some (.muting _) => False
  | some (.unmuting _) => True
  | none =>
      match k.tasks with
      | [] => False
      | t :: _ => NonSilent t.mode ∧ (t.muteMedia && k.wasMuted) = false

/-- A step that decides a move unmutes media exactly if the slider has put the mute in
force. -/
def MoveRight (k : KeyHandler) (i : Input) : Prop :=
  i = .execute → k.Decides →
    ((k.mute ≠ none ∧ (k.step i).mute = none) ↔ k.mute = some .slider)

/-- The slider does not set the flag over a mute of the user, no broadcast about an unmute
comes while a mute of the slider is in force, and the user does not mute while the flag of
an earlier mute is still set or has been read. -/
def FlagSafe (k : KeyHandler) : Input → Prop
  | .execute => ∀ t, k.running = some (.muting t) → k.mute ≠ some .user
  | .deliver => k.running = none → k.broadcasts.head? = some false → k.mute ≠ some .slider
  | .userMute => k.mute = none →
      (k.running = none → k.wasMuted = false) ∧ ∀ t, k.running ≠ some (.unmuting t)
  | .userUnmute => True
  | .sliderMoved _ _ => True
  | .deliverOther _ _ _ => True

/-- The preference is on. -/
def MuteMediaOn : Input → Prop
  | .sliderMoved prefs _ => prefs.muteMedia = true
  | .execute => True
  | .userMute => True
  | .userUnmute => True
  | .deliver => True
  | .deliverOther _ _ _ => True

/-- The flag describes the mute in force. -/
structure Truthful (k : KeyHandler) : Prop where
  media : ∀ t ∈ k.tasks, t.muteMedia = true
  set_of_slider : k.running = none → k.mute = some .slider → k.wasMuted = true
  unset_of_user : k.running = none → k.wasMuted = true → k.mute ≠ some .user
  unmuting : ∀ t, k.running = some (.unmuting t) → k.mute ≠ some .user

/-! ### What the parts of a task do to the media stream -/

theorem vibrateIfNeeded_frame (mode : Int) :
    (k.vibrateIfNeeded mode).mute = k.mute ∧ (k.vibrateIfNeeded mode).wasMuted = k.wasMuted ∧
      (k.vibrateIfNeeded mode).tasks = k.tasks ∧
      (k.vibrateIfNeeded mode).running = k.running := by
  unfold vibrateIfNeeded
  split
  · exact ⟨rfl, rfl, rfl, rfl⟩
  split <;> exact ⟨rfl, rfl, rfl, rfl⟩

/-- The end of a task leaves the media stream and the flag alone. -/
theorem finish_frame (t : Task) :
    (k.finish t).mute = k.mute ∧ (k.finish t).wasMuted = k.wasMuted ∧
      (k.finish t).tasks = k.tasks ∧ (k.finish t).running = none := by
  unfold finish
  dsimp only
  split <;> exact vibrateIfNeeded_frame t.mode

theorem Truthful.finish (t : Task) (media : ∀ t ∈ k.tasks, t.muteMedia = true)
    (hset : k.mute = some .slider → k.wasMuted = true)
    (hunset : k.wasMuted = true → k.mute ≠ some .user) : (k.finish t).Truthful := by
  obtain ⟨hmute, hflag, htasks, hrunning⟩ := k.finish_frame t
  constructor
  · rwa [htasks]
  · rwa [hmute, hflag, imp_iff_right hrunning]
  · rwa [hmute, hflag, imp_iff_right hrunning]
  · intro t' ht'
    rw [hrunning] at ht'
    cases ht'

/-- A task that is about to begin. -/
structure Ready (k : KeyHandler) : Prop where
  media : ∀ t ∈ k.tasks, t.muteMedia = true
  set_of_slider : k.mute = some .slider → k.wasMuted = true
  unset_of_user : k.wasMuted = true → k.mute ≠ some .user

theorem Ready.unmuteIfMuted (h : k.Ready) (t : Task) : (k.unmuteIfMuted t).Truthful := by
  unfold KeyHandler.unmuteIfMuted
  split
  case isTrue hflag =>
    rw [Bool.and_eq_true] at hflag
    exact ⟨h.media, fun hnone => absurd hnone (Option.some_ne_none _),
      fun hnone => absurd hnone (Option.some_ne_none _), fun _ _ => h.unset_of_user hflag.2⟩
  case isFalse => exact .finish t h.media h.set_of_slider h.unset_of_user

theorem adjustMute_tasks (owner : Owner) : (k.adjustMute owner).tasks = k.tasks := by
  unfold adjustMute
  split <;> rfl

theorem Ready.setZenMode (h : k.Ready) (zenMode : Int) : (k.setZenMode zenMode).Ready :=
  ⟨h.media, h.set_of_slider, h.unset_of_user⟩

theorem Ready.setRingerMode (h : k.Ready) (mode : Int) : (k.setRingerMode mode).Ready :=
  ⟨h.media, h.set_of_slider, h.unset_of_user⟩

/-- The first step of a move to silent. -/
theorem Ready.muting (h : k.Ready) (t : Task) :
    Truthful { k.adjustMute .slider with running := some (.muting t) } where
  media := (k.adjustMute_tasks .slider).symm ▸ h.media
  set_of_slider := fun hnone => absurd hnone (Option.some_ne_none _)
  unset_of_user := fun hnone => absurd hnone (Option.some_ne_none _)
  unmuting := fun _ ht => nomatch ht

theorem Ready.start (h : k.Ready) {t : Task} (ht : t.muteMedia = true) :
    (k.start t).Truthful := by
  unfold KeyHandler.start
  by_cases hsilent : t.mode = RINGER_MODE_SILENT
  · rw [if_pos hsilent]
    dsimp only
    rw [if_pos ht]
    exact ((h.setZenMode _).setRingerMode _).muting t
  rw [if_neg hsilent]
  split
  · exact ((h.setZenMode _).setRingerMode _).unmuteIfMuted t
  split
  · exact ((h.setRingerMode _).setZenMode _).unmuteIfMuted t
  · exact .finish t h.media h.set_of_slider h.unset_of_user

theorem unmuteIfMuted_mute (t : Task) : (k.unmuteIfMuted t).mute = k.mute := by
  unfold unmuteIfMuted
  split
  · rfl
  · exact (k.finish_frame t).1

theorem NonSilent.ne_silent {mode : Int} (h : NonSilent mode) : mode ≠ RINGER_MODE_SILENT := by
  rintro rfl
  revert h
  unfold NonSilent
  decide

/-- A move to a mode that is not silent begins with a look at the flag alone. -/
theorem start_mute {t : Task} (h : NonSilent t.mode) : (k.start t).mute = k.mute := by
  unfold start
  rw [if_neg h.ne_silent]
  obtain hringer | hzen := h
  · rw [if_pos hringer]
    exact unmuteIfMuted_mute t
  · split
    · exact unmuteIfMuted_mute t
    · exact unmuteIfMuted_mute t

theorem adjustUnmute_mute : k.adjustUnmute.mute = none := by
  unfold adjustUnmute
  split
  · rfl
  case isFalse hnone => exact not_not.mp hnone

theorem adjustUnmute_frame :
    k.adjustUnmute.wasMuted = k.wasMuted ∧ k.adjustUnmute.tasks = k.tasks ∧
      k.adjustUnmute.running = k.running := by
  unfold adjustUnmute
  split <;> exact ⟨rfl, rfl, rfl⟩

/-! ### The steps -/

theorem Truthful.execute (h : k.Truthful) (hs : k.FlagSafe .execute) : k.execute.Truthful := by
  unfold KeyHandler.execute
  cases hrunning : k.running with
  | some r =>
      cases r with
      | muting t => exact .finish t h.media (fun _ => rfl) fun _ => hs t hrunning
      | unmuting t =>
          obtain ⟨-, htasks, -⟩ := k.adjustUnmute_frame
          have hmute := k.adjustUnmute_mute
          refine .finish t (htasks ▸ h.media) (fun hslider => ?_) fun _ huser => ?_
          · rw [hmute] at hslider
            cases hslider
          · rw [hmute] at huser
            cases huser
  | none =>
      dsimp only
      cases htasks : k.tasks with
      | nil => exact h
      | cons t rest =>
          have hmedia := h.media
          rw [htasks] at hmedia
          refine Ready.start ⟨fun t' ht' => hmedia t' (List.mem_cons_of_mem _ ht'), ?_, ?_⟩
            (hmedia t List.mem_cons_self)
          · exact h.set_of_slider hrunning
          · exact h.unset_of_user hrunning

theorem Truthful.userMute (h : k.Truthful) (hs : k.FlagSafe .userMute) :
    (k.adjustMute .user).Truthful := by
  unfold adjustMute
  split
  case isFalse => exact h
  case isTrue hnone =>
    obtain ⟨hunset, hunread⟩ := hs hnone
    refine ⟨h.media, fun _ hslider => ?_, fun hrunning hset => ?_, fun t ht => ?_⟩
    · cases hslider
    · exact absurd ((hunset hrunning).symm.trans hset) Bool.false_ne_true
    · exact absurd ht (hunread t)

theorem Truthful.userUnmute (h : k.Truthful) : k.adjustUnmute.Truthful := by
  obtain ⟨hflag, htasks, hrunning⟩ := k.adjustUnmute_frame
  have hmute := k.adjustUnmute_mute
  refine ⟨htasks ▸ h.media, fun _ hslider => ?_, fun _ _ huser => ?_, fun _ _ huser => ?_⟩
  all_goals rw [hmute] at *
  · cases hslider
  · cases huser
  · cases huser

/-- A broadcast that clears the flag comes while the executor is in a task, or while no
mute of the slider is in force. -/
theorem Truthful.clear (h : k.Truthful) (hs : k.running = none → k.mute ≠ some .slider) :
    Truthful { k with wasMuted := false } where
  media := h.media
  set_of_slider := fun hrunning hslider => absurd hslider (hs hrunning)
  unset_of_user := fun _ hset => absurd hset Bool.false_ne_true
  unmuting := h.unmuting

theorem Truthful.step (h : k.Truthful) (i : Input) (hmedia : MuteMediaOn i)
    (hs : k.FlagSafe i) : (k.step i).Truthful := by
  cases i with
  | sliderMoved prefs position =>
      show (k.handleMode prefs position).Truthful
      unfold handleMode
      cases modeOf prefs position with
      | none => exact h
      | some mode =>
          refine ⟨fun t ht => ?_, h.set_of_slider, h.unset_of_user, h.unmuting⟩
          obtain ht | ht := List.mem_append.mp ht
          · exact h.media t ht
          · rw [List.mem_singleton.mp ht]
            exact hmedia
  | execute => exact h.execute hs
  | userMute => exact h.userMute hs
  | userUnmute => exact h.userUnmute
  | deliver =>
      unfold KeyHandler.step
      dsimp only
      cases hbroadcasts : k.broadcasts with
      | nil => exact h
      | cons muted rest =>
          have hrest : Truthful { k with broadcasts := rest } :=
            ⟨h.media, h.set_of_slider, h.unset_of_user, h.unmuting⟩
          dsimp only
          unfold onReceive
          split
          case isFalse => exact hrest
          case isTrue hclears =>
            refine hrest.clear fun hrunning => hs hrunning ?_
            rw [hbroadcasts]
            exact congrArg some hclears.2
  | deliverOther streamType muted hother =>
      show (k.onReceive (some streamType) (some muted)).Truthful
      unfold onReceive
      rw [if_neg fun hclears => hother hclears.1]
      exact h

/-- What a move decides by a flag that is right, is right. -/
theorem Truthful.moveRight (h : k.Truthful) (i : Input) : k.MoveRight i := by
  rintro rfl hdecides
  unfold Decides at hdecides
  show (k.mute ≠ none ∧ k.execute.mute = none) ↔ k.mute = some .slider
  unfold KeyHandler.execute
  cases hrunning : k.running with
  | some r =>
      cases r with
      | muting t => rw [hrunning] at hdecides; exact hdecides.elim
      | unmuting t =>
          dsimp only
          rw [(k.adjustUnmute.finish_frame t).1, adjustUnmute_mute]
          -- The mute in force, if there is one, is not the user's.
          cases hmute : k.mute with
          | none => simp
          | some owner =>
              cases owner with
              | slider => simp
              | user => exact absurd hmute (h.unmuting t hrunning)
  | none =>
      rw [hrunning] at hdecides
      dsimp only at hdecides ⊢
      cases htasks : k.tasks with
      | nil => rw [htasks] at hdecides; exact hdecides.elim
      | cons t rest =>
          rw [htasks] at hdecides
          obtain ⟨hmode, hunset⟩ := hdecides
          have ht : t.muteMedia = true := h.media t (htasks ▸ List.mem_cons_self)
          dsimp only
          rw [start_mute hmode]
          refine iff_of_false (fun hmute => hmute.1 hmute.2) fun hslider => ?_
          rw [ht, h.set_of_slider hrunning hslider] at hunset
          cases hunset

theorem truthful_onCreate (userMuted : Bool) : (onCreate userMuted).Truthful where
  media := fun _ ht => absurd ht List.not_mem_nil
  set_of_slider := fun _ hslider => by cases userMuted <;> cases hslider
  unset_of_user := fun _ hset => absurd hset Bool.false_ne_true
  unmuting := fun _ ht => nomatch ht

/-- In a run in which nothing falsifies the flag, every move to a mode that is not silent
unmutes media exactly if the slider has put the mute in force. -/
theorem moves_right (userMuted : Bool) (is : List Input) (hmedia : ∀ i ∈ is, MuteMediaOn i)
    (hs : Machine.Along step FlagSafe (onCreate userMuted) is) :
    Machine.Along step MoveRight (onCreate userMuted) is :=
  Machine.Along.of_invariant (I := Truthful)
    (fun _ i h hG => ⟨h.moveRight i, h.step i hG.1 hG.2⟩) (truthful_onCreate userMuted)
    ((Machine.along_of_forall_mem hmedia _).and hs)

/-- A user mutes media, and the slider goes to silent and back: the mute of the user is
undone. The slider goes to silent twice, with an unmute by the user in between, whose
broadcast comes late: the mute of the slider stays. -/
theorem moves_wrong :
    let prefs : Preferences := ⟨true, true, 0, 1, 2⟩
    let silent : Input := .sliderMoved prefs POSITION_TOP
    let normal : Input := .sliderMoved prefs POSITION_BOTTOM
    let k := Machine.run step (onCreate false)
      [.userMute, silent, .execute, .execute, normal, .execute]
    let k' := Machine.run step (onCreate false)
      [silent, .execute, .execute, .userUnmute, silent, .execute, .execute, .deliver, .deliver,
        normal]
    (k.mute = some .user ∧ (k.step .execute).mute = none ∧ ¬k.MoveRight .execute) ∧
      k'.mute = some .slider ∧ (k'.step .execute).mute = some .slider ∧
        (k'.step .execute).running = none ∧ ¬k'.MoveRight .execute := by
  refine ⟨⟨rfl, rfl, fun h => ?_⟩, rfl, rfl, rfl, fun h => ?_⟩
  · exact absurd ((h rfl trivial).mp ⟨Option.some_ne_none _, rfl⟩) (by decide)
  · exact absurd ((h rfl ⟨.inl (.inr rfl), rfl⟩).mpr rfl).2 (by decide)

/-- The slider mutes media, goes back, and the broadcasts come in time; then a mute of the
user stays through a move to vibrate. -/
theorem moves_right_in_turn :
    let prefs : Preferences := ⟨true, false, 0, 1, 2⟩
    Machine.Along step MoveRight (onCreate false)
      [.sliderMoved prefs POSITION_TOP, .execute, .execute, .deliver,
        .sliderMoved prefs POSITION_BOTTOM, .execute, .execute, .deliver, .userMute,
        .sliderMoved prefs POSITION_MIDDLE, .execute] := by
  refine moves_right false _ (by simp [MuteMediaOn])
    ⟨trivial, ?_, ?_, ?_, trivial, ?_, ?_, ?_, ?_, trivial, ?_, trivial⟩
  · exact fun _ ht => nomatch ht
  · exact fun _ _ huser => nomatch huser
  · exact fun _ hhead => nomatch hhead
  · exact fun _ ht => nomatch ht
  · exact fun _ ht => nomatch ht
  · exact fun _ _ hslider => nomatch hslider
  · exact fun _ => ⟨fun _ => rfl, fun _ ht => nomatch ht⟩
  · exact fun _ ht => nomatch ht

end KeyHandler

end OneplusHal.AlertSlider
