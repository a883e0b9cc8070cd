import OneplusHal.Lib.Machine
import OneplusHal.Vibrator.InputFFDevice

/-!
The effects that a force-feedback device leaves in the kernel.

As long as every removal of an effect succeeds, the kernel holds the effect `mCurrAppId`
and no other. A removal that fails goes to the label that forgets the id, whatever became
of the effect, so that nothing removes it any more. That is the only way to lose one.
-/

namespace OneplusHal.Vibrator

open OneplusHal

namespace InputFFDevice

variable {d : InputFFDevice}

/-- The effects uploaded are among the one that the device remembers. -/
def Contained (d : InputFFDevice) : Prop :=
  ∀ e ∈ d.uploaded, d.mCurrAppId ≠ INVALID_VALUE ∧ e.id = d.mCurrAppId

/-- The effects uploaded are the one that the device remembers. -/
structure Tracked (d : InputFFDevice) : Prop where
  ids : d.uploaded.map FfEffect.id = if d.mCurrAppId = INVALID_VALUE then [] else [d.mCurrAppId]
  absent : d.mVibraFd = INVALID_VALUE → d.mCurrAppId = INVALID_VALUE

/-- The removals that a `play` issues succeed. -/
structure RemovalsSucceed (d : InputFFDevice) (timeoutMs : UInt32) (io : PlayIO) : Prop where
  previous : d.mCurrAppId ≠ INVALID_VALUE → io.remove = true
  unstarted : d.mVibraFd ≠ INVALID_VALUE → timeoutMs ≠ 0 → io.upload.isSome → io.start = false →
    io.removeUnstarted = true

/-! ### The state of one effect -/

theorem Tracked.of_vacant (hu : d.uploaded = []) (hid : d.mCurrAppId = INVALID_VALUE) :
    d.Tracked where
  ids := by rw [hu, if_pos hid, List.map_nil]
  absent := fun _ => hid

theorem Tracked.uploaded_eq_nil (h : d.Tracked) (hid : d.mCurrAppId = INVALID_VALUE) :
    d.uploaded = [] := by
  have hids := h.ids
  rw [if_pos hid] at hids
  exact List.map_eq_nil_iff.mp hids

theorem Tracked.id_of_mem (h : d.Tracked) {e : FfEffect} (he : e ∈ d.uploaded) :
    e.id = d.mCurrAppId := by
  have hmem : e.id ∈ d.uploaded.map FfEffect.id := List.mem_map_of_mem he
  rw [h.ids] at hmem
  split at hmem
  · simp at hmem
  · exact List.mem_singleton.mp hmem

theorem Tracked.contained (h : d.Tracked) : d.Contained := by
  intro e he
  refine ⟨fun hid => ?_, h.id_of_mem he⟩
  rw [h.uploaded_eq_nil hid] at he
  exact List.not_mem_nil he

/-- A device that remembers an effect has it in the kernel. -/
theorem Tracked.uploaded_ne_nil (h : d.Tracked) (hid : d.mCurrAppId ≠ INVALID_VALUE) :
    d.uploaded ≠ [] := by
  intro hu
  have hids := h.ids
  rw [hu, if_neg hid] at hids
  simp at hids

theorem Tracked.eviocrmff_uploaded (h : d.Tracked) : d.eviocrmff.uploaded = [] := by
  refine List.filter_eq_nil_iff.mpr fun e he => ?_
  simp [h.id_of_mem he]

/-- Where nothing is remembered, what is uploaded is lost. -/
theorem not_contained (hid : d.mCurrAppId = INVALID_VALUE) (hu : d.uploaded ≠ []) :
    ¬d.Contained := by
  obtain ⟨e, he⟩ := List.exists_mem_of_ne_nil _ hu
  exact fun h => (h e he).1 hid

theorem Upload.id_ne_invalid (u : Upload) : u.id ≠ INVALID_VALUE := by
  intro hid
  have hnonneg := u.id_nonneg
  rw [hid] at hnonneg
  exact absurd hnonneg (by decide)

/-! ### One call -/

/-- Everything a `play` of a present device can leave behind. -/
inductive Played (d : InputFFDevice) (timeoutMs : UInt32) (io : PlayIO) :
    PlayResult → InputFFDevice → Prop
  | removeFailed (r : PlayResult) (d' : InputFFDevice) (hid : d.mCurrAppId ≠ INVALID_VALUE)
      (hremove : io.remove = false) (hu : d'.uploaded = d.uploaded)
      (hid' : d'.mCurrAppId = INVALID_VALUE) (hret : r.ret = -1) : Played d timeoutMs io r d'
  | vacated (r : PlayResult) (d' : InputFFDevice)
      (hremove : d.mCurrAppId ≠ INVALID_VALUE → io.remove = true)
      (hstart : timeoutMs ≠ 0 → io.upload.isSome → io.start = false → io.removeUnstarted = true)
      (hu : d'.uploaded = []) (hid' : d'.mCurrAppId = INVALID_VALUE) : Played d timeoutMs io r d'
  | started (r : PlayResult) (d' : InputFFDevice)
      (hremove : d.mCurrAppId ≠ INVALID_VALUE → io.remove = true) (htimeout : timeoutMs ≠ 0)
      (hstart : io.start = true) (hid' : d'.mCurrAppId ≠ INVALID_VALUE)
      (hfd : d'.mVibraFd = d.mVibraFd)
      (hu : d'.uploaded.map FfEffect.id = [d'.mCurrAppId]) : Played d timeoutMs io r d'
  | unstartedLeft (r : PlayResult) (d' : InputFFDevice) (htimeout : timeoutMs ≠ 0)
      (hupload : io.upload.isSome) (hstart : io.start = false)
      (hleft : io.removeUnstarted = false) (hu : d'.uploaded ≠ [])
      (hid' : d'.mCurrAppId = INVALID_VALUE) : Played d timeoutMs io r d'

theorem played_startEffect {timeoutMs : UInt32} {io : PlayIO} {d₁ : InputFFDevice}
    (hremove : d.mCurrAppId ≠ INVALID_VALUE → io.remove = true) (htimeout : timeoutMs ≠ 0)
    (hupload : io.upload.isSome) (hid : d₁.mCurrAppId ≠ INVALID_VALUE)
    (hfd : d₁.mVibraFd = d.mVibraFd) (hu : d₁.uploaded.map FfEffect.id = [d₁.mCurrAppId])
    (len : Option Int) :
    Played d timeoutMs io (d₁.startEffect len io).1 (d₁.startEffect len io).2 := by
  have htracked : d₁.uploaded.map FfEffect.id =
      if d₁.mCurrAppId = INVALID_VALUE then [] else [d₁.mCurrAppId] := by
    rw [if_neg hid, hu]
  unfold startEffect
  split
  case isTrue hstart => exact .started _ _ hremove htimeout hstart hid hfd hu
  case isFalse hstart =>
    have hstart : io.start = false := Bool.eq_false_iff.mpr hstart
    split
    case isTrue hgone =>
      refine .vacated _ _ hremove (fun _ _ _ => hgone) ?_ rfl
      refine List.filter_eq_nil_iff.mpr fun e he => ?_
      have hmem : e.id ∈ d₁.uploaded.map FfEffect.id := List.mem_map_of_mem he
      rw [hu] at hmem
      simpa using hmem
    case isFalse hleft =>
      refine .unstartedLeft _ _ htimeout hupload hstart (Bool.eq_false_iff.mpr hleft) ?_ rfl
      intro hnil
      replace hnil : d₁.uploaded = [] := hnil
      rw [hnil] at hu
      simp at hu

theorem play_absent (hfd : d.mVibraFd = INVALID_VALUE) (effectId : Int32) (timeoutMs : UInt32)
    (io : PlayIO) : d.play effectId timeoutMs io = (⟨0, some 0⟩, d) := if_pos hfd

theorem Tracked.removePrevious (h : d.Tracked) :
    d.removePrevious.uploaded = [] ∧ d.removePrevious.mCurrAppId = INVALID_VALUE := by
  unfold InputFFDevice.removePrevious
  split
  case isTrue => exact ⟨h.eviocrmff_uploaded, rfl⟩
  case isFalse hid => exact ⟨h.uploaded_eq_nil (not_not.mp hid), not_not.mp hid⟩

theorem removePrevious_mVibraFd : d.removePrevious.mVibraFd = d.mVibraFd := by
  unfold removePrevious
  split <;> rfl

theorem Tracked.played (h : d.Tracked) (hfd : d.mVibraFd ≠ INVALID_VALUE) (effectId : Int32)
    (timeoutMs : UInt32) (io : PlayIO) :
    Played d timeoutMs io (d.play effectId timeoutMs io).1 (d.play effectId timeoutMs io).2 := by
  obtain ⟨hu, hid⟩ := h.removePrevious
  have hfd' := d.removePrevious_mVibraFd
  unfold InputFFDevice.play
  rw [if_neg hfd]
  by_cases htimeout : timeoutMs ≠ 0
  · rw [if_pos htimeout]
    by_cases hfail : d.mCurrAppId ≠ INVALID_VALUE ∧ io.remove = false
    · rw [if_pos hfail]
      exact .removeFailed _ _ hfail.1 hfail.2 rfl rfl rfl
    · rw [if_neg hfail]
      have hremove : d.mCurrAppId ≠ INVALID_VALUE → io.remove = true :=
        fun hid => Bool.of_not_eq_false fun hremove => hfail ⟨hid, hremove⟩
      -- From here on the device is the one without its previous effect.
      generalize d.removePrevious = d₀ at hu hid hfd' ⊢
      cases hupload : io.upload with
      | none =>
          refine .vacated _ _ hremove (fun _ hsome => ?_) hu rfl
          rw [hupload] at hsome
          exact absurd hsome Bool.false_ne_true
      | some u =>
          have heffect : (d₀.effectOf effectId timeoutMs).id = INVALID_VALUE := by
            unfold effectOf
            split <;> exact hid
          refine played_startEffect hremove htimeout (Option.isSome_of_eq_some hupload) ?_ ?_ ?_ _
          all_goals simp only [eviocsff, if_pos heffect]
          · exact u.id_ne_invalid
          · exact hfd'
          · rw [hu]
            rfl
  · rw [if_neg htimeout]
    by_cases hid : d.mCurrAppId ≠ INVALID_VALUE
    · rw [if_pos hid]
      cases hremove : io.remove with
      | true =>
          exact .vacated _ _ (fun _ => hremove) (fun hne => absurd hne htimeout)
            h.eviocrmff_uploaded rfl
      | false => exact .removeFailed _ _ hid hremove rfl rfl rfl
    · rw [if_neg hid]
      refine .vacated _ _ (fun hne => absurd hne hid) (fun hne => absurd hne htimeout) ?_ ?_
      · exact h.uploaded_eq_nil (not_not.mp hid)
      · exact not_not.mp hid

/-- A call leaves nothing behind exactly if the removals it issues succeed. -/
theorem Tracked.play_contained_iff (h : d.Tracked) (effectId : Int32) (timeoutMs : UInt32)
    (io : PlayIO) :
    (d.play effectId timeoutMs io).2.Contained ↔ d.RemovalsSucceed timeoutMs io := by
  by_cases hfd : d.mVibraFd = INVALID_VALUE
  · rw [play_absent hfd]
    refine iff_of_true h.contained ⟨fun hid => absurd (h.absent hfd) hid, fun hne => ?_⟩
    exact absurd hfd hne
  cases h.played hfd effectId timeoutMs io with
  | removeFailed hid hremove hu hid' _ =>
      refine iff_of_false (not_contained hid' (hu ▸ h.uploaded_ne_nil hid)) fun hs => ?_
      exact Bool.false_ne_true (hremove.symm.trans (hs.previous hid))
  | vacated hremove hstart hu hid' =>
      exact iff_of_true (Tracked.of_vacant hu hid').contained ⟨hremove, fun _ => hstart⟩
  | started hremove _ hstart hid' _ hu =>
      refine iff_of_true (fun e he => ⟨hid', ?_⟩) ⟨hremove, fun _ _ _ hfail => ?_⟩
      · have hmem := List.mem_map_of_mem (f := FfEffect.id) he
        rw [hu] at hmem
        exact List.mem_singleton.mp hmem
      · exact absurd (hfail.symm.trans hstart) Bool.false_ne_true
  | unstartedLeft htimeout hupload hstart hleft hu hid' =>
      refine iff_of_false (not_contained hid' hu) fun hs => ?_
      exact Bool.false_ne_true (hleft.symm.trans (hs.unstarted hfd htimeout hupload hstart))

theorem Tracked.play (h : d.Tracked) (effectId : Int32) (timeoutMs : UInt32) (io : PlayIO)
    (hs : d.RemovalsSucceed timeoutMs io) : (d.play effectId timeoutMs io).2.Tracked := by
  by_cases hfd : d.mVibraFd = INVALID_VALUE
  · rw [play_absent hfd]
    exact h
  cases h.played hfd effectId timeoutMs io with
  | removeFailed hid hremove _ _ _ =>
      exact absurd (hremove.symm.trans (hs.previous hid)) Bool.false_ne_true
  | vacated _ _ hu hid' => exact .of_vacant hu hid'
  | started _ _ _ hid' hfd' hu =>
      exact ⟨by rw [hu, if_neg hid'], fun habsent => absurd (hfd' ▸ habsent) hfd⟩
  | unstartedLeft htimeout hupload hstart hleft _ _ =>
      exact absurd (hleft.symm.trans (hs.unstarted hfd htimeout hupload hstart))
        Bool.false_ne_true

/-- `off` that reports success has removed what was uploaded. -/
theorem Tracked.off_vacates (h : d.Tracked) (io : PlayIO) (hret : (d.off io).1.ret = 0) :
    (d.off io).2.uploaded = [] := by
  unfold off at hret ⊢
  by_cases hfd : d.mVibraFd = INVALID_VALUE
  · rw [play_absent hfd]
    exact h.uploaded_eq_nil (h.absent hfd)
  cases h.played hfd INVALID_VALUE 0 io with
  | removeFailed _ _ _ _ hfailed =>
      rw [hret] at hfailed
      exact absurd hfailed (by decide)
  | vacated _ _ hu _ => exact hu
  | started _ htimeout _ _ _ _ => exact absurd rfl htimeout
  | unstartedLeft htimeout _ _ _ _ _ => exact absurd rfl htimeout

/-! ### Every history of requests -/

/-- A request to the device, with the outcomes of the system calls it makes. -/
inductive Request
  | on (timeoutMs : Int32) (io : PlayIO)
  | off (io : PlayIO)
  | playEffect (effectId : Int32) (es : EffectStrength) (io : PlayIO)
  | setAmplitude (amplitude : UInt8) (success : Bool)

def perform (d : InputFFDevice) : Request → PlayResult × InputFFDevice
  | .on timeoutMs io => d.on timeoutMs io
  | .off io => d.off io
  | .playEffect effectId es io => d.playEffect effectId es io
  | .setAmplitude amplitude success => d.setAmplitude amplitude success

def step (d : InputFFDevice) (r : Request) : InputFFDevice := (d.perform r).2

/-- The removals that a request issues succeed. An effect of no known strength is not
played, and the gain removes nothing. -/
def RequestSafe (d : InputFFDevice) : Request → Prop
  | .on timeoutMs io => d.RemovalsSucceed timeoutMs.toUInt32 io
  | .off io => d.RemovalsSucceed 0 io
  | .playEffect _ es io =>
      magnitude es ≠ none → d.RemovalsSucceed (INVALID_VALUE : Int32).toUInt32 io
  | .setAmplitude _ _ => True

/-- After the request the kernel holds at most the effect remembered, and after an `off`
that reports success it holds none. -/
def UploadsKept (d : InputFFDevice) (r : Request) : Prop :=
  (d.step r).Contained ∧
    ∀ io, r = .off io → (d.perform r).1.ret = 0 → (d.step r).uploaded = []

theorem detect_frame (p : Probe) (nodes : List InputNode) :
    (detect p d nodes).mCurrAppId = d.mCurrAppId ∧ (detect p d nodes).uploaded = d.uploaded := by
  induction nodes with
  | nil => exact ⟨rfl, rfl⟩
  | cons node rest ih =>
      unfold detect
      split
      · exact ih
      split
      · exact ih
      cases node.ffBits with
      | none => exact ih
      | some bits =>
          dsimp only
          split
          · exact ⟨rfl, rfl⟩
          · exact ih

theorem tracked_create (p : Probe) : (create p).Tracked := by
  unfold create
  cases p.nodes with
  | none => exact .of_vacant rfl rfl
  | some nodes =>
      obtain ⟨hid, hu⟩ := detect_frame (d := {}) p nodes
      exact .of_vacant hu hid

theorem Tracked.withMagnitude (h : d.Tracked) (m : Int16) :
    Tracked { d with mCurrMagnitude := m } := ⟨h.ids, h.absent⟩

theorem removalsSucceed_withMagnitude (m : Int16) {timeoutMs : UInt32} {io : PlayIO} :
    RemovalsSucceed { d with mCurrMagnitude := m } timeoutMs io ↔
      d.RemovalsSucceed timeoutMs io :=
  ⟨fun h => ⟨h.previous, h.unstarted⟩, fun h => ⟨h.previous, h.unstarted⟩⟩

/-- An effect of a known strength is played by a device of that magnitude. -/
theorem playEffect_of_magnitude {es : EffectStrength} {m : Int16} (hm : magnitude es = some m)
    (effectId : Int32) (io : PlayIO) :
    d.playEffect effectId es io =
      { d with mCurrMagnitude := m }.play effectId (INVALID_VALUE : Int32).toUInt32 io := by
  unfold playEffect
  rw [hm]

theorem playEffect_of_unknown {es : EffectStrength} (hm : magnitude es = none)
    (effectId : Int32) (io : PlayIO) : d.playEffect effectId es io = (⟨-1, none⟩, d) := by
  unfold playEffect
  rw [hm]

theorem setAmplitude_frame (amplitude : UInt8) (success : Bool) :
    (d.setAmplitude amplitude success).2.mVibraFd = d.mVibraFd ∧
      (d.setAmplitude amplitude success).2.mCurrAppId = d.mCurrAppId ∧
      (d.setAmplitude amplitude success).2.uploaded = d.uploaded := by
  unfold setAmplitude
  split
  · exact ⟨rfl, rfl, rfl⟩
  dsimp only
  split <;> exact ⟨rfl, rfl, rfl⟩

theorem Tracked.setAmplitude (h : d.Tracked) (amplitude : UInt8) (success : Bool) :
    (d.setAmplitude amplitude success).2.Tracked := by
  obtain ⟨hfd, hid, hu⟩ := d.setAmplitude_frame amplitude success
  exact ⟨by rw [hid, hu, h.ids], by rw [hfd, hid]; exact h.absent⟩

theorem Tracked.contained_iff (h : d.Tracked) (r : Request) :
    (d.step r).Contained ↔ d.RequestSafe r := by
  cases r with
  | on timeoutMs io => exact h.play_contained_iff _ _ _
  | off io => exact h.play_contained_iff _ _ _
  | playEffect effectId es io =>
      show (d.playEffect effectId es io).2.Contained ↔ (magnitude es ≠ none → _)
      cases hm : magnitude es with
      | none =>
          rw [playEffect_of_unknown hm]
          exact iff_of_true h.contained fun hne => absurd rfl hne
      | some m =>
          rw [playEffect_of_magnitude hm, (h.withMagnitude m).play_contained_iff,
            removalsSucceed_withMagnitude]
          exact ⟨fun hs _ => hs, fun hs => hs (Option.some_ne_none m)⟩
  | setAmplitude amplitude success =>
      exact iff_of_true (h.setAmplitude amplitude success).contained trivial

theorem Tracked.step (h : d.Tracked) (r : Request) (hs : d.RequestSafe r) :
    (d.step r).Tracked := by
  cases r with
  | on timeoutMs io => exact h.play _ _ _ hs
  | off io => exact h.play _ _ _ hs
  | playEffect effectId es io =>
      show (d.playEffect effectId es io).2.Tracked
      cases hm : magnitude es with
      | none =>
          rw [playEffect_of_unknown hm]
          exact h
      | some m =>
          rw [playEffect_of_magnitude hm]
          refine (h.withMagnitude m).play _ _ _ ((removalsSucceed_withMagnitude m).mpr (hs ?_))
          rw [hm]
          exact Option.some_ne_none m
  | setAmplitude amplitude success => exact h.setAmplitude amplitude success

/-- In a run of a device from its detection, the kernel never holds an effect beyond the
one remembered, and none after a successful `off`, exactly if every removal succeeds that
the requests issue. -/
theorem uploads_kept_iff (p : Probe) (rs : List Request) :
    Machine.Along step UploadsKept (create p) rs ↔
      Machine.Along step RequestSafe (create p) rs := by
  refine Machine.along_iff (I := Tracked) (fun d r h => ?_) (fun d r h => h.step r)
    (tracked_create p) rs
  refine ⟨fun hkept => (h.contained_iff r).mp hkept.1, fun hs => ⟨(h.contained_iff r).mpr hs, ?_⟩⟩
  rintro io rfl hret
  exact h.off_vacates io hret

/-- A vibration whose first `off` fails to remove its effect: the second `off` reports
success and the effect is still there. -/
theorem lost_effect :
    let device := create ⟨415, none, some [⟨7, some "qti-haptics", some ⟨true, true, true, true⟩⟩]⟩
    let start : Request := .on 500 ⟨true, some ⟨0, 0, 0, by decide⟩, true, true⟩
    let failing : Request := .off ⟨false, none, true, true⟩
    let again : Request := .off ⟨true, none, true, true⟩
    let d := Machine.run step device [start, failing]
    ¬d.Contained ∧ (d.perform again).1.ret = 0 ∧
      (d.step again).uploaded = [⟨0, 500, 0, .constant 0x7fff⟩] := by
  refine ⟨fun h => ?_, by decide, by decide⟩
  exact (h ⟨0, 500, 0, .constant 0x7fff⟩ (by decide)).1 (by decide)

end InputFFDevice

end OneplusHal.Vibrator
