import OneplusHal.Amplifier.Feedback

/-!
The references to the shared feedback device over a history of calls.

A start takes one reference and its error path gives it back. A stop for a speaker drops
one in any case, whether a start has succeeded or not, so that the references are kept
exactly if every such stop comes while a stream is open.
-/

namespace OneplusHal.Amplifier

open OneplusHal

/-- A reference to the feedback device is taken. -/
def enablesFeedback : Event → Bool
  | .enableSndDevice .inCaptureViFeedback => true
  | _ => false

/-- A reference to the feedback device is dropped. -/
def disablesFeedback : Event → Bool
  | .disableSndDevice .inCaptureViFeedback => true
  | _ => false

namespace Amp

variable {a : Amp} {uc : Usecase} {n : ℕ}

/-- As many references to the feedback device are held as `n` says, and none was dropped
that was not held. -/
def Held (n : ℕ) (a : Amp) : Prop := Counted enablesFeedback disablesFeedback a.log n

theorem Held.emit (h : a.Held n) {e : Event} (ht : enablesFeedback e = false)
    (hd : disablesFeedback e = false) : (a.emit e).Held n :=
  Counted.quiet h ht hd

theorem Held.closeOut (h : a.Held n) : a.closeOut.Held n := by
  unfold Amp.closeOut
  cases a.tfa98xxOut with
  | none => exact h
  | some pcm => exact h.emit rfl rfl

theorem Held.route (h : a.Held n) (huc : uc.inSndDevice = .inCaptureViFeedback) :
    (a.route uc).Held (n + 1) := by
  have hadded : ((a.listAddTail uc).emit (.read uc.ptr)).Held n :=
    (show (a.listAddTail uc).Held n from h.emit rfl rfl).emit rfl rfl
  have henabled : Held (n + 1)
      (((a.listAddTail uc).emit (.read uc.ptr)).emit (.enableSndDevice uc.inSndDevice)) := by
    rw [huc]
    exact Counted.take hadded rfl rfl
  exact (henabled.emit rfl rfl).emit rfl rfl

theorem Held.startError (h : a.Held (n + 1)) (huc : uc.inSndDevice = .inCaptureViFeedback)
    (rc : Int32) : (a.startError uc rc).2.Held n := by
  have hremoved : ((a.closeOut.listRemove uc).emit (.read uc.ptr)).Held (n + 1) :=
    (show (a.closeOut.listRemove uc).Held (n + 1) from h.closeOut.emit rfl rfl).emit rfl rfl
  have hdisabled : Held n
      (((a.closeOut.listRemove uc).emit (.read uc.ptr)).emit
        (.disableSndDevice uc.inSndDevice)) := by
    rw [huc]
    exact Counted.drop hremoved rfl rfl
  exact (hdisabled.emit rfl rfl).emit rfl rfl

/-- One reference is held while a stream is open, and none otherwise. -/
def OneHeld (a : Amp) : Prop := a.Held (if a.tfa98xxOut.isSome then 1 else 0)

theorem OneHeld.of_open (hout : a.tfa98xxOut.isSome) (h : a.Held 1) : a.OneHeld := by
  unfold OneHeld
  rwa [if_pos hout]

theorem OneHeld.of_closed (hout : a.tfa98xxOut = none) (h : a.Held 0) : a.OneHeld := by
  unfold OneHeld
  rwa [hout]

theorem OneHeld.held_zero (h : a.OneHeld) (hout : a.tfa98xxOut = none) : a.Held 0 := by
  unfold OneHeld at h
  rwa [hout] at h

theorem OneHeld.startFeedback (h : a.OneHeld) (sndDevice : SndDevice) (io : StartIO) :
    (a.startFeedback sndDevice io).2.OneHeld := by
  unfold Amp.startFeedback
  split
  · exact h
  case isFalse hidle =>
    have hout := closed_of_starting hidle
    split
    · exact h
    have hvi : a.feedbackUsecase.inSndDevice = .inCaptureViFeedback := rfl
    have halloc : Held 0 { a.alloc a.feedbackUsecase with usecaseTx := some a.feedbackUsecase } :=
      (show (a.alloc a.feedbackUsecase).Held 0 from
        Held.emit (Held.emit (h.held_zero hout) rfl rfl) rfl rfl)
    have hrouted := halloc.route hvi
    dsimp only
    generalize Amp.route a.feedbackUsecase { a.alloc a.feedbackUsecase with
      usecaseTx := some a.feedbackUsecase } = a₁ at hrouted ⊢
    split
    · exact .of_closed (startError_tfa98xxOut _) ((hrouted.emit rfl rfl).startError hvi _)
    have hopened : (a₁.pcmOpen io.pcmDeviceId io.pcmOpen).Held 1 := hrouted.emit rfl rfl
    split
    · exact .of_closed (startError_tfa98xxOut _)
        (((hopened.emit rfl rfl).emit rfl rfl).startError hvi _)
    case isFalse hisReady =>
      generalize hpcmOpen : a₁.pcmOpen io.pcmDeviceId io.pcmOpen = a₂ at hopened ⊢
      have hstart := (hopened.emit (e := .pcmIsReady a₂.tfa98xxOut) rfl rfl).emit
        (e := .pcmStart a₂.tfa98xxOut) rfl rfl
      split
      · exact .of_closed (startError_tfa98xxOut _) (hstart.startError hvi _)
      · refine .of_open ?_ hstart
        rw [emit_tfa98xxOut, emit_tfa98xxOut, ← hpcmOpen]
        cases hpcm : io.pcmOpen with
        | false => simp [hpcm] at hisReady
        | true => simp [Amp.pcmOpen]

/-- What a stop does after it has closed the stream and dropped the reference. -/
theorem stopFeedback_frame {sndDevice : SndDevice} (hs : isSpeaker sndDevice = true) :
    (a.stopFeedback sndDevice).tfa98xxOut = none ∧
      ∃ es, (a.stopFeedback sndDevice).log =
          a.closeOut.log ++ [.disableSndDevice .inCaptureViFeedback] ++ es ∧
        ∀ e ∈ es, enablesFeedback e = false ∧ disablesFeedback e = false := by
  unfold Amp.stopFeedback
  rw [if_neg (by simp [hs])]
  dsimp only [getUsecaseFromList, emit_usecaseList]
  cases a.closeOut.usecaseList.find? fun u => u.id = .spkrCalibTx with
  | none =>
      refine ⟨closeOut_tfa98xxOut, [.getUsecaseFromList a.closeOut.nodes], rfl, ?_⟩
      simp [enablesFeedback, disablesFeedback]
  | some uc =>
      refine ⟨closeOut_tfa98xxOut, [.getUsecaseFromList a.closeOut.nodes,
        .listRemove uc.ptr a.closeOut.nodes, .disableAudioRoute uc.ptr, .free uc.ptr], ?_, ?_⟩
      · simp [emit, listRemove, nodes]
      · simp [enablesFeedback, disablesFeedback]

theorem Held.append {a₁ : Amp} (h : a.Held n) {es : List Event}
    (hes : ∀ e ∈ es, enablesFeedback e = false ∧ disablesFeedback e = false)
    (hlog : a₁.log = a.log ++ es) : a₁.Held n := by
  unfold Held
  rw [hlog]
  clear hlog
  induction es using List.reverseRecOn with
  | nil => rwa [List.append_nil]
  | append_singleton es e ih =>
      rw [← List.append_assoc]
      obtain ⟨ht, hd⟩ := hes e (by simp)
      exact (ih fun e he => hes e (List.mem_append_left _ he)).quiet ht hd

/-- A stop for a speaker comes while a stream is open. -/
def StopsOpen (a : Amp) : Input → Prop
  | .setFeedback devices enable _ =>
      enable = false → isSpeaker devices = true → a.tfa98xxOut.isSome
  | .halAdd _ _ _ => True
  | .halRemove _ => True

/-- At each moment up to the end of a step, no reference has been dropped that was not
taken; and at its end none is held if no stream is open. -/
def ReferencesKept (a : Amp) (i : Input) : Prop :=
  (∀ xs, xs <+: (a.step i).log → xs.countP disablesFeedback ≤ xs.countP enablesFeedback) ∧
    ((a.step i).tfa98xxOut = none →
      (a.step i).log.countP disablesFeedback = (a.step i).log.countP enablesFeedback)

theorem OneHeld.step (h : a.OneHeld) (i : Input) (hs : a.StopsOpen i) : (a.step i).OneHeld := by
  cases i with
  | setFeedback devices enable io =>
      cases enable with
      | true => exact h.startFeedback devices io
      | false =>
          show (a.stopFeedback devices).OneHeld
          by_cases hspeaker : isSpeaker devices = true
          · obtain ⟨hout, es, hlog, hes⟩ := a.stopFeedback_frame hspeaker
            have hopen := hs rfl hspeaker
            unfold OneHeld at h
            rw [if_pos hopen] at h
            have hdropped : Held 0 (a.closeOut.emit (.disableSndDevice .inCaptureViFeedback)) :=
              Counted.drop h.closeOut rfl rfl
            exact .of_closed hout (hdropped.append hes hlog)
          · unfold Amp.stopFeedback
            rwa [if_pos (by simpa using hspeaker)]
  | halAdd id type inSndDevice =>
      exact ((Held.emit h rfl rfl).emit rfl rfl).emit (e := .listAddTail _ _) rfl rfl
  | halRemove id =>
      show (a.halRemove id).OneHeld
      unfold Amp.halRemove
      cases a.usecaseList.find? fun u => u.id = .other id with
      | none => exact h
      | some uc => exact (Held.emit h rfl rfl).emit (e := .free _) rfl rfl

theorem OneHeld.referencesKept (h : (a.step i).OneHeld) : a.ReferencesKept i := by
  refine ⟨fun xs hxs => Counted.countP_le_of_prefix h hxs, fun hout => ?_⟩
  exact (Counted.countP_eq (h.held_zero hout)).symm

/-- A stop without an open stream drops a reference that nothing holds. -/
theorem OneHeld.stopsOpen (h : a.OneHeld) {i : Input} (hk : a.ReferencesKept i) :
    a.StopsOpen i := by
  cases i with
  | setFeedback devices enable io =>
      rintro rfl hspeaker
      by_contra hout
      rw [Option.not_isSome_iff_eq_none] at hout
      obtain ⟨-, es, hlog, -⟩ := a.stopFeedback_frame hspeaker
      have hclosed : a.closeOut = a := by
        unfold Amp.closeOut
        rw [hout]
      rw [hclosed] at hlog
      have hle := hk.1 (a.log ++ [.disableSndDevice .inCaptureViFeedback])
        ⟨es, hlog.symm⟩
      have heq := Counted.countP_eq (h.held_zero hout)
      simp only [List.countP_append, List.countP_singleton, enablesFeedback,
        disablesFeedback, if_true] at hle
      simp at hle
      omega
  | halAdd id type inSndDevice => trivial
  | halRemove id => trivial

/-- The references to the feedback device are kept in a run exactly if every stop for a
speaker comes while a stream is open. -/
theorem references_kept_iff (io : OpenIO) (h : ampModuleOpen io = .ok a) (is : List Input) :
    Machine.Along step ReferencesKept a is ↔ Machine.Along step StopsOpen a is := by
  refine Machine.along_iff (I := OneHeld) (fun a i h => ?_) (fun a i h hs => h.step i hs) ?_ is
  · exact ⟨h.stopsOpen, fun hs => (h.step i hs).referencesKept⟩
  · rw [eq_of_ampModuleOpen h]
    exact Counted.nil

/-- A start that fails, and the stop that follows it: the stop drops a second reference. -/
theorem reference_dropped_unheld :
    let failed : Input := .setFeedback .outSpeaker true ⟨true, 12, true, true, -1⟩
    let stop : Input := .setFeedback .outSpeaker false ⟨true, 12, true, true, 0⟩
    let a := Machine.run step {} [failed, stop]
    ampModuleOpen ⟨true, true, true, [true, true, true, true, true, true]⟩ = .ok {} ∧
      a.tfa98xxOut = none ∧ a.log.countP enablesFeedback = 1 ∧
      a.log.countP disablesFeedback = 2 ∧
      ¬Machine.Along step ReferencesKept {} [failed, stop] := by
  refine ⟨rfl, rfl, rfl, rfl, fun h => ?_⟩
  exact absurd (h.2.1.2 rfl) (by decide)

/-- A start that succeeds, a stop, and a start that fails. -/
theorem references_kept_restarted :
    let started : Input := .setFeedback .outSpeaker true ⟨true, 12, true, true, 0⟩
    let stop : Input := .setFeedback .outSpeaker false ⟨true, 12, true, true, 0⟩
    let failed : Input := .setFeedback .outSpeaker true ⟨true, -1, true, true, 0⟩
    Machine.Along step ReferencesKept {} [started, stop, failed] := by
  refine (references_kept_iff ⟨true, true, true, []⟩ rfl _).mpr ⟨?_, ?_, ?_, trivial⟩
  · exact fun h => absurd h (by decide)
  · exact fun _ _ => rfl
  · exact fun h => absurd h (by decide)

end Amp

end OneplusHal.Amplifier
