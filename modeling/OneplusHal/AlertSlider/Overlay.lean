import OneplusHal.AlertSlider.AlertSliderPlugin
import OneplusHal.Lib.Machine

/-!
The overlay does not stay on the screen.

While the overlay is showing, one dismiss message is pending; it is due within the
timeout. The dialog on the screen is the present one, since a recreate dismisses the old
dialog before it makes another.
-/

namespace OneplusHal.AlertSlider

open OneplusHal

namespace Plugin

variable {p : Plugin} {c : Context}

/-- The number of dismiss messages that are pending. -/
def dismisses (p : Plugin) : ℕ := p.queue.countP fun e => e.msg.isDismiss

/-- What holds while a message is being handled. -/
structure Handling (p : Plugin) : Prop where
  dismisses_le : p.dismisses ≤ 1
  due_le : ∀ e ∈ p.queue, e.msg = .dialogDismiss → e.due ≤ p.now + DIALOG_TIMEOUT
  visible : p.dialog.isShowing = p.showing
  replaced : ∀ d ∈ p.replaced, d.isShowing = false

/-- What holds between two messages. -/
structure Overlaid (p : Plugin) : Prop extends Handling p where
  dismisses_of_showing : p.showing = true → p.dismisses = 1

/-! ### The handlers -/

@[simp] theorem launchDozePulse_frame :
    (p.launchDozePulse c).now = p.now ∧ (p.launchDozePulse c).queue = p.queue ∧
      (p.launchDozePulse c).dialog = p.dialog ∧
      (p.launchDozePulse c).replaced = p.replaced ∧
      (p.launchDozePulse c).showing = p.showing := by
  unfold launchDozePulse
  split <;> exact ⟨rfl, rfl, rfl, rfl, rfl⟩

theorem dismisses_handleResetTimeout : p.handleResetTimeout.dismisses = 1 := by
  unfold dismisses handleResetTimeout post removeMessages
  rw [MessageQueue.countP_enqueue, MessageQueue.countP_removeMessages]
  rfl

/-- Whatever was pending before, one dismiss message is pending after a reset. -/
theorem Handling.handleResetTimeout (h : p.Handling) : p.handleResetTimeout.Overlaid where
  dismisses_le := dismisses_handleResetTimeout.le
  due_le := fun e he hm => by
    obtain rfl | he := MessageQueue.mem_enqueue.mp he
    · exact le_rfl
    · exact h.due_le e (MessageQueue.mem_removeMessages.mp he).1 hm
  visible := h.visible
  replaced := h.replaced
  dismisses_of_showing := fun _ => dismisses_handleResetTimeout

theorem Overlaid.launchDozePulse (h : p.Overlaid) (c : Context) :
    (p.launchDozePulse c).Overlaid := by
  obtain ⟨hnow, hqueue, hdialog, hreplaced, hshowing⟩ := launchDozePulse_frame (p := p) (c := c)
  refine ⟨⟨?_, ?_, ?_, ?_⟩, ?_⟩
  · rw [dismisses, hqueue]
    exact h.dismisses_le
  · rw [hqueue, hnow]
    exact h.due_le
  · rw [hdialog, hshowing]
    exact h.visible
  · rw [hreplaced]
    exact h.replaced
  · rw [dismisses, hqueue, hshowing]
    exact h.dismisses_of_showing

theorem Handling.removeMessages (h : p.Handling) (what : Message → Bool) :
    (p.removeMessages what).Handling where
  dismisses_le := (List.filter_sublist.countP_le).trans h.dismisses_le
  due_le := fun e he => h.due_le e (MessageQueue.mem_removeMessages.mp he).1
  visible := h.visible
  replaced := h.replaced

/-- The setter turns the overlay on or off; where it does neither, it does nothing. -/
theorem Handling.setShowing (h : p.Handling) {value : Bool} (hne : p.showing ≠ value)
    (c : Context) : (p.setShowing value c).Overlaid := by
  have hremoved := ((h.removeMessages Message.isShow).removeMessages
    Message.isDismiss).removeMessages Message.isReset
  unfold Plugin.setShowing
  rw [if_pos hne]
  cases value with
  | true =>
      have hshown := hremoved.handleResetTimeout.launchDozePulse c
      refine ⟨⟨hshown.dismisses_le, hshown.due_le, rfl, hshown.replaced⟩, fun _ => ?_⟩
      show Plugin.dismisses (Plugin.launchDozePulse c _) = 1
      rw [dismisses, launchDozePulse_frame.2.1]
      exact dismisses_handleResetTimeout
  | false =>
      refine ⟨⟨hremoved.dismisses_le, hremoved.due_le, rfl, hremoved.replaced⟩, ?_⟩
      exact fun hshowing => absurd hshowing Bool.false_ne_true

theorem setShowing_self {value : Bool} (heq : p.showing = value) : p.setShowing value c = p := by
  unfold setShowing
  rw [if_neg (not_not_intro heq)]

theorem Overlaid.handleShow (h : p.Overlaid) (c : Context) : (p.handleShow c).Overlaid := by
  by_cases hshowing : p.showing = true
  · rw [Plugin.handleShow, setShowing_self hshowing]
    exact h
  · exact h.toHandling.setShowing hshowing c

/-- A dismiss needs no pending message to be left. -/
theorem Handling.handleDismiss (h : p.Handling) (c : Context) : (p.handleDismiss c).Overlaid := by
  by_cases hshowing : p.showing = false
  · rw [Plugin.handleDismiss, setShowing_self hshowing]
    exact ⟨h, fun hshown => absurd (hshowing.symm.trans hshown) Bool.false_ne_true⟩
  · exact h.setShowing hshowing c

theorem setShowing_showing (value : Bool) : (p.setShowing value c).showing = value := by
  unfold setShowing
  split
  · cases value <;> rfl
  case isFalse heq => exact not_not.mp heq

theorem Overlaid.handleUpdate (h : p.Overlaid) (info : NotificationInfo) (c : Context) :
    (p.handleUpdate info c).Overlaid := by
  have hupdated : Handling
      { p with lastInfo := some info, updated := (info.event, p.now) :: p.updated } :=
    ⟨h.dismisses_le, h.due_le, h.visible, h.replaced⟩
  have hreset := hupdated.handleResetTimeout.launchDozePulse c
  exact ⟨⟨hreset.dismisses_le, hreset.due_le, hreset.visible, hreset.replaced⟩,
    hreset.dismisses_of_showing⟩

theorem createDialog_isShowing (lastInfo : Option NotificationInfo) :
    (createDialog lastInfo).isShowing = false := by
  cases lastInfo <;> rfl

/-- A new dialog takes the place of one that has been dismissed. -/
theorem Overlaid.replace (h : p.Overlaid) (hshowing : p.showing = false) {d : AlertSliderDialog}
    (hd : d.isShowing = false) :
    Overlaid { p with dialog := d, replaced := p.dialog :: p.replaced } where
  dismisses_le := h.dismisses_le
  due_le := h.due_le
  visible := hd.trans hshowing.symm
  replaced := fun d' hd' => by
    obtain rfl | hd' := List.mem_cons.mp hd'
    · exact h.visible.trans hshowing
    · exact h.replaced d' hd'
  dismisses_of_showing := h.dismisses_of_showing

theorem Overlaid.withCurr (h : p.Overlaid) (configuration : Configuration) :
    Overlaid { p with curr := configuration } :=
  ⟨⟨h.dismisses_le, h.due_le, h.visible, h.replaced⟩, h.dismisses_of_showing⟩

theorem Overlaid.handleRecreate (h : p.Overlaid) (c : Context) :
    (p.handleRecreate c).Overlaid := by
  unfold Plugin.handleRecreate
  split
  case isFalse => exact h
  have hdismissed : (p.setShowing false c).Overlaid := h.toHandling.handleDismiss c
  have hfalse : (p.setShowing false c).showing = false := setShowing_showing false
  dsimp only
  refine Overlaid.withCurr ?_ _
  have hreplaced := hdismissed.replace hfalse
    (createDialog_isShowing (p.setShowing false c).lastInfo)
  split
  · exact hreplaced.toHandling.setShowing (by simp [hfalse]) c
  · exact hreplaced

theorem Overlaid.handleMessage (h : p.Overlaid) (m : Message) (c : Context) :
    (p.handleMessage m c).Overlaid := by
  cases m with
  | dialogShow event => exact h.handleShow c
  | dialogDismiss => exact h.toHandling.handleDismiss c
  | dialogReset => exact h.toHandling.handleResetTimeout
  | dialogUpdate info => exact h.handleUpdate info c
  | dialogRecreate => exact h.handleRecreate c

/-! ### The steps -/

/-- A message other than a dismiss is posted. -/
theorem Overlaid.post (h : p.Overlaid) {m : Message} (hm : m.isDismiss = false) (delay : ℕ) :
    (p.post m delay).Overlaid := by
  have hcount : (p.post m delay).dismisses = p.dismisses := by
    unfold Plugin.post dismisses
    rw [MessageQueue.countP_enqueue]
    simp [hm]
  refine ⟨⟨hcount.trans_le h.dismisses_le, fun e he hdismiss => ?_, h.visible, h.replaced⟩,
    fun hshowing => hcount.trans (h.dismisses_of_showing hshowing)⟩
  obtain rfl | he := MessageQueue.mem_enqueue.mp he
  · rw [show m = .dialogDismiss from hdismiss] at hm
    cases hm
  · exact h.due_le e he hdismiss

theorem Overlaid.elapse (h : p.Overlaid) (ms : ℕ) : Overlaid { p with now := p.now + ms } where
  dismisses_le := h.dismisses_le
  due_le := fun e he hm => (h.due_le e he hm).trans (by show _ ≤ p.now + ms + _; omega)
  visible := h.visible
  replaced := h.replaced
  dismisses_of_showing := h.dismisses_of_showing

/-- Taking a message from the queue loses a dismiss message only if it is the one. -/
theorem Overlaid.dispatch (h : p.Overlaid) (c : Context) : (p.dispatch c).Overlaid := by
  unfold Plugin.dispatch
  cases hnext : p.queue.next? p.now with
  | none => exact h
  | some next =>
      obtain ⟨e, rest⟩ := next
      have hqueue := (MessageQueue.next?_eq_some.mp hnext).1
      have hcount : p.dismisses = (rest.countP fun e => e.msg.isDismiss) +
          if e.msg.isDismiss then 1 else 0 := by
        rw [dismisses, hqueue, List.countP_cons]
      have hrest : Handling { p with queue := rest } := by
        refine ⟨?_, fun e' he' => h.due_le e' ?_, h.visible, h.replaced⟩
        · have hle := h.dismisses_le
          show rest.countP _ ≤ 1
          omega
        · rw [hqueue]
          exact List.mem_cons_of_mem _ he'
      by_cases hm : e.msg = .dialogDismiss
      · dsimp only
        rw [hm]
        exact hrest.handleDismiss c
      · have hdismiss : e.msg.isDismiss = false := by
          cases hmsg : e.msg <;> first | rfl | exact absurd hmsg hm
        refine Overlaid.handleMessage ⟨hrest, fun hshowing => ?_⟩ e.msg c
        have hone := h.dismisses_of_showing hshowing
        rw [hcount, hdismiss] at hone
        exact hone

/-- A step of the main looper, or any message handled at any time. -/
inductive HandlerInput
  | main (i : Input)
  | handle (m : Message) (c : Context)

def handlerStep (p : Plugin) : HandlerInput → Plugin
  | .main i => p.step i
  | .handle m c => p.handleMessage m c

theorem Overlaid.onSliderChanged (h : p.Overlaid) (position mode : Option Int) (gap : ℕ) :
    (p.onSliderChanged position mode gap).Overlaid := by
  unfold Plugin.onSliderChanged
  split
  · exact h
  generalize NotificationInfo.mk _ _ _ = info
  have hposted := h.post (m := .dialogUpdate info) rfl 0
  have hsent : Overlaid { p.post (.dialogUpdate info) 0 with sent := p.sent ++ [info] } :=
    ⟨⟨hposted.dismisses_le, hposted.due_le, hposted.visible, hposted.replaced⟩,
      hposted.dismisses_of_showing⟩
  exact (hsent.elapse gap).post rfl 0

theorem Overlaid.step (h : p.Overlaid) (i : Input) : (p.step i).Overlaid := by
  cases i with
  | sliderChanged position mode gap => exact h.onSliderChanged position mode gap
  | configurationChanged => exact h.post rfl 0
  | elapse ms => exact h.elapse ms
  | dispatch c => exact h.dispatch c

theorem Overlaid.handlerStep (h : p.Overlaid) (i : HandlerInput) : (p.handlerStep i).Overlaid := by
  cases i with
  | main i => exact h.step i
  | handle m c => exact h.handleMessage m c

theorem overlaid_onCreate (now : ℕ) (configuration : Configuration) :
    (onCreate now configuration).Overlaid where
  dismisses_le := Nat.zero_le 1
  due_le := fun _ he => absurd he List.not_mem_nil
  visible := rfl
  replaced := fun _ hd => absurd hd List.not_mem_nil
  dismisses_of_showing := fun hshowing => absurd hshowing Bool.false_ne_true

/-- An overlay that is showing has its dismissal pending, due within the timeout. -/
theorem Overlaid.exists_dismiss (h : p.Overlaid) (hshowing : p.showing = true) :
    ∃ e ∈ p.queue, e.msg = .dialogDismiss ∧ e.due ≤ p.now + DIALOG_TIMEOUT := by
  have hpos : 0 < p.dismisses := by
    rw [h.dismisses_of_showing hshowing]
    exact Nat.one_pos
  obtain ⟨e, he, hdismiss⟩ := List.countP_pos_iff.mp hpos
  have hm : e.msg = .dialogDismiss := by
    cases hmsg : e.msg with
    | dialogDismiss => rfl
    | _ => rw [hmsg] at hdismiss; cases hdismiss
  exact ⟨e, he, hm, h.due_le e he hm⟩

/-- In every state reached by any order of messages, one dismiss message is pending at
most, and one if the overlay is showing, due within the timeout; the dialog is on the
screen exactly while it is showing, and no dialog that was replaced is. -/
theorem overlay_bounded (now : ℕ) (configuration : Configuration) (is : List HandlerInput) :
    let p := Machine.run handlerStep (onCreate now configuration) is
    p.dismisses ≤ 1 ∧ (p.showing = true → p.dismisses = 1) ∧
      (p.dialog.isShowing = true ↔ p.showing = true) ∧
      (∀ d ∈ p.replaced, d.isShowing = false) ∧
      (p.showing = true →
        ∃ e ∈ p.queue, e.msg = .dialogDismiss ∧ e.due ≤ p.now + DIALOG_TIMEOUT) := by
  have h := Machine.run_invariant (I := Overlaid) (fun _ i h => h.handlerStep i)
    (overlaid_onCreate now configuration) is
  refine ⟨h.dismisses_le, h.dismisses_of_showing, ?_, h.replaced, h.exists_dismiss⟩
  rw [h.visible]

end Plugin

end OneplusHal.AlertSlider
