import Mathlib.Tactic.Set
import OneplusHal.AlertSlider.Overlay

/-!
The queue of the main looper under slider broadcasts.

Every handler only drops messages that are not updates, and posts at most a dismissal. So
the updates are handled in the order of the broadcasts, each once, and each of them puts
the dismissal off: the one that is pending after it is due after the timeout.
-/

namespace OneplusHal.AlertSlider

open OneplusHal

/-- The place of a slider message among the slider messages. -/
def Message.stamp : Message → Option ℕ
  | .dialogUpdate info => some (2 * info.event)
  | .dialogShow event => some (2 * event + 1)
  | .dialogDismiss => none
  | .dialogReset => none
  | .dialogRecreate => none

theorem Message.eq_show_of_stamp {m : Message} {event : ℕ}
    (hm : m.stamp = some (2 * event + 1)) : m = .dialogShow event := by
  cases m with
  | dialogUpdate info =>
      have heq : 2 * info.event = 2 * event + 1 := Option.some.inj hm
      omega
  | dialogShow event' =>
      have heq : 2 * event' + 1 = 2 * event + 1 := Option.some.inj hm
      congr 1
      omega
  | dialogDismiss => cases hm
  | dialogReset => cases hm
  | dialogRecreate => cases hm

/-- The queue is in the order of the due times, and its slider messages are in the order
in which they were posted. -/
structure InOrder (q : MessageQueue Message) : Prop where
  sorted : q.Sorted
  stamps : q.Pairwise fun a b => ∀ m n, a.msg.stamp = some m → b.msg.stamp = some n → m < n

theorem InOrder.removeMessages {q : MessageQueue Message} (h : InOrder q)
    (what : Message → Bool) : InOrder (q.removeMessages what) :=
  ⟨h.sorted.removeMessages what, MessageQueue.pairwise_removeMessages h.stamps what⟩

theorem InOrder.tail {q : MessageQueue Message} {e : Timed Message} (h : InOrder (e :: q)) :
    InOrder q :=
  ⟨h.sorted.of_cons, h.stamps.of_cons⟩

/-- A message that is not a slider message may be posted at any time. -/
theorem InOrder.enqueue {q : MessageQueue Message} (h : InOrder q) {e : Timed Message}
    (he : e.msg.stamp = none) : InOrder (q.enqueue e) where
  sorted := h.sorted.enqueue e
  stamps := by
    refine MessageQueue.pairwise_enqueue h.sorted h.stamps (fun a _ _ m n _ hn => ?_)
      fun a _ _ m n hm _ => ?_
    · rw [he] at hn
      cases hn
    · rw [he] at hm
      cases hm

/-- A slider message is posted behind all others. -/
theorem InOrder.enqueue_last {q : MessageQueue Message} (h : InOrder q) {e : Timed Message}
    (he : ∀ a ∈ q, ∀ m, a.msg.stamp = some m → a.due ≤ e.due ∧ ∀ n, e.msg.stamp = some n → m < n) :
    InOrder (q.enqueue e) where
  sorted := h.sorted.enqueue e
  stamps := by
    refine MessageQueue.pairwise_enqueue h.sorted h.stamps
      (fun a ha _ m n hm hn => (he a ha m hm).2 n hn) fun a ha hlt m n _ hn => ?_
    exact absurd (he a ha n hn).1 (Nat.not_le.mpr hlt)

namespace Plugin

variable {p p' : Plugin} {c : Context}

/-- The update of a broadcast is pending. -/
def UpdatePending (p : Plugin) (event : ℕ) : Prop :=
  ∃ e ∈ p.queue, ∃ info, e.msg = .dialogUpdate info ∧ info.event = event

/-- The show message of a broadcast is pending. -/
def ShowPending (p : Plugin) (event : ℕ) : Prop := ∃ e ∈ p.queue, e.msg = .dialogShow event

theorem mem_post {e : Timed Message} (he : e ∈ p.queue) (m : Message) (delay : ℕ) :
    e ∈ (p.post m delay).queue := MessageQueue.mem_enqueue.mpr (.inr he)

theorem ShowPending.mono {event : ℕ} (h : p.ShowPending event)
    (hqueue : ∀ e ∈ p.queue, e ∈ p'.queue) : p'.ShowPending event := by
  obtain ⟨e, he, hm⟩ := h
  exact ⟨e, hqueue e he, hm⟩

theorem UpdatePending.mono {event : ℕ} (h : p.UpdatePending event)
    (hqueue : ∀ e ∈ p.queue, e ∈ p'.queue) : p'.UpdatePending event := by
  obtain ⟨e, he, info, hm, hevent⟩ := h
  exact ⟨e, hqueue e he, info, hm, hevent⟩

/-! ### What a handler does to the queue -/

/-- A handler that has taken its message only drops messages that are not updates, and
posts at most a dismissal, due after the timeout. -/
structure Replanned (p p' : Plugin) : Prop where
  now : p'.now = p.now
  sent : p'.sent = p.sent
  updated : p'.updated = p.updated
  lastInfo : p'.lastInfo = p.lastInfo
  state : p.dialog.state = p.lastInfo → p'.dialog.state = p'.lastInfo
  inOrder : InOrder p.queue → InOrder p'.queue
  mem : ∀ e ∈ p'.queue, e ∈ p.queue ∨ e = ⟨p.now + DIALOG_TIMEOUT, .dialogDismiss⟩
  update_mem : ∀ e ∈ p.queue, ∀ info, e.msg = .dialogUpdate info → e ∈ p'.queue

theorem Replanned.refl (p : Plugin) : Replanned p p where
  now := rfl
  sent := rfl
  updated := rfl
  lastInfo := rfl
  state := id
  inOrder := id
  mem := fun _ he => .inl he
  update_mem := fun _ he _ _ => he

theorem Replanned.trans {p'' : Plugin} (h : Replanned p p') (h' : Replanned p' p'') :
    Replanned p p'' where
  now := h'.now.trans h.now
  sent := h'.sent.trans h.sent
  updated := h'.updated.trans h.updated
  lastInfo := h'.lastInfo.trans h.lastInfo
  state := fun hs => h'.state (h.state hs)
  inOrder := fun hq => h'.inOrder (h.inOrder hq)
  mem := fun e he => by
    obtain he | he := h'.mem e he
    · exact h.mem e he
    · exact .inr (h.now ▸ he)
  update_mem := fun e he info hm => h'.update_mem e (h.update_mem e he info hm) info hm

/-- A change of the fields that neither the queue nor the update concerns. -/
theorem Replanned.of_queue_eq (hqueue : p'.queue = p.queue) (hnow : p'.now = p.now)
    (hsent : p'.sent = p.sent) (hupdated : p'.updated = p.updated)
    (hlast : p'.lastInfo = p.lastInfo)
    (hstate : p.dialog.state = p.lastInfo → p'.dialog.state = p'.lastInfo) : Replanned p p' where
  now := hnow
  sent := hsent
  updated := hupdated
  lastInfo := hlast
  state := hstate
  inOrder := fun hq => hqueue ▸ hq
  mem := fun _ he => .inl (hqueue ▸ he)
  update_mem := fun _ he _ _ => hqueue ▸ he

theorem replanned_removeMessages {what : Message → Bool}
    (hwhat : ∀ info, what (.dialogUpdate info) = false) : Replanned p (p.removeMessages what) where
  now := rfl
  sent := rfl
  updated := rfl
  lastInfo := rfl
  state := id
  inOrder := fun hq => hq.removeMessages what
  mem := fun _ he => .inl (MessageQueue.mem_removeMessages.mp he).1
  update_mem := fun _ he info hm => MessageQueue.mem_removeMessages.mpr ⟨he, hm ▸ hwhat info⟩

theorem replanned_post_dismiss : Replanned p (p.post .dialogDismiss DIALOG_TIMEOUT) where
  now := rfl
  sent := rfl
  updated := rfl
  lastInfo := rfl
  state := id
  inOrder := fun hq => hq.enqueue rfl
  mem := fun _ he => (MessageQueue.mem_enqueue.mp he).symm
  update_mem := fun _ he _ _ => MessageQueue.mem_enqueue.mpr (.inr he)

theorem replanned_handleResetTimeout : Replanned p p.handleResetTimeout :=
  (replanned_removeMessages fun _ => rfl).trans replanned_post_dismiss

theorem replanned_launchDozePulse (c : Context) : Replanned p (p.launchDozePulse c) := by
  unfold launchDozePulse
  split <;> exact .of_queue_eq rfl rfl rfl rfl rfl id

theorem replanned_setShowing (value : Bool) : Replanned p (p.setShowing value c) := by
  unfold setShowing
  split
  case isFalse => exact .refl p
  have hremoved : Replanned p (((p.removeMessages Message.isShow).removeMessages
      Message.isDismiss).removeMessages Message.isReset) :=
    ((replanned_removeMessages fun _ => rfl).trans
      (replanned_removeMessages fun _ => rfl)).trans (replanned_removeMessages fun _ => rfl)
  dsimp only
  split
  · refine (hremoved.trans replanned_handleResetTimeout).trans
      ((replanned_launchDozePulse c).trans ?_)
    exact .of_queue_eq rfl rfl rfl rfl rfl id
  · exact hremoved.trans (.of_queue_eq rfl rfl rfl rfl rfl id)

theorem createDialog_state (lastInfo : Option NotificationInfo) :
    (createDialog lastInfo).state = lastInfo := by
  cases lastInfo <;> rfl

theorem replanned_handleRecreate : Replanned p (p.handleRecreate c) := by
  unfold handleRecreate
  split
  case isFalse => exact .refl p
  dsimp only
  generalize hp₁ : p.setShowing false c = p₁
  have hdismissed : Replanned p p₁ := hp₁ ▸ replanned_setShowing false
  have hcreated : Replanned p₁
      { p₁ with dialog := createDialog p₁.lastInfo, replaced := p₁.dialog :: p₁.replaced } :=
    .of_queue_eq rfl rfl rfl rfl rfl fun _ => createDialog_state p₁.lastInfo
  refine (hdismissed.trans hcreated).trans ?_
  split
  · exact (replanned_setShowing true).trans (.of_queue_eq rfl rfl rfl rfl rfl id)
  · exact .of_queue_eq rfl rfl rfl rfl rfl id

/-! ### The order of the updates -/

/-- The updates are handled in the order of the broadcasts, each once, and every one that
was handled has put the dismissal off. -/
structure Ordered (p : Plugin) : Prop where
  inOrder : InOrder p.queue
  posted : ∀ e ∈ p.queue, ∀ m, e.msg.stamp = some m → e.due ≤ p.now ∧ m < 2 * p.sent.length
  update_sent : ∀ e ∈ p.queue, ∀ info, e.msg = .dialogUpdate info → info ∈ p.sent
  updated_le : ∀ k u, (k, u) ∈ p.updated → u ≤ p.now
  updated_before : ∀ k u, (k, u) ∈ p.updated →
    ∀ e ∈ p.queue, ∀ info, e.msg = .dialogUpdate info → k < info.event
  updated_lt : ∀ k u, (k, u) ∈ p.updated → k < p.sent.length
  dismiss_after : ∀ k u, (k, u) ∈ p.updated →
    ∀ e ∈ p.queue, e.msg = .dialogDismiss → u + DIALOG_TIMEOUT ≤ e.due
  state : p.dialog.state = p.lastInfo
  latest : ∀ k u, (k, u) ∈ p.updated → ∃ info ∈ p.sent, k ≤ info.event ∧ p.lastInfo = some info

theorem Ordered.replanned (h : p.Ordered) (hr : Replanned p p') : p'.Ordered where
  inOrder := hr.inOrder h.inOrder
  posted := fun e he m hm => by
    rw [hr.now, hr.sent]
    obtain he | rfl := hr.mem e he
    · exact h.posted e he m hm
    · cases hm
  update_sent := fun e he info hm => by
    rw [hr.sent]
    obtain he | rfl := hr.mem e he
    · exact h.update_sent e he info hm
    · cases hm
  updated_le := fun k u hk => by
    rw [hr.updated] at hk
    exact hr.now ▸ h.updated_le k u hk
  updated_before := fun k u hk e he info hm => by
    rw [hr.updated] at hk
    obtain he | rfl := hr.mem e he
    · exact h.updated_before k u hk e he info hm
    · cases hm
  updated_lt := fun k u hk => by
    rw [hr.updated] at hk
    exact hr.sent ▸ h.updated_lt k u hk
  dismiss_after := fun k u hk e he hm => by
    rw [hr.updated] at hk
    obtain he | rfl := hr.mem e he
    · exact h.dismiss_after k u hk e he hm
    · exact Nat.add_le_add_right (h.updated_le k u hk) _
  state := hr.state h.state
  latest := fun k u hk => by
    rw [hr.updated] at hk
    rw [hr.sent, hr.lastInfo]
    exact h.latest k u hk

/-- The head of the queue has been taken. -/
theorem Ordered.pop (h : p.Ordered) {e : Timed Message} {rest : MessageQueue Message}
    (hqueue : p.queue = e :: rest) : Ordered { p with queue := rest } := by
  have hmem : ∀ a ∈ rest, a ∈ p.queue := fun a ha => hqueue ▸ List.mem_cons_of_mem _ ha
  exact
    { inOrder := (hqueue ▸ h.inOrder).tail
      posted := fun a ha => h.posted a (hmem a ha)
      update_sent := fun a ha => h.update_sent a (hmem a ha)
      updated_le := h.updated_le
      updated_before := fun k u hk a ha => h.updated_before k u hk a (hmem a ha)
      updated_lt := h.updated_lt
      dismiss_after := fun k u hk a ha => h.dismiss_after k u hk a (hmem a ha)
      state := h.state
      latest := h.latest }

/-- The update at the head of the queue is that of the next broadcast. -/
theorem Ordered.update (h : p.Ordered) {e : Timed Message} {rest : MessageQueue Message}
    (hqueue : p.queue = e :: rest) {info : NotificationInfo} (hm : e.msg = .dialogUpdate info)
    (c : Context) : ({ p with queue := rest }.handleUpdate info c).Ordered := by
  have he : e ∈ p.queue := hqueue ▸ List.mem_cons_self
  have hpop := h.pop hqueue
  have hlater : ∀ a ∈ rest, ∀ info', a.msg = .dialogUpdate info' → info.event < info'.event := by
    intro a ha info' hm'
    have hstamps := (List.pairwise_cons.mp (hqueue ▸ h.inOrder.stamps)).1 a ha
    have hlt := hstamps (2 * info.event) (2 * info'.event) (by rw [hm]; rfl) (by rw [hm']; rfl)
    omega
  have hlt : info.event < p.sent.length := by
    have hposted := (h.posted e he (2 * info.event) (by rw [hm]; rfl)).2
    omega
  -- The handler resets the timeout before it sets the dialog's state.
  set p₀ : Plugin := { p with
    queue := rest.removeMessages Message.isDismiss
    lastInfo := some info
    updated := (info.event, p.now) :: p.updated
    dialog := setState info p.dialog } with hp₀
  have hsub : ∀ a ∈ p₀.queue, a ∈ rest ∧ a.msg.isDismiss = false := fun a ha =>
    MessageQueue.mem_removeMessages.mp ha
  have h₀ : p₀.Ordered :=
    { inOrder := hpop.inOrder.removeMessages _
      posted := fun a ha => hpop.posted a (hsub a ha).1
      update_sent := fun a ha => hpop.update_sent a (hsub a ha).1
      updated_le := fun k u hk => by
        obtain hk | hk := List.mem_cons.mp hk
        · cases hk
          exact le_rfl
        · exact h.updated_le k u hk
      updated_before := fun k u hk a ha info' hm' => by
        obtain hk | hk := List.mem_cons.mp hk
        · cases hk
          exact hlater a (hsub a ha).1 info' hm'
        · exact hpop.updated_before k u hk a (hsub a ha).1 info' hm'
      updated_lt := fun k u hk => by
        obtain hk | hk := List.mem_cons.mp hk
        · cases hk
          exact hlt
        · exact h.updated_lt k u hk
      dismiss_after := fun k u _ a ha hdismiss => by
        have hkept := (hsub a ha).2
        rw [hdismiss] at hkept
        cases hkept
      state := rfl
      latest := fun k u hk => by
        refine ⟨info, h.update_sent e he info hm, ?_, rfl⟩
        obtain hk | hk := List.mem_cons.mp hk
        · cases hk
          exact le_rfl
        · exact (h.updated_before k u hk e he info hm).le }
  refine h₀.replanned (replanned_post_dismiss.trans ?_)
  unfold handleUpdate launchDozePulse
  dsimp only
  split <;> exact .of_queue_eq rfl rfl rfl rfl rfl fun _ => rfl

/-- A message other than a dismissal is posted, while the broadcasts may become more. -/
theorem Ordered.post (h : p.Ordered) {m : Message} {sent : List NotificationInfo}
    (hsent : p.sent <+: sent) (hin : InOrder (p.queue.enqueue ⟨p.now, m⟩))
    (hstamp : ∀ n, m.stamp = some n → n < 2 * sent.length)
    (hupdate : ∀ info, m = .dialogUpdate info → info ∈ sent ∧ p.sent.length ≤ info.event)
    (hdismiss : m ≠ .dialogDismiss) : Ordered { p.post m 0 with sent := sent } where
  inOrder := hin
  posted := fun e he n hn => by
    obtain rfl | he := MessageQueue.mem_enqueue.mp he
    · exact ⟨le_rfl, hstamp n hn⟩
    · obtain ⟨hdue, hlt⟩ := h.posted e he n hn
      exact ⟨hdue, hlt.trans_le (Nat.mul_le_mul_left 2 hsent.length_le)⟩
  update_sent := fun e he info hm => by
    obtain rfl | he := MessageQueue.mem_enqueue.mp he
    · exact (hupdate info hm).1
    · exact hsent.subset (h.update_sent e he info hm)
  updated_le := h.updated_le
  updated_before := fun k u hk e he info hm => by
    obtain rfl | he := MessageQueue.mem_enqueue.mp he
    · exact (h.updated_lt k u hk).trans_le (hupdate info hm).2
    · exact h.updated_before k u hk e he info hm
  updated_lt := fun k u hk => (h.updated_lt k u hk).trans_le hsent.length_le
  dismiss_after := fun k u hk e he hm => by
    obtain rfl | he := MessageQueue.mem_enqueue.mp he
    · exact absurd hm hdismiss
    · exact h.dismiss_after k u hk e he hm
  state := h.state
  latest := fun k u hk => by
    obtain ⟨info, hinfo, hle⟩ := h.latest k u hk
    exact ⟨info, hsent.subset hinfo, hle⟩

theorem Ordered.onConfigurationChanged (h : p.Ordered) : p.onConfigurationChanged.Ordered :=
  h.post (List.prefix_refl p.sent) (h.inOrder.enqueue rfl) (fun _ hn => nomatch hn)
    (fun _ hm => nomatch hm) fun hm => nomatch hm

/-- The update of a new broadcast is posted behind the others. -/
theorem Ordered.postUpdate (h : p.Ordered) {info : NotificationInfo}
    (hevent : info.event = p.sent.length) :
    Ordered { p.post (.dialogUpdate info) 0 with sent := p.sent ++ [info] } := by
  refine h.post (List.prefix_append p.sent [info]) ?_ (fun n hn => ?_) (fun info' hm => ?_)
    fun hm => nomatch hm
  · refine h.inOrder.enqueue_last fun a ha m hm => ?_
    obtain ⟨hdue, hlt⟩ := h.posted a ha m hm
    refine ⟨hdue, fun n hn => ?_⟩
    cases hn
    omega
  · cases hn
    rw [List.length_append, List.length_singleton]
    omega
  · cases hm
    exact ⟨List.mem_append_right _ (List.mem_singleton_self _), hevent.ge⟩

/-- The show message of the last broadcast is posted behind its update. -/
theorem Ordered.postShow (h : p.Ordered) {event : ℕ} (hevent : event + 1 = p.sent.length)
    (hfirst : ¬p.ShowPending event) : (p.post (.dialogShow event) 0).Ordered := by
  refine h.post (List.prefix_refl p.sent) ?_ (fun n hn => ?_) (fun _ hm => nomatch hm)
    fun hm => nomatch hm
  · refine h.inOrder.enqueue_last fun a ha m hm => ?_
    obtain ⟨hdue, hlt⟩ := h.posted a ha m hm
    refine ⟨hdue, fun n hn => ?_⟩
    cases hn
    have hne : m ≠ 2 * event + 1 := by
      rintro rfl
      exact hfirst ⟨a, ha, Message.eq_show_of_stamp hm⟩
    omega
  · cases hn
    omega

theorem Ordered.elapse (h : p.Ordered) (ms : ℕ) : Ordered { p with now := p.now + ms } where
  inOrder := h.inOrder
  posted := fun e he m hm =>
    ⟨Nat.le_add_right_of_le (h.posted e he m hm).1, (h.posted e he m hm).2⟩
  update_sent := h.update_sent
  updated_le := fun k u hk => Nat.le_add_right_of_le (h.updated_le k u hk)
  updated_before := h.updated_before
  updated_lt := h.updated_lt
  dismiss_after := h.dismiss_after
  state := h.state
  latest := h.latest

end Plugin

end OneplusHal.AlertSlider
