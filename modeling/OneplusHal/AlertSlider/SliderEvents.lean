import OneplusHal.AlertSlider.SliderQueue

/-!
The overlay shows the newest slider broadcast.

The update of a broadcast puts off the dismissal, so that a dismissal never comes between
the two messages of one broadcast. It may be due before both. If it then finds the overlay
showing, the setter drops every show message, and that of the newer broadcast with them:
its update is handled without a dialog on the screen. In a run without such a dismissal,
the overlay shows every broadcast until its time is over.
-/

namespace OneplusHal.AlertSlider

open OneplusHal

namespace Plugin

variable {p p' : Plugin} {c : Context}

/-- The overlay shows this broadcast or a later one. -/
def ShowsFrom (p : Plugin) (event : ℕ) : Prop :=
  p.dialog.isShowing = true ∧ ∃ info ∈ p.sent, event ≤ info.event ∧ p.dialog.state = some info

/-- Every broadcast whose messages have both left the queue is shown, or a later one is,
until the timeout has elapsed since its update. -/
def NewestShown (p : Plugin) : Prop :=
  ∀ info ∈ p.sent, ¬p.UpdatePending info.event → ¬p.ShowPending info.event →
    p.ShowsFrom info.event ∨ ∃ u, (info.event, u) ∈ p.updated ∧ u + DIALOG_TIMEOUT ≤ p.now

/-- A dismissal that finds the overlay showing finds no show message pending. -/
def DismissSafe (p : Plugin) : Input → Prop
  | .dispatch _ =>
      ∀ e rest, p.queue.next? p.now = some (e, rest) → e.msg = .dialogDismiss →
        p.showing = true → ∀ event, ¬p.ShowPending event
  | .sliderChanged _ _ _ => True
  | .configurationChanged => True
  | .elapse _ => True

/-! ### What stays on the screen -/

structure Kept (p : Plugin) : Prop where
  /-- A broadcast without a pending show message is on the screen until its time is over. -/
  shown : ∀ k u, (k, u) ∈ p.updated → ¬p.ShowPending k →
    p.showing = true ∨ u + DIALOG_TIMEOUT ≤ p.now
  /-- An update whose show message has been dropped comes before the next dismissal. -/
  dropped : ∀ e ∈ p.queue, ∀ info, e.msg = .dialogUpdate info → ¬p.ShowPending info.event →
    p.showing = true ∧ ∀ d ∈ p.queue, d.msg = .dialogDismiss → e.due < d.due

theorem Kept.congr (h : p.Kept) (hqueue : p'.queue = p.queue) (hnow : p'.now = p.now)
    (hshowing : p'.showing = p.showing) (hupdated : p'.updated = p.updated) : p'.Kept := by
  have hpending : ∀ k, p'.ShowPending k ↔ p.ShowPending k := fun k => by
    unfold ShowPending
    rw [hqueue]
  constructor
  · intro k u hk hshow
    rw [hshowing, hnow]
    rw [hpending] at hshow
    exact h.shown k u (hupdated ▸ hk) hshow
  · intro e he info hm hshow
    rw [hqueue] at he ⊢
    rw [hpending] at hshow
    rw [hshowing]
    exact h.dropped e he info hm hshow

/-- Every pending update was posted in the past. -/
def UpdatesDue (p : Plugin) : Prop :=
  ∀ e ∈ p.queue, ∀ info, e.msg = .dialogUpdate info → e.due ≤ p.now

theorem Ordered.updatesDue (h : p.Ordered) : p.UpdatesDue :=
  fun e he info hm => (h.posted e he (2 * info.event) (by rw [hm]; rfl)).1

theorem UpdatesDue.replanned (h : p.UpdatesDue) (hr : Replanned p p') : p'.UpdatesDue := by
  intro e he info hm
  obtain he | rfl := hr.mem e he
  · exact hr.now ▸ h e he info hm
  · cases hm

/-- The overlay has just been turned on, or its timeout reset while it was on. -/
theorem UpdatesDue.kept_of_showing (h : p.UpdatesDue) (hshowing : p.showing = true)
    (hdismiss : ∀ d ∈ p.queue, d.msg = .dialogDismiss → d.due = p.now + DIALOG_TIMEOUT) :
    p.Kept where
  shown := fun _ _ _ _ => .inl hshowing
  dropped := fun e he info hm _ => by
    refine ⟨hshowing, fun d hd hm' => ?_⟩
    rw [hdismiss d hd hm']
    exact Nat.lt_of_le_of_lt (h e he info hm) (Nat.lt_add_of_pos_right (by decide))

theorem due_handleResetTimeout : ∀ d ∈ p.handleResetTimeout.queue, d.msg = .dialogDismiss →
    d.due = p.now + DIALOG_TIMEOUT := by
  intro d hd hm
  obtain rfl | hd := MessageQueue.mem_enqueue.mp hd
  · rfl
  · have hkept := (MessageQueue.mem_removeMessages.mp hd).2
    rw [hm] at hkept
    cases hkept

theorem due_setShowing (hshowing : p.showing = false) :
    ∀ d ∈ (p.setShowing true c).queue, d.msg = .dialogDismiss →
      d.due = p.now + DIALOG_TIMEOUT := by
  unfold setShowing
  rw [if_pos (by simp [hshowing])]
  dsimp only
  rw [if_pos rfl]
  rw [launchDozePulse_frame.2.1]
  exact due_handleResetTimeout

/-- Taking a message other than a show message drops no show message. -/
theorem showPending_pop {e : Timed Message} {rest : MessageQueue Message}
    (hqueue : p.queue = e :: rest) (hm : e.msg.isShow = false) {k : ℕ} :
    ShowPending { p with queue := rest } k ↔ p.ShowPending k := by
  constructor
  · exact fun h => h.mono fun a ha => hqueue ▸ List.mem_cons_of_mem _ ha
  · rintro ⟨a, ha, hshow⟩
    rw [hqueue] at ha
    obtain rfl | ha := List.mem_cons.mp ha
    · rw [hshow] at hm
      cases hm
    · exact ⟨a, ha, hshow⟩

theorem Kept.pop (h : p.Kept) {e : Timed Message} {rest : MessageQueue Message}
    (hqueue : p.queue = e :: rest) (hm : e.msg.isShow = false) :
    Kept { p with queue := rest } where
  shown := fun k u hk hshow => h.shown k u hk fun hp => hshow ((showPending_pop hqueue hm).mpr hp)
  dropped := fun a ha info hinfo hshow => by
    have hmem : ∀ b ∈ rest, b ∈ p.queue := fun b hb => hqueue ▸ List.mem_cons_of_mem _ hb
    obtain ⟨hshowing, hbefore⟩ := h.dropped a (hmem a ha) info hinfo
      fun hp => hshow ((showPending_pop hqueue hm).mpr hp)
    exact ⟨hshowing, fun d hd => hbefore d (hmem d hd)⟩

theorem showPending_handleResetTimeout {k : ℕ} :
    p.handleResetTimeout.ShowPending k ↔ p.ShowPending k := by
  constructor
  · rintro ⟨a, ha, hshow⟩
    obtain rfl | ha := MessageQueue.mem_enqueue.mp ha
    · cases hshow
    · exact ⟨a, (MessageQueue.mem_removeMessages.mp ha).1, hshow⟩
  · rintro ⟨a, ha, hshow⟩
    refine ⟨a, MessageQueue.mem_enqueue.mpr (.inr ?_), hshow⟩
    exact MessageQueue.mem_removeMessages.mpr ⟨ha, hshow ▸ rfl⟩

theorem Kept.handleResetTimeout (h : p.Kept) (hu : p.UpdatesDue) :
    p.handleResetTimeout.Kept where
  shown := fun k u hk hshow =>
    h.shown k u hk fun hp => hshow (showPending_handleResetTimeout.mpr hp)
  dropped := fun e he info hm hshow => by
    have hreset := hu.replanned replanned_handleResetTimeout
    obtain he' | rfl := replanned_handleResetTimeout.mem e he
    · have hshowing := (h.dropped e he' info hm
        fun hp => hshow (showPending_handleResetTimeout.mpr hp)).1
      exact (hreset.kept_of_showing hshowing due_handleResetTimeout).dropped e he info hm hshow
    · cases hm

/-! ### The handlers -/

theorem Kept.handleShow (h : p.Kept) (ho : p.Ordered) {e : Timed Message}
    {rest : MessageQueue Message} (hqueue : p.queue = e :: rest) {event : ℕ}
    (hm : e.msg = .dialogShow event) (c : Context) :
    ({ p with queue := rest }.handleShow c).Kept := by
  by_cases hshowing : p.showing = true
  · rw [Plugin.handleShow, setShowing_self (p := { p with queue := rest }) hshowing]
    refine ⟨fun _ _ _ _ => .inl hshowing, fun a ha info hinfo hshow => ?_⟩
    have hmem : ∀ b ∈ rest, b ∈ p.queue := fun b hb => hqueue ▸ List.mem_cons_of_mem _ hb
    have hnotPending : ¬p.ShowPending info.event := by
      rintro ⟨b, hb, hbm⟩
      rw [hqueue] at hb
      obtain rfl | hb := List.mem_cons.mp hb
      · -- The update would stand behind its own show message.
        have hstamps := (List.pairwise_cons.mp (hqueue ▸ ho.inOrder.stamps)).1 a ha
        have hlt := hstamps (2 * info.event + 1) (2 * info.event) (by rw [hbm]; rfl)
          (by rw [hinfo]; rfl)
        omega
      · exact hshow ⟨b, hb, hbm⟩
    obtain ⟨-, hbefore⟩ := h.dropped a (hmem a ha) info hinfo hnotPending
    exact ⟨hshowing, fun d hd => hbefore d (hmem d hd)⟩
  · have hfalse : p.showing = false := Bool.eq_false_iff.mpr hshowing
    have hon := (ho.pop hqueue).updatesDue.replanned (replanned_setShowing (c := c) true)
    refine hon.kept_of_showing ?_ ?_
    · exact setShowing_showing true
    · rw [(replanned_setShowing true).now]
      exact due_setShowing hfalse

/-- A dismissal in a safe place takes nothing from the screen before its time. -/
theorem Kept.handleDismiss (h : p.Kept) (ho : p.Ordered) {e : Timed Message}
    {rest : MessageQueue Message} (hqueue : p.queue = e :: rest) (hdue : e.due ≤ p.now)
    (hm : e.msg = .dialogDismiss) (hsafe : p.showing = true → ∀ event, ¬p.ShowPending event)
    (c : Context) : ({ p with queue := rest }.handleDismiss c).Kept := by
  have he : e ∈ p.queue := hqueue ▸ List.mem_cons_self
  by_cases hshowing : p.showing = true
  · have hoff : Replanned { p with queue := rest } ({ p with queue := rest }.handleDismiss c) :=
      replanned_setShowing false
    constructor
    · intro k u hk _
      rw [hoff.updated] at hk
      right
      rw [hoff.now]
      exact (ho.dismiss_after k u hk e he hm).trans hdue
    · intro a ha info hinfo _
      -- An update that is still pending would be due before the dismissal.
      exfalso
      obtain ha | rfl := hoff.mem a ha
      · have hmem : a ∈ p.queue := hqueue ▸ List.mem_cons_of_mem _ ha
        obtain ⟨-, hbefore⟩ := h.dropped a hmem info hinfo (hsafe hshowing info.event)
        have hle := (List.pairwise_cons.mp (hqueue ▸ ho.inOrder.sorted)).1 a ha
        exact absurd (hbefore e he hm) (Nat.not_lt.mpr hle)
      · cases hinfo
  · have hfalse : p.showing = false := Bool.eq_false_iff.mpr hshowing
    rw [Plugin.handleDismiss, setShowing_self (p := { p with queue := rest }) hfalse]
    exact h.pop hqueue (by rw [hm]; rfl)

theorem Kept.handleUpdate (h : p.Kept) (ho : p.Ordered) {e : Timed Message}
    {rest : MessageQueue Message} (hqueue : p.queue = e :: rest) {info : NotificationInfo}
    (hm : e.msg = .dialogUpdate info) (c : Context) :
    ({ p with queue := rest }.handleUpdate info c).Kept := by
  have he : e ∈ p.queue := hqueue ▸ List.mem_cons_self
  have hpop := h.pop hqueue (by rw [hm]; rfl)
  set p₁ : Plugin := { p with
    queue := rest
    lastInfo := some info
    updated := (info.event, p.now) :: p.updated }
  have hkept : p₁.Kept := by
    refine ⟨fun k u hk hshow => ?_, hpop.dropped⟩
    obtain hk | hk := List.mem_cons.mp hk
    · cases hk
      -- Its show message is pending, or the overlay is already on.
      refine .inl (h.dropped e he info hm fun hp => hshow ?_).1
      exact (showPending_pop hqueue (by rw [hm]; rfl)).mpr hp
    · exact hpop.shown k u hk hshow
  have hreset := hkept.handleResetTimeout (ho.pop hqueue).updatesDue
  obtain ⟨hnow, hpulse, -, -, hshowing⟩ := launchDozePulse_frame (p := p₁.handleResetTimeout)
    (c := c)
  refine hreset.congr hpulse hnow hshowing ?_
  exact (replanned_launchDozePulse c).updated

/-- A recreate leaves the overlay as it was, on a new dialog. -/
theorem Kept.handleRecreate (h : p.Kept) (ho : p.Ordered) (c : Context) :
    (p.handleRecreate c).Kept := by
  have hrecreated := ho.updatesDue.replanned (replanned_handleRecreate (c := c))
  unfold Plugin.handleRecreate at hrecreated ⊢
  split
  case isFalse => exact h
  case isTrue hchanged =>
    rw [if_pos hchanged] at hrecreated
    dsimp only at hrecreated ⊢
    have hoff : (p.setShowing false c).showing = false := setShowing_showing false
    by_cases hshowing : p.showing = true
    · rw [if_pos hshowing] at hrecreated ⊢
      refine hrecreated.kept_of_showing ?_ ?_
      · exact setShowing_showing true
      · show ∀ d ∈ (setShowing true c _).queue, _ → d.due = (setShowing true c _).now + _
        rw [(replanned_setShowing true).now]
        exact due_setShowing hoff
    · rw [if_neg hshowing]
      have hself : p.setShowing false c = p := setShowing_self (Bool.eq_false_iff.mpr hshowing)
      refine h.congr ?_ ?_ ?_ ?_ <;> rw [hself]

theorem Kept.post (h : p.Kept) {m : Message} (hupdate : ∀ info, m ≠ .dialogUpdate info)
    (hdismiss : m ≠ .dialogDismiss) : (p.post m 0).Kept where
  shown := fun k u hk hshow =>
    h.shown k u hk fun hp => hshow (hp.mono fun _ ha => mem_post ha m 0)
  dropped := fun e he info hm hshow => by
    obtain rfl | he := MessageQueue.mem_enqueue.mp he
    · exact absurd hm (hupdate info)
    obtain ⟨hshowing, hbefore⟩ := h.dropped e he info hm
      fun hp => hshow (hp.mono fun _ ha => mem_post ha m 0)
    refine ⟨hshowing, fun d hd hd' => ?_⟩
    obtain rfl | hd := MessageQueue.mem_enqueue.mp hd
    · exact absurd hd' hdismiss
    · exact hbefore d hd hd'

theorem Kept.elapse (h : p.Kept) (ms : ℕ) : Kept { p with now := p.now + ms } where
  shown := fun k u hk hshow =>
    (h.shown k u hk hshow).imp_right fun hle => Nat.le_add_right_of_le hle
  dropped := h.dropped

/-! ### Every run -/

/-- Every broadcast is waiting for its update or has had it. -/
def Accounted (p : Plugin) : Prop :=
  ∀ info ∈ p.sent, p.UpdatePending info.event ∨ ∃ u, (info.event, u) ∈ p.updated

theorem Accounted.replanned (h : p.Accounted) (hr : Replanned p p') : p'.Accounted := by
  intro info hinfo
  rw [hr.sent] at hinfo
  rw [hr.updated]
  refine (h info hinfo).imp_left ?_
  rintro ⟨e, he, info', hm, heq⟩
  exact ⟨e, hr.update_mem e he info' hm, info', hm, heq⟩

/-- The broadcast whose update is handled is recorded, the others wait as before. -/
theorem Accounted.handleUpdate (h : p.Accounted) {e : Timed Message}
    {rest : MessageQueue Message} (hqueue : p.queue = e :: rest) {info : NotificationInfo}
    (hm : e.msg = .dialogUpdate info) (c : Context) :
    ({ p with queue := rest }.handleUpdate info c).Accounted := by
  have hrecorded : Accounted { p with
      queue := rest
      lastInfo := some info
      updated := (info.event, p.now) :: p.updated } := by
    intro info' hinfo'
    obtain ⟨a, ha, info'', hm', heq⟩ | ⟨u, hu⟩ := h info' hinfo'
    · rw [hqueue] at ha
      obtain rfl | ha := List.mem_cons.mp ha
      · rw [hm] at hm'
        cases hm'
        exact .inr ⟨p.now, heq ▸ List.mem_cons_self⟩
      · exact .inl ⟨a, ha, info'', hm', heq⟩
    · exact .inr ⟨u, List.mem_cons_of_mem _ hu⟩
  refine hrecorded.replanned (replanned_handleResetTimeout.trans ?_)
  unfold Plugin.handleUpdate launchDozePulse
  dsimp only
  split <;> exact .of_queue_eq rfl rfl rfl rfl rfl fun _ => rfl

structure Newest (p : Plugin) : Prop where
  overlaid : p.Overlaid
  ordered : p.Ordered
  kept : p.Kept
  accounted : p.Accounted

theorem Newest.newestShown (h : p.Newest) : p.NewestShown := by
  intro info hinfo hupdate hshow
  obtain hpending | ⟨u, hu⟩ := h.accounted info hinfo
  · exact absurd hpending hupdate
  obtain hshowing | hover := h.kept.shown info.event u hu hshow
  · obtain ⟨latest, hlatest, hle, hlast⟩ := h.ordered.latest info.event u hu
    exact .inl ⟨h.overlaid.visible.trans hshowing, latest, hlatest, hle,
      h.ordered.state.trans hlast⟩
  · exact .inr ⟨u, hu, hover⟩

theorem Newest.dispatch (h : p.Newest) (c : Context) (hs : p.DismissSafe (.dispatch c)) :
    (p.dispatch c).Newest := by
  suffices hrest : (p.dispatch c).Ordered ∧ (p.dispatch c).Kept ∧ (p.dispatch c).Accounted from
    ⟨h.overlaid.dispatch c, hrest.1, hrest.2.1, hrest.2.2⟩
  unfold Plugin.dispatch
  cases hnext : p.queue.next? p.now with
  | none => exact ⟨h.ordered, h.kept, h.accounted⟩
  | some next =>
      obtain ⟨e, rest⟩ := next
      obtain ⟨hqueue, hdue⟩ := MessageQueue.next?_eq_some.mp hnext
      have hpop := h.ordered.pop hqueue
      -- A message other than an update leaves every update in the queue.
      have haccounted (hm : ∀ info, e.msg ≠ .dialogUpdate info) :
          Accounted { p with queue := rest } := by
        intro info hinfo
        refine (h.accounted info hinfo).imp_left ?_
        rintro ⟨a, ha, info', hm', heq⟩
        rw [hqueue] at ha
        obtain rfl | ha := List.mem_cons.mp ha
        · exact absurd hm' (hm info')
        · exact ⟨a, ha, info', hm', heq⟩
      dsimp only
      cases hm : e.msg with
      | dialogShow event =>
          have hr := replanned_setShowing (p := { p with queue := rest }) (c := c) true
          exact ⟨hpop.replanned hr, h.kept.handleShow h.ordered hqueue hm c,
            (haccounted (by simp [hm])).replanned hr⟩
      | dialogDismiss =>
          have hr := replanned_setShowing (p := { p with queue := rest }) (c := c) false
          exact ⟨hpop.replanned hr,
            h.kept.handleDismiss h.ordered hqueue hdue hm (hs e rest hnext hm) c,
            (haccounted (by simp [hm])).replanned hr⟩
      | dialogReset =>
          exact ⟨hpop.replanned replanned_handleResetTimeout,
            (h.kept.pop hqueue (by rw [hm]; rfl)).handleResetTimeout hpop.updatesDue,
            (haccounted (by simp [hm])).replanned replanned_handleResetTimeout⟩
      | dialogUpdate info =>
          exact ⟨h.ordered.update hqueue hm c, h.kept.handleUpdate h.ordered hqueue hm c,
            h.accounted.handleUpdate hqueue hm c⟩
      | dialogRecreate =>
          exact ⟨hpop.replanned replanned_handleRecreate,
            (h.kept.pop hqueue (by rw [hm]; rfl)).handleRecreate hpop c,
            (haccounted (by simp [hm])).replanned replanned_handleRecreate⟩

/-- The update and the show message of a new broadcast wait together. -/
theorem Newest.onSliderChanged (h : p.Newest) (position mode : Option Int) (gap : ℕ) :
    (p.onSliderChanged position mode gap).Newest := by
  suffices hrest : (p.onSliderChanged position mode gap).Ordered ∧
      (p.onSliderChanged position mode gap).Kept ∧
      (p.onSliderChanged position mode gap).Accounted from
    ⟨h.overlaid.onSliderChanged position mode gap, hrest.1, hrest.2.1, hrest.2.2⟩
  unfold Plugin.onSliderChanged
  split
  · exact ⟨h.ordered, h.kept, h.accounted⟩
  generalize hinfo : NotificationInfo.mk _ _ _ = info
  have hevent : info.event = p.sent.length := by rw [← hinfo]
  have hfirst : ¬p.ShowPending info.event := by
    rintro ⟨a, ha, hm⟩
    have hlt := (h.ordered.posted a ha (2 * info.event + 1) (by rw [hm]; rfl)).2
    omega
  dsimp only
  set p₁ : Plugin := { p.post (.dialogUpdate info) 0 with
    now := p.now + gap
    sent := p.sent ++ [info] } with hp₁
  have hordered : p₁.Ordered := (h.ordered.postUpdate hevent).elapse gap
  have hnot : ¬p₁.ShowPending info.event := by
    rintro ⟨a, ha, hm⟩
    obtain rfl | ha := MessageQueue.mem_enqueue.mp ha
    · cases hm
    · exact hfirst ⟨a, ha, hm⟩
  have hkept (a : Timed Message) (ha : a ∈ p.queue) :
      a ∈ (p₁.post (.dialogShow info.event) 0).queue :=
    mem_post (p := p₁) (mem_post ha (.dialogUpdate info) 0) _ 0
  refine ⟨hordered.postShow (by simp [hp₁, hevent]) hnot, ?_, ?_⟩
  · -- Only the new update needs its show message.
    have hold (k : ℕ) (hp : p.ShowPending k) :
        (p₁.post (.dialogShow info.event) 0).ShowPending k := hp.mono hkept
    constructor
    · intro k u hk hshow
      exact (h.kept.shown k u hk fun hp => hshow (hold k hp)).imp_right
        fun hle => Nat.le_add_right_of_le hle
    · intro e he info' hm hshow
      obtain rfl | he := MessageQueue.mem_enqueue.mp he
      · cases hm
      obtain rfl | he := MessageQueue.mem_enqueue.mp he
      · cases hm
        exact absurd ⟨_, MessageQueue.mem_enqueue.mpr (.inl rfl), rfl⟩ hshow
      obtain ⟨hshowing, hbefore⟩ := h.kept.dropped e he info' hm fun hp => hshow (hold _ hp)
      refine ⟨hshowing, fun d hd hd' => ?_⟩
      obtain rfl | hd := MessageQueue.mem_enqueue.mp hd
      · cases hd'
      obtain rfl | hd := MessageQueue.mem_enqueue.mp hd
      · cases hd'
      · exact hbefore d hd hd'
  · intro info' hinfo'
    obtain hinfo' | hinfo' := List.mem_append.mp hinfo'
    · exact (h.accounted info' hinfo').imp_left fun hp => hp.mono hkept
    · rw [List.mem_singleton.mp hinfo']
      exact .inl ⟨_, MessageQueue.mem_enqueue.mpr (.inr (MessageQueue.mem_enqueue.mpr (.inl rfl))),
        info, rfl, rfl⟩

theorem Newest.step (h : p.Newest) (i : Input) (hs : p.DismissSafe i) : (p.step i).Newest := by
  cases i with
  | sliderChanged position mode gap => exact h.onSliderChanged position mode gap
  | configurationChanged =>
      refine ⟨h.overlaid.post rfl 0, h.ordered.onConfigurationChanged,
        h.kept.post (fun _ hm => nomatch hm) (fun hm => nomatch hm), fun info hinfo => ?_⟩
      exact (h.accounted info hinfo).imp_left fun hp => hp.mono fun _ ha => mem_post ha _ 0
  | elapse ms =>
      exact ⟨h.overlaid.elapse ms, h.ordered.elapse ms, h.kept.elapse ms, h.accounted⟩
  | dispatch c => exact h.dispatch c hs

theorem newest_onCreate (now : ℕ) (configuration : Configuration) :
    (onCreate now configuration).Newest where
  overlaid := overlaid_onCreate now configuration
  ordered :=
    { inOrder := ⟨.nil, .nil⟩
      posted := fun _ he => absurd he List.not_mem_nil
      update_sent := fun _ he => absurd he List.not_mem_nil
      updated_le := fun _ _ hk => absurd hk List.not_mem_nil
      updated_before := fun _ _ hk => absurd hk List.not_mem_nil
      updated_lt := fun _ _ hk => absurd hk List.not_mem_nil
      dismiss_after := fun _ _ hk => absurd hk List.not_mem_nil
      state := rfl
      latest := fun _ _ hk => absurd hk List.not_mem_nil }
  kept := ⟨fun _ _ hk => absurd hk List.not_mem_nil, fun _ he => absurd he List.not_mem_nil⟩
  accounted := fun _ hinfo => absurd hinfo List.not_mem_nil

/-- In a run in which no dismissal drops a show message, every broadcast whose messages
have left the queue is on the screen, or a later one is, until its time is over. -/
theorem newest_shown (now : ℕ) (configuration : Configuration) (is : List Input)
    (hs : Machine.Along step DismissSafe (onCreate now configuration) is) :
    (Machine.run step (onCreate now configuration) is).NewestShown :=
  (Machine.Along.invariant (I := Newest) (fun _ i h hs => h.step i hs)
    (newest_onCreate now configuration) hs).newestShown

/-- A dismissal that is due when the second broadcast comes: the overlay goes off, and the
second broadcast is never shown. -/
theorem newest_lost :
    let c : Context := ⟨⟨420, 0, 411, 17⟩, true⟩
    let first := [.sliderChanged (some POSITION_TOP) (some 0) 0, .dispatch c, .dispatch c]
    let second := [.sliderChanged (some POSITION_BOTTOM) (some 2) 1, .dispatch c, .dispatch c,
      .dispatch c]
    let p := Machine.run step (onCreate 0 c.configuration) (first ++ .elapse 3000 :: second)
    p.now = 3001 ∧ p.queue = [⟨6001, .dialogDismiss⟩] ∧ p.updated = [(1, 3001), (0, 0)] ∧
      p.dialog.isShowing = false ∧ ¬p.NewestShown := by
  refine ⟨rfl, rfl, rfl, rfl, fun h => ?_⟩
  generalize hp : Machine.run step _ _ = p at h
  have hqueue : p.queue = [⟨6001, .dialogDismiss⟩] := by
    rw [← hp]
    rfl
  have hsent : ⟨POSITION_BOTTOM, 2, 1⟩ ∈ p.sent := by
    rw [← hp, show Plugin.sent (Machine.run step _ _) =
      [⟨POSITION_TOP, 0, 0⟩, ⟨POSITION_BOTTOM, 2, 1⟩] from rfl]
    exact List.mem_cons_of_mem _ List.mem_cons_self
  have hupdate : ¬p.UpdatePending 1 := by
    rintro ⟨e, he, info, hm, -⟩
    rw [hqueue, List.mem_singleton] at he
    rw [he] at hm
    cases hm
  have hshow : ¬p.ShowPending 1 := by
    rintro ⟨e, he, hm⟩
    rw [hqueue, List.mem_singleton] at he
    rw [he] at hm
    cases hm
  obtain ⟨hshown, -⟩ | ⟨u, hu, hle⟩ := h ⟨POSITION_BOTTOM, 2, 1⟩ hsent hupdate hshow
  · rw [← hp] at hshown
    exact absurd hshown Bool.false_ne_true
  · rw [← hp] at hu hle
    have hmem : (1, u) ∈ [(1, 3001), (0, 0)] := hu
    obtain rfl : u = 3001 := by simpa using hmem
    exact absurd hle (by decide)

/-- Two broadcasts a second apart. -/
theorem newest_shown_twice :
    let c : Context := ⟨⟨420, 0, 411, 17⟩, true⟩
    NewestShown (Machine.run step (onCreate 0 c.configuration)
      [.sliderChanged (some POSITION_TOP) (some 0) 0, .dispatch c, .dispatch c, .elapse 1000,
        .sliderChanged (some POSITION_BOTTOM) (some 2) 1, .dispatch c, .dispatch c]) := by
  refine newest_shown _ _ _ ⟨trivial, ?_, ?_, trivial, trivial, ?_, ?_, trivial⟩
  all_goals
    intro e rest hnext hm
    cases hnext
    cases hm

end Plugin

end OneplusHal.AlertSlider
