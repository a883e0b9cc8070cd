import OneplusHal.Face.World

/-!
Rules for `nextFrame` and for the capture loops.

A loop is judged by the events it leaves and by its local variables, so the rule is
stated for predicates on the two. Every `nextFrame` call leaves one event, and
`Fetch.Valid` is what that event says about the call: its deadline is the one of the loop,
and whether a frame comes back at or past it, or after the cancellation, depends only on
whether one was waiting.
-/

namespace OneplusHal.Face

open OneplusHal

/-! ### Frame lemmas -/

namespace World

@[simp] theorem trace_log (w : World) (e : Event) : (w.log e).trace = w.trace ++ [e] := rfl

@[simp] theorem trace_emit (w : World) (c : Callback) :
    (w.emit c).trace = w.trace ++ [.callback c] := rfl

@[simp] theorem trace_tick (w : World) (n : ℕ) : (w.tick n).trace = w.trace := rfl

@[simp] theorem now_tick (w : World) (n : ℕ) : (w.tick n).now = w.now + n := rfl

@[simp] theorem now_log (w : World) (e : Event) : (w.log e).now = w.now := rfl

@[simp] theorem trace_pass (w : World) (g : Gap) : (w.pass g).trace = w.trace := rfl

@[simp] theorem now_pass (w : World) (g : Gap) : (w.pass g).now = w.now + g.elapsed := rfl

@[simp] theorem cancelled_pass (w : World) (g : Gap) :
    (w.pass g).cancelled = (w.cancelled || g.cancel) := rfl

@[simp] theorem trace_stopCamera (w : World) :
    w.stopCamera.trace = w.trace ++ [.cameraStopped] := rfl

@[simp] theorem now_stopCamera (w : World) : w.stopCamera.now = w.now := rfl

@[simp] theorem trace_startCamera (w : World) (preview : Bool) (io : StartIO) :
    (w.startCamera preview io).2.trace =
      w.trace ++ [.cameraStarted w.now (w.startCamera preview io).1] := rfl

@[simp] theorem now_startCamera (w : World) (preview : Bool) (io : StartIO) :
    (w.startCamera preview io).2.now = w.now := rfl

/-- The log of a use of the camera, from its start to its stop. -/
theorem trace_cameraUse {w w' : World} {preview : Bool} {io : StartIO} {elapsed : ℕ}
    {evs : List Event} (hok : (w.startCamera preview io).1 = true)
    (h : w'.trace = ((w.startCamera preview io).2.tick elapsed).trace ++ evs) :
    w'.stopCamera.trace = w.trace ++ .cameraStarted w.now true :: (evs ++ [.cameraStopped]) := by
  rw [trace_stopCamera, h, trace_tick, trace_startCamera, hok]
  simp

/-- The camera source has neither a frame nor a failure to report. -/
def idle (w : World) : Bool := !w.camera.mFrameAvailable && !w.camera.mFailed

theorem awaitFrame_nil {deadline : Time} {w : World} (h : w.idle = true) :
    awaitFrame deadline [] w = (none, { w with now := max w.now deadline }) :=
  if_pos h

theorem awaitFrame_cons {deadline : Time} {g : Gap} {rest : List Gap} {w : World}
    (h : w.idle = true) :
    awaitFrame deadline (g :: rest) w =
      if (w.pass g).cancelled || deadline ≤ (w.pass g).now then (none, w.pass g)
      else awaitFrame deadline rest (w.pass g) :=
  if_pos h

theorem awaitFrame_of_not_idle {deadline : Time} {waits : List Gap} {w : World}
    (h : w.idle = false) :
    awaitFrame deadline waits w =
      if w.camera.mFailed then (none, w)
      else (some w.camera.mFrame, { w with camera := w.camera.takeFrame }) := by
  have hbusy : ¬(!w.camera.mFrameAvailable && !w.camera.mFailed) = true := by
    rw [idle] at h
    simp [h]
  cases waits with
  | nil => exact if_neg hbusy
  | cons g rest => exact if_neg hbusy

/-- An induction over the waits of one `nextFrame`, for a property of its result. -/
theorem awaitFrame_rule {deadline : Time} {P : World → Option Nv21 × World → Prop}
    (hnil : ∀ w, P w (none, { w with now := max w.now deadline }))
    (hstop : ∀ w g, P w (none, w.pass g))
    (hwait : ∀ w g r, P (w.pass g) r → P w r)
    (hfailed : ∀ w, w.camera.mFailed = true → P w (none, w))
    (htake : ∀ w, w.camera.frameWaiting = true →
      P w (some w.camera.mFrame, { w with camera := w.camera.takeFrame }))
    (waits : List Gap) (w : World) : P w (awaitFrame deadline waits w) := by
  -- Only an idle camera makes the call wait, and then for the first of the gaps left.
  have hbusy (waits : List Gap) (w : World) (hidle : w.idle = false) :
      P w (awaitFrame deadline waits w) := by
    rw [awaitFrame_of_not_idle hidle]
    split
    · exact hfailed w ‹_›
    · have hwaiting : w.camera.frameWaiting = true := by
        simp_all [idle, CameraSource.frameWaiting]
      exact htake w hwaiting
  induction waits generalizing w with
  | nil =>
      cases hidle : w.idle with
      | true => rw [awaitFrame_nil hidle]; exact hnil w
      | false => exact hbusy [] w hidle
  | cons g rest ih =>
      cases hidle : w.idle with
      | true =>
          rw [awaitFrame_cons hidle]
          split
          · exact hstop w g
          · exact hwait w g _ (ih _)
      | false => exact hbusy (g :: rest) w hidle

theorem trace_awaitFrame (deadline : Time) (waits : List Gap) (w : World) :
    (awaitFrame deadline waits w).2.trace = w.trace :=
  awaitFrame_rule (P := fun w r => r.2.trace = w.trace) (fun _ => rfl) (fun _ _ => rfl)
    (fun _ _ _ h => h) (fun _ _ => rfl) (fun _ _ => rfl) waits w

@[simp] theorem trace_nextFrame (deadline : Time) (waits : List Gap) (w : World) :
    (w.nextFrame deadline waits).2.trace =
      w.trace ++ [.nextFrame (w.fetch deadline) (w.nextFrame deadline waits).1.isSome] := by
  simp [nextFrame, trace_awaitFrame]

theorem now_le_awaitFrame (deadline : Time) (waits : List Gap) (w : World) :
    w.now ≤ (awaitFrame deadline waits w).2.now :=
  awaitFrame_rule (P := fun w r => w.now ≤ r.2.now) (fun _ => le_max_left _ _)
    (fun _ _ => Nat.le_add_right _ _) (fun _ _ _ h => (Nat.le_add_right _ _).trans h)
    (fun _ _ => le_rfl) (fun _ _ => le_rfl) waits w

theorem now_le_nextFrame (deadline : Time) (waits : List Gap) (w : World) :
    w.now ≤ (w.nextFrame deadline waits).2.now :=
  now_le_awaitFrame deadline waits w

/-! ### One call of `nextFrame` -/

/-- A call that finds a frame waiting hands it out, whatever the clock says. -/
theorem awaitFrame_of_waiting {deadline : Time} {waits : List Gap} {w : World}
    (h : w.camera.frameWaiting = true) :
    awaitFrame deadline waits w =
      (some w.camera.mFrame, { w with camera := w.camera.takeFrame }) := by
  simp only [CameraSource.frameWaiting, Bool.and_eq_true, Bool.not_eq_true'] at h
  rw [awaitFrame_of_not_idle (by simp [idle, h.1]), h.2]
  rfl

/-- Whatever happens during a wait, a call that came too late is still too late. -/
theorem stale_pass {deadline : Time} {w : World} (h : (w.fetch deadline).Stale) (g : Gap) :
    ((w.pass g).cancelled || decide (deadline ≤ (w.pass g).now)) = true := by
  rcases h with h | h
  · have hle : deadline ≤ w.now + g.elapsed := Nat.le_add_right_of_le h
    simp [hle]
  · have hc : w.cancelled = true := h
    simp [hc]

/-- A call that comes too late and finds no frame waiting returns without one. -/
theorem awaitFrame_of_stale {deadline : Time} {waits : List Gap} {w : World}
    (hstale : (w.fetch deadline).Stale) (hwait : w.camera.frameWaiting = false) :
    (awaitFrame deadline waits w).1 = none := by
  cases hidle : w.idle with
  | true =>
      cases waits with
      | nil => rw [awaitFrame_nil hidle]
      | cons g rest => rw [awaitFrame_cons hidle, if_pos (stale_pass hstale g)]
  | false =>
      have hfailed : w.camera.mFailed = true := by
        revert hwait hidle
        simp only [CameraSource.frameWaiting, idle]
        cases w.camera.mFrameAvailable <;> cases w.camera.mFailed <;> simp
      rw [awaitFrame_of_not_idle hidle, if_pos hfailed]

end World

/-- The call was made with this deadline, and returned a frame only in time, unless a frame
was waiting when it came too late. -/
structure Fetch.Valid (deadline : Time) (f : Fetch) (returned : Bool) : Prop where
  deadline : f.deadline = deadline
  timely_iff : (returned = true → ¬f.Stale) ↔ ¬(f.Stale ∧ f.waiting = true)

theorem World.nextFrame_valid (deadline : Time) (waits : List Gap) (w : World) :
    (w.fetch deadline).Valid deadline (w.nextFrame deadline waits).1.isSome := by
  refine ⟨rfl, ?_⟩
  by_cases hstale : (w.fetch deadline).Stale
  · cases hwait : w.camera.frameWaiting with
    | true =>
        have hsome : (w.nextFrame deadline waits).1.isSome = true := by
          rw [nextFrame, awaitFrame_of_waiting hwait]
          rfl
        simp [hsome, fetch, hwait]
    | false =>
        have hnone : (w.nextFrame deadline waits).1 = none := awaitFrame_of_stale hstale hwait
        simp [hnone, fetch, hwait]
  · simp [hstale]

/-! ### What a loop leaves in the trace -/

/-- A call of `nextFrame` that returned a frame. -/
def Event.fetched? : Event → Option Fetch
  | .nextFrame f true => some f
  | _ => none

theorem Event.of_fetched? {e : Event} {f : Fetch} (h : e.fetched? = some f) :
    e = .nextFrame f true := by
  unfold Event.fetched? at h
  split at h
  · cases h
    rfl
  · cases h

/-- The `nextFrame` call that fetched the frame an event is about. -/
def Event.frame : Event → Option Fetch
  | .detected f => some f
  | .compared f _ => some f
  | .accepted f _ => some f
  | .counted f _ => some f
  | .captured f _ => some f
  | _ => none

/-- What every capture loop leaves: all its calls have the one deadline, frames are handled
only after they were fetched, and the camera is neither started anew nor stopped. -/
structure LoopEvents (deadline : Time) (evs : List Event) : Prop where
  fetched : ∀ f r, .nextFrame f r ∈ evs → f.Valid deadline r
  handled : ∀ e ∈ evs, ∀ f, e.frame = some f → .nextFrame f true ∈ evs
  camera : ∀ t ok, .cameraStarted t ok ∉ evs
  running : .cameraStopped ∉ evs

namespace LoopEvents

variable {deadline : Time}

theorem nil : LoopEvents deadline [] where
  fetched := by simp
  handled := by simp
  camera := by simp
  running := by simp

/-- One `nextFrame` call, with what the body makes of its frame. -/
theorem turn {evs new : List Event} {f : Fetch} {r : Bool} (h : LoopEvents deadline evs)
    (hvalid : f.Valid deadline r)
    (hnew : ∀ e ∈ new, (∀ g, e.frame = some g → g = f ∧ r = true) ∧
      (∀ g b, e ≠ .nextFrame g b) ∧ (∀ t ok, e ≠ .cameraStarted t ok) ∧ e ≠ .cameraStopped) :
    LoopEvents deadline (evs ++ .nextFrame f r :: new) where
  fetched := by
    intro g b hg
    rcases List.mem_append.mp hg with hg | hg
    · exact h.fetched g b hg
    · rcases List.mem_cons.mp hg with hg | hg
      · obtain ⟨rfl, rfl⟩ := Event.nextFrame.inj hg
        exact hvalid
      · exact absurd rfl ((hnew _ hg).2.1 g b)
  handled := by
    intro e he g hg
    rcases List.mem_append.mp he with he | he
    · exact List.mem_append_left _ (h.handled e he g hg)
    · rcases List.mem_cons.mp he with rfl | he
      · simp [Event.frame] at hg
      · obtain ⟨rfl, rfl⟩ := (hnew e he).1 g hg
        simp
  camera := by
    intro t ok ht
    rcases List.mem_append.mp ht with ht | ht
    · exact h.camera t ok ht
    · rcases List.mem_cons.mp ht with ht | ht
      · simp at ht
      · exact absurd rfl ((hnew _ ht).2.2.1 t ok)
  running := by
    intro hstop
    rcases List.mem_append.mp hstop with hstop | hstop
    · exact h.running hstop
    · rcases List.mem_cons.mp hstop with hstop | hstop
      · simp at hstop
      · exact absurd rfl (hnew _ hstop).2.2.2

end LoopEvents

/-! ### The loop rule -/

section

variable {α σ : Type} {deadline : Time}
  {body : Fetch → Nv21 → α → World × σ → Bool × World × σ}

/-- The rule for predicates on the events of the loop and its local variables. The events
of a turn begin with the call that fetched its frame; a turn that goes on keeps `I`, and
`Q` follows from `I` when a turn breaks and when a call yields no frame. -/
theorem whileFrames_rule {I Q : List Event → σ → Prop}
    (hbody : ∀ evs x f nv21 a w, I evs x → f.Valid deadline true →
      ∃ new, (body f nv21 a (w, x)).2.1.trace = w.trace ++ new ∧
        ((body f nv21 a (w, x)).1 = false →
          I (evs ++ .nextFrame f true :: new) (body f nv21 a (w, x)).2.2) ∧
        ((body f nv21 a (w, x)).1 = true →
          Q (evs ++ .nextFrame f true :: new) (body f nv21 a (w, x)).2.2))
    (hend : ∀ evs x f, I evs x → f.Valid deadline false → Q (evs ++ [.nextFrame f false]) x)
    (calls : List (Call α)) (w : World) (x : σ) (h : I [] x) :
    ∃ evs, (whileFrames deadline body calls (w, x)).1.trace = w.trace ++ evs ∧
      Q evs (whileFrames deadline body calls (w, x)).2 := by
  -- A turn ends with a call that yields no frame, in the loop or once the turns given are
  -- over, or its frame goes to the body.
  have hnone (v : World) (waits : List Gap) (y : σ) (evs : List Event)
      (htr : v.trace = w.trace ++ evs) (hI : I evs y)
      (hr : (v.nextFrame deadline waits).1 = none) :
      ∃ evs, (v.nextFrame deadline waits).2.trace = w.trace ++ evs ∧ Q evs y := by
    have hvalid := v.nextFrame_valid deadline waits
    rw [hr] at hvalid
    refine ⟨_, ?_, hend evs y _ hI hvalid⟩
    rw [World.trace_nextFrame, hr, htr, List.append_assoc]
    rfl
  have hsome (v : World) (waits : List Gap) (y : σ) (evs : List Event) (nv21 : Nv21) (a : α)
      (htr : v.trace = w.trace ++ evs) (hI : I evs y)
      (hr : (v.nextFrame deadline waits).1 = some nv21) :
      let r := body (v.fetch deadline) nv21 a ((v.nextFrame deadline waits).2, y)
      ∃ evs, r.2.1.trace = w.trace ++ evs ∧ (r.1 = false → I evs r.2.2) ∧
        (r.1 = true → Q evs r.2.2) := by
    have hvalid := v.nextFrame_valid deadline waits
    rw [hr] at hvalid
    obtain ⟨new, hnew, hcont, hbreak⟩ := hbody evs y _ nv21 a (v.nextFrame deadline waits).2 hI
      hvalid
    refine ⟨_, ?_, hcont, hbreak⟩
    rw [hnew, World.trace_nextFrame, hr, htr]
    simp
  refine Loop.foldUntil_rule (I := fun p => ∃ evs, p.1.trace = w.trace ++ evs ∧ I evs p.2)
    (Q := fun p => ∃ evs, p.1.trace = w.trace ++ evs ∧ Q evs p.2) ?_ ?_ ?_ calls (w, x)
    ⟨[], by simp, h⟩
  · rintro c ⟨v, y⟩ ⟨evs, htr, hI⟩ hgo
    simp only [frameStep] at hgo ⊢
    cases hr : ((v.pass c.before).nextFrame deadline c.waits).1 with
    | none => simp [hr] at hgo
    | some nv21 =>
        simp only [hr] at hgo ⊢
        obtain ⟨evs', htr', hcont, -⟩ := hsome (v.pass c.before) c.waits y evs nv21 c.answers htr
          hI hr
        exact ⟨evs', htr', hcont hgo⟩
  · rintro c ⟨v, y⟩ ⟨evs, htr, hI⟩ hstop
    simp only [frameStep] at hstop ⊢
    cases hr : ((v.pass c.before).nextFrame deadline c.waits).1 with
    | none => exact hnone (v.pass c.before) c.waits y evs htr hI hr
    | some nv21 =>
        simp only [hr] at hstop ⊢
        obtain ⟨evs', htr', -, hbreak⟩ := hsome (v.pass c.before) c.waits y evs nv21 c.answers htr
          hI hr
        exact ⟨evs', htr', hbreak hstop⟩
  · rintro ⟨v, y⟩ ⟨evs, htr, hI⟩
    -- The lost camera is not idle, so the call returns at once and without a frame.
    apply hnone (v.pass { events := [.disconnected] }) [] y evs htr hI
    rw [World.nextFrame, World.awaitFrame_of_not_idle (by
      simp [World.idle, World.pass, CameraSource.deliver, CameraSource.onDisconnected])]
    rfl

/-- The rule for a predicate that holds however a turn ends. -/
theorem whileFrames_invariant {I : List Event → σ → Prop}
    (hbody : ∀ evs x f nv21 a w, I evs x → f.Valid deadline true →
      ∃ new, (body f nv21 a (w, x)).2.1.trace = w.trace ++ new ∧
        I (evs ++ .nextFrame f true :: new) (body f nv21 a (w, x)).2.2)
    (hend : ∀ evs x f, I evs x → f.Valid deadline false → I (evs ++ [.nextFrame f false]) x)
    (calls : List (Call α)) (w : World) (x : σ) (h : I [] x) :
    ∃ evs, (whileFrames deadline body calls (w, x)).1.trace = w.trace ++ evs ∧
      I evs (whileFrames deadline body calls (w, x)).2 :=
  whileFrames_rule (fun evs x f nv21 a w hI hvalid =>
    (hbody evs x f nv21 a w hI hvalid).imp fun _ h => ⟨h.1, fun _ => h.2, fun _ => h.2⟩)
    hend calls w x h

/-- The clock does not go back in a loop whose body does not turn it back. -/
theorem now_le_whileFrames
    (hbody : ∀ f nv21 a p, p.1.now ≤ (body f nv21 a p).2.1.now)
    (calls : List (Call α)) (p : World × σ) :
    p.1.now ≤ (whileFrames deadline body calls p).1.now := by
  refine Loop.foldUntil_invariant (I := fun q => p.1.now ≤ q.1.now) ?_ ?_ calls p le_rfl
  · intro c q hq
    have hpass : p.1.now ≤ (q.1.pass c.before).now := hq.trans (Nat.le_add_right _ _)
    have hnext := hpass.trans (World.now_le_nextFrame deadline c.waits _)
    simp only [frameStep]
    split
    · exact hnext
    · exact hnext.trans (hbody _ _ _ (((q.1.pass c.before).nextFrame deadline c.waits).2, q.2))
  · intro q hq
    exact hq.trans (World.now_le_nextFrame deadline [] (q.1.pass { events := [.disconnected] }))

end

end OneplusHal.Face
