import OneplusHal.Face.Operations

/-!
Frames and deadlines.

An operation gives up five seconds or a minute after its loop began, and every call of its
loop is made with that deadline. `nextFrame` looks at the deadline and at the cancellation
only after a wait, so a call that finds a frame waiting hands it out however late it comes.
Everything an operation does with a frame is in time exactly if no call of its loop comes
too late while a frame is waiting.
-/

namespace OneplusHal.Face

open OneplusHal

/-- When an operation whose camera starts at `start` has to give up, if it uses the camera:
`kAuthTimeout` or `kEnrollTimeout` after its loop begins. -/
def Op.deadline : Op → Time → Option Time
  | .authenticate io, start => some (io.deadline start)
  | .enroll _ _ io, start => some (io.deadline start)
  | _, _ => none

/-- The call of `nextFrame` comes after the cancellation, or when the operation that left
these events had to give up already. -/
def Late (op : Op) (evs : List Event) (f : Fetch) : Prop :=
  f.cancelled = true ∨
    ∃ start d, .cameraStarted start true ∈ evs ∧ op.deadline start = some d ∧ d ≤ f.time

/-- No frame is handed out or used that was fetched at or past the deadline or after the
cancellation, and a success comes from a frame that was used. -/
structure Timely (op : Op) (evs : List Event) : Prop where
  returned : ∀ f, .nextFrame f true ∈ evs → ¬Late op evs f
  handled : ∀ e ∈ evs, ∀ f, e.frame = some f → ¬Late op evs f
  succeeded : ∀ id, .callback (.onAuthenticationSucceeded id) ∈ evs →
    ∃ f t, .accepted f t ∈ evs ∧ ¬Late op evs f
  enrolled : ∀ id, .callback (.onEnrollmentProgress id 0) ∈ evs →
    ∃ f a, .captured f a ∈ evs ∧ ¬Late op evs f

/-- No call of `nextFrame` comes too late while a frame is waiting. -/
def NoLateFrame (op : Op) (evs : List Event) : Prop :=
  ∀ f returned, .nextFrame f returned ∈ evs → ¬(Late op evs f ∧ f.waiting = true)

/-- The camera is started once, and the operation has to give up at `d` then. -/
def HasDeadline (op : Op) (evs : List Event) (d : Time) : Prop :=
  ∃ start, (∀ t ok, .cameraStarted t ok ∈ evs ↔ t = start ∧ ok = true) ∧
    op.deadline start = some d

/-- What holds of the trace of every operation: its calls have the deadline of the operation,
frames are fetched before they are used, and a success comes from a frame that was used. -/
structure Traced (op : Op) (evs : List Event) : Prop where
  fetched : ∀ f r, .nextFrame f r ∈ evs → ∃ d, HasDeadline op evs d ∧ f.Valid d r
  handled : ∀ e ∈ evs, ∀ f, e.frame = some f → .nextFrame f true ∈ evs
  succeeded : ∀ id, .callback (.onAuthenticationSucceeded id) ∈ evs → ∃ f t, .accepted f t ∈ evs
  enrolled : ∀ id, .callback (.onEnrollmentProgress id 0) ∈ evs → ∃ f a, .captured f a ∈ evs

/-- A call made with the deadline of the operation is late exactly if it is by its own. -/
theorem late_iff_stale {op : Op} {evs : List Event} {f : Fetch}
    (h : HasDeadline op evs f.deadline) : Late op evs f ↔ f.Stale := by
  obtain ⟨start, hstart, hdeadline⟩ := h
  constructor
  · rintro (hcancelled | ⟨t, d, ht, hd, hle⟩)
    · exact .inr hcancelled
    · obtain ⟨rfl, -⟩ := (hstart t true).mp ht
      obtain rfl := Option.some.inj (hd.symm.trans hdeadline)
      exact .inl hle
  · rintro (hle | hcancelled)
    · exact .inr ⟨start, f.deadline, (hstart start true).mpr ⟨rfl, rfl⟩, hdeadline, hle⟩
    · exact .inl hcancelled

theorem Traced.hasDeadline {op : Op} {evs : List Event} (h : Traced op evs) {f : Fetch} {r : Bool}
    (hf : .nextFrame f r ∈ evs) : HasDeadline op evs f.deadline := by
  obtain ⟨d, hd, hvalid⟩ := h.fetched f r hf
  rw [hvalid.deadline]
  exact hd

/-- A call came back with a frame only in time, unless one was waiting when it came late. -/
theorem Traced.returned_iff {op : Op} {evs : List Event} (h : Traced op evs) {f : Fetch}
    {r : Bool} (hf : .nextFrame f r ∈ evs) :
    (r = true → ¬Late op evs f) ↔ ¬(Late op evs f ∧ f.waiting = true) := by
  rw [late_iff_stale (h.hasDeadline hf)]
  obtain ⟨d, -, hvalid⟩ := h.fetched f r hf
  exact hvalid.timely_iff

theorem Traced.timely_iff {op : Op} {evs : List Event} (h : Traced op evs) :
    Timely op evs ↔ NoLateFrame op evs := by
  constructor
  · intro htimely f returned hf
    refine (h.returned_iff hf).mp fun hreturned => ?_
    subst hreturned
    exact htimely.returned f hf
  · intro hnone
    have hreturned (f : Fetch) (hf : .nextFrame f true ∈ evs) : ¬Late op evs f :=
      (h.returned_iff hf).mpr (hnone f true hf) rfl
    have hhandled (e : Event) (he : e ∈ evs) (f : Fetch) (hf : e.frame = some f) :
        ¬Late op evs f :=
      hreturned f (h.handled e he f hf)
    refine ⟨hreturned, hhandled, ?_, ?_⟩
    · intro id hid
      obtain ⟨f, t, ht⟩ := h.succeeded id hid
      exact ⟨f, t, ht, hhandled _ ht f rfl⟩
    · intro id hid
      obtain ⟨f, a, hf⟩ := h.enrolled id hid
      exact ⟨f, a, hf, hhandled _ hf f rfl⟩

/-- Events that are neither about a frame nor about a success. -/
def Event.IsPlain (e : Event) : Prop :=
  (∀ f r, e ≠ .nextFrame f r) ∧ e.frame = none ∧
    (∀ id, e ≠ .callback (.onAuthenticationSucceeded id)) ∧
      ∀ id, e ≠ .callback (.onEnrollmentProgress id 0)

theorem Traced.of_plain {op : Op} {evs : List Event} (h : ∀ e ∈ evs, e.IsPlain) :
    Traced op evs where
  fetched f r hf := absurd rfl ((h _ hf).1 f r)
  handled e he f hf := by simp [(h e he).2.1] at hf
  succeeded id hid := absurd rfl ((h _ hid).2.2.1 id)
  enrolled id hid := absurd rfl ((h _ hid).2.2.2 id)

/-- The events of a loop between the start of the camera and what follows its stop. -/
theorem Traced.of_loop {op : Op} {start deadline : Time} {evs after : List Event}
    (h : LoopEvents deadline evs) (hdeadline : op.deadline start = some deadline)
    (hafter : ∀ e ∈ after,
      (∀ f r, e ≠ .nextFrame f r) ∧ e.frame = none ∧ ∀ t ok, e ≠ .cameraStarted t ok)
    (hloop : ∀ c, .callback c ∈ evs → (∀ id, c ≠ .onAuthenticationSucceeded id) ∧
      ∀ id, c ≠ .onEnrollmentProgress id 0)
    (hsucceeded : ∀ id, .callback (.onAuthenticationSucceeded id) ∈ after →
      ∃ f t, .accepted f t ∈ evs)
    (henrolled : ∀ id, .callback (.onEnrollmentProgress id 0) ∈ after →
      ∃ f a, .captured f a ∈ evs) :
    Traced op (.cameraStarted start true :: (evs ++ after)) := by
  have hmem (e : Event) : e ∈ .cameraStarted start true :: (evs ++ after) ↔
      e = .cameraStarted start true ∨ e ∈ evs ∨ e ∈ after := by
    simp
  have hstart (t : Time) (ok : Bool) :
      .cameraStarted t ok ∈ .cameraStarted start true :: (evs ++ after) ↔
        t = start ∧ ok = true := by
    rw [hmem]
    constructor
    · rintro (hstart | hin | hin)
      · exact Event.cameraStarted.inj hstart
      · exact absurd hin (h.camera t ok)
      · exact absurd rfl ((hafter _ hin).2.2 t ok)
    · rintro ⟨rfl, rfl⟩
      exact .inl rfl
  constructor
  · intro f r hf
    rcases (hmem _).mp hf with hf | hf | hf
    · cases hf
    · exact ⟨deadline, ⟨start, hstart, hdeadline⟩, h.fetched f r hf⟩
    · exact absurd rfl ((hafter _ hf).1 f r)
  · intro e he f hf
    rcases (hmem _).mp he with rfl | he | he
    · cases hf
    · exact (hmem _).mpr (.inr (.inl (h.handled e he f hf)))
    · simp [(hafter e he).2.1] at hf
  · intro id hid
    rcases (hmem _).mp hid with hid | hid | hid
    · cases hid
    · exact absurd rfl ((hloop _ hid).1 id)
    · obtain ⟨f, t, ht⟩ := hsucceeded id hid
      exact ⟨f, t, (hmem _).mpr (.inr (.inl ht))⟩
  · intro id hid
    rcases (hmem _).mp hid with hid | hid | hid
    · cases hid
    · exact absurd rfl ((hloop _ hid).2 id)
    · obtain ⟨f, a, hf⟩ := henrolled id hid
      exact ⟨f, a, (hmem _).mpr (.inr (.inl hf))⟩

/-! ### The operations -/

theorem Attempt.traced {user : Int32} {io : AuthenticateIO} {s s' : State}
    (h : Attempt user io s s') (hs : s.world.trace = []) :
    Traced (.authenticate io) s'.world.trace := by
  cases h with
  | terminated load =>
      refine .of_plain ?_
      simp [State.terminate, hs, Event.IsPlain, Event.frame]
  | refused keeps refusal trace =>
      rw [trace, hs]
      refine .of_plain ?_
      rcases refusal with rfl | ⟨ms, rfl⟩ | ⟨er, rfl⟩ <;> simp [Event.IsPlain, Event.frame]
  | frameless load admitted keeps trace =>
      rw [trace, hs]
      refine .of_plain ?_
      split <;> simp [Event.IsPlain, Event.frame]
  | @ran e s₁ s₂ evs matched compared error failElapsed load admitted keeps trace loop =>
      have hreports (c : Callback) (hc : .callback c ∈ evs) :
          (∀ id, c ≠ .onAuthenticationSucceeded id) ∧ ∀ id, c ≠ .onEnrollmentProgress id 0 := by
        obtain ⟨info, rfl⟩ := loop.reports c hc
        simp
      obtain ⟨cs, htrace, hsucceeded, henrolled⟩ := (conclude_conclusion s₂ user e.enrollmentId
        failElapsed matched compared error).trace
      have hsplit : (s₂.conclude user e.enrollmentId failElapsed matched compared error).world.trace
          = .cameraStarted s₁.world.now true :: (evs ++ .cameraStopped :: cs.map .callback) := by
        rw [htrace, trace, hs]
        simp
      rw [hsplit]
      refine .of_loop loop.events rfl ?_ hreports ?_ ?_
      · simp [Event.frame]
      · intro id hid
        exact loop.matched_iff.mp (hsucceeded id (by simpa using hid)).1
      · intro id hid
        exact absurd (by simpa using hid) (henrolled id 0)

theorem Enrolling.traced {user : Int32} {io : EnrollIO} {s s' : State}
    (h : Enrolling user io s s') (hs : s.world.trace = []) (challenge : Int64) (preview : Bool) :
    Traced (.enroll challenge preview io) s'.world.trace := by
  have hreports {stAuth : Bool} {deadline : Time} {evs : List Event} {captured : Prop}
      (hloop : EnrollLoop stAuth deadline evs captured) (c : Callback)
      (hc : .callback c ∈ evs) :
      (∀ id, c ≠ .onAuthenticationSucceeded id) ∧ ∀ id, c ≠ .onEnrollmentProgress id 0 := by
    rcases hloop.reports c hc with ⟨info, stage, rfl⟩ | ⟨id, remaining, hpos, rfl⟩
    · simp
    · refine ⟨by simp, fun id' heq => ?_⟩
      rw [(Callback.onEnrollmentProgress.inj heq).2] at hpos
      exact lt_irrefl 0 hpos.1
  cases h with
  | terminated load =>
      refine .of_plain ?_
      simp [State.terminate, hs, Event.IsPlain, Event.frame]
  | refused keeps trace =>
      rw [trace, hs]
      exact .of_plain (by simp [Event.IsPlain, Event.frame])
  | frameless load vacant keeps shrinks trace =>
      rw [trace, hs]
      refine .of_plain ?_
      split <;> simp [Event.IsPlain, Event.frame]
  | @failed _ _ _ t evs _ er load vacant keeps failure loop trace =>
      rw [trace, hs, List.nil_append]
      refine .of_loop loop.events rfl ?_ (hreports loop) ?_ ?_ <;> simp [Event.frame]
  | @finished _ _ _ t evs _ load vacant keeps success loop hcaptured trace =>
      rw [trace, hs, List.nil_append]
      refine .of_loop loop.events rfl ?_ (hreports loop) ?_ fun _ _ => ?_
      · simp [Event.frame]
      · simp
      · obtain ⟨f, a, hf, -⟩ := loop.captured hcaptured
        exact ⟨f, a, hf⟩

theorem Event.IsAnswer.isPlain {e : Event} (h : e.IsAnswer) : e.IsPlain := by
  rcases h with ⟨ex, rfl⟩ | ⟨c, rfl, hc⟩
  · simp [Event.IsPlain, Event.frame]
  · refine ⟨by simp, rfl, ?_, ?_⟩
    · rintro id h
      cases h
      exact Bool.false_ne_true hc
    · rintro id h
      cases h
      exact Bool.false_ne_true hc

theorem runOp_traced (i : ℕ) (session : Session) (op : Op) {s : State}
    (hs : s.world.trace = []) : Traced op (runOp i session op s).world.trace := by
  by_cases hplain : op.IsPlain
  · obtain ⟨e, he, htrace⟩ := (runOp_answered hplain i session s).trace
    rw [htrace, hs]
    refine .of_plain fun d hd => ?_
    rw [List.mem_singleton.mp hd]
    exact he.isPlain
  · cases op with
    | enroll challenge preview io =>
        exact (doEnroll_enrolling session challenge preview io s).traced hs challenge preview
    | authenticate io => exact (doAuthenticate_attempt session.mUserId io s).traced hs
    | resetLockout =>
        refine .of_plain ?_
        simp [runOp, State.eraseLockout, State.setLockout, hs, Event.IsPlain, Event.frame]
    | _ => exact absurd ⟨by simp, by simp, by simp⟩ hplain

theorem step_traced (s : State) (i : ℕ) (op : Op) :
    Traced op (step s (.op i op)).world.trace := by
  simp only [step]
  split
  · exact .of_plain (by simp [State.begin])
  · exact runOp_traced i _ op rfl

/-- `nextFrame` hands out a frame too late exactly if one is waiting then. The calls of every
operation of any session are made with the deadline five seconds, or for an enrollment a
minute, after its loop began, and the operation is in time exactly if none of its calls
comes too late while a frame is waiting. -/
theorem operation_timely_iff (deadline : Time) (waits : List Gap) (w : World) (s : State) (i : ℕ)
    (op : Op) :
    (((w.nextFrame deadline waits).1.isSome = true → ¬(w.fetch deadline).Stale) ↔
      ¬((w.fetch deadline).Stale ∧ w.camera.frameWaiting = true)) ∧
      (∀ f returned, .nextFrame f returned ∈ (step s (.op i op)).world.trace →
        HasDeadline op (step s (.op i op)).world.trace f.deadline) ∧
      (Timely op (step s (.op i op)).world.trace ↔
        NoLateFrame op (step s (.op i op)).world.trace) :=
  ⟨(w.nextFrame_valid deadline waits).timely_iff, fun _ _ hf => (step_traced s i op).hasDeadline hf,
    (step_traced s i op).timely_iff⟩

/-- An authentication in which a matching frame is waiting when its deadline is reached. -/
def AuthenticateIO.late : AuthenticateIO :=
  { AuthenticateIO.quiet with
    cv := [⟨{ events := [.imageAvailable (some [128])], elapsed := kAuthTimeout }, [],
      ⟨.clear, 0, .alike⟩⟩] }

/-- It is handed out, compared and reported as a success. -/
theorem late_frame_succeeds :
    let s := step (State.withUser false false) (.op 0 (.authenticate .late))
    .onAuthenticationSucceeded 1 ∈ s.callbacks ∧ ¬Timely (.authenticate .late) s.world.trace := by
  intro s
  refine ⟨by decide +kernel, fun h => ?_⟩
  have hlate : (s.world.trace.any fun e => e.fetched?.any fun f => decide f.Stale) = true := by
    decide +kernel
  obtain ⟨e, he, hany⟩ := List.any_eq_true.mp hlate
  obtain ⟨f, hf, hstale⟩ := (Option.any_eq_true _ _).mp hany
  obtain rfl := Event.of_fetched? hf
  have hdeadline :=
    (step_traced (State.withUser false false) 0 (.authenticate .late)).hasDeadline he
  exact h.returned f he ((late_iff_stale hdeadline).mpr (of_decide_eq_true hstale))

end OneplusHal.Face
