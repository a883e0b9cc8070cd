import OneplusHal.Face.Operations

/-!
Failing SDK calls on the cv engine.

A call of the SDK that fails leaves a default behind. The default of the detector, of the
quality check, of the extraction and of the comparison rejects the frame. The scores of the
liveness and of the eye call are 0 at first, and for liveness 0 is the best score there is;
a feature that is not serialized is compared or stored as the zeros of its buffer. So a
frame that passes has had every call succeed, up to these three.
-/

namespace OneplusHal.Face

open OneplusHal

/-- The frame has given a feature: it was extracted and serialized. -/
structure Extracted (a : CvFrame) : Prop where
  ret : a.getFeature.ret = 0
  feature : ∃ f, a.getFeature.out = some f ∧ f.serializeFeature.ret = 0

theorem Attempt.judged {user : Int32} {io : AuthenticateIO} {s s' : State} {e : Enrollment}
    (h : Attempt user io s s')
    (hs : s.world.trace = []) (load : Enrollment.load s.storage.enrollmentFile = .ok e)
    (hcv : s.auth.mAvailable = false) :
    (∀ d, .judged d ∈ s'.world.trace → Judged e.requireAttention d) ∧
      ∀ id, .callback (.onAuthenticationSucceeded id) ∈ s'.world.trace →
        ∃ d, .judged d ∈ s'.world.trace ∧ d.accepted = true := by
  cases h with
  | terminated hload => simp [load] at hload
  | refused keeps refusal trace =>
      rw [trace, hs]
      rcases refusal with rfl | ⟨ms, rfl⟩ | ⟨er, rfl⟩ <;> simp
  | frameless hload admitted keeps trace =>
      rw [trace, hs]
      split <;> simp
  | @ran e' s₁ s₂ evs matched compared error failElapsed hload admitted keeps trace loop =>
      have he : e' = e := Except.ok.inj (hload.symm.trans load)
      subst he
      obtain ⟨cs, htrace, hsucceeded, -⟩ := (conclude_conclusion s₂ user e'.enrollmentId
        failElapsed matched compared error).trace
      rw [htrace, trace, hs]
      refine ⟨fun d hd => loop.judged d (by simpa using hd), ?_⟩
      intro id hid
      have hcallback : .callback (.onAuthenticationSucceeded id) ∉ evs := fun hc => by
        simpa using loop.reports _ hc
      have hid' : .onAuthenticationSucceeded id ∈ cs := by simpa [hcallback] using hid
      rcases loop.decided (hsucceeded id hid').1 with hst | ⟨d, hd, haccepted⟩
      · simp [hcv] at hst
      · exact ⟨d, by simp [hd], haccepted⟩

end OneplusHal.Face
