import OneplusHal.Lib.Machine

/-!
Noninterference of a deterministic machine, by unwinding. `R` relates states that an
observer does not tell apart. A step of the observer's own gives the same output in
related states and leads to related states; a step of somebody else leads to a state
related to the one before it. Then the outputs of the observer's later steps do not
depend on what the others did.
-/

namespace OneplusHal.Machine

variable {σ ι β : Type*} (step : σ → ι → σ) (out : σ → ι → β)

/-- What the steps of the run from `s` over the inputs put out. -/
def outputs : σ → List ι → List β
  | _, [] => []
  | s, i :: is => out s i :: outputs (step s i) is

@[simp] theorem outputs_nil (s : σ) : outputs step out s [] = [] := rfl

@[simp] theorem outputs_cons (s : σ) (i : ι) (is : List ι) :
    outputs step out s (i :: is) = out s i :: outputs step out (step s i) is := rfl

variable {step out} {R : σ → σ → Prop} {Own Foreign : σ → ι → Prop}

/-- Own steps do not tell related states apart. -/
theorem outputs_eq_of_related
    (hstep : ∀ s t i, R s t → Own t i → out t i = out s i ∧ R (step s i) (step t i))
    {s t : σ} (h : R s t) {is : List ι} (hown : Along step Own t is) :
    outputs step out t is = outputs step out s is := by
  induction is generalizing s t with
  | nil => rfl
  | cons i is ih =>
      obtain ⟨hout, hrel⟩ := hstep s t i h hown.1
      rw [outputs_cons, outputs_cons, hout, ih hrel hown.2]

/-- Foreign steps lead to a related state, as long as they start in states of `I`. -/
theorem related_run {I : σ → Prop} (hrefl : ∀ s, R s s)
    (htrans : ∀ s t u, R s t → R t u → R s u)
    (hlocal : ∀ s i, I s → Foreign s i → R s (step s i) ∧ I (step s i)) {s : σ} (h : I s)
    {is : List ι} (hforeign : Along step Foreign s is) : R s (Machine.run step s is) := by
  have hinv := hforeign.invariant (I := fun t => R s t ∧ I t) ?_ ⟨hrefl s, h⟩
  · exact hinv.1
  · rintro t i ⟨hrel, ht⟩ hi
    obtain ⟨hnext, hI⟩ := hlocal t i ht hi
    exact ⟨htrans s t _ hrel hnext, hI⟩

/-- Noninterference: foreign steps leave no trace in the outputs of the own steps. -/
theorem outputs_run_eq {I : σ → Prop} (hrefl : ∀ s, R s s)
    (htrans : ∀ s t u, R s t → R t u → R s u)
    (hlocal : ∀ s i, I s → Foreign s i → R s (step s i) ∧ I (step s i))
    (hstep : ∀ s t i, R s t → Own t i → out t i = out s i ∧ R (step s i) (step t i))
    {s : σ} (h : I s) {is js : List ι} (hforeign : Along step Foreign s is)
    (hown : Along step Own (Machine.run step s is) js) :
    outputs step out (Machine.run step s is) js = outputs step out s js :=
  outputs_eq_of_related hstep (related_run hrefl htrans hlocal h hforeign) hown

end OneplusHal.Machine
