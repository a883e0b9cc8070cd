import OneplusHal.Lib.Machine

/-!
A machine against an abstract transition relation.

The relation says which labels lead from which state to which. A step of the machine has a label, or
none, and what it does to the abstract state must be a transition with that label, or nothing. A
property of the abstract state that only some labels bring about, and that others end, then has its
origin in the labels of the run.
-/

namespace OneplusHal.Refinement

variable {σ ι τ ℓ : Type*}

/-- The relation leads from one state to another one along the labels. -/
inductive Run (T : τ → ℓ → τ → Prop) (t : τ) : List ℓ → τ → Prop
  | start : Run T t [] t
  | next {ls : List ℓ} {t' t'' : τ} {l : ℓ} (run : Run T t ls t') (step : T t' l t'') :
      Run T t (ls ++ [l]) t''

variable {T : τ → ℓ → τ → Prop} {t t' t'' : τ} {ls ks : List ℓ}

theorem Run.append (h : Run T t ls t') (h' : Run T t' ks t'') : Run T t (ls ++ ks) t'' := by
  induction h' with
  | start =>
      rw [List.append_nil]
      exact h
  | next _ hstep ih =>
      rw [← List.append_assoc]
      exact .next ih hstep

theorem Run.single {l : ℓ} (h : T t l t') : Run T t [l] t' := .next .start h

/-- What holds at the end and not at the start was brought about by some label, and no label after
that one ends it. -/
theorem Run.since {P : τ → Prop} {S C : ℓ → Prop}
    (hstep : ∀ t l t', T t l t' → P t' → S l ∨ (P t ∧ ¬C l)) (h : Run T t ls t') (ht : ¬P t)
    (hP : P t') : ∃ before l after, ls = before ++ l :: after ∧ S l ∧ ∀ k ∈ after, ¬C k := by
  induction h with
  | start => exact absurd hP ht
  | @next ls _ _ l _ hlast ih =>
      obtain hset | ⟨hkept, hnot⟩ := hstep _ _ _ hlast hP
      · exact ⟨ls, l, [], rfl, hset, nofun⟩
      · obtain ⟨before, k, after, rfl, hset, hafter⟩ := ih hkept
        refine ⟨before, k, after ++ [l], by simp, hset, fun j hj => ?_⟩
        obtain hj | hj := List.mem_append.mp hj
        · exact hafter j hj
        · rw [List.mem_singleton.mp hj]
          exact hnot

/-- A transition with the label, or none without one. -/
def Moves (T : τ → ℓ → τ → Prop) (t : τ) : Option ℓ → τ → Prop
  | none, t' => t' = t
  | some l, t' => T t l t'

theorem Moves.run {l : Option ℓ} (h : Moves T t l t') : Run T t l.toList t' := by
  cases l with
  | none =>
      obtain rfl : t' = t := h
      exact .start
  | some l => exact .single h

/-- The labels of a run of a machine. -/
def labels (step : σ → ι → σ) (label : σ → ι → Option ℓ) : σ → List ι → List ℓ
  | _, [] => []
  | s, i :: is => (label s i).toList ++ labels step label (step s i) is

/-- A list to which each step puts its label in front holds the labels of the run in the end, the
last one first. -/
theorem run_collects {step : σ → ι → σ} {label : σ → ι → Option ℓ} {f : σ → List ℓ}
    (hstep : ∀ s i, f (step s i) = (label s i).toList ++ f s) (s : σ) (is : List ι) :
    f (Machine.run step s is) = (labels step label s is).reverse ++ f s := by
  induction is generalizing s with
  | nil => rfl
  | cons i is ih =>
      have hsingle : (label s i).toList.reverse = (label s i).toList := by
        cases label s i <;> rfl
      rw [Machine.run_cons, ih, hstep, labels, List.reverse_append, hsingle, List.append_assoc]

/-- If each guarded step of a machine is a transition of the relation, each run whose steps meet the
guard is a run of the relation. -/
theorem refines {step : σ → ι → σ} {label : σ → ι → Option ℓ} {abstract : σ → τ}
    {G : σ → ι → Prop} {I : σ → Prop} (hstep : ∀ s i, I s → G s i →
      Moves T (abstract s) (label s i) (abstract (step s i)) ∧ I (step s i))
    {s : σ} {is : List ι} (h : I s) (hG : Machine.Along step G s is) :
    Run T (abstract s) (labels step label s is) (abstract (Machine.run step s is)) := by
  induction is generalizing s with
  | nil => exact .start
  | cons i is ih =>
      obtain ⟨hmoves, hnext⟩ := hstep s i h hG.1
      exact hmoves.run.append (ih hnext hG.2)

end OneplusHal.Refinement
