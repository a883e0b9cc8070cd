import Mathlib.Data.List.Induction

/-!
Runs of a deterministic machine. The inputs carry everything the environment decides,
so a run is a left fold of the step function, and a claim about every run is a claim
about every list of inputs.

`Along P s is` says that every step of the run from `s` over `is` satisfies `P`, a
relation between the state before the step and its input. It is the form of both a
condition that a run meets and a property that a run has, and `Along.of_invariant`
turns the one into the other. `total` counts what the steps of a run report, and `taken` lists
the inputs that the machine does not turn away.
-/

namespace OneplusHal.Machine

variable {σ ι : Type*} (step : σ → ι → σ)

/-- The state after a list of inputs. -/
def run (s : σ) (is : List ι) : σ := is.foldl step s

@[simp] theorem run_nil (s : σ) : run step s [] = s := rfl

@[simp] theorem run_cons (s : σ) (i : ι) (is : List ι) :
    run step s (i :: is) = run step (step s i) is := rfl

theorem run_append (s : σ) (is js : List ι) :
    run step s (is ++ js) = run step (run step s is) js :=
  List.foldl_append

/-- Reached from an initial state by some list of inputs. -/
def Reachable (init : σ → Prop) (s : σ) : Prop :=
  ∃ s₀ is, init s₀ ∧ run step s₀ is = s

variable {step}

theorem Reachable.run {init : σ → Prop} {s : σ} (h : Reachable step init s) (is : List ι) :
    Reachable step init (run step s is) := by
  obtain ⟨s₀, js, h₀, rfl⟩ := h
  exact ⟨s₀, js ++ is, h₀, run_append step s₀ js is⟩

/-- An invariant of the initial states and of every step holds after every run. -/
theorem run_invariant {I : σ → Prop} (hstep : ∀ s i, I s → I (step s i)) {s : σ} (h : I s)
    (is : List ι) : I (Machine.run step s is) := by
  induction is generalizing s with
  | nil => exact h
  | cons i is ih => exact ih (hstep s i h)

theorem Reachable.invariant {init I : σ → Prop} (hinit : ∀ s, init s → I s)
    (hstep : ∀ s i, I s → I (step s i)) {s : σ} (h : Reachable step init s) : I s := by
  obtain ⟨s₀, is, h₀, rfl⟩ := h
  exact run_invariant hstep (hinit s₀ h₀) is

variable (step)

/-- Every step of the run from `s` over the inputs satisfies `P`. -/
def Along (P : σ → ι → Prop) : σ → List ι → Prop
  | _, [] => True
  | s, i :: is => P s i ∧ Along P (step s i) is

variable {step}

@[simp] theorem along_nil (P : σ → ι → Prop) (s : σ) : Along step P s [] := trivial

@[simp] theorem along_cons (P : σ → ι → Prop) (s : σ) (i : ι) (is : List ι) :
    Along step P s (i :: is) ↔ P s i ∧ Along step P (step s i) is := Iff.rfl

theorem along_append (P : σ → ι → Prop) (s : σ) (is js : List ι) :
    Along step P s (is ++ js) ↔ Along step P s is ∧ Along step P (Machine.run step s is) js := by
  induction is generalizing s with
  | nil => simp
  | cons i is ih => simp [ih, and_assoc]

theorem Along.and {P Q : σ → ι → Prop} {s : σ} {is : List ι} (hP : Along step P s is)
    (hQ : Along step Q s is) : Along step (fun s i => P s i ∧ Q s i) s is := by
  induction is generalizing s with
  | nil => trivial
  | cons i is ih => exact ⟨⟨hP.1, hQ.1⟩, ih hP.2 hQ.2⟩

/-- A condition on the inputs alone. -/
theorem along_of_forall_mem {P : ι → Prop} {is : List ι} (h : ∀ i ∈ is, P i) (s : σ) :
    Along step (fun _ i => P i) s is := by
  induction is generalizing s with
  | nil => trivial
  | cons i is ih =>
      exact ⟨h i List.mem_cons_self, ih (fun j hj => h j (List.mem_cons_of_mem _ hj)) _⟩

/-- A guarded invariant: if it is kept by every step that meets the guard, it holds at
the end of every run whose steps meet the guard. -/
theorem Along.invariant {G : σ → ι → Prop} {I : σ → Prop}
    (hstep : ∀ s i, I s → G s i → I (step s i)) {s : σ} {is : List ι} (h : I s)
    (hG : Along step G s is) : I (Machine.run step s is) := by
  induction is generalizing s with
  | nil => exact h
  | cons i is ih => exact ih (hstep s i h hG.1) hG.2

/-- A run whose steps meet the guard has the property at each step, if the invariant
and the guard give the property and the guard keeps the invariant. -/
theorem Along.of_invariant {G Q : σ → ι → Prop} {I : σ → Prop}
    (hstep : ∀ s i, I s → G s i → Q s i ∧ I (step s i)) {s : σ} {is : List ι} (h : I s)
    (hG : Along step G s is) : Along step Q s is := by
  induction is generalizing s with
  | nil => trivial
  | cons i is ih =>
      obtain ⟨hQ, hI⟩ := hstep s i h hG.1
      exact ⟨hQ, ih hI hG.2⟩

/-- A condition and a property that agree in the states of an invariant, which the
condition keeps, hold along the same runs. -/
theorem along_iff {G Q : σ → ι → Prop} {I : σ → Prop}
    (hiff : ∀ s i, I s → (Q s i ↔ G s i)) (hstep : ∀ s i, I s → G s i → I (step s i))
    {s : σ} (h : I s) (is : List ι) : Along step Q s is ↔ Along step G s is := by
  induction is generalizing s with
  | nil => rfl
  | cons i is ih =>
      rw [along_cons, along_cons, hiff s i h]
      exact and_congr_right fun hG => ih (hstep s i h hG)

/-! ### What a step sets and another one clears -/

variable (step)

/-- Some step of the run from `s` over the inputs satisfies `S`, and none after it `C`. -/
def SetSince (S C : σ → ι → Prop) (s : σ) (is : List ι) : Prop :=
  ∃ js i ks, is = js ++ i :: ks ∧ S (run step s js) i ∧
    Along step (fun s i => ¬C s i) (run step s (js ++ [i])) ks

variable {step}

theorem SetSince.mono {S S' C : σ → ι → Prop} (hS : ∀ s i, S s i → S' s i) {s : σ} {is : List ι}
    (h : SetSince step S C s is) : SetSince step S' C s is := by
  obtain ⟨js, i, ks, hsplit, hset, hks⟩ := h
  exact ⟨js, i, ks, hsplit, hS _ _ hset, hks⟩

theorem not_setSince_nil {S C : σ → ι → Prop} {s : σ} : ¬SetSince step S C s [] := by
  rintro ⟨js, i, ks, hnil, -⟩
  simp at hnil

/-- The last step sets, or it does not clear what was set before it. -/
theorem setSince_append_singleton {S C : σ → ι → Prop} {s : σ} {is : List ι} {i : ι} :
    SetSince step S C s (is ++ [i]) ↔
      S (Machine.run step s is) i ∨
        (SetSince step S C s is ∧ ¬C (Machine.run step s is) i) := by
  constructor
  · rintro ⟨js, j, ks, hsplit, hset, hks⟩
    -- The setting step is the last one, or it is not.
    obtain rfl | ⟨ks', k, rfl⟩ := List.eq_nil_or_concat ks
    · obtain ⟨rfl, hj⟩ := List.append_inj' hsplit rfl
      cases hj
      exact .inl hset
    · rw [List.concat_eq_append, along_append] at hks
      have hsplit' : is ++ [i] = (js ++ j :: ks') ++ [k] := by simpa using hsplit
      obtain ⟨rfl, hk⟩ := List.append_inj' hsplit' rfl
      cases hk
      refine .inr ⟨⟨js, j, ks', rfl, hset, hks.1⟩, ?_⟩
      have hclear := hks.2.1
      rwa [← run_append, List.append_assoc, List.singleton_append] at hclear
  · rintro (hset | ⟨⟨js, j, ks, rfl, hset, hks⟩, hclear⟩)
    · exact ⟨is, i, [], rfl, hset, trivial⟩
    · refine ⟨js, j, ks ++ [i], by simp, hset, (along_append _ _ _ _).mpr ⟨hks, ?_, trivial⟩⟩
      rwa [← run_append, List.append_assoc, List.singleton_append]

/-- What `S` sets and only `C` clears holds if it was set and not cleared since. -/
theorem SetSince.holds {P : σ → Prop} {S C : σ → ι → Prop} (hset : ∀ s i, S s i → P (step s i))
    (hkeep : ∀ s i, P s → ¬C s i → P (step s i)) {s : σ} {is : List ι}
    (h : SetSince step S C s is) : P (Machine.run step s is) := by
  obtain ⟨js, i, ks, rfl, hS, hks⟩ := h
  rw [run_append, run_cons] at *
  exact Along.invariant hkeep (hset _ i hS) hks

/-- What only `S` sets and `C` clears was set and not cleared since if it holds. -/
theorem setSince_of_holds {P : σ → Prop} {S C : σ → ι → Prop}
    (hstep : ∀ s i, P (step s i) → S s i ∨ (P s ∧ ¬C s i)) {s : σ} (h : ¬P s) {is : List ι}
    (hP : P (Machine.run step s is)) : SetSince step S C s is := by
  induction is using List.reverseRecOn with
  | nil => exact absurd hP h
  | append_singleton is i ih =>
      rw [run_append, run_cons, run_nil] at hP
      rw [setSince_append_singleton]
      exact (hstep _ i hP).imp_right (And.imp_left ih)

/-- What steps with `S` set and steps with `C` clear holds exactly if it was set and not
cleared since. -/
theorem holds_run_iff {P : σ → Prop} {S C : σ → ι → Prop}
    (hstep : ∀ s i, P (step s i) ↔ S s i ∨ (P s ∧ ¬C s i)) {s : σ} (h : ¬P s) (is : List ι) :
    P (Machine.run step s is) ↔ SetSince step S C s is :=
  ⟨setSince_of_holds (fun s i => (hstep s i).mp) h,
    SetSince.holds (fun s i hS => (hstep s i).mpr (.inl hS))
      fun s i hP hC => (hstep s i).mpr (.inr ⟨hP, hC⟩)⟩

/-- Where setting clears what was set before, there is one step that has set. -/
theorem SetSince.unique {S S' C : σ → ι → Prop} (hS : ∀ s i, S s i → C s i)
    (hS' : ∀ s i, S' s i → C s i) {s : σ} {is : List ι} (h : SetSince step S C s is)
    (h' : SetSince step S' C s is) :
    ∃ js i, S (Machine.run step s js) i ∧ S' (Machine.run step s js) i := by
  induction is using List.reverseRecOn with
  | nil => exact absurd h not_setSince_nil
  | append_singleton is i ih =>
      rw [setSince_append_singleton] at h h'
      obtain hset | ⟨hset, hclear⟩ := h <;> obtain hset' | ⟨hset', hclear'⟩ := h'
      · exact ⟨is, i, hset, hset'⟩
      · exact absurd (hS _ _ hset) hclear'
      · exact absurd (hS' _ _ hset') hclear
      · exact ih hset hset'

/-! ### Counting along a run -/

variable (step)

/-- The sum of `f` over the steps of the run from `s` over the inputs. -/
def total (f : σ → ι → ℕ) : σ → List ι → ℕ
  | _, [] => 0
  | s, i :: is => f s i + total f (step s i) is

variable {step}

@[simp] theorem total_nil (f : σ → ι → ℕ) (s : σ) : total step f s [] = 0 := rfl

@[simp] theorem total_cons (f : σ → ι → ℕ) (s : σ) (i : ι) (is : List ι) :
    total step f s (i :: is) = f s i + total step f (step s i) is := rfl

/-- A measure that each guarded step raises by `f` grows by the sum of `f`. -/
theorem Along.total_eq {G : σ → ι → Prop} {f : σ → ι → ℕ} (μ : σ → ℕ)
    (hstep : ∀ s i, G s i → μ (step s i) = μ s + f s i) {s : σ} {is : List ι}
    (hG : Along step G s is) : μ (Machine.run step s is) = μ s + total step f s is := by
  induction is generalizing s with
  | nil => rw [run_nil, total_nil, Nat.add_zero]
  | cons i is ih =>
      rw [run_cons, ih hG.2, hstep s i hG.1, total_cons, Nat.add_assoc]

/-! ### What a run takes up

A machine that turns some inputs away, against another one that is fed the rest. -/

/-- The inputs that the machine takes up along the run. -/
def taken (step : σ → ι → σ) (accepts : σ → ι → Bool) : σ → List ι → List ι
  | _, [] => []
  | s, i :: is =>
      if accepts s i then i :: taken step accepts (step s i) is
      else taken step accepts (step s i) is

theorem mem_of_mem_taken {accepts : σ → ι → Bool} {s : σ} {is : List ι} {i : ι}
    (h : i ∈ taken step accepts s is) : i ∈ is := by
  induction is generalizing s with
  | nil => exact h
  | cons j is ih =>
      rw [taken] at h
      split at h
      · obtain rfl | h := List.mem_cons.mp h
        · exact List.mem_cons_self
        · exact List.mem_cons_of_mem _ (ih h)
      · exact List.mem_cons_of_mem _ (ih h)

/-- The other machine keeps up with the run on what the run takes up. -/
theorem run_simulates {τ : Type*} {step' : τ → ι → τ} {accepts : σ → ι → Bool}
    {R : σ → τ → Prop} (htake : ∀ s t i, R s t → accepts s i = true → R (step s i) (step' t i))
    (hturn : ∀ s t i, R s t → accepts s i = false → R (step s i) t) {s : σ} {t : τ} (h : R s t)
    (is : List ι) : R (run step s is) (run step' t (taken step accepts s is)) := by
  induction is generalizing s t with
  | nil => exact h
  | cons i is ih =>
      rw [run_cons, taken]
      cases haccepts : accepts s i with
      | true => exact ih (htake s t i h haccepts)
      | false => exact ih (hturn s t i h haccepts)

end OneplusHal.Machine
