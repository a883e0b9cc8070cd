import Mathlib.Logic.Basic

/-!
A `while` loop over a list of inputs whose body may leave the loop. The list is what the
environment feeds the loop, one entry for a turn, so a run of the loop is a structural
recursion and every rule below is an induction over the inputs. The body answers `true`
for `break`; when the inputs are used up, `done` is the last test of the condition.
-/

namespace OneplusHal.Loop

variable {ι σ : Type*}

def foldUntil (body : ι → σ → Bool × σ) (done : σ → σ) : List ι → σ → σ
  | [], s => done s
  | i :: is, s => if (body i s).1 then (body i s).2 else foldUntil body done is (body i s).2

theorem foldUntil_nil (body : ι → σ → Bool × σ) (done : σ → σ) (s : σ) :
    foldUntil body done [] s = done s := rfl

theorem foldUntil_cons (body : ι → σ → Bool × σ) (done : σ → σ) (i : ι) (is : List ι) (s : σ) :
    foldUntil body done (i :: is) s =
      if (body i s).1 then (body i s).2 else foldUntil body done is (body i s).2 := rfl

/-- The loop rule: `I` is kept by a turn that goes on, and `Q` follows from it when a turn
breaks and when the condition fails. -/
theorem foldUntil_rule {body : ι → σ → Bool × σ} {done : σ → σ} {I Q : σ → Prop}
    (hcont : ∀ i s, I s → (body i s).1 = false → I (body i s).2)
    (hbreak : ∀ i s, I s → (body i s).1 = true → Q (body i s).2)
    (hdone : ∀ s, I s → Q (done s)) (is : List ι) (s : σ) (h : I s) :
    Q (foldUntil body done is s) := by
  induction is generalizing s with
  | nil =>
      rw [foldUntil_nil]
      exact hdone s h
  | cons i is ih =>
      rw [foldUntil_cons]
      cases hb : (body i s).1 with
      | true => exact hbreak i s h hb
      | false => exact ih _ (hcont i s h hb)

/-- The rule for an invariant that holds however a turn ends. -/
theorem foldUntil_invariant {body : ι → σ → Bool × σ} {done : σ → σ} {I : σ → Prop}
    (hstep : ∀ i s, I s → I (body i s).2) (hdone : ∀ s, I s → I (done s))
    (is : List ι) (s : σ) (h : I s) : I (foldUntil body done is s) :=
  foldUntil_rule (fun i s hs _ => hstep i s hs) (fun i s hs _ => hstep i s hs) hdone is s h

/-- The rule for an invariant that the inputs of this loop keep. -/
theorem foldUntil_of_mem {body : ι → σ → Bool × σ} {done : σ → σ} {I : σ → Prop} {is : List ι}
    (hstep : ∀ i ∈ is, ∀ s, I s → I (body i s).2) (hdone : ∀ s, I s → I (done s)) {s : σ}
    (h : I s) : I (foldUntil body done is s) := by
  induction is generalizing s with
  | nil => exact hdone s h
  | cons i is ih =>
      have hnext := hstep i List.mem_cons_self s h
      rw [foldUntil_cons]
      split
      · exact hnext
      · exact ih (fun j hj => hstep j (List.mem_cons_of_mem i hj)) hnext

/-- Two loops over the same inputs whose turns keep their states related, and break at the
same turn. -/
theorem foldUntil_related {τ : Type*} {body : ι → σ → Bool × σ} {body' : ι → τ → Bool × τ}
    {done : σ → σ} {done' : τ → τ} {R : σ → τ → Prop}
    (hbody : ∀ i s t, R s t → (body' i t).1 = (body i s).1 ∧ R (body i s).2 (body' i t).2)
    (hdone : ∀ s t, R s t → R (done s) (done' t)) (is : List ι) {s : σ} {t : τ} (h : R s t) :
    R (foldUntil body done is s) (foldUntil body' done' is t) := by
  induction is generalizing s t with
  | nil => exact hdone s t h
  | cons i is ih =>
      obtain ⟨hbreak, hrel⟩ := hbody i s t h
      rw [foldUntil_cons, foldUntil_cons, hbreak]
      split
      · exact hrel
      · exact ih hrel

end OneplusHal.Loop
