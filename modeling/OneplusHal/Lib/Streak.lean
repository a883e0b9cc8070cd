import OneplusHal.Lib.Machine

/-!
Streaks of inputs with one mark. An input without a mark ends the streak, one with
another mark begins a new one, and a streak that has reached its full length is given up
if its last input is spoiled.
-/

namespace OneplusHal.Streak

variable {τ κ : Type*} (mark : τ → Option κ) (spoiled : τ → Prop) (full : ℕ)
variable [DecidableEq κ] [DecidablePred spoiled]

/-- The streak with an input of the same mark, or a new one. -/
def grow (streak : List τ) (t : τ) : List τ :=
  (if ∀ u ∈ streak, mark u = mark t then streak else []) ++ [t]

/-- The streak after one more input. -/
def extend (streak : List τ) (t : τ) : List τ :=
  if mark t = none then []
  else if (grow mark streak t).length < full ∨ ¬spoiled t then grow mark streak t
  else []

/-- The streak that a list of inputs ends with. -/
def present (ts : List τ) : List τ := Machine.run (extend mark spoiled full) [] ts

theorem present_append_singleton (ts : List τ) (t : τ) :
    present mark spoiled full (ts ++ [t]) =
      extend mark spoiled full (present mark spoiled full ts) t :=
  Machine.run_append _ _ _ _

theorem extend_cases (streak : List τ) (t : τ) :
    extend mark spoiled full streak t = [] ∨
      (mark t ≠ none ∧ extend mark spoiled full streak t = grow mark streak t) := by
  unfold extend
  split
  case isTrue => exact .inl rfl
  case isFalse hmark =>
    split
    · exact .inr ⟨hmark, rfl⟩
    · exact .inl rfl

variable {mark spoiled full}

theorem extend_of_unmarked {streak : List τ} {t : τ} (h : mark t = none) :
    extend mark spoiled full streak t = [] :=
  if_pos h

theorem extend_of_marked {streak : List τ} {t : τ} (h : mark t ≠ none)
    (hgrow : (grow mark streak t).length < full ∨ ¬spoiled t) :
    extend mark spoiled full streak t = grow mark streak t := by
  rw [extend, if_neg h, if_pos hgrow]

theorem extend_of_spoiled {streak : List τ} {t : τ} (hfull : full ≤ (grow mark streak t).length)
    (h : spoiled t) : extend mark spoiled full streak t = [] := by
  unfold extend
  rw [if_neg (not_or.mpr ⟨Nat.not_lt.mpr hfull, not_not_intro h⟩), ite_self]

/-- All inputs of a streak have the mark of its last one. -/
theorem mark_grow {streak : List τ} {t u : τ} (hu : u ∈ grow mark streak t) :
    mark u = mark t := by
  rcases List.mem_append.mp hu with hu | hu
  · split at hu
    case isTrue hall => exact hall u hu
    case isFalse => exact absurd hu List.not_mem_nil
  · rw [List.mem_singleton.mp hu]

/-- A streak of one mark grows if the input has that mark. -/
theorem length_grow {streak : List τ} {t : τ} {k last : κ}
    (hstreak : ∀ u ∈ streak, mark u = some last) (ht : mark t = some k) :
    (grow mark streak t).length = (if k = last then streak.length else 0) + 1 := by
  rw [grow, List.length_append, List.length_singleton, ht]
  split
  case isTrue hall =>
    split
    case isTrue => rfl
    case isFalse hk =>
      -- Only the empty streak goes with any mark.
      cases streak with
      | nil => rfl
      | cons u streak =>
          have hu := (hall u List.mem_cons_self).symm.trans (hstreak u List.mem_cons_self)
          exact absurd (Option.some.inj hu) hk
  case isFalse hnot =>
    rw [if_neg]
    · rfl
    · rintro rfl
      exact hnot hstreak

theorem mark_present {ts : List τ} (hne : present mark spoiled full ts ≠ []) :
    ∃ k, ∀ u ∈ present mark spoiled full ts, mark u = some k := by
  induction ts using List.reverseRecOn with
  | nil => exact absurd rfl hne
  | append_singleton ts t =>
      rw [present_append_singleton] at hne ⊢
      obtain hnil | ⟨hmark, hgrow⟩ :=
        extend_cases mark spoiled full (present mark spoiled full ts) t
      · exact absurd hnil hne
      · obtain ⟨k, hk⟩ := Option.ne_none_iff_exists'.mp hmark
        refine ⟨k, fun u hu => ?_⟩
        rw [hgrow] at hu
        exact (mark_grow hu).trans hk

/-- A streak is made of the last inputs. -/
theorem present_suffix (ts : List τ) : present mark spoiled full ts <:+ ts := by
  induction ts using List.reverseRecOn with
  | nil => exact List.suffix_refl []
  | append_singleton ts t ih =>
      rw [present_append_singleton]
      obtain hnil | ⟨-, hgrow⟩ := extend_cases mark spoiled full (present mark spoiled full ts) t
      · rw [hnil]
        exact List.nil_suffix
      · rw [hgrow]
        unfold grow
        rw [List.suffix_append_self_iff]
        split
        · exact ih
        · exact List.nil_suffix

end OneplusHal.Streak
