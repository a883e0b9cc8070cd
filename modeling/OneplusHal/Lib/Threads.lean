import Mathlib.Data.List.Basic
import Mathlib.Logic.Function.Basic
import Mathlib.Tactic.Common

/-!
Threads that interleave. A thread runs one job at a time, a list of actions, and performs each
of them as a whole.

What a thread has performed and what it has still to perform make up its course. Only a new job
changes the course of a thread, so that what holds of the jobs holds of the actions performed,
however the threads interleave.
-/

namespace OneplusHal

structure Threads (τ α : Type*) where
  /-- what each thread has still to perform of its job -/
  pending : τ → List α
  /-- the actions performed, in order -/
  log : List (τ × α) := []

namespace Threads

variable {τ α β : Type*} [DecidableEq τ]

def start (t : τ) (job : List α) (p : Threads τ α) : Threads τ α :=
  { p with pending := Function.update p.pending t job }

/-- The next action of a thread. -/
def advance (t : τ) (p : Threads τ α) : Threads τ α :=
  match p.pending t with
  | [] => p
  | a :: rest => { pending := Function.update p.pending t rest, log := p.log ++ [(t, a)] }

def performed (t : τ) (p : Threads τ α) : List α :=
  p.log.filterMap fun e => if e.1 = t then some e.2 else none

def course (t : τ) (p : Threads τ α) : List α := p.performed t ++ p.pending t

variable {t u : τ} {p : Threads τ α}

@[simp] theorem performed_start (t u : τ) (job : List α) (p : Threads τ α) :
    (p.start u job).performed t = p.performed t := rfl

theorem pending_start (t : τ) (job : List α) (p : Threads τ α) :
    (p.start t job).pending t = job := Function.update_self _ _ _

theorem pending_start_of_ne (h : t ≠ u) (job : List α) (p : Threads τ α) :
    (p.start u job).pending t = p.pending t := Function.update_of_ne h _ _

theorem course_start (h : p.pending t = []) (job : List α) :
    (p.start t job).course t = p.course t ++ job := by
  show p.performed t ++ Function.update p.pending t job t = p.performed t ++ p.pending t ++ job
  rw [h, List.append_nil, Function.update_self]

theorem course_start_of_ne (h : t ≠ u) (job : List α) :
    (p.start u job).course t = p.course t := by
  show p.performed t ++ Function.update p.pending u job t = p.performed t ++ p.pending t
  rw [Function.update_of_ne h]

theorem advance_of_pending {a : α} {rest : List α} (h : p.pending t = a :: rest) :
    p.advance t =
      { pending := Function.update p.pending t rest, log := p.log ++ [(t, a)] } := by
  rw [advance, h]

theorem advance_of_idle (h : p.pending t = []) : p.advance t = p := by
  rw [advance, h]

theorem pending_advance_subset (t u : τ) (p : Threads τ α) :
    (p.advance u).pending t ⊆ p.pending t := by
  intro a ha
  cases hjob : p.pending u with
  | nil => rwa [advance_of_idle hjob] at ha
  | cons first rest =>
      rw [advance_of_pending hjob] at ha
      by_cases ht : t = u
      · subst ht
        have ha : a ∈ rest := by simpa using ha
        exact hjob ▸ .tail _ ha
      · simpa [Function.update_of_ne ht] using ha

/-- An action moves on in the course of its thread, and leaves the other ones alone. -/
@[simp] theorem course_advance (t u : τ) (p : Threads τ α) :
    (p.advance u).course t = p.course t := by
  cases hpending : p.pending u with
  | nil => rw [advance_of_idle hpending]
  | cons a rest =>
      rw [advance_of_pending hpending, course, course, performed, performed,
        List.filterMap_append]
      by_cases ht : u = t
      · subst ht
        simp [hpending]
      · simp [ht, Function.update_of_ne (Ne.symm ht)]

theorem course_of_idle (h : p.pending t = []) : p.course t = p.performed t := by
  rw [course, h, List.append_nil]

/-- What only one thread does. -/
theorem filterMap_log {f : α → Option β} (h : ∀ u, u ≠ t → ∀ a ∈ p.performed u, f a = none) :
    p.log.filterMap (fun e => f e.2) = (p.performed t).filterMap f := by
  have hother : ∀ e ∈ p.log, e.1 ≠ t → f e.2 = none := by
    intro e he hne
    exact h e.1 hne e.2 (List.mem_filterMap.mpr ⟨e, he, if_pos rfl⟩)
  rw [performed, List.filterMap_filterMap]
  refine List.filterMap_congr fun e he => ?_
  by_cases ht : e.1 = t
  · simp [ht]
  · simp [ht, hother e he ht]

/-! ### Registers -/

/-- What the last of the actions that write a register has written to it. -/
def lastWrite (f : α → Option β) (as : List α) : Option β := (as.filterMap f).getLast?

variable {f : α → Option β}

@[simp] theorem lastWrite_nil (f : α → Option β) : lastWrite f [] = none := rfl

@[simp] theorem lastWrite_cons (f : α → Option β) (a : α) (as : List α) :
    lastWrite f (a :: as) = (lastWrite f as).or (f a) := by
  cases ha : f a <;> simp [lastWrite, ha, List.getLast?_cons]

theorem lastWrite_append (as bs : List α) :
    lastWrite f (as ++ bs) = (lastWrite f bs).or (lastWrite f as) := by
  rw [lastWrite, lastWrite, lastWrite, List.filterMap_append, List.getLast?_append]

/-- What was written to a register last, by whichever thread. -/
def written (f : α → Option β) (p : Threads τ α) : Option β :=
  (p.log.filterMap fun e => f e.2).getLast?

/-- A register that only one thread writes, while that thread is idle. -/
theorem written_of_idle (hidle : p.pending t = [])
    (h : ∀ u, u ≠ t → ∀ a ∈ p.course u, f a = none) : written f p = lastWrite f (p.course t) := by
  rw [written, lastWrite, course_of_idle hidle, filterMap_log]
  intro u hu a ha
  exact h u hu a (List.mem_append_left _ ha)

end Threads

end OneplusHal
