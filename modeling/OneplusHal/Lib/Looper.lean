import Mathlib.Data.List.Sort

/-!
The message queue of a looper. A message is posted with the time at which it is due and
stands behind every message that is due no later, so that messages due at the same time
keep the order in which they were posted. Only the head of the queue is ever handled, once
it is due.
-/

namespace OneplusHal

/-- A message and the time at which it is due. -/
structure Timed (μ : Type*) where
  due : ℕ
  msg : μ

abbrev MessageQueue (μ : Type*) := List (Timed μ)

namespace MessageQueue

variable {μ : Type*}

def enqueue (e : Timed μ) (q : MessageQueue μ) : MessageQueue μ :=
  q.orderedInsert (fun a b => a.due < b.due) e

/-- Drop the pending messages of a kind. -/
def removeMessages (what : μ → Bool) (q : MessageQueue μ) : MessageQueue μ :=
  q.filter fun e => !what e.msg

/-- The head of the queue, once it is due, and the rest. -/
def next? (now : ℕ) : MessageQueue μ → Option (Timed μ × MessageQueue μ)
  | [] => none
  | e :: q => if e.due ≤ now then some (e, q) else none

/-- The queue is in the order of the due times. -/
def Sorted (q : MessageQueue μ) : Prop := q.Pairwise fun a b => a.due ≤ b.due

variable {q : MessageQueue μ} {e : Timed μ}

@[simp] theorem mem_enqueue {a : Timed μ} : a ∈ q.enqueue e ↔ a = e ∨ a ∈ q :=
  List.mem_orderedInsert _

@[simp] theorem mem_removeMessages {what : μ → Bool} {a : Timed μ} :
    a ∈ q.removeMessages what ↔ a ∈ q ∧ what a.msg = false := by
  simp [removeMessages]

theorem countP_enqueue (p : Timed μ → Bool) :
    (q.enqueue e).countP p = q.countP p + if p e then 1 else 0 := by
  rw [enqueue, (List.perm_orderedInsert _ _ _).countP_eq, List.countP_cons]

theorem countP_removeMessages (what : μ → Bool) :
    (q.removeMessages what).countP (fun e => what e.msg) = 0 := by
  refine List.countP_eq_zero.mpr fun a ha hwhat => ?_
  exact Bool.false_ne_true ((mem_removeMessages.mp ha).2.symm.trans hwhat)

theorem pairwise_removeMessages {R : Timed μ → Timed μ → Prop} (h : q.Pairwise R)
    (what : μ → Bool) : (q.removeMessages what).Pairwise R :=
  h.sublist List.filter_sublist

/-- What a posted message is related to: the messages due no later stand before it, the
others behind it. -/
theorem pairwise_enqueue {R : Timed μ → Timed μ → Prop} (hq : q.Sorted) (h : q.Pairwise R)
    (hbefore : ∀ a ∈ q, a.due ≤ e.due → R a e) (hafter : ∀ a ∈ q, e.due < a.due → R e a) :
    (q.enqueue e).Pairwise R := by
  unfold enqueue
  induction q with
  | nil => exact List.pairwise_singleton _ _
  | cons b q ih =>
      obtain ⟨hb, hq⟩ := List.pairwise_cons.mp hq
      obtain ⟨hRb, h⟩ := List.pairwise_cons.mp h
      rw [List.orderedInsert_cons]
      split
      case isTrue hlt =>
        refine List.pairwise_cons.mpr ⟨fun a ha => hafter a ha ?_, .cons hRb h⟩
        obtain rfl | ha := List.mem_cons.mp ha
        · exact hlt
        · exact hlt.trans_le (hb a ha)
      case isFalse hge =>
        refine List.pairwise_cons.mpr ⟨fun a ha => ?_, ?_⟩
        · obtain rfl | ha := mem_enqueue.mp ha
          · exact hbefore b List.mem_cons_self (Nat.not_lt.mp hge)
          · exact hRb a ha
        · exact ih hq h (fun a ha => hbefore a (List.mem_cons_of_mem _ ha))
            fun a ha => hafter a (List.mem_cons_of_mem _ ha)

theorem Sorted.enqueue (hq : q.Sorted) (e : Timed μ) : (q.enqueue e).Sorted :=
  pairwise_enqueue hq hq (fun _ _ hle => hle) fun _ _ hlt => Nat.le_of_lt hlt

theorem Sorted.removeMessages (hq : q.Sorted) (what : μ → Bool) :
    (q.removeMessages what).Sorted :=
  pairwise_removeMessages hq what

theorem next?_eq_some {now : ℕ} {rest : MessageQueue μ} :
    q.next? now = some (e, rest) ↔ q = e :: rest ∧ e.due ≤ now := by
  cases q with
  | nil => simp [next?]
  | cons b q =>
      by_cases hdue : b.due ≤ now
      · simp only [next?, if_pos hdue, Option.some.injEq, Prod.mk.injEq, List.cons.injEq]
        constructor
        · rintro ⟨rfl, rfl⟩
          exact ⟨⟨rfl, rfl⟩, hdue⟩
        · rintro ⟨⟨rfl, rfl⟩, -⟩
          exact ⟨rfl, rfl⟩
      · simp only [next?, if_neg hdue, List.cons.injEq]
        constructor
        · exact fun h => nomatch h
        · rintro ⟨⟨rfl, rfl⟩, hle⟩
          exact absurd hle hdue

end MessageQueue

end OneplusHal
