import Mathlib.Data.List.Basic

/-!
A worker thread with a bounded queue. `schedule` refuses a task when the queue is full;
the worker takes the tasks in the order in which they were accepted and carries them out
one after the other.

`pending` is what the worker has accepted and not carried out yet, oldest first.
Scheduling adds a task at its end or nothing at all, and only finishing takes one off,
at the front.
-/

namespace OneplusHal

structure WorkerThread (α : Type*) where
  queue : List α := []
  /-- the task the thread has taken from the queue -/
  running : Option α := none

namespace WorkerThread

variable {α : Type*} {max : ℕ} {a : α} {w : WorkerThread α}

/-- The task is discarded when `max` tasks are queued. -/
def schedule (max : ℕ) (a : α) (w : WorkerThread α) : Bool × WorkerThread α :=
  if w.queue.length < max then (true, { w with queue := w.queue ++ [a] }) else (false, w)

def take (w : WorkerThread α) : WorkerThread α :=
  match w.running, w.queue with
  | none, a :: rest => ⟨rest, some a⟩
  | _, _ => w

def finish (w : WorkerThread α) : WorkerThread α := { w with running := none }

def pending (w : WorkerThread α) : List α := w.running.toList ++ w.queue

theorem pending_schedule_of_lt (h : w.queue.length < max) :
    (w.schedule max a).2.pending = w.pending ++ [a] := by
  rw [schedule, if_pos h, pending, pending, List.append_assoc]

theorem schedule_of_le (h : max ≤ w.queue.length) : (w.schedule max a).2 = w := by
  rw [schedule, if_neg (Nat.not_lt.mpr h)]

theorem pending_take (w : WorkerThread α) : w.take.pending = w.pending := by
  obtain ⟨_ | ⟨a, rest⟩, _ | b⟩ := w <;> rfl

theorem pending_finish (h : w.running = some a) : w.pending = a :: w.finish.pending := by
  rw [pending, h]
  rfl

end WorkerThread

end OneplusHal
