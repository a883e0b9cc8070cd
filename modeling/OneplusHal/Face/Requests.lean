import Mathlib.Data.List.Nodup
import OneplusHal.Face.EnrollAtomic
import OneplusHal.Lib.WorkerThread

/-!
The calls that the sessions make to their workers. Each session has a worker thread with
room for 16 waiting tasks; a call puts its operation there and returns, and the worker
carries the operations out, while calls of all sessions go on.

The ghosts `calls` and `executed` are the requests in the order of the calls and in the
order in which they were carried out, and a request knows its number among the calls.
`history` is what the service went through, `heard` what it reported while it carried a
request out.
-/

namespace OneplusHal.Face

open OneplusHal

/-- The operation goes through `Session::schedule`. -/
def Op.scheduled : Op → Bool
  | .generateChallenge _ => false
  | .revokeChallenge _ => false
  | .close => false
  | _ => true

structure Request where
  number : ℕ
  session : ℕ
  op : Op

/-- The session and the operation. -/
def Request.task (r : Request) : ℕ × Op := (r.session, r.op)

/-- The operation that a step of the service carries out, if it goes through
`Session::schedule`. -/
def Step.task? : Step → Option (ℕ × Op)
  | .op i task => if task.scheduled then some (i, task) else none
  | _ => none

structure Scheduler where
  state : State
  /-- `mWorker` of each session -/
  workers : ℕ → WorkerThread Request := fun _ => {}
  calls : List Request := []
  executed : List Request := []
  /-- callbacks, with the numbers of the requests they were about -/
  heard : List (ℕ × Callback) := []
  history : List Step := []

inductive SchedulerStep
  | createSession (user : Int32)
  | call (i : ℕ) (op : Op)
  /-- the worker of session `i` takes a task from its queue -/
  | take (i : ℕ)
  /-- that worker gets `Hardware::lock` and carries its task out -/
  | run (i : ℕ)
  | setTeeProperty (tee : Bool)
  | wait (elapsed : ℕ)

namespace Scheduler

def kMaxTasks : ℕ := 16

/-- Nobody has called yet. -/
def start (state : State) : Scheduler := { state }

def serve (st : Step) (s : Scheduler) : Scheduler :=
  { s with state := Face.step s.state st, history := s.history ++ [st] }

/-- `Session::schedule` for an operation of session `i`. The callback gets nothing. -/
def schedule (i : ℕ) (op : Op) (s : Scheduler) : Scheduler :=
  let r : Request := ⟨s.calls.length, i, op⟩
  -- Whether the worker accepts the task is not looked at.
  let scheduled := (s.workers i).schedule kMaxTasks r
  { s with
    workers := Function.update s.workers i scheduled.2
    calls := s.calls ++ [r] }

/-- The worker of session `i` carries out `r`. -/
def carryOut (i : ℕ) (r : Request) (s : Scheduler) : Scheduler :=
  let s := s.serve (.op i r.op)
  { s with
    workers := Function.update s.workers i (s.workers i).finish
    executed := s.executed ++ [r]
    heard := s.heard ++ s.state.callbacks.map (Prod.mk r.number) }

def step (s : Scheduler) : SchedulerStep → Scheduler
  | .createSession user => s.serve (.createSession user)
  | .call i op =>
      match s.state.sessions[i]? with
      | none => s
      | some _ => if op.scheduled then s.schedule i op else s.serve (.op i op)
  | .take i => { s with workers := Function.update s.workers i (s.workers i).take }
  | .run i =>
      match (s.workers i).running with
      | none => s
      | some r => s.carryOut i r
  | .setTeeProperty tee => s.serve (.setTeeProperty tee)
  | .wait elapsed => s.serve (.wait elapsed)

/-! ### The service under its workers -/

/-- What the service does in a step. -/
def served (s : Scheduler) : SchedulerStep → Option Step
  | .createSession user => some (.createSession user)
  | .call i op => s.state.sessions[i]?.bind fun _ => if op.scheduled then none else some (.op i op)
  | .take _ => none
  | .run i => (s.workers i).running.map fun r => .op i r.op
  | .setTeeProperty tee => some (.setTeeProperty tee)
  | .wait elapsed => some (.wait elapsed)

/-- Whatever the interleaving, the service does one operation after the other. -/
theorem state_step_eq (s : Scheduler) (i : SchedulerStep) :
    (s.step i).state = ((s.served i).map (Face.step s.state)).getD s.state := by
  cases i with
  | call j op =>
      simp only [served, step]
      cases s.state.sessions[j]? with
      | none => rfl
      | some session =>
          simp only [Option.bind_some]
          cases op.scheduled <;> rfl
  | run j =>
      simp only [served, step]
      cases (s.workers j).running <;> rfl
  | _ => rfl

theorem served_ne_restart {s : Scheduler} {i : SchedulerStep} {st : Step}
    (h : s.served i = some st) (available : Bool) : st ≠ .restart available := by
  rintro rfl
  cases i with
  | call j op =>
      obtain ⟨_, -, hop⟩ := Option.bind_eq_some_iff.mp h
      split at hop
      · cases hop
      · cases hop
  | run j =>
      obtain ⟨_, -, hop⟩ := Option.map_eq_some_iff.mp h
      cases hop
  | _ => cases h

/-- No session goes away. -/
theorem length_sessions_le (s : Scheduler) (i : SchedulerStep) :
    s.state.sessions.length ≤ (s.step i).state.sessions.length := by
  rw [state_step_eq]
  cases hserved : s.served i with
  | none => exact le_rfl
  | some st =>
      rw [Option.map_some, Option.getD_some]
      cases st with
      | createSession user =>
          show s.state.sessions.length ≤ (s.state.sessions ++ [_]).length
          rw [List.length_append]
          exact Nat.le_add_right _ _
      | op j op =>
          simp only [Face.step]
          cases hsession : s.state.sessions[j]? with
          | none => exact le_rfl
          | some session =>
              dsimp only
              rw [sessions_runOp (s := s.state.begin) op hsession, List.length_set]
              exact le_rfl
      | setTeeProperty tee => exact le_rfl
      | restart available => exact absurd rfl (served_ne_restart hserved available)
      | wait elapsed => exact le_rfl

/-! ### What becomes of the requests -/

/-- The requests of session `i`. -/
def ofSession (i : ℕ) (rs : List Request) : List Request := rs.filter (·.session = i)

/-- How often the request of this number is among the requests. -/
def times (number : ℕ) (rs : List Request) : ℕ := rs.countP (·.number = number)

/-- The requests among the operations that the service went through, from the state `s₀` on,
are those that were carried out; every call was carried out once and is not pending, or
waits or runs and was not carried out, or was only reported as an error; and the operations
of a session are carried out in the order of the calls. -/
structure Kept (s₀ : State) (s : Scheduler) : Prop where
  state : s.state = Machine.run Face.step s₀ s.history
  carriedOut : s.history.filterMap Step.task? = s.executed.map Request.task
  present : ∀ r ∈ s.executed, r.session < s.state.sessions.length
  genuine : ∀ r ∈ s.executed, r ∈ s.calls
  accounted : ∀ r ∈ s.calls,
    let done := times r.number s.executed
    let left := times r.number (s.workers r.session).pending
    (done = 1 ∧ left = 0) ∨ (done = 0 ∧ left = 1) ∨
      (done = 0 ∧ left = 0 ∧ ∃ e, (r.number, .onError e) ∈ s.heard)
  ordered : ∀ i, (ofSession i s.executed).Pairwise (·.number < ·.number)

/-- The step is no scheduled call that finds the queue of its session full. -/
def Fits (s : Scheduler) (i : SchedulerStep) : Prop :=
  ∀ j op, i = .call j op → op.scheduled → j < s.state.sessions.length →
    (s.workers j).queue.length < kMaxTasks

/-- What was carried out and what is pending, in this order, are the calls. -/
structure Settled (s : Scheduler) : Prop where
  matched : ∀ i, ofSession i s.executed ++ (s.workers i).pending = ofSession i s.calls
  numbered : s.calls.map Request.number = List.range s.calls.length

/-- What the service went through since `s₀`, and what the clients heard of it, are the
requests that were carried out. -/
structure Served (s₀ : State) (s : Scheduler) : Prop where
  state : s.state = Machine.run Face.step s₀ s.history
  carriedOut : s.history.filterMap Step.task? = s.executed.map Request.task
  heard : ∀ p ∈ s.heard, ∃ r ∈ s.executed, r.number = p.1
  scheduled : ∀ r ∈ s.calls, r.op.scheduled = true
  present : ∀ r ∈ s.calls, r.session < s.state.sessions.length

theorem mem_ofSession {i : ℕ} {rs : List Request} {r : Request} :
    r ∈ ofSession i rs ↔ r ∈ rs ∧ r.session = i := by
  rw [ofSession, List.mem_filter, decide_eq_true_eq]

theorem ofSession_append_singleton (i : ℕ) (rs : List Request) (r : Request) :
    ofSession i (rs ++ [r]) = ofSession i rs ++ if r.session = i then [r] else [] := by
  rw [ofSession, List.filter_append, ← ofSession, List.filter_singleton]
  by_cases hi : r.session = i <;> simp [hi]

/-- Where a number belongs to one session, the requests of that session are enough to
count it. -/
theorem times_ofSession {i n : ℕ} {rs : List Request}
    (h : ∀ r ∈ rs, r.number = n → r.session = i) : times n (ofSession i rs) = times n rs := by
  rw [times, times, ofSession, List.countP_filter]
  apply List.countP_congr
  intro r hr
  simp only [Bool.and_eq_true, decide_eq_true_eq, and_iff_left_iff_imp]
  exact h r hr

theorem times_append (n : ℕ) (rs qs : List Request) :
    times n (rs ++ qs) = times n rs + times n qs :=
  List.countP_append

theorem times_eq_zero {n : ℕ} {rs : List Request} (h : ∀ r ∈ rs, r.number < n) :
    times n rs = 0 := by
  rw [times, List.countP_eq_zero]
  intro r hr heq
  have hlt := h r hr
  rw [decide_eq_true_eq] at heq
  omega

namespace Settled

variable {s : Scheduler} (h : s.Settled)

include h

theorem executed_mem {r : Request} (hr : r ∈ s.executed) : r ∈ s.calls := by
  have hmem : r ∈ ofSession r.session s.executed ++ (s.workers r.session).pending :=
    List.mem_append_left _ (mem_ofSession.mpr ⟨hr, rfl⟩)
  rw [h.matched] at hmem
  exact (mem_ofSession.mp hmem).1

theorem pending_mem {i : ℕ} {r : Request} (hr : r ∈ (s.workers i).pending) :
    r ∈ s.calls ∧ r.session = i := by
  rw [← mem_ofSession, ← h.matched]
  exact List.mem_append_right _ hr

theorem number_lt {r : Request} (hr : r ∈ s.calls) : r.number < s.calls.length := by
  rw [← List.mem_range, ← h.numbered]
  exact List.mem_map_of_mem hr

theorem calls_ordered : s.calls.Pairwise (·.number < ·.number) := by
  rw [← List.pairwise_map (f := Request.number), h.numbered]
  exact List.pairwise_lt_range

theorem times_calls {r : Request} (hr : r ∈ s.calls) : times r.number s.calls = 1 := by
  have hcount : times r.number s.calls = (s.calls.map Request.number).count r.number := by
    rw [List.count, List.countP_map]
    rfl
  rw [hcount, h.numbered]
  exact List.count_eq_one_of_mem List.nodup_range (List.mem_range.mpr (h.number_lt hr))

theorem eq_of_number {q r : Request} (hq : q ∈ s.calls) (hr : r ∈ s.calls)
    (heq : q.number = r.number) : q = r := by
  refine List.inj_on_of_nodup_map ?_ hq hr heq
  rw [h.numbered]
  exact List.nodup_range

theorem kept {s₀ : State} (hserved : s.Served s₀) : s.Kept s₀ where
  state := hserved.state
  carriedOut := hserved.carriedOut
  present r hr := hserved.present r (h.executed_mem hr)
  genuine _ := h.executed_mem
  accounted r hr := by
    have hsession (q : Request) (hq : q ∈ s.calls) (heq : q.number = r.number) :
        q.session = r.session := by
      rw [h.eq_of_number hq hr heq]
    -- Executed and pending requests of the session make up its calls, among them this one.
    have hdone : times r.number (ofSession r.session s.executed) = times r.number s.executed :=
      times_ofSession fun q hq => hsession q (h.executed_mem hq)
    have hsum := congrArg (times r.number) (h.matched r.session)
    rw [times_append, hdone, times_ofSession hsession, h.times_calls hr] at hsum
    dsimp only
    omega
  ordered i := by
    have hcalls : (ofSession i s.calls).Pairwise (·.number < ·.number) :=
      h.calls_ordered.sublist List.filter_sublist
    rw [← h.matched] at hcalls
    exact (List.pairwise_append.mp hcalls).1

/-- A call that finds room is pending afterwards, behind everything else of its session. -/
theorem schedule {i : ℕ} (op : Op) (hroom : (s.workers i).queue.length < kMaxTasks) :
    (s.schedule i op).Settled where
  matched j := by
    simp only [Scheduler.schedule, ofSession_append_singleton]
    rw [← h.matched j, List.append_assoc]
    by_cases hj : i = j
    · subst hj
      rw [Function.update_self, WorkerThread.pending_schedule_of_lt hroom, if_pos rfl]
    · rw [Function.update_of_ne (Ne.symm hj), if_neg hj, List.append_nil]
  numbered := by
    simp [Scheduler.schedule, h.numbered, List.range_succ]

theorem take (i : ℕ) : (s.step (.take i)).Settled where
  matched j := by
    simp only [Scheduler.step]
    rw [← h.matched j]
    by_cases hj : j = i
    · subst hj
      rw [Function.update_self, WorkerThread.pending_take]
    · rw [Function.update_of_ne hj]
  numbered := h.numbered

theorem run (i : ℕ) : (s.step (.run i)).Settled := by
  simp only [Scheduler.step]
  cases hrun : (s.workers i).running with
  | none => exact h
  | some r =>
      have hpending := WorkerThread.pending_finish hrun
      have hsession : r.session = i := (h.pending_mem (by rw [hpending]; simp)).2
      refine ⟨fun j => ?_, h.numbered⟩
      simp only [Scheduler.carryOut, Scheduler.serve, ofSession_append_singleton]
      rw [← h.matched j, List.append_assoc]
      by_cases hj : j = i
      · subst hj
        rw [Function.update_self, if_pos hsession, hpending, List.singleton_append]
      · rw [Function.update_of_ne hj, hsession, if_neg (Ne.symm hj), List.nil_append]

theorem step {i : SchedulerStep} (hi : s.Fits i) : (s.step i).Settled := by
  cases i with
  | createSession user => exact ⟨h.matched, h.numbered⟩
  | call j op =>
      simp only [Scheduler.step]
      cases hs : s.state.sessions[j]? with
      | none => exact h
      | some session =>
          obtain ⟨hj, -⟩ := List.getElem?_eq_some_iff.mp hs
          cases hop : op.scheduled with
          | true => exact h.schedule op (hi j op rfl hop hj)
          | false => exact ⟨h.matched, h.numbered⟩
  | take j => exact h.take j
  | run j => exact h.run j
  | setTeeProperty tee => exact ⟨h.matched, h.numbered⟩
  | wait elapsed => exact ⟨h.matched, h.numbered⟩

/-- A call that finds the queue full is lost. -/
theorem lost {s₀ : State} (hserved : s.Served s₀) {i : SchedulerStep} (hi : ¬s.Fits i) :
    ¬(s.step i).Kept s₀ := by
  simp only [Fits, not_forall, Nat.not_lt] at hi
  obtain ⟨j, op, rfl, hop, hj, hfull⟩ := hi
  have hstep : s.step (.call j op) = s.schedule j op := by
    simp only [Scheduler.step, List.getElem?_eq_getElem hj, hop, if_true]
  intro hkept
  rw [hstep] at hkept
  -- The request has a number that no other one has, and nobody has heard of it.
  have hnew := hkept.accounted ⟨s.calls.length, j, op⟩
    (List.mem_append_right _ (List.mem_singleton.mpr rfl))
  have hdone : times s.calls.length s.executed = 0 :=
    times_eq_zero fun r hr => h.number_lt (h.executed_mem hr)
  have hleft : times s.calls.length (s.workers j).pending = 0 :=
    times_eq_zero fun r hr => h.number_lt (h.pending_mem hr).1
  have hunheard (e : Error) : (s.calls.length, .onError e) ∉ s.heard := by
    intro he
    obtain ⟨r, hr, hnumber⟩ := hserved.heard _ he
    exact (h.number_lt (h.executed_mem hr)).ne hnumber
  simp only [Scheduler.schedule, Function.update_self, WorkerThread.schedule_of_le hfull, hdone,
    hleft] at hnew
  simp [hunheard] at hnew

end Settled

namespace Served

variable {s₀ : State} {s : Scheduler} (h : s.Served s₀)

include h

/-- A step of the service that carries out no request. -/
theorem serve {st : Step} (hst : st.task? = none)
    (hlength : s.state.sessions.length ≤ (s.serve st).state.sessions.length) :
    (s.serve st).Served s₀ where
  state := by
    show Face.step s.state st = _
    rw [h.state]
    exact (Machine.run_append Face.step s₀ s.history [st]).symm
  carriedOut := by
    show (s.history ++ [st]).filterMap Step.task? = _
    rw [List.filterMap_append, h.carriedOut]
    simp [hst, Scheduler.serve]
  heard := h.heard
  scheduled := h.scheduled
  present r hr := (h.present r hr).trans_le hlength

/-- A step that carries out a request of its session. -/
theorem carryOut {i : ℕ} {r : Request} (hcall : r ∈ s.calls) (hsession : r.session = i)
    (hlength : s.state.sessions.length ≤ (s.carryOut i r).state.sessions.length) :
    (s.carryOut i r).Served s₀ where
  state := by
    show Face.step s.state (.op i r.op) = _
    rw [h.state]
    exact (Machine.run_append Face.step s₀ s.history [.op i r.op]).symm
  carriedOut := by
    have htask : (Step.op i r.op).task? = some r.task := by
      rw [Step.task?, if_pos (h.scheduled r hcall), ← hsession]
      rfl
    show (s.history ++ [Step.op i r.op]).filterMap Step.task? =
      (s.executed ++ [r]).map Request.task
    rw [List.filterMap_append, h.carriedOut, List.map_append]
    simp [htask]
  heard := by
    intro p hp
    obtain hp | hp := List.mem_append.mp hp
    · obtain ⟨q, hq, hnumber⟩ := h.heard p hp
      exact ⟨q, List.mem_append_left _ hq, hnumber⟩
    · obtain ⟨c, -, rfl⟩ := List.mem_map.mp hp
      exact ⟨r, List.mem_append_right _ (List.mem_singleton.mpr rfl), rfl⟩
  scheduled := h.scheduled
  present q hq := (h.present q hq).trans_le hlength

theorem step (hsettled : s.Settled) (i : SchedulerStep) : (s.step i).Served s₀ := by
  have hlength := s.length_sessions_le i
  cases i with
  | createSession user => exact h.serve rfl hlength
  | call j op =>
      simp only [Scheduler.step] at hlength ⊢
      cases hsession : s.state.sessions[j]? with
      | none => exact h
      | some session =>
          simp only [hsession] at hlength ⊢
          obtain ⟨hj, -⟩ := List.getElem?_eq_some_iff.mp hsession
          cases hop : op.scheduled with
          | true =>
              refine ⟨h.state, h.carriedOut, h.heard, fun r hr => ?_, fun r hr => ?_⟩
              · obtain hr | hr := List.mem_append.mp hr
                · exact h.scheduled r hr
                · rw [List.mem_singleton.mp hr]
                  exact hop
              · obtain hr | hr := List.mem_append.mp hr
                · exact h.present r hr
                · rw [List.mem_singleton.mp hr]
                  exact hj
          | false =>
              simp only [hop, Bool.false_eq_true, if_false] at hlength ⊢
              exact h.serve (by rw [Step.task?, hop]; rfl) hlength
  | take j => exact ⟨h.state, h.carriedOut, h.heard, h.scheduled, h.present⟩
  | run j =>
      simp only [Scheduler.step] at hlength ⊢
      cases hrunning : (s.workers j).running with
      | none => exact h
      | some r =>
          simp only [hrunning] at hlength ⊢
          have hpending : r ∈ (s.workers j).pending := by
            rw [WorkerThread.pending_finish hrunning]
            exact List.mem_cons_self
          obtain ⟨hcall, hsession⟩ := hsettled.pending_mem hpending
          exact h.carryOut hcall hsession hlength
  | setTeeProperty tee => exact h.serve rfl hlength
  | wait elapsed => exact h.serve rfl hlength

end Served

/-- In every run, every request is accounted for in what the service went through, and every
session's requests are carried out in order, as long as no call finds the queue of its
session full, and not after the first one that does. -/
theorem requests_kept_iff (state : State) (is : List SchedulerStep) :
    Machine.Along step (fun s i => (s.step i).Kept state) (start state) is ↔
      Machine.Along step Fits (start state) is := by
  apply Machine.along_iff (I := fun s : Scheduler => s.Settled ∧ s.Served state)
  · rintro s i ⟨hsettled, hserved⟩
    refine ⟨fun hkept => ?_, fun hi => (hsettled.step hi).kept (hserved.step hsettled i)⟩
    by_contra hi
    exact hsettled.lost hserved hi hkept
  · rintro s i ⟨hsettled, hserved⟩ hi
    exact ⟨hsettled.step hi, hserved.step hsettled i⟩
  · exact ⟨⟨fun _ => rfl, rfl⟩, rfl, rfl, by simp [start], by simp [start], by simp [start]⟩

/-- Seventeen calls while the worker does not come to run: the last one is lost. -/
theorem request_lost :
    ¬∀ (state : State) (is : List SchedulerStep),
      Machine.Along step (fun s i => (s.step i).Kept state) (start state) is := by
  intro hall
  have halong := hall (State.new false false)
    (.createSession 0 :: List.replicate 16 (.call 0 .getFeatures) ++ [.call 0 .getFeatures])
  have hkept := ((Machine.along_append _ _ _ _).mp halong).2.1
  obtain ⟨hdone, -⟩ | ⟨-, hleft⟩ | ⟨-, -, e, he⟩ :=
    hkept.accounted ⟨16, 0, .getFeatures⟩ (List.mem_of_getElem? (i := 16) rfl)
  · exact absurd hdone (by decide)
  · exact absurd hleft (by decide)
  · cases he

end Scheduler

end OneplusHal.Face
