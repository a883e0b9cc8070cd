import Mathlib.Data.List.Forall2
import OneplusHal.Face.Registry
import OneplusHal.Face.Requests

/-!
The registry under the workers of the sessions.

Calls of any sessions come in at any time, and each worker serves those of its session in its own
time. What the sessions hear is nonetheless what the registry says to somebody who asks one thing
after the other, in the order in which the workers got the lock.
-/

namespace OneplusHal.Face

open OneplusHal

/-- The user of a session. -/
def State.userOf (s : State) (i : ℕ) : Option Int32 := s.sessions[i]?.map Session.mUserId

theorem State.userOf_set {s : State} {i : ℕ} {session session' : Session}
    (hsession : s.sessions[i]? = some session) (huser : session'.mUserId = session.mUserId)
    (j : ℕ) : (s.sessions.set i session')[j]?.map Session.mUserId = s.userOf j := by
  obtain ⟨hi, rfl⟩ := List.getElem?_eq_some_iff.mp hsession
  rw [State.userOf]
  by_cases hj : i = j
  · subst hj
    rw [List.getElem?_set_self hi, List.getElem?_eq_getElem hi, Option.map_some, Option.map_some,
      huser]
  · rw [List.getElem?_set_ne hj]

/-- A session keeps its user as long as the process lives. -/
theorem State.userOf_step {s : State} {i : ℕ} {user : Int32} (h : s.userOf i = some user)
    {st : Step} (hst : ∀ available, st ≠ .restart available) :
    (step s st).userOf i = some user := by
  cases st with
  | createSession other =>
      obtain ⟨session, hsession, rfl⟩ := Option.map_eq_some_iff.mp h
      obtain ⟨hi, -⟩ := List.getElem?_eq_some_iff.mp hsession
      show (s.sessions ++ [_])[i]?.map Session.mUserId = _
      rw [List.getElem?_append_left hi, hsession]
      rfl
  | op j op =>
      simp only [step]
      cases hsession : s.sessions[j]? with
      | none => exact h
      | some session =>
          dsimp only
          rw [State.userOf, sessions_runOp (s := s.begin) op hsession]
          exact (State.userOf_set hsession (mUserId_updated op session) i).trans h
  | setTeeProperty tee => exact h
  | restart available => exact absurd rfl (hst available)
  | wait elapsed => exact h

/-- What need not be scheduled has nothing to do with the enrollment. -/
theorem Op.request_of_not_scheduled {op : Op} (h : op.scheduled = false) : op.request = .other := by
  cases op with
  | generateChallenge r => rfl
  | revokeChallenge challenge => rfl
  | close => rfl
  | _ => cases h

theorem Responds.eq_of_other {user : Int32} {r r' : Registry} {cs : List Callback}
    (h : Responds user r .other cs r') : r' = r := by
  cases h
  rfl

namespace Scheduler

/-- What a worker has asked for its session, and what the session heard. -/
def exchange (s : Scheduler) : SchedulerStep → Option Exchange
  | .run i => (s.workers i).running.bind fun r => Face.exchange s.state (.op i r.op)
  | _ => none

/-- No queue is full, and the service goes on as it should. -/
def Steady (s : Scheduler) (i : SchedulerStep) : Prop :=
  s.Fits i ∧ ∀ st, s.served i = some st → Face.Steady s.state st

/-- The registry that the service stands for. -/
def registry (s : Scheduler) : Registry := s.state.registry

/-- What is served beside the workers leaves the enrollment alone. -/
theorem exchange_of_served {s : Scheduler} {i : SchedulerStep} {st : Step}
    (h : s.served i = some st) : s.exchange i = Face.exchange s.state st ∨
      (s.exchange i = none ∧ ∀ x, Face.exchange s.state st = some x → x.request = .other) := by
  cases i with
  | call j op =>
      obtain ⟨session, hsession, hst⟩ := Option.bind_eq_some_iff.mp h
      refine .inr ⟨rfl, fun x hx => ?_⟩
      split at hst
      · cases hst
      · rename_i hscheduled
        cases hst
        rw [Face.exchange, hsession] at hx
        cases hx
        exact Op.request_of_not_scheduled (Bool.eq_false_iff.mpr hscheduled)
  | run j =>
      obtain ⟨r, hrunning, rfl⟩ := Option.map_eq_some_iff.mp h
      exact .inl (by rw [exchange, hrunning, Option.bind_some])
  | take j => cases h
  | _ =>
      cases h
      exact .inl rfl

theorem userOf_step {s : Scheduler} {j : ℕ} {user : Int32} (h : s.state.userOf j = some user)
    (i : SchedulerStep) : (s.step i).state.userOf j = some user := by
  rw [state_step_eq]
  cases hserved : s.served i with
  | none => exact h
  | some st => exact State.userOf_step h (served_ne_restart hserved)

/-! ### Each step -/

/-- What holds of the service, of the queues, and of every call. -/
structure Serving (s : Scheduler) : Prop where
  settled : s.Settled
  registered : Registered s.state
  present : ∀ r ∈ s.calls, ∃ user, s.state.userOf r.session = some user

theorem Serving.moves {s : Scheduler} (h : s.Serving) {i : SchedulerStep} (hi : s.Steady i) :
    Refinement.Moves Registry.Transition s.registry (s.exchange i) (s.step i).registry ∧
      Registered (s.step i).state := by
  rw [registry, registry]
  rw [state_step_eq]
  cases hserved : s.served i with
  | none =>
      have hexchange : s.exchange i = none := by
        cases i with
        | run j =>
            have hnone := Option.map_eq_none_iff.mp hserved
            rw [exchange, hnone, Option.bind_none]
        | _ => rfl
      rw [hexchange]
      exact ⟨rfl, h.registered⟩
  | some st =>
      obtain ⟨hmoves, hregistered⟩ := h.registered.step (hi.2 st hserved)
      refine ⟨?_, hregistered⟩
      obtain hexchange | ⟨hexchange, hother⟩ := exchange_of_served hserved
      · rw [hexchange]
        exact hmoves
      · rw [hexchange]
        show (Face.step s.state st).registry = s.state.registry
        cases hx : Face.exchange s.state st with
        | none =>
            rw [hx] at hmoves
            exact hmoves
        | some x =>
            obtain ⟨user, request, heard⟩ := x
            obtain rfl : request = .other := hother _ hx
            rw [hx] at hmoves
            exact Responds.eq_of_other hmoves

theorem Serving.step {s : Scheduler} (h : s.Serving) {i : SchedulerStep} (hi : s.Steady i) :
    (s.step i).Serving := by
  refine ⟨h.settled.step hi.1, (h.moves hi).2, fun r hr => ?_⟩
  have hold (hr : r ∈ s.calls) : ∃ user, (s.step i).state.userOf r.session = some user := by
    obtain ⟨user, huser⟩ := h.present r hr
    exact ⟨user, userOf_step huser i⟩
  cases i with
  | call j op =>
      simp only [Scheduler.step] at hr hold ⊢
      cases hsession : s.state.sessions[j]? with
      | none =>
          rw [hsession] at hr hold
          exact hold hr
      | some session =>
          rw [hsession] at hr hold
          dsimp only at hr hold ⊢
          cases hscheduled : op.scheduled with
          | true =>
              rw [hscheduled] at hr hold
              obtain hr | hr := List.mem_append.mp hr
              · exact hold hr
              · rw [List.mem_singleton.mp hr]
                exact ⟨session.mUserId, by
                  show s.state.userOf j = _
                  rw [State.userOf, hsession]
                  rfl⟩
          | false =>
              rw [hscheduled] at hr hold
              exact hold hr
  | run j =>
      refine hold ?_
      simp only [Scheduler.step] at hr
      split at hr
      · exact hr
      · exact hr
  | _ => exact hold hr

/-! ### Every run -/

/-- The exchange is that of the request. -/
def Answers (s : Scheduler) (r : Request) (x : Exchange) : Prop :=
  s.state.userOf r.session = some x.user ∧ r.op.request = x.request

theorem Answers.step {s : Scheduler} {r : Request} {x : Exchange} (h : s.Answers r x)
    (i : SchedulerStep) : (s.step i).Answers r x :=
  ⟨userOf_step h.1 i, h.2⟩

theorem Serving.answers {s : Scheduler} (h : s.Serving) (i : SchedulerStep) :
    ∃ rs, (s.step i).executed = s.executed ++ rs ∧
      List.Forall₂ (s.step i).Answers rs (s.exchange i).toList := by
  have hnone (hexecuted : (s.step i).executed = s.executed) (hexchange : s.exchange i = none) :
      ∃ rs, (s.step i).executed = s.executed ++ rs ∧
        List.Forall₂ (s.step i).Answers rs (s.exchange i).toList := by
    refine ⟨[], by rw [hexecuted, List.append_nil], ?_⟩
    rw [hexchange]
    exact .nil
  cases i with
  | run j =>
      cases hrunning : (s.workers j).running with
      | none => exact hnone (by simp only [Scheduler.step, hrunning]) (by simp [exchange, hrunning])
      | some r =>
          have hpending : r ∈ (s.workers j).pending := by
            rw [WorkerThread.pending_finish hrunning]
            exact List.mem_cons_self
          obtain ⟨hcall, rfl⟩ := h.settled.pending_mem hpending
          obtain ⟨user, huser⟩ := h.present r hcall
          obtain ⟨session, hsession, rfl⟩ := Option.map_eq_some_iff.mp huser
          refine ⟨[r], by simp only [Scheduler.step, hrunning, carryOut, serve], ?_⟩
          rw [exchange, hrunning, Option.bind_some, Face.exchange, hsession]
          exact .cons ⟨userOf_step huser _, rfl⟩ .nil
  | call j op =>
      refine hnone ?_ rfl
      simp only [Scheduler.step]
      split
      · rfl
      · split <;> rfl
  | _ => exact hnone rfl rfl

/-- The requests are carried out one after the other, each with its exchange. -/
theorem Serving.run {s : Scheduler} (h : s.Serving) {is : List SchedulerStep}
    (his : Machine.Along Scheduler.step Steady s is) :
    (Machine.run Scheduler.step s is).Serving ∧
      ∃ rs, (Machine.run Scheduler.step s is).executed = s.executed ++ rs ∧
        List.Forall₂ (Machine.run Scheduler.step s is).Answers rs
          (Refinement.labels Scheduler.step exchange s is) := by
  induction is generalizing s with
  | nil => exact ⟨h, [], (List.append_nil _).symm, .nil⟩
  | cons i is ih =>
      obtain ⟨hserving, rs, hexecuted, hanswers⟩ := ih (h.step his.1) his.2
      obtain ⟨first, hfirst, hanswer⟩ := h.answers i
      refine ⟨hserving, first ++ rs, ?_, ?_⟩
      · rw [Machine.run_cons, hexecuted, hfirst, List.append_assoc]
      · refine List.rel_append ?_ hanswers
        refine hanswer.imp fun r x hx => ?_
        exact Machine.run_invariant (I := fun s : Scheduler => s.Answers r x)
          (fun s i hs => hs.step i) hx is

/-- However the calls of the sessions and their workers interleave, as long as no queue is full:
what is heard is what the registry says to one who asks the requests that were carried out one after
the other; and what was carried out for a session and what is pending, in this order, are its
calls. -/
theorem linearized {state : State} (h₀ : state.Initial) {is : List SchedulerStep}
    (his : Machine.Along step Steady (start state) is) :
    let s := Machine.run step (start state) is
    let history := Refinement.labels step exchange (start state) is
    Refinement.Run Registry.Transition none history s.registry ∧
      List.Forall₂ s.Answers s.executed history ∧
      ∀ i, ofSession i s.executed ++ (s.workers i).pending = ofSession i s.calls := by
  obtain ⟨hregistered, hnone⟩ := Registered.of_initial h₀
  have hserving : (start state).Serving :=
    ⟨⟨fun _ => rfl, rfl⟩, hregistered, fun _ hr => absurd hr List.not_mem_nil⟩
  obtain ⟨hserved, rs, hexecuted, hanswers⟩ := hserving.run his
  have hstep (s : Scheduler) (i : SchedulerStep) (h : s.Serving) (hi : s.Steady i) :
      Refinement.Moves Registry.Transition s.registry (s.exchange i) (s.step i).registry ∧
        (s.step i).Serving := ⟨(h.moves hi).1, h.step hi⟩
  have hruns := Refinement.refines hstep hserving his
  intro s history
  refine ⟨?_, ?_, hserved.settled.matched⟩
  · rw [← hnone]
    exact hruns
  · rw [show s.executed = rs from hexecuted]
    exact hanswers

/-- Session 0 asks for the enrollments of its user before session 1 enrolls the user, and gets
its answer afterwards. -/
def twoSessions : List SchedulerStep :=
  [.createSession 0, .createSession 0, .call 1 (.generateChallenge .one),
    .call 0 .enumerateEnrollments, .call 1 (.enroll 1 true .quiet), .take 0, .take 1, .run 1,
    .run 0]

theorem steady_createSession {s : Scheduler} {user : Int32} (h : 0 ≤ user) :
    s.Steady (.createSession user) := by
  refine ⟨?_, ?_⟩
  · rintro j op ⟨⟩
  · rintro st ⟨⟩
    exact h

theorem steady_call {s : Scheduler} {i : ℕ} {op : Op} (hop : op.scheduled = true)
    (hroom : (s.workers i).queue.length < kMaxTasks) : s.Steady (.call i op) := by
  refine ⟨?_, fun st hst => ?_⟩
  · rintro j op ⟨⟩ - -
    exact hroom
  · obtain ⟨session, -, hserved⟩ := Option.bind_eq_some_iff.mp hst
    rw [hop, if_pos rfl] at hserved
    cases hserved

theorem steady_generateChallenge {s : Scheduler} (i : ℕ) (r : RandomId) :
    s.Steady (.call i (.generateChallenge r)) := by
  refine ⟨?_, fun st hst => ?_⟩
  · rintro j op ⟨⟩ hscheduled
    cases hscheduled
  · obtain ⟨session, -, hserved⟩ := Option.bind_eq_some_iff.mp hst
    cases hserved
    trivial

theorem steady_take {s : Scheduler} (i : ℕ) : s.Steady (.take i) := by
  refine ⟨?_, ?_⟩
  · rintro j op ⟨⟩
  · rintro st ⟨⟩

theorem steady_run {s : Scheduler} {i : ℕ} {r : Request} (hrunning : (s.workers i).running = some r)
    (hop : Face.Steady s.state (.op i r.op)) : s.Steady (.run i) := by
  refine ⟨?_, fun st hst => ?_⟩
  · rintro j op ⟨⟩
  · obtain ⟨r', hr', rfl⟩ := Option.map_eq_some_iff.mp hst
    cases hrunning.symm.trans hr'
    exact hop

theorem linearized_twoSessions :
    let s := Machine.run step (start (.new false true)) twoSessions
    let history := Refinement.labels step exchange (start (.new false true)) twoSessions
    (Refinement.Run Registry.Transition none history s.registry ∧
      List.Forall₂ s.Answers s.executed history ∧
      ∀ i, ofSession i s.executed ++ (s.workers i).pending = ofSession i s.calls) ∧
      s.registry.isSome = true ∧ s.executed.map Request.number = [1, 0] := by
  intro s history
  refine ⟨linearized (State.new_initial false true) ⟨steady_createSession (by decide),
    steady_createSession (by decide), steady_generateChallenge 1 .one,
    steady_call rfl (show 0 < 16 by decide), steady_call rfl (show 0 < 16 by decide),
    steady_take 0, steady_take 1, ?_, ?_, trivial⟩, by decide +kernel, by decide +kernel⟩
  · exact steady_run (r := ⟨1, 1, .enroll 1 true .quiet⟩) rfl trivial
  · exact steady_run (r := ⟨0, 0, .enumerateEnrollments⟩) rfl trivial

end Scheduler

end OneplusHal.Face
