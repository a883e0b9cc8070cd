import OneplusHal.Face.AuthEngine
import OneplusHal.Face.TeeRelay

/-!
The sessions with the trusted app over any life of the two clients: what is handed out is given
back once, and used only until then; a command goes to a session that was started for it, and no ION
memory outlives a request. What the operations know of the sessions is an abstraction of it.
-/

namespace OneplusHal.Face.TrustedApp

open Raster

/-- The two clients, and what the system sees of them. -/
structure Tees where
  auth : AuthSession := {}
  face : FaceSessions := {}
  tee : Tee := {}

/-- A request of the SDK. -/
structure Request where
  io : CommunicateIO
  send : List UInt8
  sendLen : Int32
  rspLen : Int32
  rsp : Buffer UInt8
  promised : Promised send sendLen rspLen rsp

inductive Input
  | openAuth (load : Bool) (io : StartIO)
  | closeAuth
  | communicate (r : Request)
  | openFace (load : Bool) (feature frame : StartIO)
  | command (cmd : SharedBuffer.Command) (load : Bool) (feature frame : StartIO)
  /-- the `FaceTee` is destroyed, and there will be another one -/
  | destroyFace

namespace Tees

def step (t : Tees) : Input → Option Tees
  | .openAuth load io =>
      let opened := t.auth.openTee load io t.tee
      some { t with auth := opened.2.1, tee := opened.2.2 }
  | .closeAuth => some { t with auth := (t.auth.close t.tee).1, tee := (t.auth.close t.tee).2 }
  | .communicate r => do
      let answered ← communicate r.io r.send r.sendLen r.rspLen r.rsp t.auth t.tee
      return { t with tee := answered.2 }
  | .openFace load feature frame =>
      let opened := t.face.openTee load feature frame t.tee
      some { t with face := opened.2.1, tee := opened.2.2 }
  | .command cmd load feature frame =>
      let sent := t.face.command cmd load feature frame t.tee
      some { t with face := sent.1, tee := sent.2 }
  | .destroyFace => some { t with face := {}, tee := t.face.destroy t.tee }

/-- The handles that the clients hold. -/
def slots (a : AuthSession) (f : FaceSessions) : Role → Option ℕ
  | .sdk => a.sHandle
  | .feature => f.mFeatureHandle
  | .frame => f.mFrameHandle

def sessions (slots : Role → Option ℕ) : Set Resource :=
  {a | ∃ role handle, slots role = some handle ∧ a = .app role handle}

variable {slots' : Role → Option ℕ} {role : Role} {handle : ℕ}

theorem sessions_update_some (h : slots' role = none) (handle : ℕ) :
    sessions (Function.update slots' role (some handle)) =
      insert (.app role handle) (sessions slots') := by
  ext a
  constructor
  · rintro ⟨role', handle', hslot, rfl⟩
    by_cases hrole : role' = role
    · subst hrole
      rw [Function.update_self] at hslot
      cases hslot
      exact .inl rfl
    · rw [Function.update_of_ne hrole] at hslot
      exact .inr ⟨role', handle', hslot, rfl⟩
  · rintro (rfl | ⟨role', handle', hslot, rfl⟩)
    · exact ⟨role, handle, Function.update_self .., rfl⟩
    · refine ⟨role', handle', ?_, rfl⟩
      have hrole : role' ≠ role := by
        rintro rfl
        cases h.symm.trans hslot
      rw [Function.update_of_ne hrole, hslot]

theorem sessions_update_none (h : slots' role = some handle) :
    sessions (Function.update slots' role none) = sessions slots' \ {.app role handle} := by
  ext a
  constructor
  · rintro ⟨role', handle', hslot, rfl⟩
    by_cases hrole : role' = role
    · subst hrole
      rw [Function.update_self] at hslot
      cases hslot
    · rw [Function.update_of_ne hrole] at hslot
      exact ⟨⟨role', handle', hslot, rfl⟩, fun heq => hrole (Resource.app.inj heq).1⟩
  · rintro ⟨⟨role', handle', hslot, rfl⟩, hne⟩
    refine ⟨role', handle', ?_, rfl⟩
    have hrole : role' ≠ role := by
      rintro rfl
      cases h.symm.trans hslot
      exact hne rfl
    rw [Function.update_of_ne hrole, hslot]

/-- A session that was started fills the slot. -/
theorem keeps_of_obtains {r : Option ℕ × Tee} (hslot : slots' role = none)
    (h : Obtains (.app role) (sessions slots') r) :
    Keeps (sessions (Function.update slots' role r.1)) r.2 := by
  obtain ⟨s, rfl, hs⟩ | ⟨handle, s, rfl, -, hs⟩ := h.cases
  · rwa [← hslot, Function.update_eq_self]
  · rwa [sessions_update_some hslot]

variable (role) in
theorem keeps_start {s : Tee} (h : Keeps (sessions slots') s) (io : StartIO) :
    Keeps (sessions (Function.update slots' role (FaceSessions.start role io (slots' role) s).1))
      (FaceSessions.start role io (slots' role) s).2 := by
  cases hslot : slots' role with
  | none => exact keeps_of_obtains hslot (h.startAttempts role _ io _)
  | some handle =>
      show Keeps (sessions (Function.update slots' role (some handle))) s
      rwa [← hslot, Function.update_eq_self]

variable (role) in
theorem keeps_shutdown {s : Tee} (h : Keeps (sessions slots') s) :
    Keeps (sessions (Function.update slots' role none))
      (FaceSessions.shutdown role (slots' role) s) := by
  cases hslot : slots' role with
  | none =>
      show Keeps (sessions (Function.update slots' role none)) s
      rwa [← hslot, Function.update_eq_self]
  | some handle =>
      rw [sessions_update_none hslot]
      exact h.release rfl rfl rfl ⟨role, handle, hslot, rfl⟩

theorem slots_feature (a : AuthSession) (f : FaceSessions) (handle : Option ℕ) :
    slots a { f with mFeatureHandle := handle } =
      Function.update (slots a f) .feature handle := by
  funext role
  cases role <;> rfl

theorem slots_frame (a : AuthSession) (f : FaceSessions) (handle : Option ℕ) :
    slots a { f with mFrameHandle := handle } = Function.update (slots a f) .frame handle := by
  funext role
  cases role <;> rfl

theorem slots_sdk (a : AuthSession) (f : FaceSessions) (handle : Option ℕ) :
    slots { a with sHandle := handle } f = Function.update (slots a f) .sdk handle := by
  funext role
  cases role <;> rfl

theorem keeps_openFace {a : AuthSession} {f : FaceSessions} {s : Tee}
    (h : Keeps (sessions (slots a f)) s) (load : Bool) (feature frame : StartIO) :
    Keeps (sessions (slots a (f.openTee load feature frame s).2.1))
      (f.openTee load feature frame s).2.2 := by
  have h₀ : Keeps (sessions (slots a { f with mLib := f.mLib || load })) s := h
  have h₁ := keeps_start .feature h₀ feature
  rw [← slots_feature] at h₁
  have h₂ := keeps_start .frame h₁ frame
  rw [← slots_frame] at h₂
  simp only [FaceSessions.openTee]
  split
  · exact h
  · split
    · exact h₁
    · exact h₂

theorem handle_eq_slots (a : AuthSession) (f : FaceSessions) (cmd : SharedBuffer.Command) :
    f.handle cmd = slots a f (sessionOf cmd) := by
  cases cmd <;> rfl

theorem keeps_command {a : AuthSession} {f : FaceSessions} {s : Tee}
    (h : Keeps (sessions (slots a f)) s) (cmd : SharedBuffer.Command) (load : Bool)
    (feature frame : StartIO) :
    Keeps (sessions (slots a (f.command cmd load feature frame s).1))
      (f.command cmd load feature frame s).2 := by
  have hopen := keeps_openFace h load feature frame
  simp only [FaceSessions.command]
  split
  · rename_i handle _ hhandle
    refine hopen.emit rfl rfl fun r hr => ?_
    rw [handle_eq_slots a] at hhandle
    exact ⟨sessionOf cmd, handle, hhandle, List.mem_singleton.mp hr⟩
  · exact hopen

theorem keeps_destroyFace {a : AuthSession} {f : FaceSessions} {s : Tee}
    (h : Keeps (sessions (slots a f)) s) : Keeps (sessions (slots a {})) (f.destroy s) := by
  have h₁ := keeps_shutdown .feature h
  rw [← slots_feature] at h₁
  have h₂ := keeps_shutdown .frame h₁
  rwa [← slots_frame] at h₂

theorem keeps_openAuth {a : AuthSession} {f : FaceSessions} {s : Tee}
    (h : Keeps (sessions (slots a f)) s) (load : Bool) (io : StartIO) :
    Keeps (sessions (slots (a.openTee load io s).2.1 f)) (a.openTee load io s).2.2 := by
  have h₀ : Keeps (sessions (slots { a with sStartApp := a.sStartApp || load } f)) s := h
  simp only [AuthSession.openTee]
  split
  · exact h
  · rename_i hclosed
    split
    · exact h₀
    · have hslot : slots { a with sStartApp := a.sStartApp || load } f .sdk = none := by
        simpa [slots] using hclosed
      have hopen := keeps_of_obtains hslot
        (h₀.startAttempts .sdk (fun _ => true) io (List.range' 1 5))
      rw [← slots_sdk] at hopen
      exact hopen

theorem keeps_closeAuth {a : AuthSession} {f : FaceSessions} {s : Tee}
    (h : Keeps (sessions (slots a f)) s) :
    Keeps (sessions (slots (a.close s).1 f)) (a.close s).2 := by
  rw [AuthSession.close]
  split
  · exact h
  · rename_i handle hhandle
    rw [slots_sdk, sessions_update_none hhandle]
    exact h.release rfl rfl rfl ⟨.sdk, handle, hhandle, rfl⟩

/-- What is handed out and not given back are the sessions of the clients. -/
def Sound (t : Tees) : Prop := Keeps (sessions (slots t.auth t.face)) t.tee

theorem Sound.step {t : Tees} (h : t.Sound) (i : Input) : ∃ t', t.step i = some t' ∧ t'.Sound := by
  cases i with
  | openAuth load io => exact ⟨_, rfl, keeps_openAuth h load io⟩
  | closeAuth => exact ⟨_, rfl, keeps_closeAuth h⟩
  | communicate r =>
      obtain ⟨reply, s₁, hr, h₁, -⟩ := Keeps.communicate r.io h r.promised
        fun handle hhandle => ⟨.sdk, handle, hhandle, rfl⟩
      refine ⟨{ t with tee := s₁ }, ?_, h₁⟩
      simp only [Tees.step, hr]
      rfl
  | openFace load feature frame => exact ⟨_, rfl, keeps_openFace h load feature frame⟩
  | command cmd load feature frame => exact ⟨_, rfl, keeps_command h cmd load feature frame⟩
  | destroyFace => exact ⟨_, rfl, keeps_destroyFace h⟩

/-- The life of the clients. -/
def run (t : Tees) (is : List Input) : Option Tees := is.foldlM step t

theorem Sound.run {t : Tees} (h : t.Sound) (is : List Input) :
    ∃ t', t.run is = some t' ∧ t'.Sound := by
  induction is generalizing t with
  | nil => exact ⟨t, rfl, h⟩
  | cons i is ih =>
      obtain ⟨t₁, hstep, h₁⟩ := h.step i
      obtain ⟨t₂, hrun, h₂⟩ := ih h₁
      refine ⟨t₂, ?_, h₂⟩
      rw [Tees.run, List.foldlM_cons, hstep]
      exact hrun

theorem sound_init : Sound {} := by
  have hnone : sessions (slots {} {}) = ∅ := by
    ext a
    constructor
    · rintro ⟨role, handle, hslot, -⟩
      cases role <;> cases hslot
    · exact False.elim
  rw [Sound, hnone]
  exact keeps_init

/-- The books of the system: what is out are the sessions that the clients hold, what is used or
given back is out at that moment, nothing is given back twice, and nothing is used afterwards. -/
structure Tidy (t : Tees) : Prop where
  out : ∀ r, ledger.Owned t.tee.log r ↔
    ∃ role handle, slots t.auth t.face role = some handle ∧ r = .app role handle
  admitted : EachAfter ledger.Admits t.tee.log
  once : ∀ r, t.tee.log.countP (fun e => ledger.releases e = some r) ≤ 1
  unused : ∀ before e after r, t.tee.log = before ++ e :: after →
    ledger.releases e = some r → ∀ e' ∈ after, r ∉ ledger.touches e'

/-- Whatever the clients do and however the system answers, every access to the buffers of a request
stays in bounds and the books are in order. -/
theorem run_tidy (is : List Input) : ∃ t, run {} is = some t ∧ t.Tidy := by
  obtain ⟨t, hrun, h⟩ := sound_init.run is
  have hbalanced := h.balanced
  exact ⟨t, hrun, hbalanced.owned, hbalanced.disciplined.eachAfter,
    hbalanced.disciplined.countP_releases_le,
    fun _ _ _ _ hsplit hr => hbalanced.disciplined.not_touched_after hsplit hr⟩

/-- Every request that the SDK makes in a life of the clients reaches the app as it was sent, by
the session of the SDK and once, and the answer reaches the SDK; or else there is no session, no
sense in its lengths or no memory, and the app is not asked. -/
theorem run_relays (is : List Input) (r : Request) :
    ∃ t reply s, run {} is = some t ∧
      communicate r.io r.send r.sendLen r.rspLen r.rsp t.auth t.tee = some (reply, s) ∧
      Relayed r.io r.send r.sendLen r.rspLen r.rsp t.auth t.tee reply s := by
  obtain ⟨t, hrun, h⟩ := sound_init.run is
  obtain ⟨reply, s, hr, -, hrelayed⟩ := Keeps.communicate r.io h r.promised
    fun handle hhandle => ⟨.sdk, handle, hhandle, rfl⟩
  exact ⟨t, reply, s, hrun, hr, hrelayed⟩

end Tees

/-! ### What the attempts leave behind -/

/-- Attempts to start the app, and the session that comes of them: what an attempt has started is
shut down at once, unless it is the last one and kept. -/
inductive Attempts (role : Role) : List TeeEvent → Option ℕ → Prop
  | nil : Attempts role [] none
  | refused {evs : List TeeEvent} (h : Attempts role evs none) (path : String) :
      Attempts role (evs ++ [.startApp role path none]) none
  | shut {evs : List TeeEvent} (h : Attempts role evs none) (path : String) (handle : ℕ) :
      Attempts role (evs ++ [.startApp role path (some handle), .shutdownApp role handle]) none
  | slept {evs : List TeeEvent} (h : Attempts role evs none) : Attempts role (evs ++ [.usleep]) none
  | kept {evs : List TeeEvent} (h : Attempts role evs none) (path : String) (handle : ℕ) :
      Attempts role (evs ++ [.startApp role path (some handle)]) (some handle)

/-- A session that is open is left alone, and without one there are attempts. -/
inductive Opened (role : Role) : Option ℕ → Option ℕ → List TeeEvent → Prop
  | held (handle : ℕ) : Opened role (some handle) (some handle) []
  | attempted {handle : Option ℕ} {evs : List TeeEvent} (h : Attempts role evs handle) :
      Opened role none handle evs

/-- The attempts have been made since the log was `t`. -/
def Attempted (role : Role) (t : List TeeEvent) (r : Option ℕ × Tee) : Prop :=
  ∃ evs, r.2.log = t ++ evs ∧ Attempts role evs r.1

section Attempted

variable {role : Role} {t : List TeeEvent} {s : Tee}

theorem Attempted.startAt (h : Attempted role t (none, s)) (path : String)
    (answer : StartAnswer) : Attempted role t (startAt role path answer s) := by
  obtain ⟨evs, hlog, h⟩ := h
  replace hlog : s.log = t ++ evs := hlog
  simp only [TrustedApp.startAt, Tee.handOut]
  cases answer.handle.isSome with
  | false => exact ⟨_, by simp [Tee.emit, hlog], h.refused path⟩
  | true =>
      simp only [if_true]
      split
      · exact ⟨_, by simp [Tee.emit, hlog], h.kept path s.next⟩
      · exact ⟨_, by simp [Tee.emit, hlog], h.shut path s.next⟩

theorem Attempted.startPaths (h : Attempted role t (none, s)) (answer : String → StartAnswer)
    (paths : List String) : Attempted role t (startPaths role answer paths s) := by
  induction paths generalizing s with
  | nil => exact h
  | cons path rest ih =>
      have hstart := h.startAt path (answer path)
      simp only [TrustedApp.startPaths]
      generalize TrustedApp.startAt role path (answer path) s = started at hstart ⊢
      obtain ⟨_ | handle, s₁⟩ := started
      · exact ih hstart
      · exact hstart

theorem Attempted.startAttempts (h : Attempted role t (none, s)) (sleeps : ℕ → Bool) (io : StartIO)
    (attempts : List ℕ) : Attempted role t (startAttempts role sleeps io attempts s) := by
  induction attempts generalizing s with
  | nil => exact h
  | cons attempt rest ih =>
      have hstart := h.startPaths (io attempt) kAppPaths
      simp only [TrustedApp.startAttempts]
      generalize TrustedApp.startPaths role (io attempt) kAppPaths s = started at hstart ⊢
      obtain ⟨_ | handle, s₁⟩ := started
      · obtain ⟨evs, hlog, hstart⟩ := hstart
        replace hlog : s₁.log = t ++ evs := hlog
        apply ih
        split
        · exact ⟨_, by simp [Tee.emit, hlog], hstart.slept⟩
        · exact ⟨evs, hlog, hstart⟩
      · exact hstart

theorem attempted_self : Attempted role s.log (none, s) := ⟨[], (List.append_nil _).symm, .nil⟩

end Attempted

theorem opened_start (role : Role) (io : StartIO) (handle : Option ℕ) (s : Tee) :
    ∃ evs, (FaceSessions.start role io handle s).2.log = s.log ++ evs ∧
      Opened role handle (FaceSessions.start role io handle s).1 evs := by
  cases handle with
  | some handle => exact ⟨[], (List.append_nil _).symm, .held handle⟩
  | none =>
      obtain ⟨evs, hlog, h⟩ := attempted_self.startAttempts (fun attempt => attempt < kMaxAttempts)
        io (List.range' 1 kMaxAttempts)
      exact ⟨evs, hlog, .attempted h⟩

theorem opened_self (role : Role) (handle : Option ℕ) : Opened role handle handle [] := by
  cases handle with
  | none => exact .attempted .nil
  | some handle => exact .held handle

theorem openTee_opened (load : Bool) (feature frame : StartIO) (f : FaceSessions) (s : Tee) :
    ∃ evs evs', (f.openTee load feature frame s).2.2.log = s.log ++ evs ++ evs' ∧
      Opened .feature f.mFeatureHandle (f.openTee load feature frame s).2.1.mFeatureHandle evs ∧
      Opened .frame f.mFrameHandle (f.openTee load feature frame s).2.1.mFrameHandle evs' := by
  obtain ⟨evs, hlog, hfeature⟩ := opened_start .feature feature f.mFeatureHandle s
  obtain ⟨evs', hlog', hframe⟩ := opened_start .frame frame f.mFrameHandle
    (FaceSessions.start .feature feature f.mFeatureHandle s).2
  simp only [FaceSessions.openTee]
  split
  · exact ⟨[], [], by simp, opened_self .feature _, opened_self .frame _⟩
  split
  · exact ⟨evs, [], by simpa using hlog, hfeature, opened_self .frame _⟩
  · exact ⟨evs, evs', by rw [hlog', hlog], hfeature, hframe⟩

theorem openAuth_opened (load : Bool) (io : StartIO) (a : AuthSession) (s : Tee) :
    ∃ evs, (a.openTee load io s).2.2.log = s.log ++ evs ∧
      Opened .sdk a.sHandle (a.openTee load io s).2.1.sHandle evs := by
  simp only [AuthSession.openTee]
  split
  · exact ⟨[], (List.append_nil _).symm, opened_self .sdk _⟩
  rename_i hclosed
  split
  · exact ⟨[], (List.append_nil _).symm, opened_self .sdk _⟩
  obtain ⟨evs, hlog, h⟩ := attempted_self.startAttempts (fun _ => true) io (List.range' 1 5)
  refine ⟨evs, hlog, ?_⟩
  rw [Option.not_isSome_iff_eq_none.mp hclosed]
  exact .attempted h

/-! ### The sessions of the operations

The operations know of a session only whether it is open, and of the attempts to open it only
which of them succeed, one after the other. -/

/-- The attempts that succeed, in order. -/
def outcomes (io : StartIO) (attempts : List ℕ) : List Bool :=
  attempts.flatMap fun attempt => kAppPaths.map fun path => (io attempt path).usable

theorem isSome_startAt (role : Role) (path : String) (answer : StartAnswer) (s : Tee) :
    (startAt role path answer s).1.isSome = answer.usable := by
  obtain ⟨ret, _ | buffer⟩ := answer
  · simp [startAt, Tee.handOut, StartAnswer.usable]
  · simp only [startAt, Tee.handOut, Option.isSome_some, if_true]
    split
    · rename_i husable
      exact husable.symm
    · rename_i husable
      simpa using husable

theorem isSome_startPaths (role : Role) (answer : String → StartAnswer) (paths : List String)
    (s : Tee) :
    (startPaths role answer paths s).1.isSome = paths.any fun path => (answer path).usable := by
  induction paths generalizing s with
  | nil => rfl
  | cons path rest ih =>
      have hstart := isSome_startAt role path (answer path) s
      rw [List.any_cons, ← hstart]
      simp only [startPaths]
      split
      · rename_i hsome
        rw [hsome]
        rfl
      · rename_i hnone
        rw [ih, hnone]
        rfl

theorem isSome_startAttempts (role : Role) (sleeps : ℕ → Bool) (io : StartIO)
    (attempts : List ℕ) (s : Tee) :
    (startAttempts role sleeps io attempts s).1.isSome = (outcomes io attempts).any id := by
  induction attempts generalizing s with
  | nil => rfl
  | cons attempt rest ih =>
      have hstart := isSome_startPaths role (io attempt) kAppPaths s
      rw [outcomes, List.flatMap_cons, List.any_append, List.any_map]
      change _ = ((kAppPaths.any fun path => (io attempt path).usable) || (outcomes io rest).any id)
      rw [← hstart]
      simp only [startAttempts]
      split
      · rename_i hsome
        rw [hsome]
        rfl
      · rename_i hnone
        rw [ih, hnone]
        rfl

/-- The sessions as the operations see them. -/
def FaceSessions.toFaceTee (f : FaceSessions) : FaceTee :=
  ⟨f.mLib, f.mFeatureHandle.isSome, f.mFrameHandle.isSome⟩

theorem isSome_start (role : Role) (io : StartIO) (handle : Option ℕ) (s : Tee) :
    (FaceSessions.start role io handle s).1.isSome =
      FaceTee.start (outcomes io (List.range' 1 kMaxAttempts)) handle.isSome := by
  cases handle with
  | some handle => rfl
  | none =>
      refine (isSome_startAttempts role _ io _ s).trans ?_
      rw [FaceTee.start, List.take_of_length_le (by simp [outcomes, kAppPaths, kMaxAttempts,
        FaceTee.kStartAttempts, List.range'])]
      rfl

theorem openTee_refines (load : Bool) (feature frame : StartIO) (f : FaceSessions) (s : Tee) :
    FaceTee.openTee
        { load := load
          startFeature := outcomes feature (List.range' 1 kMaxAttempts)
          startFrame := outcomes frame (List.range' 1 kMaxAttempts) } f.toFaceTee =
      ((f.openTee load feature frame s).1, (f.openTee load feature frame s).2.1.toFaceTee) := by
  have hfeature := isSome_start .feature feature f.mFeatureHandle s
  have hframe := isSome_start .frame frame f.mFrameHandle
    (FaceSessions.start .feature feature f.mFeatureHandle s).2
  simp only [FaceTee.openTee, FaceSessions.openTee, FaceSessions.toFaceTee, ← hfeature, ← hframe]
  split
  · rfl
  · cases hstarted : (FaceSessions.start .feature feature f.mFeatureHandle s).1 with
    | none => rfl
    | some handle => rfl

theorem openAuth_refines (io : AuthInitIO) (start : StartIO) (a : AuthSession) (s : Tee)
    (e : AuthEngine) :
    AuthEngine.openTee { io with teeStart := outcomes start (List.range' 1 5) }
        { e with sStartApp := a.sStartApp, sHandle := a.sHandle.isSome } =
      ((a.openTee io.teeLoad start s).1,
        { e with
          sStartApp := (a.openTee io.teeLoad start s).2.1.sStartApp
          sHandle := (a.openTee io.teeLoad start s).2.1.sHandle.isSome }) := by
  have hstart := isSome_startAttempts .sdk (fun _ => true) start (List.range' 1 5) s
  have hlength : (outcomes start (List.range' 1 5)).length ≤ 5 * 2 := by
    simp [outcomes, kAppPaths, List.range']
  simp only [AuthEngine.openTee, AuthSession.openTee, List.take_of_length_le hlength, ← hstart]
  split
  · rfl
  · split
    · rename_i hclosed hload
      have hclosed : a.sHandle = none := by simpa using hclosed
      simp [hclosed]
    · rfl

/-- Opening the sessions is what the operations take it for, and every session that was started in
its course is with its client or shut down again. -/
theorem open_refines :
    (∀ load feature frame (f : FaceSessions) s,
      FaceTee.openTee
          { load := load
            startFeature := outcomes feature (List.range' 1 kMaxAttempts)
            startFrame := outcomes frame (List.range' 1 kMaxAttempts) } f.toFaceTee =
        ((f.openTee load feature frame s).1, (f.openTee load feature frame s).2.1.toFaceTee)) ∧
      (∀ (io : AuthInitIO) start (a : AuthSession) s (e : AuthEngine),
        AuthEngine.openTee { io with teeStart := outcomes start (List.range' 1 5) }
            { e with sStartApp := a.sStartApp, sHandle := a.sHandle.isSome } =
          ((a.openTee io.teeLoad start s).1,
            { e with
              sStartApp := (a.openTee io.teeLoad start s).2.1.sStartApp
              sHandle := (a.openTee io.teeLoad start s).2.1.sHandle.isSome })) ∧
      (∀ load feature frame (f : FaceSessions) s, ∃ evs evs',
        (f.openTee load feature frame s).2.2.log = s.log ++ evs ++ evs' ∧
          Opened .feature f.mFeatureHandle (f.openTee load feature frame s).2.1.mFeatureHandle evs ∧
          Opened .frame f.mFrameHandle (f.openTee load feature frame s).2.1.mFrameHandle evs') ∧
      ∀ load start (a : AuthSession) s, ∃ evs,
        (a.openTee load start s).2.2.log = s.log ++ evs ∧
          Opened .sdk a.sHandle (a.openTee load start s).2.1.sHandle evs :=
  ⟨openTee_refines, openAuth_refines, openTee_opened, openAuth_opened⟩

end OneplusHal.Face.TrustedApp
