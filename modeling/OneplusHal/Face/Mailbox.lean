import OneplusHal.Face.CaptureLoop
import OneplusHal.Lib.Machine

/-!
The mailbox between the camera's callbacks and `nextFrame`.

The steps of `start`, of the callbacks, of `nextFrame` and of `stop` come in any order.
What `start` does before it resets the mailbox touches nothing the other threads use, so
a call is one step up to the reset; each phase after it is a step of its own, and
callbacks come between them. A step of `nextFrame` is one look into the mailbox under the
mutex, the last thing a call of it does.
-/

namespace OneplusHal.Face

open OneplusHal Machine

/-! ### The phases of start -/

/-- What `start` has still to do once the mailbox is reset. -/
inductive StartPhase
  | openCamera
  | createReader
  | createSession

def StartPhase.next : StartPhase → Option StartPhase
  | .openCamera => some .createReader
  | .createReader => some .createSession
  | .createSession => none

namespace CameraSource

/-- `start` up to the reset of the mailbox. -/
def startReset (preview : Bool) (io : StartIO) (c : CameraSource) : Bool × CameraSource :=
  let found := findFrontCamera io.cameras c
  if !found.1 then (false, found.2)
  else (true, { found.2.acquire .preview preview with mFrameAvailable := false, mFailed := false })

/-- A phase of `start`. The listener is registered with the reader's creation. -/
def startPhase (io : StartIO) (c : CameraSource) : StartPhase → Bool × CameraSource
  | .openCamera => if !io.openCamera then (false, c.stop) else (true, c.acquire .device true)
  | .createReader => if !io.reader then (false, c.stop) else (true, c.acquire .reader true)
  | .createSession =>
      let c := (((c.acquire .outputs io.outputs).acquire .sessionOutput io.sessionOutput).acquire
        .request io.request).acquire .target io.target
      if !io.session then (false, c.stop)
      else
        let c := c.acquire .session true
        if !io.repeating then (false, c.stop) else (true, c)

/-- What `nextFrame` does once it need not wait any more. -/
def poll (c : CameraSource) : Option Nv21 × CameraSource :=
  if c.frameWaiting then (some c.mFrame, c.takeFrame) else (none, c)

theorem poll_cases (c : CameraSource) :
    (c.poll = (some c.mFrame, c.takeFrame) ∧ c.mFrameAvailable = true ∧ c.mFailed = false) ∨
      (c.poll = (none, c) ∧ ¬(c.mFrameAvailable = true ∧ c.mFailed = false)) := by
  have hwaiting : c.frameWaiting = true ↔ c.mFrameAvailable = true ∧ c.mFailed = false := by
    simp [frameWaiting]
  rw [← hwaiting, poll]
  split
  · exact .inl ⟨rfl, ‹_›⟩
  · exact .inr ⟨rfl, ‹_›⟩

end CameraSource

/-! ### The interleavings -/

structure Mailbox where
  camera : CameraSource := {}
  /-- the phase that a running `start` comes to next -/
  starting : Option (StartPhase × StartIO) := none

inductive MailboxStep
  | start (preview : Bool) (io : StartIO)
  /-- the running `start` goes through its next phase -/
  | resume
  | deliver (e : CameraEvent)
  | nextFrame
  | stop

namespace Mailbox

def step (m : Mailbox) : MailboxStep → Mailbox
  | .start preview io =>
      let r := m.camera.startReset preview io
      ⟨r.2, if r.1 then some (.openCamera, io) else none⟩
  | .resume =>
      match m.starting with
      | none => m
      | some (phase, io) =>
          let r := m.camera.startPhase io phase
          ⟨r.2, if r.1 then phase.next.map fun next => (next, io) else none⟩
  | .deliver e => { m with camera := m.camera.deliver e }
  | .nextFrame => { m with camera := m.camera.poll.2 }
  | .stop => { m with camera := m.camera.stop }

/-- What `nextFrame` returns when it looks into the mailbox now. -/
def returned (m : Mailbox) : Option Nv21 := m.camera.poll.1

/-- A step is an image callback only while some reader, with its listener, is not deleted. -/
def Listening (m : Mailbox) (i : MailboxStep) : Prop :=
  ∀ nv21, i = .deliver (.imageAvailable nv21) →
    m.camera.released .reader < m.camera.acquired .reader

def Starts (_ : Mailbox) (i : MailboxStep) : Prop := ∃ preview io, i = .start preview io

def Delivers (f : Nv21) (_ : Mailbox) (i : MailboxStep) : Prop :=
  i = .deliver (.imageAvailable (some f))

def Fails (_ : Mailbox) (i : MailboxStep) : Prop :=
  i = .deliver .disconnected ∨ ∃ code, i = .deliver (.error code)

def Returns (m : Mailbox) (i : MailboxStep) : Prop := i = .nextFrame ∧ m.returned.isSome

/-- After this step an earlier frame is not to be returned any more: a start, a newer
frame, or a `nextFrame` that returns it. -/
def Outdates (m : Mailbox) (i : MailboxStep) : Prop :=
  m.Starts i ∨ (∃ g, m.Delivers g i) ∨ m.Returns i

/-! ### The steps make up the calls -/

theorem run_start (preview : Bool) (io : StartIO) (c : CameraSource) :
    run step ⟨c, none⟩ [.start preview io, .resume, .resume, .resume] =
      ⟨(c.start preview io).2, none⟩ := by
  simp only [run_cons, run_nil, step, CameraSource.startReset, CameraSource.start]
  cases (CameraSource.findFrontCamera io.cameras c).1 with
  | false => rfl
  | true =>
      -- A phase that fails ends the start, and the later steps do nothing.
      cases ho : io.openCamera with
      | false => simp [CameraSource.startPhase, ho]
      | true =>
          cases hr : io.reader with
          | false => simp [CameraSource.startPhase, StartPhase.next, ho, hr]
          | true =>
              cases hs : io.session <;> cases hq : io.repeating <;>
                simp [CameraSource.startPhase, StartPhase.next, ho, hr, hs, hq]

theorem run_deliver (evs : List CameraEvent) (m : Mailbox) :
    run step m (evs.map .deliver) =
      { m with camera := evs.foldl CameraSource.deliver m.camera } := by
  induction evs generalizing m with
  | nil => rfl
  | cons e evs ih => exact ih _

/-- What a call of `nextFrame` does to the camera source `c`: callbacks come during its
waits, and it gives up or looks into the mailbox once. -/
def IsCall (c : CameraSource) (frame : Option Nv21) (c' : CameraSource) : Prop :=
  ∃ evs : List CameraEvent,
    let m := run step ⟨c, none⟩ (evs.map .deliver)
    frame = none ∧ c' = m.camera ∨ frame = m.returned ∧ c' = (step m .nextFrame).camera

theorem awaitFrame_isCall (deadline : Time) (waits : List Gap) (w : World) :
    IsCall w.camera (World.awaitFrame deadline waits w).1
      (World.awaitFrame deadline waits w).2.camera := by
  apply World.awaitFrame_rule (P := fun w r => IsCall w.camera r.1 r.2.camera)
  · exact fun w => ⟨[], .inl ⟨rfl, rfl⟩⟩
  · exact fun w g => ⟨g.events, .inl ⟨rfl, by rw [run_deliver]; rfl⟩⟩
  · rintro w g r ⟨evs, h⟩
    refine ⟨g.events ++ evs, ?_⟩
    rw [List.map_append, run_append, run_deliver g.events]
    exact h
  · exact fun w _ => ⟨[], .inl ⟨rfl, rfl⟩⟩
  · intro w hwaiting
    have hpoll : w.camera.poll = (some w.camera.mFrame, w.camera.takeFrame) := if_pos hwaiting
    refine ⟨[], .inr ⟨?_, ?_⟩⟩
    · rw [List.map_nil, run_nil, returned, hpoll]
    · rw [List.map_nil, run_nil, step, hpoll]

theorem nextFrame_isCall (deadline : Time) (waits : List Gap) (w : World) :
    IsCall w.camera (w.nextFrame deadline waits).1 (w.nextFrame deadline waits).2.camera :=
  awaitFrame_isCall deadline waits w

end Mailbox

/-! ### What the steps do to the mailbox -/

namespace CameraSource

/-- What the NDK calls of `start` and `stop` leave alone. -/
def mailbox (c : CameraSource) : Bytes × Nv21 × Bool × Bool :=
  (c.mCameraId, c.mFrame, c.mFrameAvailable, c.mFailed)

theorem mailbox_eq_iff {c c' : CameraSource} :
    c'.mailbox = c.mailbox ↔ c'.mCameraId = c.mCameraId ∧ c'.mFrame = c.mFrame ∧
      c'.mFrameAvailable = c.mFrameAvailable ∧ c'.mFailed = c.mFailed := by
  simp only [mailbox, Prod.mk.injEq]

@[simp] theorem mailbox_acquire (c : CameraSource) (r : CameraResource) (ok : Bool) :
    (c.acquire r ok).mailbox = c.mailbox := by
  cases ok <;> rfl

@[simp] theorem mailbox_release (c : CameraSource) (r : CameraResource) :
    (c.release r).mailbox = c.mailbox := by
  rw [release]
  split <;> rfl

@[simp] theorem mailbox_stop (c : CameraSource) : c.stop.mailbox = c.mailbox := by
  simp only [stop, mailbox_release]
  split <;> split <;> simp

theorem mailbox_startPhase (io : StartIO) (c : CameraSource) (phase : StartPhase) :
    (c.startPhase io phase).2.mailbox = c.mailbox := by
  cases phase <;> simp only [startPhase] <;> repeat' split
  all_goals simp

theorem findFrontCamera_cases (cameras : Option (List CameraInfo)) (c : CameraSource) :
    let r := findFrontCamera cameras c
    (r.1 = true ∧ r.2.mCameraId ≠ []) ∨
      (r.1 = false ∧ r.2.mailbox = c.mailbox ∧ r.2.acquired = c.acquired ∧ c.mCameraId = []) := by
  simp only [findFrontCamera]
  split
  · exact .inl ⟨rfl, ‹_›⟩
  · have hnone : c.mCameraId = [] := not_not.mp ‹_›
    cases cameras with
    | none => exact .inr ⟨rfl, rfl, rfl, hnone⟩
    | some ids =>
        by_cases hid : (scanCameras ids c).mCameraId = []
        · obtain ⟨id, o, hscan⟩ := scanCameras_eq ids c
          have hid' : id = [] := by rwa [hscan] at hid
          refine .inr ⟨by simp [hid], ?_, ?_, hnone⟩
          · simp only [hscan, hid', mailbox, hnone]
          · simp only [hscan]
        · exact .inl ⟨by simp [hid], hid⟩

/-- A start either finds the camera and resets the mailbox, or there never was a camera
and the mailbox stays as it was. -/
theorem startReset_cases (preview : Bool) (io : StartIO) (c : CameraSource) :
    let r := c.startReset preview io
    (r.1 = true ∧ r.2.mCameraId ≠ [] ∧ r.2.mFrameAvailable = false ∧ r.2.mFailed = false) ∨
      (r.1 = false ∧ r.2.mailbox = c.mailbox ∧ r.2.acquired = c.acquired ∧ c.mCameraId = []) := by
  have hfind := findFrontCamera_cases io.cameras c
  simp only [startReset]
  obtain ⟨hfound, hid⟩ | ⟨hfound, hrest⟩ := hfind
  · rw [hfound]
    have hmail := mailbox_acquire (findFrontCamera io.cameras c).2 .preview preview
    refine .inl ⟨rfl, ?_, rfl, rfl⟩
    exact fun hnone => hid ((mailbox_eq_iff.mp hmail).1.symm.trans hnone)
  · rw [hfound]
    exact .inr ⟨rfl, hrest⟩

end CameraSource

namespace Mailbox

variable {m : Mailbox}

/-- As long as no camera was found, nothing can have been delivered. -/
def Consistent (m : Mailbox) : Prop :=
  m.camera.mCameraId = [] → m.starting = none ∧ m.camera.acquired .reader = 0 ∧
    m.camera.mFrameAvailable = false

/-- A step after which no camera is known follows a state in which none was known, and
neither starts anything nor delivers a frame. -/
theorem Consistent.step {i : MailboxStep} (h : m.Consistent) (hi : m.Listening i) :
    (m.step i).Consistent := by
  intro hid
  cases i with
  | start preview io =>
      obtain ⟨-, hfound, -⟩ | ⟨hfalse, hmail, hacq, hnone⟩ :=
        m.camera.startReset_cases preview io
      · exact absurd hid hfound
      · obtain ⟨-, hreader, hframe⟩ := h hnone
        refine ⟨?_, ?_, ?_⟩
        · simp only [Mailbox.step, hfalse, Bool.false_eq_true, if_false]
        · rw [← hreader]
          exact congrFun hacq .reader
        · rw [← hframe]
          exact (CameraSource.mailbox_eq_iff.mp hmail).2.2.1
  | resume =>
      rw [Mailbox.step] at hid ⊢
      cases hstart : m.starting with
      | none =>
          rw [hstart] at hid
          exact h hid
      | some phase =>
          -- A start that goes on has found the camera.
          rw [hstart] at hid
          have hmail := m.camera.mailbox_startPhase phase.2 phase.1
          have hnone := (CameraSource.mailbox_eq_iff.mp hmail).1.symm.trans hid
          simp [h hnone] at hstart
  | deliver e =>
      cases e with
      | imageAvailable nv21 =>
          have hlisten := hi nv21 rfl
          cases nv21 with
          | none => exact h hid
          | some frame =>
              have hreader := (h hid).2.1
              omega
      | disconnected => exact h hid
      | error code => exact h hid
  | nextFrame =>
      rw [Mailbox.step] at hid ⊢
      obtain ⟨hpoll, -⟩ | ⟨hpoll, -⟩ := m.camera.poll_cases
      · rw [hpoll] at hid ⊢
        exact ⟨(h hid).1, (h hid).2.1, rfl⟩
      · rw [hpoll] at hid ⊢
        exact h hid
  | stop =>
      have hmail := CameraSource.mailbox_eq_iff.mp m.camera.mailbox_stop
      obtain ⟨hstart, hreader, hframe⟩ := h (hmail.1.symm.trans hid)
      refine ⟨hstart, ?_, hmail.2.2.1.trans hframe⟩
      rw [← hreader]
      exact congrFun m.camera.acquired_stop .reader

theorem returned_eq_some_iff {f : Nv21} :
    m.returned = some f ↔
      m.camera.mFrameAvailable = true ∧ m.camera.mFrame = f ∧ m.camera.mFailed = false := by
  rw [returned]
  obtain ⟨hpoll, hav, hfail⟩ | ⟨hpoll, hnot⟩ := m.camera.poll_cases
  · simp [hpoll, hav, hfail]
  · rw [hpoll]
    exact iff_of_false nofun fun h => hnot ⟨h.1, h.2.2⟩

/-- The steps that neither reset the mailbox nor deliver anything nor look into it. -/
theorem mailbox_resume : (m.step .resume).camera.mailbox = m.camera.mailbox := by
  rw [step]
  cases m.starting with
  | none => rfl
  | some phase => exact m.camera.mailbox_startPhase phase.2 phase.1

/-! ### The frame in the mailbox -/

/-- The mailbox of a known camera holds the frame. -/
def Holds (f : Nv21) (m : Mailbox) : Prop :=
  m.camera.mFrameAvailable = true ∧ m.camera.mFrame = f ∧ m.camera.mCameraId ≠ []

theorem holds_congr {m' : Mailbox} {f : Nv21} (h : m'.camera.mailbox = m.camera.mailbox) :
    m'.Holds f ↔ m.Holds f := by
  obtain ⟨hid, hframe, hav, -⟩ := CameraSource.mailbox_eq_iff.mp h
  rw [Holds, Holds, hid, hframe, hav]

theorem Holds.of_step {f : Nv21} {i : MailboxStep} (h : (m.step i).Holds f) :
    m.Delivers f i ∨ (m.Holds f ∧ ¬m.Outdates i) := by
  cases i with
  | start preview io =>
      obtain ⟨-, -, hav, -⟩ | ⟨-, hmail, -, hnone⟩ := m.camera.startReset_cases preview io
      · exact absurd (hav.symm.trans h.1) Bool.false_ne_true
      · exact absurd ((CameraSource.mailbox_eq_iff.mp hmail).1.trans hnone) h.2.2
  | resume =>
      exact .inr ⟨(holds_congr mailbox_resume).mp h, by simp [Outdates, Starts, Delivers, Returns]⟩
  | deliver e =>
      cases e with
      | imageAvailable nv21 =>
          cases nv21 with
          | none => exact .inr ⟨h, by simp [Outdates, Starts, Delivers, Returns]⟩
          | some frame =>
              obtain rfl : frame = f := h.2.1
              exact .inl rfl
      | disconnected => exact .inr ⟨h, by simp [Outdates, Starts, Delivers, Returns]⟩
      | error code => exact .inr ⟨h, by simp [Outdates, Starts, Delivers, Returns]⟩
  | nextFrame =>
      rw [step] at h
      obtain ⟨hpoll, -⟩ | ⟨hpoll, -⟩ := m.camera.poll_cases
      · rw [hpoll] at h
        exact absurd h.1 Bool.false_ne_true
      · rw [hpoll] at h
        exact .inr ⟨h, by simp [Outdates, Starts, Delivers, Returns, returned, hpoll]⟩
  | stop =>
      exact .inr ⟨(holds_congr m.camera.mailbox_stop).mp h,
        by simp [Outdates, Starts, Delivers, Returns]⟩

/-- A frame that is not outdated stays in the mailbox. -/
theorem kept_of_not_outdates {f : Nv21} {i : MailboxStep}
    (h : m.camera.mFrameAvailable = true ∧ m.camera.mFrame = f) (hi : ¬m.Outdates i) :
    (m.step i).camera.mFrameAvailable = true ∧ (m.step i).camera.mFrame = f := by
  have hcongr {m' : Mailbox} (hmail : m'.camera.mailbox = m.camera.mailbox) :
      m'.camera.mFrameAvailable = true ∧ m'.camera.mFrame = f := by
    obtain ⟨-, hframe, hav, -⟩ := CameraSource.mailbox_eq_iff.mp hmail
    exact ⟨hav.trans h.1, hframe.trans h.2⟩
  cases i with
  | start preview io => exact absurd (.inl ⟨preview, io, rfl⟩) hi
  | resume => exact hcongr mailbox_resume
  | deliver e =>
      cases e with
      | imageAvailable nv21 =>
          cases nv21 with
          | none => exact h
          | some frame => exact absurd (.inr (.inl ⟨frame, rfl⟩)) hi
      | disconnected => exact h
      | error code => exact h
  | nextFrame =>
      rw [step]
      obtain ⟨hpoll, -⟩ | ⟨hpoll, -⟩ := m.camera.poll_cases
      · exact absurd (.inr (.inr ⟨rfl, by rw [returned, hpoll]; rfl⟩)) hi
      · rw [hpoll]
        exact h
  | stop => exact hcongr m.camera.mailbox_stop

/-! ### The failure flag -/

theorem failed_of_fails {i : MailboxStep} (h : m.Fails i) : (m.step i).camera.mFailed = true := by
  rcases h with rfl | ⟨code, rfl⟩ <;> rfl

theorem failed_step {i : MailboxStep} (hstart : ¬m.Starts i) (hfail : ¬m.Fails i) :
    (m.step i).camera.mFailed = m.camera.mFailed ∧
      (m.step i).camera.mCameraId = m.camera.mCameraId := by
  have hcongr {m' : Mailbox} (hmail : m'.camera.mailbox = m.camera.mailbox) :
      m'.camera.mFailed = m.camera.mFailed ∧ m'.camera.mCameraId = m.camera.mCameraId := by
    obtain ⟨hid, -, -, hfailed⟩ := CameraSource.mailbox_eq_iff.mp hmail
    exact ⟨hfailed, hid⟩
  cases i with
  | start preview io => exact absurd ⟨preview, io, rfl⟩ hstart
  | resume => exact hcongr mailbox_resume
  | deliver e =>
      cases e with
      | imageAvailable nv21 => cases nv21 <;> exact ⟨rfl, rfl⟩
      | disconnected => exact absurd (.inl rfl) hfail
      | error code => exact absurd (.inr ⟨code, rfl⟩) hfail
  | nextFrame =>
      rw [step]
      obtain ⟨hpoll, -⟩ | ⟨hpoll, -⟩ := m.camera.poll_cases <;> rw [hpoll] <;> exact ⟨rfl, rfl⟩
  | stop => exact hcongr m.camera.mailbox_stop

theorem failed_of_not_starts {i : MailboxStep} (h : m.camera.mFailed = true)
    (hi : ¬m.Starts i) : (m.step i).camera.mFailed = true := by
  by_cases hfail : m.Fails i
  · exact failed_of_fails hfail
  · exact (failed_step hi hfail).1.trans h

/-- The failure flag of a known camera was set by a failure, and no start came since. -/
theorem fails_of_failed {i : MailboxStep}
    (h : (m.step i).camera.mFailed = true ∧ (m.step i).camera.mCameraId ≠ []) :
    m.Fails i ∨ ((m.camera.mFailed = true ∧ m.camera.mCameraId ≠ []) ∧ ¬m.Starts i) := by
  by_cases hfail : m.Fails i
  · exact .inl hfail
  · by_cases hstart : m.Starts i
    · obtain ⟨preview, io, rfl⟩ := hstart
      obtain ⟨-, -, -, hreset⟩ | ⟨-, hmail, -, hnone⟩ := m.camera.startReset_cases preview io
      · exact absurd (hreset.symm.trans h.1) Bool.false_ne_true
      · exact absurd ((CameraSource.mailbox_eq_iff.mp hmail).1.trans hnone) h.2
    · obtain ⟨hfailed, hid⟩ := failed_step hstart hfail
      exact .inr ⟨⟨hfailed ▸ h.1, hid ▸ h.2⟩, hstart⟩

/-! ### What nextFrame returns -/

theorem consistent_run {is : List MailboxStep} (h : Along step Listening {} is) :
    (run step {} is).Consistent :=
  h.invariant (fun _ _ hm hi => hm.step hi) fun _ => ⟨rfl, rfl, rfl⟩

theorem Consistent.found (h : m.Consistent) (hav : m.camera.mFrameAvailable = true) :
    m.camera.mCameraId ≠ [] :=
  fun hnone => Bool.false_ne_true ((h hnone).2.2.symm.trans hav)

/-- What a run returns next is the frame that was delivered last and is not outdated, if
no failure came after the last start. -/
theorem returned_iff {is : List MailboxStep} (h : Along step Listening {} is) (f : Nv21) :
    (run step {} is).returned = some f ↔
      SetSince step (Delivers f) Outdates {} is ∧ ¬SetSince step Fails Starts {} is := by
  have hcons := consistent_run h
  rw [returned_eq_some_iff]
  constructor
  · rintro ⟨hav, hframe, hfailed⟩
    refine ⟨?_, ?_⟩
    · refine setSince_of_holds (P := Holds f) (fun _ _ => Holds.of_step) ?_
        ⟨hav, hframe, hcons.found hav⟩
      exact fun hinit => Bool.false_ne_true hinit.1
    · intro hfails
      have hset := hfails.holds (P := fun m => m.camera.mFailed = true)
        (fun _ _ => failed_of_fails) (fun _ _ => failed_of_not_starts)
      exact Bool.false_ne_true (hfailed.symm.trans hset)
  · rintro ⟨hdel, hfails⟩
    have hframe := hdel.holds
      (P := fun m => m.camera.mFrameAvailable = true ∧ m.camera.mFrame = f)
      (by rintro m i rfl; exact ⟨rfl, rfl⟩) (fun _ _ => kept_of_not_outdates)
    refine ⟨hframe.1, hframe.2, ?_⟩
    -- A flag that is still set would have been reset by the start that found the camera.
    by_contra hfailed
    rw [Bool.not_eq_false] at hfailed
    apply hfails
    refine setSince_of_holds
      (P := fun m => m.camera.mFailed = true ∧ m.camera.mCameraId ≠ [])
      (fun _ _ => fails_of_failed) ?_ ⟨hfailed, hcons.found hframe.1⟩
    exact fun hinit => Bool.false_ne_true hinit.1

/-- Between two frames that a run returns, the second was delivered. -/
theorem delivered_between {m : Mailbox} {g f : Nv21} {is : List MailboxStep}
    (hg : m.returned = some g) (hid : (run step (m.step .nextFrame) is).camera.mCameraId ≠ [])
    (hf : (run step (m.step .nextFrame) is).returned = some f) :
    SetSince step (Delivers f) Outdates (m.step .nextFrame) is := by
  obtain ⟨hav, hframe, -⟩ := returned_eq_some_iff.mp hf
  refine setSince_of_holds (P := Holds f) (fun _ _ => Holds.of_step) ?_ ⟨hav, hframe, hid⟩
  rintro ⟨hleft, -⟩
  obtain ⟨hpoll, -⟩ | ⟨hpoll, -⟩ := m.camera.poll_cases
  · rw [step, hpoll] at hleft
    exact Bool.false_ne_true hleft
  · rw [returned, hpoll] at hg
    cases hg

/-- The camera source is a mailbox for one frame, in which a newer frame replaces an older
one. Whatever the interleaving, `nextFrame` returns a frame exactly if it was delivered
after the last start, neither replaced nor returned since, and no failure came after that
start. So of two frames returned the second was delivered after the first was returned. -/
theorem returns_latest {is : List MailboxStep} (h : Along step Listening {} is) (f : Nv21) :
    ((run step {} is).returned = some f ↔
      SetSince step (Delivers f) Outdates {} is ∧ ¬SetSince step Fails Starts {} is) ∧
    ∀ js ks g, is = js ++ .nextFrame :: ks → (run step {} js).returned = some g →
      (run step {} is).returned = some f →
        SetSince step (Delivers f) Outdates (run step {} (js ++ [.nextFrame])) ks := by
  refine ⟨returned_iff h f, ?_⟩
  intro js ks g hsplit hg hf
  have hrun : run step {} is = run step (run step {} (js ++ [.nextFrame])) ks := by
    rw [hsplit, ← run_append, List.append_assoc, List.singleton_append]
  have hid := (consistent_run h).found (returned_eq_some_iff.mp hf).1
  rw [hrun] at hf hid
  rw [run_append, run_cons, run_nil] at hf hid ⊢
  exact delivered_between hg hid hf

theorem returns_latest_replaced :
    let io : StartIO := ⟨some [⟨['1'], true, none⟩], true, true, true, true, true, true, true, true⟩
    let is : List MailboxStep :=
      [.start false io, .resume, .resume, .deliver (.imageAvailable (some [1])),
        .deliver (.imageAvailable (some [2]))]
    SetSince step (Delivers [2]) Outdates {} is ∧ ¬SetSince step Fails Starts {} is := by
  intro io is
  refine (returns_latest ?_ [2]).1.mp rfl
  simp only [is, along_cons, along_nil, Listening, reduceCtorEq, false_implies, implies_true]
  exact ⟨trivial, trivial, trivial, fun _ _ => by decide, fun _ _ => by decide, trivial⟩

end Mailbox

end OneplusHal.Face
