import OneplusHal.Face.CameraSource
import OneplusHal.Lib.Machine

/-!
What a round of `start` and `stop` leaves behind.

`start` creates at most one object of each kind, and `stop` frees whatever a pointer
holds, two kinds excepted: a target is freed with the request it was added to, and a
session output with the container it was added to. So a round leaves something behind
exactly where one of these two was created and the object it is freed with was not.
-/

namespace OneplusHal.Face.CameraSource

open OneplusHal

/-- All pointers are null. -/
def Stopped (c : CameraSource) : Prop := ∀ r, c.held r = false

/-- From a stopped source to this one: what was created, each kind at most once, is held,
and nothing was released. -/
structure Holding (c c' : CameraSource) (created : CameraResource → Bool) : Prop where
  held : ∀ r, c'.held r = created r
  acquired : ∀ r, c'.acquired r = c.acquired r + (created r).toNat
  released : ∀ r, c'.released r = c.released r

/-- All pointers are null again, and of each kind one object was created and released or
none was created and none released. -/
def Clean (c c' : CameraSource) : Prop :=
  c'.Stopped ∧ ∀ r, ∃ created : Bool,
    c'.acquired r = c.acquired r + created.toNat ∧ c'.released r = c.released r + created.toNat

/-- All pointers are null, and as many objects of each kind were released as created. -/
def LeaksNothing (c c' : CameraSource) : Prop :=
  c'.Stopped ∧ ∀ r, ∃ n, c'.acquired r = c.acquired r + n ∧ c'.released r = c.released r + n

/-! ### Rounds -/

/-- One `start`, and if it succeeds the callbacks until `stop`. -/
structure Round where
  preview : Bool
  start : StartIO
  events : List CameraEvent

def round (c : CameraSource) (r : Round) : CameraSource :=
  let started := c.start r.preview r.start
  if started.1 then (r.events.foldl deliver started.2).stop else started.2

/-- The pipeline is created: there is a front camera, it opens, and it has a reader. -/
def ReachesPipeline (c : CameraSource) (io : StartIO) : Prop :=
  (findFrontCamera io.cameras c).1 = true ∧ io.openCamera = true ∧ io.reader = true

/-- No target is created without the request, no session output without the container. -/
def RoundSafe (c : CameraSource) (r : Round) : Prop :=
  c.ReachesPipeline r.start →
    (r.start.target = true → r.start.request = true) ∧
      (r.start.sessionOutput = true → r.start.outputs = true)

/-! ### Single steps -/

variable {c c' : CameraSource} {created : CameraResource → Bool}

theorem holding_refl (h : c.Stopped) : Holding c c fun _ => false :=
  ⟨h, fun _ => rfl, fun _ => rfl⟩

/-- Creating an object of a kind that was not created so far. -/
theorem Holding.acquire (h : Holding c c' created) {r : CameraResource} (hr : created r = false)
    (ok : Bool) : Holding c (c'.acquire r ok) (Function.update created r ok) := by
  unfold CameraSource.acquire
  cases ok with
  | false =>
      rw [if_neg Bool.false_ne_true, Function.update_eq_self_iff.mpr hr.symm]
      exact h
  | true =>
      rw [if_pos rfl]
      refine ⟨fun r' => ?_, fun r' => ?_, h.released⟩
      · by_cases heq : r' = r
        · subst heq
          simp
        · simpa [heq] using h.held r'
      · by_cases heq : r' = r
        · subst heq
          simp [h.acquired, hr]
        · simpa [heq] using h.acquired r'

/-- Stopping leaves nothing behind exactly where no target and no session output is held
without the object it is freed with. -/
theorem Holding.clean_stop_iff (h : Holding c c' created) :
    Clean c c'.stop ↔ (created .target = true → created .request = true) ∧
      (created .sessionOutput = true → created .outputs = true) := by
  have hfrees (r : CameraResource) : (created r = true → c'.frees r = true) ↔
      c'.stop.held r = false := by
    rw [held_stop, h.held]
    cases created r <;> cases c'.frees r <;> decide
  constructor
  · rintro ⟨hstopped, -⟩
    have htarget := (hfrees .target).mpr (hstopped .target)
    have houtput := (hfrees .sessionOutput).mpr (hstopped .sessionOutput)
    simp only [frees, h.held] at htarget houtput
    exact ⟨htarget, houtput⟩
  · rintro ⟨htarget, houtput⟩
    have hall (r : CameraResource) : created r = true → c'.frees r = true := by
      cases r with
      | target => simpa [frees, h.held] using htarget
      | sessionOutput => simpa [frees, h.held] using houtput
      | _ => exact fun _ => rfl
    refine ⟨fun r => (hfrees r).mp (hall r), fun r => ⟨created r, ?_, ?_⟩⟩
    · rw [acquired_stop, h.acquired]
    · rw [released_stop, h.released, h.held]
      cases hr : created r with
      | false => rfl
      | true => rw [hall r hr, Bool.and_true]

/-! ### A whole round -/

theorem Holding.of_eq {d : CameraSource} (h : Holding c c' created) (hheld : d.held = c'.held)
    (hacquired : d.acquired = c'.acquired) (hreleased : d.released = c'.released) :
    Holding c d created := by
  refine ⟨?_, ?_, ?_⟩
  · rw [hheld]
    exact h.held
  · rw [hacquired]
    exact h.acquired
  · rw [hreleased]
    exact h.released

/-- Looking for a camera creates nothing. -/
theorem Holding.findFrontCamera (h : Holding c c' created) (cameras : Option (List CameraInfo)) :
    Holding c (findFrontCamera cameras c').2 created := by
  obtain ⟨id, o, heq⟩ := findFrontCamera_eq cameras c'
  exact h.of_eq (by rw [heq]) (by rw [heq]) (by rw [heq])

theorem Holding.deliver (h : Holding c c' created) (events : List CameraEvent) :
    Holding c (events.foldl CameraSource.deliver c') created := by
  induction events generalizing c' with
  | nil => exact h
  | cons e events ih =>
      refine ih ?_
      cases e with
      | imageAvailable nv21 =>
          cases nv21 with
          | none => exact h
          | some frame => exact h.of_eq rfl rfl rfl
      | disconnected => exact h.of_eq rfl rfl rfl
      | error code => exact h.of_eq rfl rfl rfl

/-- `start` does not get to an object, or what it has created is held at its end, where it
is stopped again if it fails. -/
theorem start_holding (h : c.Stopped) (preview : Bool) (io : StartIO) :
    (¬c.ReachesPipeline io ∧ (c.start preview io).1 = false ∧
        Clean c (c.start preview io).2) ∨
      (c.ReachesPipeline io ∧ ∃ c' created, Holding c c' created ∧
        (c.start preview io = (true, c') ∨ c.start preview io = (false, c'.stop)) ∧
        created .target = io.target ∧ created .request = io.request ∧
        created .sessionOutput = io.sessionOutput ∧ created .outputs = io.outputs) := by
  have hfound := (holding_refl h).findFrontCamera io.cameras
  unfold start ReachesPipeline
  dsimp only
  cases hcamera : (findFrontCamera io.cameras c).1 with
  | false =>
      simp only [Bool.not_false, if_true]
      exact .inl ⟨nofun, trivial, hfound.held, fun r =>
        ⟨false, hfound.acquired r, hfound.released r⟩⟩
  | true =>
      have hpreview := (hfound.acquire (r := .preview) rfl preview).of_eq (d :=
        { (findFrontCamera io.cameras c).2.acquire .preview preview with
          mFrameAvailable := false
          mFailed := false }) rfl rfl rfl
      simp only [Bool.not_true, Bool.false_eq_true, if_false, true_and]
      cases hopen : io.openCamera with
      | false =>
          refine .inl ⟨nofun, rfl, hpreview.clean_stop_iff.mpr ?_⟩
          simp
      | true =>
          have hdevice := hpreview.acquire (r := .device) (by simp) true
          cases hreader : io.reader with
          | false =>
              refine .inl ⟨nofun, rfl, hdevice.clean_stop_iff.mpr ?_⟩
              simp
          | true =>
              have hpipeline := ((((hdevice.acquire (r := .reader) (by simp) true).acquire
                (r := .outputs) (by simp) io.outputs).acquire
                (r := .sessionOutput) (by simp) io.sessionOutput).acquire
                (r := .request) (by simp) io.request).acquire
                (r := .target) (by simp) io.target
              have hsession := hpipeline.acquire (r := .session) (by simp) true
              refine .inr ⟨⟨rfl, rfl⟩, ?_⟩
              simp only [Bool.not_true, Bool.false_eq_true, if_false]
              cases io.session with
              | false => exact ⟨_, _, hpipeline, .inr rfl, by simp⟩
              | true =>
                  cases io.repeating with
                  | false => exact ⟨_, _, hsession, .inr rfl, by simp⟩
                  | true => exact ⟨_, _, hsession, .inl rfl, by simp⟩

/-- A round that begins with a stopped source. -/
theorem clean_round_iff (h : c.Stopped) (r : Round) : Clean c (c.round r) ↔ c.RoundSafe r := by
  unfold round RoundSafe
  dsimp only
  obtain ⟨hearly, hfailed, hclean⟩ | ⟨hreaches, c', created, hholding, hstart, hcreated⟩ :=
    start_holding h r.preview r.start
  · rw [hfailed, if_neg Bool.false_ne_true]
    exact iff_of_true hclean fun hreaches => absurd hreaches hearly
  · obtain ⟨htarget, hrequest, houtput, houtputs⟩ := hcreated
    rw [← htarget, ← hrequest, ← houtput, ← houtputs, imp_iff_right hreaches]
    obtain heq | heq := hstart
    · rw [heq]
      exact (hholding.deliver r.events).clean_stop_iff
    · rw [heq]
      exact hholding.clean_stop_iff

theorem LeaksNothing.refl (h : c.Stopped) : LeaksNothing c c :=
  ⟨h, fun _ => ⟨0, rfl, rfl⟩⟩

theorem LeaksNothing.clean {c'' : CameraSource} (h : LeaksNothing c c') (hclean : Clean c' c'') :
    LeaksNothing c c'' := by
  refine ⟨hclean.1, fun r => ?_⟩
  obtain ⟨n, hacquired, hreleased⟩ := h.2 r
  obtain ⟨created, hacquired', hreleased'⟩ := hclean.2 r
  exact ⟨n + created.toNat, by omega, by omega⟩

/-- Rounds of a stopped source are clean, each of them and all together, exactly if none
creates a target without the request or a session output without the container. -/
theorem rounds_clean_iff (h : c.Stopped) (rounds : List Round) :
    (Machine.Along round (fun c r => Clean c (c.round r)) c rounds ∧
        LeaksNothing c (Machine.run round c rounds)) ↔
      Machine.Along round RoundSafe c rounds := by
  have hiff : Machine.Along round (fun c r => Clean c (c.round r)) c rounds ↔
      Machine.Along round RoundSafe c rounds :=
    Machine.along_iff (I := Stopped) (fun _ r hs => clean_round_iff hs r)
      (fun _ r hs hsafe => ((clean_round_iff hs r).mpr hsafe).1) h rounds
  rw [hiff, and_iff_left_iff_imp, ← hiff]
  intro hclean
  exact Machine.Along.invariant (I := LeaksNothing c) (fun _ _ hl hr => hl.clean hr)
    (.refl h) hclean

/-- A new camera source through a round in which only the creation of the request fails. -/
def requestFails : Round where
  preview := false
  start :=
    { cameras := some [⟨['1'], true, none⟩]
      openCamera := true
      reader := true
      outputs := true
      sessionOutput := true
      request := false
      target := true
      session := true
      repeating := false }
  events := []

/-- A session that fails is no harm, nor a target that fails with its request. -/
theorem rounds_clean_sessionless :
    LeaksNothing {} (Machine.run round {}
      [{ requestFails with start := { requestFails.start with request := true, session := false } },
        { requestFails with start := { requestFails.start with target := false } }]) := by
  refine ((rounds_clean_iff (c := {}) (fun _ => rfl) [_, _]).mpr ?_).2
  exact ⟨fun _ => by decide, fun _ => by decide, trivial⟩

/-- The target stays behind: its pointer is not null, and the next round overwrites it. -/
theorem target_left_behind :
    Stopped {} ∧ (CameraSource.round {} requestFails).held .target = true ∧
      ¬Clean {} (CameraSource.round {} requestFails) ∧
      (Machine.run round {} [requestFails, requestFails]).acquired .target = 2 ∧
      (Machine.run round {} [requestFails, requestFails]).released .target = 0 := by
  refine ⟨fun _ => rfl, by decide, fun h => ?_, by decide, by decide⟩
  exact absurd (h.1 .target) (by decide)

end OneplusHal.Face.CameraSource
