import Mathlib.Order.BooleanAlgebra.Set
import OneplusHal.Face.CameraCounts

/-!
The objects of the camera source over its life.

Whatever the calls of the NDK answer, and whenever images come in, a call is given only objects
that were made and not freed, nothing is freed twice, and the pipeline is closed from its session
down to the window. What is not freed in the end are targets and session outputs, and not even
those where no round creates one without the object that it is freed with.
-/

namespace OneplusHal.Face.CameraHandles

open OneplusHal

def ledger : Ledger NdkCall NdkObject where
  acquires e := e.made
  releases e := e.freed
  touches e := e.given

/-- The pointers that `stop` always clears, in its order. -/
def pipeline : List CameraResource := [.session, .device, .request, .outputs, .reader, .preview]

/-- The pointers whose objects are closed before a call. -/
def closedBefore : NdkFunction → List CameraResource
  | .free .device => [.session]
  | .free .request | .free .target => [.session, .device]
  | .free .outputs | .free .sessionOutput => [.session, .device, .request]
  | .free .reader => [.session, .device, .request, .outputs]
  | .free .preview => [.session, .device, .request, .outputs, .reader]
  | .create .preview | .deleteManager => pipeline
  | _ => []

/-- What is closed before the call is not open. -/
def InOrder (before : List NdkCall) (e : NdkCall) : Prop :=
  ∀ r ∈ closedBefore e.function, ∀ n, ¬ledger.Owned before (.part r n)

theorem mem_pipeline_of_closedBefore {f : NdkFunction} {r : CameraResource}
    (h : r ∈ closedBefore f) : r ∈ pipeline := by
  unfold closedBefore at h
  split at h <;> revert h <;> revert r <;> decide

/-- An object that only a local variable refers to. -/
def Local : NdkObject → Prop
  | .manager _ | .part _ _ => False
  | _ => True

/-- An object that a pointer refers to or referred to when it was overwritten. -/
def Owns (s : CameraHandles) : NdkObject → Prop
  | .manager n => s.mManager = some n
  | .part r n => s.held r = some n ∨ NdkObject.part r n ∈ s.lost
  | _ => False

/-- All objects that are there are those of the pointers and the local variables. -/
structure Kept (locals : Set NdkObject) (s : CameraHandles) : Prop where
  numbered : ledger.Numbered NdkObject.number s.next s.log ({o | s.Owns o} ∪ locals)
  apart : ∀ r n, s.held r = some n → NdkObject.part r n ∉ s.lost
  left : ∀ r n, NdkObject.part r n ∈ s.lost → r ∉ pipeline
  temporary : ∀ o ∈ locals, Local o
  ordered : EachAfter InOrder s.log

variable {locals : Set NdkObject} {s : CameraHandles}

theorem kept_init : Kept ∅ {} where
  numbered :=
    { balanced :=
        { disciplined := .nil
          owned := fun o => by cases o <;> simp [Ledger.Owned, Owns] }
      lt_next := fun o ho => absurd ho Ledger.not_acquired_nil }
  apart := nofun
  left := nofun
  temporary := nofun
  ordered := eachAfter_nil

/-! ### Arguments -/

theorem mem_arg {r : CameraResource} {o : NdkObject} (h : o ∈ s.arg r) :
    ∃ n, s.held r = some n ∧ o = .part r n := by
  obtain ⟨n, hn, rfl⟩ := List.mem_map.mp h
  exact ⟨n, Option.mem_toList.mp hn, rfl⟩

/-- The objects given to a call may be used. -/
def Usable (locals : Set NdkObject) (s : CameraHandles) (given : List NdkObject) : Prop :=
  ∀ o ∈ given, s.Owns o ∨ o ∈ locals

@[simp] theorem usable_nil : Usable locals s [] := nofun

@[simp] theorem usable_arg (r : CameraResource) : Usable locals s (s.arg r) := by
  intro o ho
  obtain ⟨n, hn, rfl⟩ := mem_arg ho
  exact .inl (.inl hn)

@[simp] theorem usable_append {given given' : List NdkObject} :
    Usable locals s (given ++ given') ↔ Usable locals s given ∧ Usable locals s given' := by
  simp [Usable, or_imp, forall_and]

@[simp] theorem usable_singleton {o : NdkObject} :
    Usable locals s [o] ↔ s.Owns o ∨ o ∈ locals := by
  simp [Usable]

@[simp] theorem usable_manager : Usable locals s (s.mManager.toList.map .manager) := by
  intro o ho
  obtain ⟨n, hn, rfl⟩ := List.mem_map.mp ho
  exact .inl (Option.mem_toList.mp hn)

/-! ### Calls -/

theorem Kept.not_owned {r : CameraResource} (h : Kept locals s) (hr : r ∈ pipeline)
    (hnull : s.held r = none) (n : ℕ) : ¬ledger.Owned s.log (.part r n) := by
  rw [h.numbered.balanced.owned]
  rintro ((hheld | hlost) | hlocal)
  · rw [hnull] at hheld
    cases hheld
  · exact h.left r n hlost hr
  · exact h.temporary _ hlocal

/-- The pointers to what is closed before a call are null. -/
def Ready (s : CameraHandles) (f : NdkFunction) : Prop := ∀ r ∈ closedBefore f, s.held r = none

theorem ready_of_nil {f : NdkFunction} (h : closedBefore f = []) : s.Ready f := by
  intro r hr
  rw [h] at hr
  cases hr

theorem Kept.snoc {e : NdkCall} (h : Kept locals s) (he : s.Ready e.function) :
    EachAfter InOrder (s.log ++ [e]) :=
  h.ordered.snoc fun r hr => h.not_owned (mem_pipeline_of_closedBefore hr) (he r hr)

theorem Kept.call (h : Kept locals s) {f : NdkFunction} {given : List NdkObject}
    (hgiven : s.Usable locals given) (hf : s.Ready f) : Kept locals (s.call f given) :=
  { h with
    numbered := h.numbered.touch rfl rfl hgiven
    ordered := h.snoc hf }

/-- A local variable is set to a new object. -/
theorem Kept.make (h : Kept locals s) {f : NdkFunction} {given : List NdkObject}
    {g : ℕ → NdkObject} (hgiven : s.Usable locals given) (hf : s.Ready f)
    (hnumber : (g s.next).number = s.next) (hlocal : Local (g s.next)) :
    Kept (insert (g s.next) locals) (s.make f given g) where
  numbered := by
    have hmade := h.numbered.acquire
      (e := ({ function := f, given, made := some (g s.next) } : NdkCall)) rfl rfl hgiven hnumber
    rwa [← Set.union_insert] at hmade
  apart := h.apart
  left := h.left
  temporary := by
    rintro o (rfl | ho)
    · exact hlocal
    · exact h.temporary o ho
  ordered := h.snoc hf

/-- The object of a local variable is freed. -/
theorem Kept.free (h : Kept locals s) {f : NdkFunction} {o : NdkObject} (ho : o ∈ locals)
    (hf : s.Ready f) : Kept (locals \ {o}) (s.free f o) where
  numbered := by
    have hfreed := h.numbered.release
      (e := ({ function := f, given := [], freed := some o } : NdkCall)) rfl rfl nofun (.inr ho)
    have hnot : o ∉ {o | s.Owns o} := by
      have hlocal := h.temporary o ho
      cases o <;> first | exact id | cases hlocal
    rwa [Set.union_sdiff_distrib, Set.sdiff_singleton_eq_self hnot] at hfreed
  apart := h.apart
  left := h.left
  temporary := fun o' ho' => h.temporary o' ho'.1
  ordered := h.snoc hf

/-! ### Pointers -/

@[simp] theorem part_mem_arg {r r' : CameraResource} {n : ℕ} :
    NdkObject.part r' n ∈ s.arg r ↔ r' = r ∧ s.held r' = some n := by
  constructor
  · intro h
    obtain ⟨m, hm, heq⟩ := mem_arg h
    cases heq
    exact ⟨rfl, hm⟩
  · rintro ⟨rfl, h⟩
    simp [arg, h]

/-- An object that a pointer now refers to is made. -/
theorem Kept.numbered_make (h : Kept locals s) {s' : CameraHandles} {f : NdkFunction}
    {given : List NdkObject} {o : NdkObject} (hgiven : s.Usable locals given)
    (ho : o.number = s.next) (hnext : s'.next = s.next + 1)
    (hlog : s'.log = s.log ++ [{ function := f, given, made := some o }])
    (howns : ∀ x, s'.Owns x ↔ x = o ∨ s.Owns x) :
    ledger.Numbered NdkObject.number s'.next s'.log ({x | s'.Owns x} ∪ locals) := by
  have hmade := h.numbered.acquire (e := ({ function := f, given, made := some o } : NdkCall))
    rfl rfl hgiven ho
  have hset : {x | s'.Owns x} = insert o {x | s.Owns x} := Set.ext howns
  rwa [hnext, hlog, hset, Set.insert_union]

/-- An object that a pointer referred to is freed. -/
theorem Kept.numbered_free (h : Kept locals s) {s' : CameraHandles} {f : NdkFunction}
    {o : NdkObject} (ho : s.Owns o) (hlocal : ¬Local o) (hnext : s'.next = s.next)
    (hlog : s'.log = s.log ++ [{ function := f, given := [], freed := some o }])
    (howns : ∀ x, s'.Owns x ↔ s.Owns x ∧ x ≠ o) :
    ledger.Numbered NdkObject.number s'.next s'.log ({x | s'.Owns x} ∪ locals) := by
  have hfreed := h.numbered.release
    (e := ({ function := f, given := [], freed := some o } : NdkCall)) rfl rfl nofun (.inl ho)
  have hset : {x | s'.Owns x} = {x | s.Owns x} \ {o} := Set.ext howns
  have hnot : o ∉ locals := fun hmem => hlocal (h.temporary o hmem)
  rwa [Set.union_sdiff_distrib, Set.sdiff_singleton_eq_self hnot, ← hset, ← hlog, ← hnext]
    at hfreed

/-- A pointer that is null, or whose object may be left behind, is set to a new object. -/
theorem Kept.assign (h : Kept locals s) {r : CameraResource} {given : List NdkObject}
    (hgiven : s.Usable locals given) (hf : s.Ready (.create r))
    (hr : r ∈ pipeline → s.held r = none) :
    Kept locals ((s.make (.create r) given (.part r)).assign r (some s.next)) := by
  have hnew : NdkObject.part r s.next ∉ {o | s.Owns o} ∪ locals := h.numbered.notMem le_rfl
  rw [Set.mem_union, not_or] at hnew
  have hlost (r' : CameraResource) (n : ℕ) :
      NdkObject.part r' n ∈ ((s.make (.create r) given (.part r)).assign r (some s.next)).lost ↔
        NdkObject.part r' n ∈ s.lost ∨ (r' = r ∧ s.held r' = some n) :=
    List.mem_append.trans (or_congr_right part_mem_arg)
  refine ⟨h.numbered_make hgiven rfl rfl rfl fun o => ?_, fun r' n hheld => ?_,
    fun r' n hmem => ?_, h.temporary, h.snoc hf⟩
  · cases o with
    | part r' n =>
        by_cases heq : r' = r
        · subst heq
          simp [Owns, CameraHandles.assign, CameraHandles.make, arg, or_comm, eq_comm]
        · simp [Owns, CameraHandles.assign, CameraHandles.make, arg, heq, Ne.symm heq]
    | _ => simp [Owns, CameraHandles.assign, CameraHandles.make]
  · rw [hlost, not_or]
    by_cases heq : r' = r
    · subst heq
      obtain rfl : s.next = n := by simpa [CameraHandles.assign] using hheld
      exact ⟨fun hmem => hnew.1 (.inr hmem), fun hold => hnew.1 (.inl hold.2)⟩
    · have hold : s.held r' = some n := by simpa [CameraHandles.assign, heq] using hheld
      exact ⟨h.apart r' n hold, fun hand => heq hand.1⟩
  · obtain hmem | ⟨rfl, hold⟩ := (hlost r' n).mp hmem
    · exact h.left r' n hmem
    · intro hpipeline
      rw [hr hpipeline] at hold
      cases hold

theorem Kept.create (h : Kept locals s) {r : CameraResource} {given : List NdkObject} {b : Bool}
    (hgiven : s.Usable locals given) (hf : s.Ready (.create r))
    (hr : r ∈ pipeline → s.held r = none) : Kept locals (s.create r given b) := by
  unfold CameraHandles.create
  cases b with
  | false => exact h.call hgiven hf
  | true => exact h.assign hgiven hf hr

/-- What a pointer refers to is freed and the pointer cleared. -/
theorem Kept.clear (h : Kept locals s) {r : CameraResource} {n : ℕ} (hn : s.held r = some n)
    (hf : s.Ready (.free r)) :
    Kept locals { s.free (.free r) (.part r n) with held := Function.update s.held r none } := by
  have hapart := h.apart r n hn
  refine ⟨h.numbered_free (o := .part r n) (Or.inl hn) id rfl rfl fun o => ?_,
    fun r' m hheld => ?_, h.left, h.temporary, h.snoc hf⟩
  · cases o with
    | part r' m =>
        by_cases heq : r' = r
        · subst heq
          by_cases hm : m = n
          · subst hm
            simpa [Owns, CameraHandles.free] using hapart
          · simp [Owns, CameraHandles.free, hn, hm, Ne.symm hm]
        · simp [Owns, CameraHandles.free, heq]
    | _ => simp [Owns, CameraHandles.free]
  · by_cases heq : r' = r
    · subst heq
      simp at hheld
    · refine h.apart r' m ?_
      simpa [heq] using hheld

/-! ### Images -/

theorem Kept.onImageAvailable (h : Kept locals s) (a : ImageAnswer) :
    Kept locals (s.onImageAvailable a) := by
  have hfresh : NdkObject.image s.next ∉ locals := fun hmem =>
    h.numbered.notMem (a := .image s.next) le_rfl (.inr hmem)
  unfold CameraHandles.onImageAvailable
  dsimp only
  split
  · exact h.call (usable_arg .reader) (ready_of_nil rfl)
  · have himage := h.make (g := .image) (f := .acquireLatestImage) (usable_arg .reader)
      (ready_of_nil rfl) rfl trivial
    have hread := himage.call (f := .getPlanes)
      (usable_singleton.mpr (.inr (Set.mem_insert _ _))) (ready_of_nil rfl)
    have hfreed := hread.free (f := .deleteImage) (Set.mem_insert _ _) (ready_of_nil rfl)
    rw [Set.insert_sdiff_self_of_notMem hfresh] at hfreed
    split
    · exact hfreed
    · have hlocked := hfreed.call (f := .lock) (usable_arg .preview) (ready_of_nil rfl)
      split
      · exact hlocked
      · exact hlocked.call (usable_arg .preview) (ready_of_nil rfl)

theorem Kept.images (h : Kept locals s) (as : List ImageAnswer) : Kept locals (s.images as) := by
  unfold CameraHandles.images
  split
  · exact Machine.run_invariant (fun _ a hs => hs.onImageAvailable a) h as
  · exact h

@[simp] theorem usable_images {as : List ImageAnswer} {given : List NdkObject} :
    Usable locals (s.images as) given ↔ Usable locals s given := by
  obtain ⟨next, log, heq⟩ := s.images_eq as
  rw [heq]
  exact Iff.rfl

/-! ### Stop -/

section Stop

variable {late : NdkFunction → List ImageAnswer}

theorem Kept.callLate (h : Kept locals s) {f : NdkFunction} {given : List NdkObject}
    (hgiven : s.Usable locals given) (hf : s.Ready f) : Kept locals (s.callLate late f given) :=
  (h.images (late f)).call (usable_images.mpr hgiven) (by simpa [Ready] using hf)

theorem Kept.release (h : Kept locals s) {r : CameraResource} (hf : s.Ready (.free r)) :
    Kept locals (s.release late r) := by
  unfold CameraHandles.release
  split
  case h_1 => exact h
  case h_2 n hn =>
    have hcleared := (h.images (late (.free r))).clear (n := n) (r := r) (by simpa using hn)
      (by simpa [Ready] using hf)
    simpa [CameraHandles.free] using hcleared

theorem Kept.stopSession (h : Kept locals s) : Kept locals (s.stopSession late) := by
  unfold CameraHandles.stopSession
  split
  · have hrepeating : Kept locals (s.callLate late .stopRepeating (s.arg .session)) :=
      h.callLate (usable_arg .session) (ready_of_nil rfl)
    exact hrepeating.release (ready_of_nil rfl)
  · exact h

theorem Kept.stopRequest (h : Kept locals s) (hsession : s.held .session = none)
    (hdevice : s.held .device = none) : Kept locals (s.stopRequest late) := by
  unfold CameraHandles.stopRequest
  split
  · refine ((h.callLate (f := .removeTarget) (by simp) (ready_of_nil rfl)).release ?_).release ?_
    · simp [Ready, closedBefore, hsession, hdevice]
    · simp [Ready, closedBefore, hsession, hdevice]
  · exact h

theorem Kept.stopOutputs (h : Kept locals s) (hsession : s.held .session = none)
    (hdevice : s.held .device = none) (hrequest : s.held .request = none) :
    Kept locals (s.stopOutputs late) := by
  unfold CameraHandles.stopOutputs
  split
  · refine ((h.callLate (f := .removeOutput) (by simp) (ready_of_nil rfl)).release ?_).release ?_
    · simp [Ready, closedBefore, hsession, hdevice, hrequest]
    · simp [Ready, closedBefore, hsession, hdevice, hrequest]
  · exact h

theorem Kept.stop (h : Kept locals s) : Kept locals (s.stop late) := by
  unfold CameraHandles.stop
  refine (((((h.stopSession.release ?_).stopRequest ?_ ?_).stopOutputs ?_ ?_ ?_).release
    ?_).release ?_) <;> simp [Ready, closedBefore]

/-- Nothing is open but what may be left behind. -/
def Idle (s : CameraHandles) : Prop := ∀ r ∈ pipeline, s.held r = none

theorem idle_stop : (s.stop late).Idle := by
  simp [Idle, pipeline, CameraHandles.stop]

end Stop

/-! ### Start -/

theorem Kept.createManager (h : Kept locals s) : Kept locals s.createManager := by
  unfold CameraHandles.createManager
  split
  case h_1 => exact h
  case h_2 hm =>
    refine ⟨h.numbered_make (o := .manager s.next) usable_nil rfl rfl rfl fun o => ?_, h.apart,
      h.left, h.temporary, h.snoc (ready_of_nil rfl)⟩
    cases o <;> simp [Owns, CameraHandles.make, hm, eq_comm]

theorem isSome_createManager : s.createManager.mManager.isSome = true := by
  unfold CameraHandles.createManager
  split
  case h_1 hm => exact Option.isSome_of_eq_some hm
  case h_2 => rfl

theorem Kept.name (h : Kept locals s) (id : Bytes) (o : Int) :
    Kept locals { s with mCameraId := id, mSensorOrientation := o } :=
  ⟨h.numbered, h.apart, h.left, h.temporary, h.ordered⟩

theorem Kept.look (h : Kept locals s) {manager ids : ℕ} (hmanager : s.mManager = some manager)
    (hids : NdkObject.idList ids ∈ locals) (a : CameraAnswer) :
    Kept locals (s.look manager ids a) := by
  have hfresh : NdkObject.metadata s.next ∉ locals := fun hmem =>
    h.numbered.notMem (a := .metadata s.next) le_rfl (.inr hmem)
  have hgiven : s.Usable locals [.manager manager, .idList ids] :=
    List.forall_mem_cons.mpr ⟨.inl hmanager, usable_singleton.mpr (.inr hids)⟩
  unfold CameraHandles.look
  dsimp only
  split
  · exact h.call hgiven (ready_of_nil rfl)
  · have hchars := h.make (g := .metadata) (f := .getCameraCharacteristics) hgiven
      (ready_of_nil rfl) rfl trivial
    have hread := hchars.call (f := .getConstEntry)
      (usable_singleton.mpr (.inr (Set.mem_insert _ _))) (ready_of_nil rfl)
    rw [← Set.insert_sdiff_self_of_notMem hfresh]
    refine Kept.free ?_ (Set.mem_insert _ _) (ready_of_nil rfl)
    split
    · have hnamed := (hread.name a.id s.mSensorOrientation).call (f := .getConstEntry)
        (usable_singleton.mpr (.inr (Set.mem_insert (NdkObject.metadata s.next) _)))
        (ready_of_nil rfl)
      exact hnamed.name a.id _
    · exact hread

theorem Kept.lookAll (h : Kept locals s) {manager ids : ℕ} (hmanager : s.mManager = some manager)
    (hids : NdkObject.idList ids ∈ locals) (answers : List CameraAnswer) :
    Kept locals (lookAll manager ids answers s) := by
  induction answers generalizing s with
  | nil => exact h
  | cons a rest ih =>
      rw [CameraHandles.lookAll]
      split
      · exact h
      · refine ih (h.look hmanager hids a) ?_
        obtain ⟨next, log, heq⟩ := look_eq manager ids a s
        rw [heq]
        exact hmanager

theorem Kept.findFrontCamera (h : Kept locals s) (cameras : Option (List CameraAnswer)) :
    Kept locals (findFrontCamera cameras s).2 := by
  have hcreated := h.createManager
  obtain ⟨manager, hmanager⟩ := Option.isSome_iff_exists.mp (isSome_createManager (s := s))
  have hgiven : s.createManager.Usable locals [.manager manager] :=
    usable_singleton.mpr (.inl hmanager)
  unfold CameraHandles.findFrontCamera
  dsimp only
  rw [hmanager, Option.getD_some]
  split
  · exact h
  · cases cameras with
    | none => exact hcreated.call hgiven (ready_of_nil rfl)
    | some answers =>
        have hfresh : NdkObject.idList s.createManager.next ∉ locals := fun hmem =>
          hcreated.numbered.notMem (a := .idList s.createManager.next) le_rfl (.inr hmem)
        have hlisted := hcreated.make (g := .idList) (f := .getCameraIdList) hgiven
          (ready_of_nil rfl) rfl trivial
        rw [← Set.insert_sdiff_self_of_notMem hfresh]
        exact (hlisted.lookAll hmanager (Set.mem_insert _ _) answers).free (Set.mem_insert _ _)
          (ready_of_nil rfl)

theorem Kept.connect (h : Kept locals s) (houtputs : s.held .outputs = none)
    (hrequest : s.held .request = none) (io : HandlesIO) : Kept locals (s.connect io) := by
  have hlistened := (h.call (f := .setImageListener) (usable_arg .reader) (ready_of_nil rfl)).call
    (f := .getWindow) (usable_arg .reader) (ready_of_nil rfl)
  have hadded := ((hlistened.create (r := .outputs) (b := io.outputs) usable_nil (ready_of_nil rfl)
    fun _ => houtputs).create (r := .sessionOutput) (b := io.sessionOutput)
    (usable_arg .reader) (ready_of_nil rfl) (absurd · (by decide))).call (f := .addOutput)
    (usable_append.mpr ⟨usable_arg .outputs, usable_arg .sessionOutput⟩) (ready_of_nil rfl)
  exact ((hadded.create (r := .request) (b := io.request) (usable_arg .device) (ready_of_nil rfl)
    fun _ => by simp [hrequest]).create (r := .target) (b := io.target) (usable_arg .reader)
    (ready_of_nil rfl) (absurd · (by decide))).call (f := .addTarget)
    (usable_append.mpr ⟨usable_arg .request, usable_arg .target⟩) (ready_of_nil rfl)

theorem Kept.openPipeline (h : Kept locals s)
    (hnull : ∀ r ∈ pipeline, r ≠ .preview → s.held r = none) (io : HandlesIO) :
    Kept locals (s.openPipeline io).2 ∧
      ((s.openPipeline io).1 = false → (s.openPipeline io).2.Idle) := by
  have hsession := hnull .session (by decide) (by decide)
  have hdevice := hnull .device (by decide) (by decide)
  have hrequest := hnull .request (by decide) (by decide)
  have houtputs := hnull .outputs (by decide) (by decide)
  have hreader := hnull .reader (by decide) (by decide)
  have hopened := h.create (r := .device) (b := io.openCamera) usable_manager (ready_of_nil rfl)
    fun _ => hdevice
  unfold CameraHandles.openPipeline
  dsimp only
  split
  case isTrue hfail =>
    rw [assign_none (by simpa [hdevice] using hfail)]
    exact ⟨hopened.stop, fun _ => idle_stop⟩
  case isFalse =>
    have hread := hopened.create (r := .reader) (b := io.reader) usable_nil (ready_of_nil rfl)
      fun _ => by simp [hreader]
    split
    · exact ⟨hread.stop, fun _ => idle_stop⟩
    · have hcreated := (hread.connect (by simp [houtputs]) (by simp [hrequest]) io).create
        (r := .session) (b := io.session)
        (usable_append.mpr ⟨usable_arg .device, usable_arg .outputs⟩) (ready_of_nil rfl)
        fun _ => by simp [hsession]
      split
      case isTrue hfail =>
        rw [assign_none (by simpa [hsession] using hfail)]
        exact ⟨hcreated.stop, fun _ => idle_stop⟩
      case isFalse =>
        have hrepeating := hcreated.call (f := .setRepeatingRequest)
          (usable_append.mpr ⟨usable_arg .session, usable_arg .request⟩) (ready_of_nil rfl)
        split
        · exact ⟨hrepeating.stop, fun _ => idle_stop⟩
        · exact ⟨hrepeating, nofun⟩

theorem Kept.start (h : Kept locals s) (hidle : s.Idle) (preview : Bool) (io : HandlesIO) :
    Kept locals (s.start preview io).2 ∧
      ((s.start preview io).1 = false → (s.start preview io).2.Idle) := by
  have hfound := h.findFrontCamera io.cameras
  have hnull (r : CameraResource) (hr : r ∈ pipeline) :
      (CameraHandles.findFrontCamera io.cameras s).2.held r = none := by
    rw [held_findFrontCamera]
    exact hidle r hr
  unfold CameraHandles.start
  dsimp only
  split
  · exact ⟨hfound, fun _ => hnull⟩
  · have hpreview : Kept locals
        ((CameraHandles.findFrontCamera io.cameras s).2.acquirePreview preview) := by
      unfold CameraHandles.acquirePreview
      split
      · exact (hfound.create (r := .preview) (b := true) usable_nil hnull
          (hnull .preview)).call (f := .setBuffersGeometry) (usable_arg .preview) (ready_of_nil rfl)
      · exact hfound
    refine hpreview.openPipeline (fun r hr hne => ?_) io
    simpa [hne] using hidle r hr

/-! ### The life of a camera source -/

theorem Kept.round (h : Kept locals s) (hidle : s.Idle) (r : Round) :
    Kept locals (s.round r) ∧ (s.round r).Idle := by
  obtain ⟨hkept, hfailed⟩ := h.start hidle r.preview r.start
  unfold CameraHandles.round
  dsimp only
  split
  · exact ⟨(hkept.images r.images).stop, idle_stop⟩
  case isFalse hfail => exact ⟨hkept, hfailed (Bool.eq_false_iff.mpr hfail)⟩

theorem Kept.destroy (h : Kept locals s) :
    Kept locals s.destroy ∧ s.destroy.Idle ∧ s.destroy.mManager = none := by
  have hstopped : Kept locals s.stopEarly := h.stop
  have hidle : s.stopEarly.Idle := idle_stop
  unfold CameraHandles.destroy
  dsimp only
  split
  case h_1 hm => exact ⟨hstopped, hidle, hm⟩
  case h_2 n hm =>
    refine ⟨⟨hstopped.numbered_free (o := .manager n) hm id rfl rfl fun o => ?_, hstopped.apart,
      hstopped.left, hstopped.temporary, hstopped.snoc hidle⟩, hidle, rfl⟩
    cases o <;> simp [Owns, CameraHandles.free, hm, eq_comm]

/-- Between two rounds, next to the camera source that counts. -/
structure Rested (s : CameraHandles) (c : CameraSource) : Prop where
  kept : Kept ∅ s
  idle : s.Idle
  agrees : s.Agrees c

theorem Rested.round {c : CameraSource} (h : Rested s c) {r : Round} {q : CameraSource.Round}
    (hq : r.Matches q) : Rested (s.round r) (c.round q) := by
  obtain ⟨hkept, hidle⟩ := h.kept.round h.idle r
  have hdevice := h.idle .device (by decide)
  have hsession := h.idle .session (by decide)
  exact ⟨hkept, hidle, h.agrees.round hdevice hsession hq⟩

theorem rested_run {rounds : List Round} {qs : List CameraSource.Round}
    (h : List.Forall₂ Round.Matches rounds qs) :
    Rested (Machine.run CameraHandles.round {} rounds) (Machine.run CameraSource.round {} qs) :=
  List.rel_foldl (P := Rested) (R := Round.Matches) (fun _ _ hs _ _ hq => hs.round hq)
    ⟨kept_init, fun _ _ => rfl, agrees_init⟩ h

/-- Rounds that leave nothing behind leave no pointer to anything either. -/
theorem leaksNothing_run {qs : List CameraSource.Round}
    (h : Machine.Along CameraSource.round CameraSource.RoundSafe {} qs) :
    CameraSource.LeaksNothing {} (Machine.run CameraSource.round {} qs) :=
  Machine.Along.invariant (I := CameraSource.LeaksNothing {})
    (fun _ r hl hsafe => hl.clean ((CameraSource.clean_round_iff hl.1 r).mpr hsafe))
    (.refl fun _ => rfl) h

theorem Kept.owned_of_idle (h : Kept ∅ s) (hidle : s.Idle) (hmanager : s.mManager = none)
    {o : NdkObject} (ho : ledger.Owned s.log o) :
    ∃ r n, o = .part r n ∧ (r = .target ∨ r = .sessionOutput) := by
  obtain howns | hlocal := (h.numbered.balanced.owned o).mp ho
  · cases o with
    | manager n =>
        have hn : s.mManager = some n := howns
        rw [hmanager] at hn
        cases hn
    | part r n =>
        have hr : r ∉ pipeline := by
          obtain hheld | hlost := howns
          · intro hr
            rw [hidle r hr] at hheld
            cases hheld
          · exact h.left r n hlost
        refine ⟨r, n, rfl, ?_⟩
        cases r with
        | target => exact .inl rfl
        | sessionOutput => exact .inr rfl
        | _ => simp [pipeline] at hr
    | _ => cases howns
  · cases hlocal

/-- Over the life of a camera source with any rounds, whatever the calls answer: every call is
given what has been made and not freed, nothing is freed twice, and everything is closed in
order. What is not freed in the end is a target or a session output, and there is none where no
round creates one without the object that it is freed with. -/
theorem life_tidy (rounds : List Round) :
    ledger.Disciplined (life rounds).log ∧ EachAfter InOrder (life rounds).log ∧
      (∀ o, ledger.Owned (life rounds).log o →
        ∃ r n, o = .part r n ∧ (r = .target ∨ r = .sessionOutput)) ∧
      ∀ qs, List.Forall₂ Round.Matches rounds qs →
        Machine.Along CameraSource.round CameraSource.RoundSafe {} qs →
          ∀ o, ¬ledger.Owned (life rounds).log o := by
  obtain ⟨qs₀, hqs₀⟩ := exists_matches rounds
  obtain ⟨hkept, hidle, hmanager⟩ := (rested_run hqs₀).kept.destroy
  have hdisciplined := hkept.numbered.balanced.disciplined
  refine ⟨hdisciplined, hkept.ordered, fun o ho => hkept.owned_of_idle hidle hmanager ho,
    fun qs hqs hsafe o ho => ?_⟩
  obtain ⟨r, n, rfl, -⟩ := hkept.owned_of_idle hidle hmanager ho
  have hagrees := (rested_run hqs).agrees.destroy
  obtain ⟨hstopped, hcounts⟩ := leaksNothing_run hsafe
  obtain ⟨k, hacquired, hreleased⟩ := hcounts r
  refine hdisciplined.not_owned_of_countP_eq (p := NdkObject.isFor r) (by simp [NdkObject.isFor])
    ?_ ho
  calc (life rounds).made r
      = (Machine.run CameraSource.round {} qs).acquired r := by
        rw [life, hagrees.acquired, CameraSource.acquired_stop]
    _ = (Machine.run CameraSource.round {} qs).released r := by rw [hacquired, hreleased]
    _ = (life rounds).freed r := by
        rw [life, hagrees.released, CameraSource.released_stop, hstopped r]
        rfl

/-- A round with a second camera in front and images up to the end. -/
def frontRound : Round where
  preview := true
  start :=
    { cameras := some [⟨['0'], true, some false, none⟩, ⟨['1'], true, some true, some 90⟩]
      openCamera := true
      reader := true
      outputs := true
      sessionOutput := true
      request := true
      target := true
      session := true
      repeating := true }
  images := [⟨true, true, true⟩, ⟨false, false, false⟩]
  late := fun _ => [⟨true, false, true⟩]

theorem life_tidy_frontRound : ∀ o, ¬ledger.Owned (life [frontRound, frontRound]).log o := by
  have hsafe : ∀ c, CameraSource.RoundSafe c
      { preview := true, start := frontRound.start.toStartIO, events := [] } :=
    fun _ _ => ⟨fun _ => rfl, fun _ => rfl⟩
  exact (life_tidy [frontRound, frontRound]).2.2.2 [_, _]
    (.cons ⟨rfl, rfl⟩ (.cons ⟨rfl, rfl⟩ .nil)) ⟨hsafe _, hsafe _, trivial⟩

end OneplusHal.Face.CameraHandles
