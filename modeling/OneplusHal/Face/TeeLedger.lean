import Mathlib.Order.BooleanAlgebra.Set
import OneplusHal.Face.TrustedApp

/-!
What the system hands out to the clients of the trusted app, and takes back: the sessions, and for
each buffer of ION memory its client, its descriptor and its mapping.

Starting the app leaves nothing behind but the session that it returns, and what an allocation has
got, however far it came, its destruction gives back.
-/

namespace OneplusHal.Face.TrustedApp

inductive Resource
  | app (role : Role) (handle : ℕ)
  | ion (n : ℕ)
  | fd (n : ℕ)
  | mapping (n : ℕ)
  deriving DecidableEq

def Resource.number : Resource → ℕ
  | .app _ n => n
  | .ion n => n
  | .fd n => n
  | .mapping n => n

/-- The session that a command is for. -/
def sessionOf : SharedBuffer.Command → Role
  | .saveFeature | .compareFeature | .removeFeature => .feature
  | .saveFrame | .removeFrame => .frame

def ledger : Ledger TeeEvent Resource where
  acquires
    | .startApp role _ handle => handle.map (.app role)
    | .ionOpen ion => ion.map .ion
    | .ionAlloc _ _ _ fd => fd.map .fd
    | .mmap _ data => data.map .mapping
    | _ => none
  releases
    | .shutdownApp role handle => some (.app role handle)
    | .ionClose ion => some (.ion ion)
    | .close fd => some (.fd fd)
    | .munmap data => some (.mapping data)
    | _ => none
  touches
    | .sendCmd handle cmd => [.app (sessionOf cmd) handle]
    | .sendModifiedCmd handle requestFd responseFd _ =>
        [.app .sdk handle, .fd requestFd, .fd responseFd]
    | .ionAlloc ion _ _ _ => [.ion ion]
    | .mmap fd _ => [.fd fd]
    | .syncStart fd => [.fd fd]
    | .syncEnd fd => [.fd fd]
    | .memcpy data => [.mapping data]
    | _ => []

/-- What is handed out and not given back is `S`. -/
def Keeps (S : Set Resource) (s : Tee) : Prop :=
  ledger.Numbered Resource.number s.next s.log S

variable {S : Set Resource} {s : Tee}

theorem keeps_init : Keeps ∅ {} where
  balanced := ⟨.nil, fun _ => ⟨fun h => absurd h.1 Ledger.not_acquired_nil, False.elim⟩⟩
  lt_next := fun _ h => absurd h Ledger.not_acquired_nil

theorem Keeps.emit (h : Keeps S s) {e : TeeEvent} (hacq : ledger.acquires e = none)
    (hrel : ledger.releases e = none) (ht : ∀ a ∈ ledger.touches e, a ∈ S) :
    Keeps S (s.emit e) :=
  Ledger.Numbered.touch h hacq hrel ht

theorem Keeps.release (h : Keeps S s) {e : TeeEvent} {a : Resource}
    (hacq : ledger.acquires e = none) (hrel : ledger.releases e = some a)
    (ht : ledger.touches e = []) (ha : a ∈ S) : Keeps (S \ {a}) (s.emit e) :=
  Ledger.Numbered.release h hacq hrel (by simp [ht]) ha

/-- With a number comes what is handed out under it, and without one nothing. -/
def Obtains (resource : ℕ → Resource) (S : Set Resource) (r : Option ℕ × Tee) : Prop :=
  match r.1 with
  | none => Keeps S r.2
  | some n => resource n ∉ S ∧ Keeps (insert (resource n) S) r.2

theorem Obtains.cases {resource : ℕ → Resource} {r : Option ℕ × Tee} (h : Obtains resource S r) :
    (∃ s, r = (none, s) ∧ Keeps S s) ∨
      ∃ n s, r = (some n, s) ∧ resource n ∉ S ∧ Keeps (insert (resource n) S) s := by
  obtain ⟨_ | n, s⟩ := r
  · exact .inl ⟨s, rfl, h⟩
  · exact .inr ⟨n, s, rfl, h⟩

theorem Keeps.handOut (h : Keeps S s) (event : Option ℕ → TeeEvent) (resource : ℕ → Resource)
    (hacq : ∀ n, ledger.acquires (event n) = n.map resource)
    (hrel : ∀ n, ledger.releases (event n) = none)
    (ht : ∀ n, ∀ a ∈ ledger.touches (event n), a ∈ S)
    (hnumber : ∀ n, (resource n).number = n) (ok : Bool) :
    Obtains resource S (s.handOut event ok) := by
  cases ok with
  | false => exact h.emit (hacq none) (hrel none) (ht none)
  | true =>
      exact ⟨Ledger.Numbered.notMem h (hnumber _).ge,
        Ledger.Numbered.acquire h (hacq _) (hrel _) (ht _) (hnumber _)⟩

/-! ### Starting the app -/

/-- Giving back what has just come leaves things as they were. -/
theorem Keeps.giveBack {a : Resource} {e : TeeEvent} (hfresh : a ∉ S) (h : Keeps (insert a S) s)
    (hacq : ledger.acquires e = none) (hrel : ledger.releases e = some a)
    (ht : ledger.touches e = []) : Keeps S (s.emit e) := by
  have hrelease := h.release hacq hrel ht (Set.mem_insert a S)
  rwa [Set.insert_sdiff_self_of_notMem hfresh] at hrelease

theorem Keeps.startAt (h : Keeps S s) (role : Role) (path : String) (answer : StartAnswer) :
    Obtains (.app role) S (startAt role path answer s) := by
  have hstart := h.handOut (.startApp role path) (.app role) (fun _ => rfl)
    (fun _ => rfl) (fun _ _ ha => absurd ha List.not_mem_nil) (fun _ => rfl) answer.handle.isSome
  obtain ⟨s₁, hr, h₁⟩ | ⟨handle, s₁, hr, hfresh, h₁⟩ := hstart.cases
  · simp only [TrustedApp.startAt, hr]
    exact h₁
  · simp only [TrustedApp.startAt, hr]
    split
    · exact ⟨hfresh, h₁⟩
    · exact h₁.giveBack hfresh rfl rfl rfl

theorem Keeps.startPaths (h : Keeps S s) (role : Role) (answer : String → StartAnswer)
    (paths : List String) : Obtains (.app role) S (startPaths role answer paths s) := by
  induction paths generalizing s with
  | nil => exact h
  | cons path rest ih =>
      obtain ⟨s₁, hr, h₁⟩ | ⟨handle, s₁, hr, h₁⟩ := (h.startAt role path (answer path)).cases
      · simp only [TrustedApp.startPaths, hr]
        exact ih h₁
      · simp only [TrustedApp.startPaths, hr]
        exact h₁

theorem Keeps.startAttempts (h : Keeps S s) (role : Role) (sleeps : ℕ → Bool) (io : StartIO)
    (attempts : List ℕ) : Obtains (.app role) S (startAttempts role sleeps io attempts s) := by
  induction attempts generalizing s with
  | nil => exact h
  | cons attempt rest ih =>
      obtain ⟨s₁, hr, h₁⟩ | ⟨handle, s₁, hr, h₁⟩ :=
        (h.startPaths role (io attempt) kAppPaths).cases
      · simp only [TrustedApp.startAttempts, hr]
        apply ih
        split
        · exact h₁.emit rfl rfl (by simp [ledger])
        · exact h₁
      · simp only [TrustedApp.startAttempts, hr]
        exact h₁

/-! ### ION memory -/

/-- With what a buffer holds, what is handed out has grown from `S` to `T`. -/
inductive Holding (b : IonBuffer) (S : Set Resource) : Set Resource → Prop
  | nothing (hion : b.mIon = none) (hfd : b.mFd = none) (hdata : b.mData = none) : Holding b S S
  | client {ion : ℕ} (hion : b.mIon = some ion) (hfd : b.mFd = none) (hdata : b.mData = none)
      (hionS : .ion ion ∉ S) : Holding b S (insert (.ion ion) S)
  | buffer {ion fd : ℕ} (hion : b.mIon = some ion) (hfd : b.mFd = some fd)
      (hdata : b.mData = none) (hionS : .ion ion ∉ S) (hfdS : .fd fd ∉ insert (.ion ion) S) :
      Holding b S (insert (.fd fd) (insert (.ion ion) S))
  | mapped {ion fd data : ℕ} (hion : b.mIon = some ion) (hfd : b.mFd = some fd)
      (hdata : b.mData = some data) (hionS : .ion ion ∉ S) (hfdS : .fd fd ∉ insert (.ion ion) S)
      (hdataS : .mapping data ∉ insert (.fd fd) (insert (.ion ion) S)) :
      Holding b S (insert (.mapping data) (insert (.fd fd) (insert (.ion ion) S)))

variable {b : IonBuffer} {T : Set Resource}

theorem Holding.mem {a : Resource} (h : Holding b S T) (ha : a ∈ S) : a ∈ T := by
  cases h with
  | nothing => exact ha
  | client => exact .inr ha
  | buffer => exact .inr (.inr ha)
  | mapped => exact .inr (.inr (.inr ha))

theorem Holding.fd_mem {fd : ℕ} (h : Holding b S T) (hb : b.mFd = some fd) : .fd fd ∈ T := by
  cases h with
  | nothing _ hfd => cases hfd.symm.trans hb
  | client _ hfd => cases hfd.symm.trans hb
  | buffer _ hfd => cases hfd.symm.trans hb; exact .inl rfl
  | mapped _ hfd => cases hfd.symm.trans hb; exact .inr (.inl rfl)

/-- The descriptor is not one of those that were out before. -/
theorem Holding.fd_notMem {fd : ℕ} (h : Holding b S T) (hb : b.mFd = some fd) : .fd fd ∉ S := by
  cases h with
  | nothing _ hfd => cases hfd.symm.trans hb
  | client _ hfd => cases hfd.symm.trans hb
  | buffer _ hfd _ _ hfdS => cases hfd.symm.trans hb; exact fun hmem => hfdS (.inr hmem)
  | mapped _ hfd _ _ hfdS => cases hfd.symm.trans hb; exact fun hmem => hfdS (.inr hmem)

theorem Holding.mapping_mem {data : ℕ} (h : Holding b S T) (hb : b.mData = some data) :
    .mapping data ∈ T := by
  cases h with
  | nothing _ _ hdata => cases hdata.symm.trans hb
  | client _ _ hdata => cases hdata.symm.trans hb
  | buffer _ _ hdata => cases hdata.symm.trans hb
  | mapped _ _ hdata => cases hdata.symm.trans hb; exact .inl rfl

theorem Keeps.qseecomHeapMask (h : Keeps S s) (io : HeapIO) :
    Keeps S (qseecomHeapMask io s).2 := by
  have hopen := h.handOut .ionOpen .ion (fun _ => rfl) (fun _ => rfl)
    (fun _ _ ha => absurd ha List.not_mem_nil) (fun _ => rfl) io.ionOpen
  rw [TrustedApp.qseecomHeapMask]
  split
  · exact h
  · obtain ⟨s₁, hr, h₁⟩ | ⟨ion, s₁, hr, hfresh, h₁⟩ := hopen.cases
    · simp only [hr]
      exact h₁
    · simp only [hr]
      exact h₁.giveBack hfresh rfl rfl rfl

/-- The buffer is mapped, with room for the bytes it was allocated for. -/
structure Mapped (io : AllocIO) (len : UInt64) (b : IonBuffer) : Prop where
  size : b.mSize = pageAlign len
  length : b.mLen = len.toUInt32
  memory : b.memory = pages io.memory (pageAlign len).toNat

/-- A buffer holds what its allocation got, up to the step that failed. -/
theorem Keeps.alloc (h : Keeps S s) (io : AllocIO) (len : UInt64) :
    ∃ T, Holding (IonBuffer.alloc io len s).2.1 S T ∧ Keeps T (IonBuffer.alloc io len s).2.2 ∧
      ((IonBuffer.alloc io len s).1 = true → Mapped io len (IonBuffer.alloc io len s).2.1) := by
  have hopen := h.handOut .ionOpen .ion (fun _ => rfl) (fun _ => rfl)
    (fun _ _ ha => absurd ha List.not_mem_nil) (fun _ => rfl) io.ionOpen
  obtain ⟨s₁, hopened, h₁⟩ | ⟨ion, s₁, hopened, hion, h₁⟩ := hopen.cases
  · simp only [IonBuffer.alloc, hopened]
    exact ⟨S, .nothing rfl rfl rfl, h₁, fun h => absurd h Bool.false_ne_true⟩
  have h₂ := h₁.qseecomHeapMask io.heap
  have halloc := h₂.handOut
    (.ionAlloc ion (pageAlign len) (TrustedApp.qseecomHeapMask io.heap s₁).1) .fd (fun _ => rfl)
    (fun _ => rfl) (fun _ a ha => .inl (List.mem_singleton.mp ha)) (fun _ => rfl) io.ionAlloc
  obtain ⟨s₃, hallocated, h₃⟩ | ⟨fd, s₃, hallocated, hfd, h₃⟩ := halloc.cases
  · simp only [IonBuffer.alloc, hopened, hallocated]
    exact ⟨_, .client rfl rfl rfl hion, h₃, fun h => absurd h Bool.false_ne_true⟩
  have hmap := h₃.handOut (.mmap fd) .mapping (fun _ => rfl)
    (fun _ => rfl) (fun _ a ha => .inl (List.mem_singleton.mp ha)) (fun _ => rfl) io.mmap
  obtain ⟨s₄, hmapped, h₄⟩ | ⟨data, s₄, hmapped, hdata, h₄⟩ := hmap.cases
  · simp only [IonBuffer.alloc, hopened, hallocated, hmapped]
    exact ⟨_, .buffer rfl rfl rfl hion hfd, h₄, fun h => absurd h Bool.false_ne_true⟩
  · simp only [IonBuffer.alloc, hopened, hallocated, hmapped]
    refine ⟨_, .mapped rfl rfl rfl hion hfd hdata, h₄.emit rfl rfl fun a ha => ?_, fun _ => ?_⟩
    · exact .inr (.inl (List.mem_singleton.mp ha))
    · exact ⟨rfl, rfl, rfl⟩

/-- Every step of the allocation succeeds. -/
def AllocIO.succeeds (io : AllocIO) : Bool := io.ionOpen && io.ionAlloc && io.mmap && io.sync

theorem alloc_fst (io : AllocIO) (len : UInt64) (s : Tee) :
    (IonBuffer.alloc io len s).1 = io.succeeds := by
  simp only [IonBuffer.alloc, AllocIO.succeeds, Tee.handOut]
  cases io.ionOpen <;> cases io.ionAlloc <;> cases io.mmap <;> rfl

/-- Its destruction gives everything back. -/
theorem Holding.destroy (hb : Holding b S T) (h : Keeps T s) : Keeps S (b.destroy s) := by
  cases hb with
  | nothing hion hfd hdata =>
      simp only [IonBuffer.destroy, hion, hfd, hdata]
      exact h
  | client hion hfd hdata hionS =>
      simp only [IonBuffer.destroy, hion, hfd, hdata]
      exact h.giveBack hionS rfl rfl rfl
  | buffer hion hfd hdata hionS hfdS =>
      simp only [IonBuffer.destroy, hion, hfd, hdata]
      exact (h.giveBack hfdS rfl rfl rfl).giveBack hionS rfl rfl rfl
  | mapped hion hfd hdata hionS hfdS hdataS =>
      simp only [IonBuffer.destroy, hion, hfd, hdata]
      have hsync := h.emit (e := .syncEnd _) rfl rfl fun a ha =>
        .inr (.inl (List.mem_singleton.mp ha))
      exact ((hsync.giveBack hdataS rfl rfl rfl).giveBack hfdS rfl rfl rfl).giveBack hionS rfl rfl
        rfl

end OneplusHal.Face.TrustedApp
