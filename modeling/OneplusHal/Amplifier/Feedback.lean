import Mathlib.Data.List.Nodup
import OneplusHal.Amplifier.AudioAmplifier
import OneplusHal.Lib.Ledger
import OneplusHal.Lib.Machine

/-!
The usecases and streams of the feedback path over a history of calls, interleaved with
what the audio HAL does to its list.

A usecase is owned from its allocation until it is freed, a stream while it is open.
Between calls the usecases owned are those of the list, the stream open is `tfa98xxOut`,
and the calibration usecase is in the list exactly while a stream is open.
-/

namespace OneplusHal.Amplifier

open OneplusHal

/-! ### What the log says -/

/-- The usecases. A list operation may touch every node that is linked. -/
def usecaseLedger : Ledger Event ℕ where
  acquires
    | .calloc uc => some uc
    | _ => none
  releases
    | .free uc => some uc
    | _ => none
  touches
    | .read uc | .write uc | .free uc | .enableAudioRoute uc | .disableAudioRoute uc => [uc]
    | .listAddTail uc nodes | .listRemove uc nodes => uc :: nodes
    | .getUsecaseFromList nodes => nodes
    | _ => []

/-- The streams. -/
def pcmLedger : Ledger Event ℕ where
  acquires
    | .pcmOpen _ _ pcm => pcm
    | _ => none
  releases
    | .pcmClose pcm => some pcm
    | _ => none
  touches
    | .pcmIsReady pcm | .pcmGetError pcm | .pcmStart pcm => pcm.toList
    | .pcmClose pcm => [pcm]
    | _ => []

/-- Something the module or the audio HAL does, between two calls of the other. -/
inductive Input
  | setFeedback (devices : SndDevice) (enable : Bool) (io : StartIO)
  | halAdd (id : ℕ) (type : UsecaseType) (inSndDevice : SndDevice)
  | halRemove (id : ℕ)

namespace Amp

def step (a : Amp) : Input → Amp
  | .setFeedback devices enable io => (a.setFeedback devices enable io).2
  | .halAdd id type inSndDevice => a.halAdd id type inSndDevice
  | .halRemove id => a.halRemove id

variable {a : Amp} {S : Set ℕ} {uc : Usecase}

/-! ### The ledgers through the primitive steps -/

/-- The usecases of `S` are owned, those of the list among them, and the open stream is
the one of `tfa98xxOut`. -/
structure Linked (S : Set ℕ) (a : Amp) : Prop where
  usecases : usecaseLedger.Balanced a.log S
  pcms : pcmLedger.Balanced a.log {pcm | a.tfa98xxOut = some pcm}
  listed : ∀ p ∈ a.nodes, p ∈ S
  nodup : a.nodes.Nodup
  lt_nextUsecase : ∀ p, usecaseLedger.Acquired a.log p → p < a.nextUsecase
  lt_nextPcm : ∀ pcm, pcmLedger.Acquired a.log pcm → pcm < a.nextPcm

theorem Linked.congr {S' : Set ℕ} (h : a.Linked S) (hS : ∀ p, p ∈ S ↔ p ∈ S') : a.Linked S' :=
  Set.ext hS ▸ h

theorem Linked.withUsecaseTx (h : a.Linked S) (uc : Option Usecase) :
    Linked S { a with usecaseTx := uc } :=
  ⟨h.usecases, h.pcms, h.listed, h.nodup, h.lt_nextUsecase, h.lt_nextPcm⟩

/-- An owned usecase has a number that was given out. -/
theorem Linked.lt_of_mem (h : a.Linked S) {p : ℕ} (hp : p ∈ S) : p < a.nextUsecase :=
  h.lt_nextUsecase p ((h.usecases.owned p).mpr hp).1

theorem Linked.nextUsecase_notMem (h : a.Linked S) : a.nextUsecase ∉ a.nodes :=
  fun hp => Nat.lt_irrefl _ (h.lt_of_mem (h.listed _ hp))

/-- An event that neither acquires nor releases, and touches only what is owned. -/
structure Quiet (S : Set ℕ) (out : Option ℕ) (e : Event) : Prop where
  usecase_acquires : usecaseLedger.acquires e = none
  usecase_releases : usecaseLedger.releases e = none
  usecase_touches : ∀ p ∈ usecaseLedger.touches e, p ∈ S
  pcm_acquires : pcmLedger.acquires e = none
  pcm_releases : pcmLedger.releases e = none
  pcm_touches : ∀ pcm ∈ pcmLedger.touches e, out = some pcm

theorem Linked.emit (h : a.Linked S) {e : Event} (he : Quiet S a.tfa98xxOut e) :
    (a.emit e).Linked S where
  usecases := h.usecases.touch he.usecase_acquires he.usecase_releases he.usecase_touches
  pcms := h.pcms.touch he.pcm_acquires he.pcm_releases he.pcm_touches
  listed := h.listed
  nodup := h.nodup
  lt_nextUsecase := Ledger.forall_acquired_append h.lt_nextUsecase (fun _ => id) fun p hp => by
    simp [he.usecase_acquires] at hp
  lt_nextPcm := Ledger.forall_acquired_append h.lt_nextPcm (fun _ => id) fun pcm hp => by
    simp [he.pcm_acquires] at hp

/-- An access to one usecase. -/
theorem quiet_usecase {out : Option ℕ} {p : ℕ} (hp : p ∈ S) {e : Event}
    (he : e = .read p ∨ e = .write p ∨ e = .enableAudioRoute p ∨ e = .disableAudioRoute p) :
    Quiet S out e := by
  obtain rfl | rfl | rfl | rfl := he <;>
    exact ⟨rfl, rfl, by simpa [usecaseLedger] using hp, rfl, rfl, by simp [pcmLedger]⟩

/-- An access to the list. -/
theorem quiet_list {out : Option ℕ} {ns : List ℕ} (hns : ∀ p ∈ ns, p ∈ S) {e : Event}
    (he : e = .getUsecaseFromList ns ∨
      ∃ p ∈ S, e = .listAddTail p ns ∨ e = .listRemove p ns) : Quiet S out e := by
  obtain rfl | ⟨p, hp, rfl | rfl⟩ := he
  · exact ⟨rfl, rfl, hns, rfl, rfl, by simp [pcmLedger]⟩
  all_goals
    refine ⟨rfl, rfl, fun q hq => ?_, rfl, rfl, by simp [pcmLedger]⟩
    obtain rfl | hq := List.mem_cons.mp hq
    · exact hp
    · exact hns q hq

/-- An access to a sound device. -/
theorem quiet_sndDevice {out : Option ℕ} {d : SndDevice} {e : Event}
    (he : e = .enableSndDevice d ∨ e = .disableSndDevice d) : Quiet S out e := by
  obtain rfl | rfl := he <;>
    exact ⟨rfl, rfl, by simp [usecaseLedger], rfl, rfl, by simp [pcmLedger]⟩

/-- An access to the stream that `tfa98xxOut` names, if it names one. -/
theorem quiet_pcm {out : Option ℕ} {e : Event}
    (he : e = .pcmIsReady out ∨ e = .pcmGetError out ∨ e = .pcmStart out) : Quiet S out e := by
  obtain rfl | rfl | rfl := he <;>
    exact ⟨rfl, rfl, by simp [usecaseLedger], rfl, rfl, fun pcm h => Option.mem_toList.mp h⟩

@[simp] theorem emit_usecaseList (e : Event) : (a.emit e).usecaseList = a.usecaseList := rfl

@[simp] theorem emit_tfa98xxOut (e : Event) : (a.emit e).tfa98xxOut = a.tfa98xxOut := rfl

@[simp] theorem emit_nodes (e : Event) : (a.emit e).nodes = a.nodes := rfl

@[simp] theorem nodes_listAddTail : (a.listAddTail uc).nodes = a.nodes ++ [uc.ptr] := by
  simp [nodes, listAddTail]

theorem mem_nodes_listRemove {p : ℕ} :
    p ∈ (a.listRemove uc).nodes ↔ p ∈ a.nodes ∧ p ≠ uc.ptr := by
  simp only [nodes, listRemove, List.mem_map, List.mem_filter, decide_eq_true_eq]
  constructor
  · rintro ⟨u, ⟨hu, hne⟩, rfl⟩
    exact ⟨⟨u, hu, rfl⟩, hne⟩
  · rintro ⟨⟨u, hu, rfl⟩, hne⟩
    exact ⟨u, ⟨hu, hne⟩, rfl⟩

theorem Linked.alloc (h : a.Linked S) (uc : Usecase) (huc : uc.ptr = a.nextUsecase) :
    (a.alloc uc).Linked (insert uc.ptr S) := by
  have hfresh : ¬usecaseLedger.Acquired a.log uc.ptr := fun hacq =>
    Nat.lt_irrefl _ (huc ▸ h.lt_nextUsecase _ hacq)
  have hcalloc :
      ({ a with nextUsecase := a.nextUsecase + 1 }.emit (.calloc uc.ptr)).Linked
        (insert uc.ptr S) :=
    { usecases := h.usecases.acquire rfl rfl (by simp [usecaseLedger]) hfresh
      pcms := h.pcms.touch rfl rfl (by simp [pcmLedger])
      listed := fun p hp => Set.mem_insert_of_mem _ (h.listed p hp)
      nodup := h.nodup
      lt_nextUsecase := by
        refine Ledger.forall_acquired_append h.lt_nextUsecase (fun _ => Nat.lt_succ_of_lt) ?_
        rintro _ ⟨⟩
        exact huc ▸ Nat.lt_succ_self _
      lt_nextPcm := Ledger.forall_acquired_append h.lt_nextPcm (fun _ => id) nofun }
  exact hcalloc.emit (quiet_usecase (Set.mem_insert _ _) (.inr (.inl rfl)))

theorem Linked.listAddTail (h : a.Linked S) (hS : uc.ptr ∈ S) (hn : uc.ptr ∉ a.nodes) :
    (a.listAddTail uc).Linked S := by
  have hadd := h.emit (e := .listAddTail uc.ptr a.nodes)
    (quiet_list h.listed (.inr ⟨uc.ptr, hS, .inl rfl⟩))
  refine ⟨hadd.usecases, hadd.pcms, fun p hp => ?_, ?_, hadd.lt_nextUsecase, hadd.lt_nextPcm⟩
  · rw [nodes_listAddTail, List.mem_append, List.mem_singleton] at hp
    obtain hp | rfl := hp
    · exact h.listed p hp
    · exact hS
  · rw [nodes_listAddTail, List.nodup_append]
    refine ⟨h.nodup, List.nodup_singleton _, fun p hp q hq hpq => hn ?_⟩
    rwa [← List.mem_singleton.mp hq, ← hpq]

theorem Linked.listRemove (h : a.Linked S) (uc : Usecase) (hS : uc.ptr ∈ S) :
    (a.listRemove uc).Linked S := by
  have hremove := h.emit (e := .listRemove uc.ptr a.nodes)
    (quiet_list h.listed (.inr ⟨uc.ptr, hS, .inr rfl⟩))
  refine ⟨hremove.usecases, hremove.pcms, fun p hp => ?_, ?_, hremove.lt_nextUsecase,
    hremove.lt_nextPcm⟩
  · exact h.listed p (mem_nodes_listRemove.mp hp).1
  · exact h.nodup.sublist (List.filter_sublist.map _)

/-- A usecase that is out of the list is freed. -/
theorem Linked.free (h : a.Linked S) {p : ℕ} (hS : p ∈ S) (hn : p ∉ a.nodes) :
    (a.emit (.free p)).Linked (S \ {p}) where
  usecases := h.usecases.release rfl rfl (by simpa [usecaseLedger] using hS) hS
  pcms := h.pcms.touch rfl rfl (by simp [pcmLedger])
  listed := fun q hq => ⟨h.listed q hq, fun hqp => hn (hqp ▸ hq)⟩
  nodup := h.nodup
  lt_nextUsecase := Ledger.forall_acquired_append h.lt_nextUsecase (fun _ => id) nofun
  lt_nextPcm := Ledger.forall_acquired_append h.lt_nextPcm (fun _ => id) nofun

theorem Linked.pcmOpen (h : a.Linked S) (hout : a.tfa98xxOut = none) (pcmDevice : Int32)
    (opened : Bool) : (a.pcmOpen pcmDevice opened).Linked S := by
  cases opened with
  | false =>
      have hquiet : Quiet S a.tfa98xxOut (.pcmOpen pcmDevice pcmConfigTfa98xx none) :=
        ⟨rfl, rfl, by simp [usecaseLedger], rfl, rfl, by simp [pcmLedger]⟩
      have hopen := h.emit hquiet
      refine ⟨hopen.usecases, ?_, hopen.listed, hopen.nodup, hopen.lt_nextUsecase,
        hopen.lt_nextPcm⟩
      have hpcms := hopen.pcms
      rw [emit_tfa98xxOut, hout] at hpcms
      exact hpcms
  | true =>
      have hfresh : ¬pcmLedger.Acquired a.log a.nextPcm := fun hacq =>
        Nat.lt_irrefl _ (h.lt_nextPcm _ hacq)
      have hS : {pcm | (a.pcmOpen pcmDevice true).tfa98xxOut = some pcm} =
          insert a.nextPcm {pcm | a.tfa98xxOut = some pcm} := by
        ext pcm
        simp [Amp.pcmOpen, hout, eq_comm]
      refine ⟨h.usecases.touch rfl rfl (by simp [usecaseLedger]), ?_, h.listed, h.nodup,
        Ledger.forall_acquired_append h.lt_nextUsecase (fun _ => id) nofun, ?_⟩
      · rw [hS]
        exact h.pcms.acquire rfl rfl (by simp [pcmLedger]) hfresh
      · refine Ledger.forall_acquired_append h.lt_nextPcm (fun _ => Nat.lt_succ_of_lt) ?_
        rintro _ ⟨⟩
        exact Nat.lt_succ_self _

theorem closeOut_tfa98xxOut : a.closeOut.tfa98xxOut = none := by
  unfold closeOut
  cases hout : a.tfa98xxOut with
  | none => exact hout
  | some pcm => rfl

@[simp] theorem closeOut_usecaseList : a.closeOut.usecaseList = a.usecaseList := by
  unfold closeOut
  cases a.tfa98xxOut <;> rfl

theorem Linked.closeOut (h : a.Linked S) : a.closeOut.Linked S := by
  have hpcms := h.pcms
  unfold Amp.closeOut
  cases hout : a.tfa98xxOut with
  | none => exact h
  | some pcm =>
      rw [hout] at hpcms
      have hS : {q | (none : Option ℕ) = some q} = {q | some pcm = some q} \ {pcm} := by
        ext q
        simp
      refine ⟨h.usecases.touch rfl rfl (by simp [usecaseLedger]), ?_, h.listed, h.nodup,
        Ledger.forall_acquired_append h.lt_nextUsecase (fun _ => id) nofun,
        Ledger.forall_acquired_append h.lt_nextPcm (fun _ => id) nofun⟩
      show pcmLedger.Balanced _ {q | (none : Option ℕ) = some q}
      rw [hS]
      exact hpcms.release rfl rfl (by simp [pcmLedger]) rfl

/-! ### The ledgers through a call -/

theorem Linked.route (h : a.Linked S) (hS : uc.ptr ∈ S) (hn : uc.ptr ∉ a.nodes) :
    (a.route uc).Linked S := by
  have hadded := (h.listAddTail hS hn).emit (quiet_usecase hS (.inl rfl))
  have henabled := hadded.emit (quiet_sndDevice (d := uc.inSndDevice) (.inl rfl))
  have hrouted := henabled.emit (quiet_usecase hS (.inr (.inr (.inl rfl))))
  exact hrouted.emit (quiet_usecase hS (.inl rfl))

theorem Linked.startError (h : a.Linked S) (hS : uc.ptr ∈ S) (rc : Int32) :
    (a.startError uc rc).2.Linked (S \ {uc.ptr}) := by
  have hremoved := (h.closeOut.listRemove uc hS).emit (quiet_usecase hS (.inl rfl))
  have hdisabled := hremoved.emit (quiet_sndDevice (d := uc.inSndDevice) (.inr rfl))
  have hunrouted := hdisabled.emit (quiet_usecase hS (.inr (.inr (.inr rfl))))
  exact hunrouted.free hS fun hp => (mem_nodes_listRemove.mp hp).2 rfl

theorem startError_usecaseList (rc : Int32) :
    (a.startError uc rc).2.usecaseList = a.usecaseList.filter fun u => u.ptr ≠ uc.ptr := by
  simp [startError, listRemove]

theorem startError_tfa98xxOut (rc : Int32) : (a.startError uc rc).2.tfa98xxOut = none :=
  closeOut_tfa98xxOut

/-- The state between two calls. -/
structure Sound (a : Amp) : Prop where
  linked : a.Linked {p | p ∈ a.nodes}
  calibration : (a.usecaseList.countP fun u => u.id = .spkrCalibTx) =
    if a.tfa98xxOut.isSome then 1 else 0

theorem nodes_eq {l : List Usecase} (hlist : a.usecaseList = l) : a.nodes = l.map Usecase.ptr := by
  rw [nodes, hlist]

/-- A start that fails after its usecase has been entered leaves the list as it was. -/
theorem Sound.startError {a₁ : Amp} (h : a.Sound) (hout : a.tfa98xxOut = none)
    (hl : a₁.Linked (insert uc.ptr {p | p ∈ a.nodes}))
    (hlist : a₁.usecaseList = a.usecaseList ++ [uc]) (hn : uc.ptr ∉ a.nodes) (rc : Int32) :
    (a₁.startError uc rc).2.Sound := by
  have hback : (a₁.startError uc rc).2.usecaseList = a.usecaseList := by
    rw [startError_usecaseList, hlist, List.filter_append]
    have hkeep : a.usecaseList.filter (fun u => u.ptr ≠ uc.ptr) = a.usecaseList := by
      refine List.filter_eq_self.mpr fun u hu => decide_eq_true fun heq => hn ?_
      exact heq ▸ List.mem_map_of_mem hu
    rw [hkeep]
    simp
  constructor
  · refine (hl.startError (Set.mem_insert _ _) rc).congr fun p => ?_
    rw [Set.mem_ofPred_eq, nodes_eq hback, Set.mem_sdiff, Set.mem_insert_iff,
      Set.mem_singleton_iff, Set.mem_ofPred_eq]
    constructor
    · rintro ⟨hp | hp, hne⟩
      · exact absurd hp hne
      · exact hp
    · exact fun hp => ⟨.inr hp, fun heq => hn (heq ▸ hp)⟩
  · rw [hback, h.calibration, hout, startError_tfa98xxOut]

/-- A start whose stream is open has entered its usecase. -/
theorem Sound.opened {a₁ : Amp} (h : a.Sound) (hout : a.tfa98xxOut = none)
    (hl : a₁.Linked (insert uc.ptr {p | p ∈ a.nodes}))
    (hlist : a₁.usecaseList = a.usecaseList ++ [uc]) (hid : uc.id = .spkrCalibTx)
    (hopen : a₁.tfa98xxOut.isSome) : a₁.Sound := by
  constructor
  · refine hl.congr fun p => ?_
    rw [Set.mem_ofPred_eq, nodes_eq hlist, Set.mem_insert_iff, Set.mem_ofPred_eq, nodes]
    simp [or_comm]
  · rw [hlist, List.countP_append, h.calibration, hout, if_pos hopen]
    simp [hid]

/-- A start that has something to do finds the stream closed. -/
theorem closed_of_starting {sndDevice : SndDevice}
    (h : ¬(a.tfa98xxOut.isSome || !isSpeaker sndDevice) = true) : a.tfa98xxOut = none := by
  rw [Bool.or_eq_true, not_or] at h
  exact Option.not_isSome_iff_eq_none.mp h.1

theorem Sound.startFeedback (h : a.Sound) (sndDevice : SndDevice) (io : StartIO) :
    (a.startFeedback sndDevice io).2.Sound := by
  unfold Amp.startFeedback
  split
  · exact h
  case isFalse hidle =>
    have hout := closed_of_starting hidle
    split
    · exact ⟨h.linked.withUsecaseTx none, h.calibration⟩
    have hn : a.feedbackUsecase.ptr ∉ a.nodes := h.linked.nextUsecase_notMem
    have hrouted := ((h.linked.alloc a.feedbackUsecase rfl).withUsecaseTx
      (some a.feedbackUsecase)).route (Set.mem_insert _ _) hn
    dsimp only
    generalize hlist : Amp.route a.feedbackUsecase { a.alloc a.feedbackUsecase with
      usecaseTx := some a.feedbackUsecase } = a₁ at hrouted ⊢
    have hout₁ : a₁.tfa98xxOut = none := by rw [← hlist]; exact hout
    replace hlist : a₁.usecaseList = a.usecaseList ++ [a.feedbackUsecase] := by
      rw [← hlist]
      rfl
    split
    · exact h.startError hout
        (hrouted.emit (quiet_usecase (Set.mem_insert _ _) (.inl rfl))) hlist hn _
    have hopened := hrouted.pcmOpen hout₁ io.pcmDeviceId io.pcmOpen
    have hready := hopened.emit (quiet_pcm (.inl rfl))
    split
    · exact h.startError hout (hready.emit (quiet_pcm (.inr (.inl rfl)))) hlist hn _
    case isFalse hisReady =>
      have hstart := hready.emit (quiet_pcm (.inr (.inr rfl)))
      split
      · exact h.startError hout hstart hlist hn _
      · refine h.opened hout hstart hlist rfl ?_
        -- Only a stream that is not null is ready.
        cases hpcm : io.pcmOpen with
        | false => simp [hpcm] at hisReady
        | true => simp [Amp.pcmOpen]

/-- Removing one usecase of a list by its pointer lowers a count by that usecase. -/
theorem countP_filter_ptr {l : List Usecase} (hl : (l.map Usecase.ptr).Nodup) (huc : uc ∈ l)
    (q : Usecase → Bool) :
    ((l.filter fun u => u.ptr ≠ uc.ptr).countP q) + (if q uc then 1 else 0) = l.countP q := by
  induction l with
  | nil => exact absurd huc List.not_mem_nil
  | cons u l ih =>
      rw [List.map_cons, List.nodup_cons] at hl
      obtain rfl | huc := List.mem_cons.mp huc
      · -- No other usecase of the list has the pointer.
        have hkeep : (l.filter fun v => v.ptr ≠ uc.ptr) = l := by
          refine List.filter_eq_self.mpr fun v hv => decide_eq_true fun heq => hl.1 ?_
          exact heq ▸ List.mem_map_of_mem hv
        rw [List.filter_cons_of_neg (by simp), hkeep, List.countP_cons]
      · have hne : u.ptr ≠ uc.ptr := fun heq => hl.1 (heq ▸ List.mem_map_of_mem huc)
        rw [List.filter_cons_of_pos (by simpa using hne), List.countP_cons, List.countP_cons,
          ← ih hl.2 huc]
        omega

/-- A usecase of the list is removed and freed, with its audio route disabled in between
or not. -/
theorem linked_remove (huc : uc ∈ a.usecaseList) {a₁ : Amp} (hl : a₁.Linked {p | p ∈ a.nodes})
    (hlist : a₁.usecaseList = a.usecaseList.filter fun u => u.ptr ≠ uc.ptr) :
    (a₁.emit (.free uc.ptr)).Linked {p | p ∈ (a₁.emit (.free uc.ptr)).nodes} := by
  have hnodes : ∀ p, p ∈ a₁.nodes ↔ p ∈ a.nodes ∧ p ≠ uc.ptr := fun p => by
    rw [nodes_eq hlist]
    exact mem_nodes_listRemove (a := a)
  have hmem : uc.ptr ∈ a.nodes := List.mem_map_of_mem huc
  refine (hl.free hmem fun hp => ((hnodes _).mp hp).2 rfl).congr fun p => ?_
  rw [Set.mem_sdiff, Set.mem_singleton_iff, Set.mem_ofPred_eq, Set.mem_ofPred_eq, emit_nodes,
    hnodes]

theorem Sound.stopFeedback (h : a.Sound) (sndDevice : SndDevice) :
    (a.stopFeedback sndDevice).Sound := by
  unfold Amp.stopFeedback
  split
  · exact h
  have hclosed := h.linked.closeOut.emit (e := .disableSndDevice .inCaptureViFeedback)
    (quiet_sndDevice (.inr rfl))
  have hnodes : a.closeOut.nodes = a.nodes := nodes_eq closeOut_usecaseList
  have hfound := hclosed.emit (e := .getUsecaseFromList a.closeOut.nodes)
    (quiet_list (fun p hp => by rwa [hnodes] at hp) (.inl rfl))
  dsimp only [getUsecaseFromList, emit_usecaseList, emit_nodes]
  cases hfind : a.closeOut.usecaseList.find? fun u => u.id = .spkrCalibTx with
  | none =>
      rw [closeOut_usecaseList] at hfind
      constructor
      · refine (hfound.withUsecaseTx none).congr fun p => ?_
        show p ∈ a.nodes ↔ p ∈ a.closeOut.nodes
        rw [hnodes]
      · show (a.closeOut.usecaseList.countP fun u => u.id = .spkrCalibTx) =
          if a.closeOut.tfa98xxOut.isSome then 1 else 0
        rw [closeOut_usecaseList, closeOut_tfa98xxOut, List.countP_eq_zero.mpr]
        · rfl
        · exact fun u hu => List.find?_eq_none.mp hfind u hu
  | some uc =>
      rw [closeOut_usecaseList] at hfind
      have huc : uc ∈ a.usecaseList := List.mem_of_find?_eq_some hfind
      have hid := List.find?_some hfind
      have hmem : uc.ptr ∈ a.nodes := List.mem_map_of_mem huc
      have hremoved := ((hfound.withUsecaseTx (some uc)).listRemove uc hmem).emit
        (quiet_usecase hmem (.inr (.inr (.inr rfl))))
      have hlist := congrArg (List.filter fun u : Usecase => u.ptr ≠ uc.ptr)
        (closeOut_usecaseList (a := a))
      refine ⟨linked_remove huc hremoved hlist, ?_⟩
      show ((a.closeOut.usecaseList.filter fun u => u.ptr ≠ uc.ptr).countP
        fun u => u.id = .spkrCalibTx) = if a.closeOut.tfa98xxOut.isSome then 1 else 0
      rw [hlist, closeOut_tfa98xxOut]
      -- There was one calibration usecase at most, and it is the one removed.
      have hcount := countP_filter_ptr h.linked.nodup huc fun u => u.id = .spkrCalibTx
      rw [if_pos hid, h.calibration] at hcount
      split at hcount
      · exact Nat.succ.inj hcount
      · omega

theorem Sound.halAdd (h : a.Sound) (id : ℕ) (type : UsecaseType) (inSndDevice : SndDevice) :
    (a.halAdd id type inSndDevice).Sound := by
  have hadded := (h.linked.alloc ⟨a.nextUsecase, .other id, type, inSndDevice⟩ rfl)
    |>.listAddTail (Set.mem_insert _ _) h.linked.nextUsecase_notMem
  constructor
  · refine hadded.congr fun p => ?_
    rw [Set.mem_insert_iff, Set.mem_ofPred_eq, Set.mem_ofPred_eq, Amp.halAdd, nodes_listAddTail,
      List.mem_append, List.mem_singleton, or_comm]
    rfl
  · show ((a.usecaseList ++ [_]).countP _) = if a.tfa98xxOut.isSome then 1 else 0
    rw [List.countP_append, h.calibration]
    rfl

theorem Sound.halRemove (h : a.Sound) (id : ℕ) : (a.halRemove id).Sound := by
  unfold Amp.halRemove
  cases hfind : a.usecaseList.find? fun u => u.id = .other id with
  | none => exact h
  | some uc =>
      have huc : uc ∈ a.usecaseList := List.mem_of_find?_eq_some hfind
      have hid : uc.id = .other id := by simpa using List.find?_some hfind
      have hmem : uc.ptr ∈ a.nodes := List.mem_map_of_mem huc
      refine ⟨linked_remove huc (h.linked.listRemove uc hmem) rfl, ?_⟩
      show ((a.usecaseList.filter fun u => u.ptr ≠ uc.ptr).countP
        fun u => u.id = .spkrCalibTx) = if a.tfa98xxOut.isSome then 1 else 0
      have hcount := countP_filter_ptr h.linked.nodup huc fun u => u.id = .spkrCalibTx
      rw [if_neg (by simp [hid]), h.calibration] at hcount
      exact hcount

theorem Sound.step (h : a.Sound) (i : Input) : (a.step i).Sound := by
  cases i with
  | setFeedback devices enable io =>
      cases enable with
      | true => exact h.startFeedback devices io
      | false => exact h.stopFeedback devices
  | halAdd id type inSndDevice => exact h.halAdd id type inSndDevice
  | halRemove id => exact h.halRemove id

theorem eq_of_ampModuleOpen {io : OpenIO} (h : ampModuleOpen io = .ok a) : a = {} := by
  unfold ampModuleOpen at h
  repeat' split at h
  all_goals cases h
  rfl

theorem sound_of_ampModuleOpen {io : OpenIO} (h : ampModuleOpen io = .ok a) : a.Sound := by
  rw [eq_of_ampModuleOpen h]
  refine ⟨⟨?_, ?_, by simp [nodes], List.nodup_nil, ?_, ?_⟩, rfl⟩
  · refine ⟨.nil, fun p => iff_of_false (fun h => Ledger.not_acquired_nil h.1) ?_⟩
    exact List.not_mem_nil
  · refine ⟨.nil, fun p => iff_of_false (fun h => Ledger.not_acquired_nil h.1) ?_⟩
    exact fun h => nomatch (show none = some p from h)
  · exact fun p hp => absurd hp Ledger.not_acquired_nil
  · exact fun p hp => absurd hp Ledger.not_acquired_nil

/-! ### Usecases and streams -/

/-- What the feedback path owes the audio HAL and the PCM library. -/
structure FeedbackOwned (a : Amp) : Prop where
  calibration : (a.usecaseList.countP fun u => u.id = .spkrCalibTx) =
    if a.tfa98xxOut.isSome then 1 else 0
  /-- An opened stream is the one of `tfa98xxOut` or has been closed once. -/
  closed : ∀ pcm, pcmLedger.Acquired a.log pcm →
    if a.tfa98xxOut = some pcm then a.log.count (.pcmClose pcm) = 0
    else a.log.count (.pcmClose pcm) = 1
  /-- An allocated usecase is in the list or has been freed once. -/
  freed : ∀ p, .calloc p ∈ a.log →
    if p ∈ a.nodes then a.log.count (.free p) = 0 else a.log.count (.free p) = 1
  unused : ∀ p xs ys, a.log = xs ++ .free p :: ys → ∀ e ∈ ys, p ∉ usecaseLedger.touches e

theorem releases_usecase_iff {e : Event} {p : ℕ} :
    usecaseLedger.releases e = some p ↔ e = .free p := by
  cases e <;> simp [usecaseLedger]

theorem releases_pcm_iff {e : Event} {pcm : ℕ} :
    pcmLedger.releases e = some pcm ↔ e = .pcmClose pcm := by
  cases e <;> simp [pcmLedger]

theorem count_free {t : List Event} {p : ℕ} :
    t.count (.free p) = t.countP (fun e => usecaseLedger.releases e = some p) := by
  refine List.countP_congr fun e _ => ?_
  rw [decide_eq_true_iff, releases_usecase_iff, beq_iff_eq]

theorem count_pcmClose {t : List Event} {pcm : ℕ} :
    t.count (.pcmClose pcm) = t.countP (fun e => pcmLedger.releases e = some pcm) := by
  refine List.countP_congr fun e _ => ?_
  rw [decide_eq_true_iff, releases_pcm_iff, beq_iff_eq]

theorem Sound.feedbackOwned (h : a.Sound) : a.FeedbackOwned where
  calibration := h.calibration
  closed := fun pcm hacq => by
    have howned := h.linked.pcms.owned pcm
    rw [count_pcmClose]
    split
    case isTrue hout => exact Ledger.countP_releases_of_owned (howned.mpr hout)
    case isFalse hout =>
      exact h.linked.pcms.disciplined.countP_releases_eq hacq fun ho => hout (howned.mp ho)
  freed := fun p hp => by
    have howned := h.linked.usecases.owned p
    rw [count_free]
    split
    case isTrue hmem => exact Ledger.countP_releases_of_owned (howned.mpr hmem)
    case isFalse hmem =>
      exact h.linked.usecases.disciplined.countP_releases_eq ⟨_, hp, rfl⟩
        fun ho => hmem (howned.mp ho)
  unused := fun p xs ys hlog e he =>
    h.linked.usecases.disciplined.not_touched_after hlog rfl e he

/-- In every state reached after the module was opened, the calibration usecase is listed
exactly while a stream is open, every stream opened before is closed once, and every
usecase that has left the list is freed once and not touched after that. -/
theorem feedback_owned (io : OpenIO) (h : ampModuleOpen io = .ok a) (is : List Input) :
    (Machine.run step a is).FeedbackOwned :=
  (Machine.run_invariant (fun _ i h => h.step i) (sound_of_ampModuleOpen h) is).feedbackOwned

/-- A start, a second start, and a stop, beside a usecase of the HAL. -/
theorem feedback_owned_restarted :
    (Machine.run step {} [.halAdd 3 .pcmPlayback .outSpeaker,
      .setFeedback .outSpeaker true ⟨true, 12, true, true, -1⟩,
      .setFeedback .outSpeaker true ⟨true, 12, true, true, 0⟩,
      .setFeedback .outSpeaker false ⟨true, 12, true, true, 0⟩]).FeedbackOwned :=
  feedback_owned ⟨true, true, true, [true, true, true, true, true, true]⟩ rfl _

end Amp

end OneplusHal.Amplifier
