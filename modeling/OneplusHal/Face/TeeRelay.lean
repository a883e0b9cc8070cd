import OneplusHal.Face.TeeLedger

/-!
A request of the SDK, byte by byte. The app finds it in the memory of the first buffer and is told
where the two buffers are and how long; what it answers in the second one is copied back.

Which buffer is which can be read off the log: a descriptor comes with the memory that it is mapped
at, and the bytes are copied to that memory and from it.
-/

namespace OneplusHal.Face.TrustedApp

open Raster Raster.Buffer

variable {S T : Set Resource} {s : Tee}

theorem toNat_pageAlign {len : UInt64} (h : len.toNat < 2 ^ 32) :
    (pageAlign len).toNat = (len.toNat + 4095) / 4096 * 4096 := by
  have hsum : (len + 0xfff).toNat = len.toNat + 4095 := by
    simp only [UInt64.toNat_add, UInt64.reduceToNat]
    omega
  rw [← hsum]
  exact Bytes.toNat_and_mask (k := 12) (len + 0xfff) (~~~0xfff) (by decide) (by decide)

theorem toNat_sizeOfInt {len : Int32} (h : 0 ≤ len.toInt) : (sizeOfInt len).toNat = len.toInt := by
  have hlt := len.toInt_lt
  rw [sizeOfInt, UInt64.toNat_ofNat']
  omega

/-- The pages of a buffer have room for what it was allocated for. -/
theorem le_pageAlign {len : Int32} (h : 0 ≤ len.toInt) :
    len.toInt.toNat ≤ (pageAlign (sizeOfInt len)).toNat := by
  have hsize := toNat_sizeOfInt h
  have hlt := len.toInt_lt
  rw [toNat_pageAlign (by omega)]
  omega

/-- What the app is asked, and by which session. -/
def TeeEvent.asked? : TeeEvent → Option (ℕ × Exchange)
  | .sendModifiedCmd handle _ _ x => some (handle, x)
  | _ => none

def asked (s : Tee) : List (ℕ × Exchange) := s.log.filterMap TeeEvent.asked?

@[simp] theorem asked_emit (e : TeeEvent) (s : Tee) :
    asked (s.emit e) = asked s ++ e.asked?.toList := by
  cases he : e.asked? <;> simp [asked, Tee.emit, he]

theorem asked_handOut {event : Option ℕ → TeeEvent} (h : ∀ n, (event n).asked? = none) (ok : Bool)
    (s : Tee) : asked (s.handOut event ok).2 = asked s := by
  cases ok with
  | false => exact (asked_emit _ s).trans (by rw [h]; exact List.append_nil _)
  | true => exact (asked_emit _ _).trans (by rw [h]; exact List.append_nil _)

theorem asked_qseecomHeapMask (io : HeapIO) (s : Tee) :
    asked (qseecomHeapMask io s).2 = asked s := by
  have hopen : asked (s.handOut .ionOpen io.ionOpen).2 = asked s :=
    asked_handOut (fun _ => rfl) io.ionOpen s
  simp only [qseecomHeapMask]
  split
  · rfl
  · split
    · exact hopen
    · exact (asked_emit _ _).trans ((List.append_nil _).trans hopen)

theorem asked_alloc (io : AllocIO) (len : UInt64) (s : Tee) :
    asked (IonBuffer.alloc io len s).2.2 = asked s := by
  simp only [IonBuffer.alloc]
  split
  · rw [asked_handOut fun _ => rfl]
  · split
    · rw [asked_handOut fun _ => rfl, asked_qseecomHeapMask, asked_handOut fun _ => rfl]
    · split
      · rw [asked_handOut fun _ => rfl, asked_handOut fun _ => rfl, asked_qseecomHeapMask,
          asked_handOut fun _ => rfl]
      · rw [asked_emit, asked_handOut fun _ => rfl, asked_handOut fun _ => rfl,
          asked_qseecomHeapMask, asked_handOut fun _ => rfl]
        exact List.append_nil _

theorem asked_destroy (b : IonBuffer) (s : Tee) : asked (b.destroy s) = asked s := by
  simp only [IonBuffer.destroy]
  split <;> split <;> split <;> simp [TeeEvent.asked?]

/-! ### The two buffers -/

theorem log_handOut (event : Option ℕ → TeeEvent) (ok : Bool) (s : Tee) :
    ∃ n, (s.handOut event ok).2.log = s.log ++ [event n] := by
  cases ok with
  | false => exact ⟨none, rfl⟩
  | true => exact ⟨some s.next, rfl⟩

theorem log_qseecomHeapMask (io : HeapIO) (s : Tee) : s.log <+: (qseecomHeapMask io s).2.log := by
  obtain ⟨n, hopen⟩ := log_handOut .ionOpen io.ionOpen s
  have hopen : s.log <+: (s.handOut .ionOpen io.ionOpen).2.log := ⟨_, hopen.symm⟩
  simp only [qseecomHeapMask]
  split
  · exact List.prefix_rfl
  · split
    · exact hopen
    · exact hopen.trans (List.prefix_append _ _)

theorem log_destroy (b : IonBuffer) (s : Tee) : s.log <+: (b.destroy s).log := by
  simp only [IonBuffer.destroy]
  split <;> split <;> split <;>
    simp only [Tee.emit, List.append_assoc, List.prefix_append, List.prefix_rfl]

/-- The descriptor is that of a buffer of this size, and mapped at `data`. -/
structure Backed (t : List TeeEvent) (size : UInt64) (fd data : ℕ) : Prop where
  allocated : ∃ ion mask, .ionAlloc ion size mask (some fd) ∈ t
  mapped : .mmap fd (some data) ∈ t

theorem Backed.append {t : List TeeEvent} {size : UInt64} {fd data : ℕ}
    (h : Backed t size fd data) (t' : List TeeEvent) : Backed (t ++ t') size fd data where
  allocated := by
    obtain ⟨ion, mask, hmem⟩ := h.allocated
    exact ⟨ion, mask, List.mem_append_left _ hmem⟩
  mapped := List.mem_append_left _ h.mapped

theorem Backed.append_left {t : List TeeEvent} {size : UInt64} {fd data : ℕ}
    (h : Backed t size fd data) (t' : List TeeEvent) : Backed (t' ++ t) size fd data where
  allocated := by
    obtain ⟨ion, mask, hmem⟩ := h.allocated
    exact ⟨ion, mask, List.mem_append_right _ hmem⟩
  mapped := List.mem_append_right _ h.mapped

theorem log_alloc {io : AllocIO} (h : io.succeeds = true) (len : UInt64) (s : Tee) :
    ∃ evs fd data, (IonBuffer.alloc io len s).2.2.log = s.log ++ evs ∧
      (IonBuffer.alloc io len s).2.1.mFd = some fd ∧
      (IonBuffer.alloc io len s).2.1.mData = some data ∧ Backed evs (pageAlign len) fd data := by
  simp only [Bool.and_eq_true, AllocIO.succeeds] at h
  obtain ⟨⟨⟨hopen, halloc⟩, hmap⟩, -⟩ := h
  simp only [IonBuffer.alloc, Tee.handOut, hopen, halloc, hmap, if_true]
  have hmask := log_qseecomHeapMask io.heap
    ({ s with next := s.next + 1 }.emit (.ionOpen (some s.next)))
  generalize qseecomHeapMask io.heap _ = mask at hmask ⊢
  obtain ⟨evs, hevs⟩ := hmask
  refine ⟨.ionOpen (some s.next) :: evs ++ [.ionAlloc s.next (pageAlign len) mask.1
    (some mask.2.next), .mmap mask.2.next (some (mask.2.next + 1)), .syncStart mask.2.next],
    mask.2.next, mask.2.next + 1, ?_, rfl, rfl, ⟨s.next, mask.1, by simp⟩, by simp⟩
  simp only [Tee.emit, ← hevs, List.append_assoc, List.cons_append, List.nil_append]

/-- The app finds the request in its memory, and in the buffer of the session a command with the
lengths of both buffers. In the place of their addresses the driver puts those of the descriptors:
at the front that of the request, and at 16 that of the response. -/
structure Exchange.Faithful (x : Exchange) (send : List UInt8) (sendLen rspLen : Int32)
    (requestFd responseFd : ℕ) : Prop where
  cmd : x.cmd = command (sizeOfInt sendLen).toUInt32
    (if rspLen ≠ 0 then sizeOfInt rspLen else 4).toUInt32
  addresses : x.ifd = [(requestFd, 0), (responseFd, 16)]
  request : x.request.Holds 0 (send.take sendLen.toInt.toNat)

/-- What the system sees of a request. Two buffers are there; the request is copied to the memory
of the one, the app is told of both, and what it answers is copied from the memory of the other. -/
inductive Steps (io : CommunicateIO) (sendLen rspLen : Int32) (handle requestFd responseFd : ℕ)
    (x : Exchange) : List TeeEvent → Prop
  | steps {before after : List TeeEvent} {requestData responseData : ℕ}
      (hrequest : Backed before (pageAlign (sizeOfInt sendLen)) requestFd requestData)
      (hresponse : Backed before (pageAlign (if rspLen ≠ 0 then sizeOfInt rspLen else 4))
        responseFd responseData)
      (hne : requestFd ≠ responseFd)
      (hcopied : io.ret = 0 → rspLen ≠ 0 → after.head? = some (.memcpy responseData)) :
      Steps io sendLen rspLen handle requestFd responseFd x
        (before ++ .memcpy requestData ::
          .sendModifiedCmd handle requestFd responseFd x :: after)

/-- The caller gets the status and the answer of the app, or else -1 and nothing. -/
def Answered (io : CommunicateIO) (rspLen : Int32) (rsp : Buffer UInt8) (reply : Reply) : Prop :=
  if io.ret ≠ 0 then reply = { result := -1, rsp := rsp }
  else
    reply.result = io.status.getD 0 ∧
      Copied 0 ((List.range rspLen.toInt.toNat).map io.answer) rsp reply.rsp

theorem pages_getElem? (memory : ℕ → UInt8) {size k : ℕ} (hk : k < size) :
    (pages memory size).cells[k]? = some (memory k) := by
  simp [pages, hk]

/-- The answer in the pages of the response is copied to the caller. -/
theorem memcpy_pages (memory : ℕ → UInt8) {size n : ℕ} {rsp : Buffer UInt8} (hsize : n ≤ size)
    (hrsp : n ≤ rsp.cells.length) :
    ∃ rsp', rsp.memcpy 0 (pages memory size).cells 0 n = some rsp' ∧
      Copied 0 ((List.range n).map memory) rsp rsp' := by
  have hlength : ((List.range n).map memory).length = n := by simp
  have hcopy : ∃ rsp', rsp.memcpy 0 (pages memory size).cells 0
      ((List.range n).map memory).length = some rsp' ∧
        Copied 0 ((List.range n).map memory) rsp rsp' := by
    refine memcpy_copied (by omega) fun k hk => ?_
    rw [hlength] at hk
    rw [Nat.zero_add, pages_getElem? memory (hk.trans_le hsize)]
    simp [hk]
  rwa [hlength] at hcopy

/-- The request in the pages of its buffer, from the caller's. -/
theorem memcpy_request (memory : ℕ → UInt8) {size n : ℕ} {send : List UInt8} (hsize : n ≤ size)
    (hsend : n ≤ send.length) :
    ∃ b, (pages memory size).memcpy 0 send 0 n = some b ∧ b.Holds 0 (send.take n) := by
  have hlength : (send.take n).length = n := List.length_take_of_le hsend
  have hcopy : ∃ b, (pages memory size).memcpy 0 send 0 (send.take n).length = some b ∧
      Copied 0 (send.take n) (pages memory size) b := by
    refine memcpy_copied ?_ fun k hk => ?_
    · simp only [pages, List.length_map, List.length_range]
      omega
    · rw [Nat.zero_add, List.getElem?_take_of_lt (hlength ▸ hk)]
  obtain ⟨b, hb, hcopied⟩ := hcopy
  rw [hlength] at hb
  exact ⟨b, hb, hcopied.holds⟩

/-- What the caller of `communicate` promises about its buffers. -/
structure Promised (send : List UInt8) (sendLen rspLen : Int32) (rsp : Buffer UInt8) : Prop where
  send : sendLen.toInt.toNat ≤ send.length
  rsp : rspLen.toInt.toNat ≤ rsp.cells.length

/-- The app is asked about two buffers that are there, by a session that is open. -/
theorem Keeps.send {handle requestFd requestData responseFd : ℕ} {request response : IonBuffer}
    {U : Set Resource} (h : Keeps U s) (hS : .app .sdk handle ∈ S) (hST : Holding request S T)
    (hTU : Holding response T U) (hrequestFd : request.mFd = some requestFd)
    (hrequestData : request.mData = some requestData) (hresponseFd : response.mFd = some responseFd)
    (x : Exchange) :
    Keeps U ((s.emit (.memcpy requestData)).emit
      (.sendModifiedCmd handle requestFd responseFd x)) := by
  refine (h.emit rfl rfl fun a ha => ?_).emit rfl rfl fun a ha => ?_
  · rw [List.mem_singleton.mp ha]
    exact hTU.mem (hST.mapping_mem hrequestData)
  · have ha : a = .app .sdk handle ∨ a = .fd requestFd ∨ a = .fd responseFd := by
      simpa [ledger] using ha
    obtain rfl | rfl | rfl := ha
    · exact hTU.mem (hST.mem hS)
    · exact hTU.mem (hST.fd_mem hrequestFd)
    · exact hTU.fd_mem hresponseFd

/-- With both buffers mapped, the app is asked once. -/
theorem relay_eq {io : CommunicateIO} {handle : ℕ} {send : List UInt8} {sendLen rspLen : Int32}
    {rsp : Buffer UInt8} {request response : IonBuffer} {U : Set Resource}
    (hpromise : Promised send sendLen rspLen rsp) (hsendLen : 0 ≤ sendLen.toInt)
    (hrspLen : 0 ≤ rspLen.toInt) (hrequest : Mapped io.request (sizeOfInt sendLen) request)
    (hresponse : Mapped io.response (if rspLen ≠ 0 then sizeOfInt rspLen else 4) response)
    {requestFd requestData responseFd responseData : ℕ}
    (hrequestFd : request.mFd = some requestFd) (hrequestData : request.mData = some requestData)
    (hresponseFd : response.mFd = some responseFd)
    (hresponseData : response.mData = some responseData)
    (hS : .app .sdk handle ∈ S) (hST : Holding request S T) (hTU : Holding response T U)
    (h : Keeps U s) :
    ∃ reply x after s₁,
      relay io handle send sendLen rspLen rsp request response s = some (reply, s₁) ∧
      Keeps U s₁ ∧ s₁.log = s.log ++ .memcpy requestData ::
        .sendModifiedCmd handle requestFd responseFd x :: after ∧
      asked s₁ = asked s ++ [(handle, x)] ∧
      (io.ret = 0 → rspLen ≠ 0 → after = [.memcpy responseData]) ∧
      x.Faithful send sendLen rspLen requestFd responseFd ∧ Answered io rspLen rsp reply := by
  obtain ⟨memory, hmemory, hholds⟩ := memcpy_request io.request.memory
    (le_pageAlign hsendLen) hpromise.send
  have hsize : rspLen.toInt.toNat ≤ response.mSize.toNat := by
    rw [hresponse.size]
    split
    · exact le_pageAlign hrspLen
    · rename_i hzero
      rw [Decidable.not_not.mp hzero]
      exact Nat.zero_le _
  obtain ⟨rsp', hrsp', hcopied⟩ := memcpy_pages io.answer hsize hpromise.rsp
  let x : Exchange :=
    { cmd := command request.mLen response.mLen
      ifd := [(requestFd, 0), (responseFd, 16)]
      request := memory }
  have hx : x.Faithful send sendLen rspLen requestFd responseFd :=
    ⟨by rw [← hrequest.length, ← hresponse.length], rfl, hholds⟩
  let s₁ := (s.emit (.memcpy requestData)).emit (.sendModifiedCmd handle requestFd responseFd x)
  have hlog : s₁.log = s.log ++ .memcpy requestData ::
      .sendModifiedCmd handle requestFd responseFd x :: [] := List.append_assoc ..
  have hx₁ : asked s₁ = asked s ++ [(handle, x)] := by simp [s₁, TeeEvent.asked?]
  have h₁ : Keeps U s₁ := h.send hS hST hTU hrequestFd hrequestData hresponseFd x
  simp only [relay, hrequestFd, hrequestData, hresponseFd, hresponseData, hrequest.memory,
    hmemory, Option.bind_eq_bind, Option.bind_some]
  by_cases hret : io.ret ≠ 0
  · rw [if_pos hret]
    exact ⟨_, x, [], s₁, rfl, h₁, hlog, hx₁, fun h => absurd h hret, hx,
      by rw [Answered, if_pos hret]⟩
  · rw [if_neg hret]
    by_cases hzero : rspLen ≠ 0
    · rw [if_pos hzero, hrsp', Option.bind_some]
      refine ⟨_, x, [.memcpy responseData], _, rfl, h₁.emit rfl rfl fun a ha => ?_, ?_, ?_,
        fun _ _ => rfl, hx, ?_⟩
      · rw [List.mem_singleton.mp ha]
        exact hTU.mapping_mem hresponseData
      · exact (congrArg (· ++ _) hlog).trans (List.append_assoc ..)
      · exact (asked_emit _ _).trans ((List.append_nil _).trans hx₁)
      · rw [Answered, if_neg hret]
        exact ⟨rfl, hcopied⟩
    · rw [if_neg hzero]
      refine ⟨_, x, [], s₁, rfl, h₁, hlog, hx₁, fun _ h => absurd h hzero, hx, ?_⟩
      rw [Answered, if_neg hret, Decidable.not_not.mp hzero]
      exact ⟨rfl, rfl, fun k hk => absurd hk (Nat.not_lt_zero k), fun _ _ => rfl⟩

/-- A request is made if there is a session, the lengths are those of a request, and the system has
two buffers for it. -/
structure Made (io : CommunicateIO) (sendLen rspLen : Int32) (a : AuthSession) (handle : ℕ) :
    Prop where
  session : a.sHandle = some handle
  lengths : 0 < sendLen ∧ 0 ≤ rspLen
  request : io.request.succeeds = true
  response : io.response.succeeds = true

/-- What a request comes to: it is not made at all, or the app is asked once, by the session of
the SDK, finds the request as it was sent, and its answer reaches the caller. -/
inductive Relayed (io : CommunicateIO) (send : List UInt8) (sendLen rspLen : Int32)
    (rsp : Buffer UInt8) (a : AuthSession) (s : Tee) (reply : Reply) (s₁ : Tee) : Prop
  | failed (hmade : ¬∃ handle, Made io sendLen rspLen a handle)
      (hreply : reply = { result := -1, rsp := rsp }) (hasked : asked s₁ = asked s)
  | asked {handle requestFd responseFd : ℕ} {x : Exchange} {evs : List TeeEvent}
      (hmade : Made io sendLen rspLen a handle)
      (hasked : asked s₁ = asked s ++ [(handle, x)])
      (hx : x.Faithful send sendLen rspLen requestFd responseFd) (hlog : s₁.log = s.log ++ evs)
      (hsteps : Steps io sendLen rspLen handle requestFd responseFd x evs)
      (hreply : Answered io rspLen rsp reply)

variable {io : CommunicateIO} {send : List UInt8} {sendLen rspLen : Int32} {rsp : Buffer UInt8}
  {a : AuthSession} {handle : ℕ}

/-- Where it is not made, what was allocated for it is given back. -/
theorem Keeps.unmade (h : Keeps S s) (hmade : ¬∃ handle, Made io sendLen rspLen a handle) :
    ∃ s₁, communicate io send sendLen rspLen rsp a s = some ({ result := -1, rsp := rsp }, s₁) ∧
      Keeps S s₁ ∧ asked s₁ = asked s := by
  rw [TrustedApp.communicate]
  cases hhandle : a.sHandle with
  | none => exact ⟨s, rfl, h, rfl⟩
  | some handle =>
      dsimp only
      by_cases hlen : sendLen ≤ 0 ∨ rspLen < 0
      · rw [if_pos hlen]
        exact ⟨s, rfl, h, rfl⟩
      rw [if_neg hlen]
      obtain ⟨hsendLen, hrspLen⟩ := not_or.mp hlen
      obtain ⟨T, hST, hT, -⟩ := h.alloc io.request (sizeOfInt sendLen)
      have hasked := asked_alloc io.request (sizeOfInt sendLen) s
      rw [alloc_fst]
      cases hrequested : io.request.succeeds with
      | false => exact ⟨_, rfl, hST.destroy hT, (asked_destroy _ _).trans hasked⟩
      | true =>
          obtain ⟨U, hTU, hU, -⟩ := hT.alloc io.response
            (if rspLen ≠ 0 then sizeOfInt rspLen else 4)
          have hasked' := (asked_alloc io.response (if rspLen ≠ 0 then sizeOfInt rspLen else 4)
            (IonBuffer.alloc io.request (sizeOfInt sendLen) s).2.2).trans hasked
          rw [alloc_fst]
          cases hresponded : io.response.succeeds with
          | false =>
              exact ⟨_, rfl, hST.destroy (hTU.destroy hU),
                (asked_destroy _ _).trans ((asked_destroy _ _).trans hasked')⟩
          | true =>
              exact absurd ⟨handle, hhandle, ⟨Int32.not_le.mp hsendLen, Int32.not_lt.mp hrspLen⟩,
                hrequested, hresponded⟩ hmade

theorem Keeps.made (h : Keeps S s) (hpromise : Promised send sendLen rspLen rsp)
    (hmade : Made io sendLen rspLen a handle) (hS : .app .sdk handle ∈ S) :
    ∃ reply s₁, communicate io send sendLen rspLen rsp a s = some (reply, s₁) ∧ Keeps S s₁ ∧
      Relayed io send sendLen rspLen rsp a s reply s₁ := by
  have hlen : ¬(sendLen ≤ 0 ∨ rspLen < 0) :=
    not_or.mpr ⟨Int32.not_le.mpr hmade.lengths.1, Int32.not_lt.mpr hmade.lengths.2⟩
  have hsendLen := Int32.lt_iff_toInt_lt.mp hmade.lengths.1
  have hrspLen := Int32.le_iff_toInt_le.mp hmade.lengths.2
  rw [Int32.toInt_zero] at hsendLen hrspLen
  obtain ⟨T, hST, hT, hrequest⟩ := h.alloc io.request (sizeOfInt sendLen)
  have hrequested := (alloc_fst io.request (sizeOfInt sendLen) s).trans hmade.request
  have hasked := asked_alloc io.request (sizeOfInt sendLen) s
  obtain ⟨evs, requestFd, requestData, hlog, hrequestFd, hrequestData, hbacked⟩ :=
    log_alloc hmade.request (sizeOfInt sendLen) s
  rw [TrustedApp.communicate, hmade.session]
  dsimp only
  rw [if_neg hlen]
  generalize IonBuffer.alloc io.request (sizeOfInt sendLen) s = requested at *
  obtain ⟨U, hTU, hU, hresponse⟩ := hT.alloc io.response
    (if rspLen ≠ 0 then sizeOfInt rspLen else 4)
  have hresponded := (alloc_fst io.response (if rspLen ≠ 0 then sizeOfInt rspLen else 4)
    requested.2.2).trans hmade.response
  have hasked' := asked_alloc io.response (if rspLen ≠ 0 then sizeOfInt rspLen else 4)
    requested.2.2
  obtain ⟨evs', responseFd, responseData, hlog', hresponseFd, hresponseData, hbacked'⟩ :=
    log_alloc hmade.response (if rspLen ≠ 0 then sizeOfInt rspLen else 4) requested.2.2
  generalize IonBuffer.alloc io.response (if rspLen ≠ 0 then sizeOfInt rspLen else 4)
    requested.2.2 = responded at *
  obtain ⟨reply, x, after, s₁, hrelay, h₁, hsent, hx, hafter, hfaithful, hanswered⟩ :=
    relay_eq hpromise hsendLen.le hrspLen (hrequest hrequested) (hresponse hresponded) hrequestFd
      hrequestData hresponseFd hresponseData hS hST hTU hU
  simp only [hrequested, hresponded, hrelay, Bool.not_true, Bool.false_eq_true, if_false]
  refine ⟨reply, _, rfl, hST.destroy (hTU.destroy h₁), ?_⟩
  obtain ⟨destroyed, hdestroyed⟩ := (log_destroy responded.2.1 s₁).trans
    (log_destroy requested.2.1 (responded.2.1.destroy s₁))
  have hne : requestFd ≠ responseFd := fun heq =>
    hTU.fd_notMem hresponseFd (heq ▸ hST.fd_mem hrequestFd)
  have hsteps : Steps io sendLen rspLen handle requestFd responseFd x ((evs ++ evs') ++
      .memcpy requestData :: .sendModifiedCmd handle requestFd responseFd x ::
        (after ++ destroyed)) := by
    refine .steps (hbacked.append evs') (hbacked'.append_left evs) hne fun hret hzero => ?_
    rw [hafter hret hzero]
    rfl
  refine .asked hmade ?_ hfaithful ?_ hsteps hanswered
  · rw [asked_destroy, asked_destroy, hx, hasked', hasked]
  · rw [← hdestroyed, hsent, hlog', hlog]
    simp only [List.append_assoc, List.cons_append]

variable (io) in
theorem Keeps.communicate (h : Keeps S s) (hpromise : Promised send sendLen rspLen rsp)
    (ha : ∀ handle, a.sHandle = some handle → .app .sdk handle ∈ S) :
    ∃ reply s₁, communicate io send sendLen rspLen rsp a s = some (reply, s₁) ∧ Keeps S s₁ ∧
      Relayed io send sendLen rspLen rsp a s reply s₁ := by
  by_cases hmade : ∃ handle, Made io sendLen rspLen a handle
  · obtain ⟨handle, hmade⟩ := hmade
    exact h.made hpromise hmade (ha handle hmade.session)
  · obtain ⟨s₁, heq, h₁, hasked⟩ := h.unmade hmade
    exact ⟨_, s₁, heq, h₁, .failed hmade rfl hasked⟩

end OneplusHal.Face.TrustedApp
