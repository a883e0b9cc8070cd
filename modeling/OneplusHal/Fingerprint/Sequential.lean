import OneplusHal.Fingerprint.BiometricsFingerprint

/-!
The fingerprint HAL, one call or message after the other.

A `Sensor` is what the HAL amounts to: the client that the framework has registered, what the
clients are to be told, and how a call leaves the panel. A call and a message are one step each,
without the threads. The HAL refines it: whatever the interleaving, the clients hear what the
sensor has told them, and once the binder thread is idle the panel is that of the sensor.
-/

namespace OneplusHal.Fingerprint

open Threads

variable {Client : Type*}

/-- What the calls leave in the nodes, with the vendor's service and with the HAL. -/
@[ext]
structure Panel where
  dim : Option ℕ := none
  auth : Option ℕ := none
  power : Option ℕ := none
  longPress : Option Bool := none
  enrolling : Option Bool := none
  cancelled : Bool := false

def Panel.call (p : Panel) : Call Client → Panel
  | .preEnroll => { p with power := some 1 }
  | .enroll _ _ _ => { p with dim := some 1, longPress := some false, enrolling := some true }
  | .postEnroll => { p with dim := some 0, longPress := some true, enrolling := some false }
  | .cancel =>
      { p with dim := some 0, auth := some 2, longPress := some true, enrolling := some false,
               cancelled := true }
  | .authenticate _ _ =>
      if p.cancelled then
        { p with dim := some 1, auth := some 0, power := some 1, longPress := some true }
      else { p with auth := some 1, power := some 1, longPress := some true }
  | .onFingerDown => { p with dim := some 1, cancelled := false }
  | _ => p

structure Sensor (Client : Type*) where
  client : Option Client := none
  /-- the messages that came while a client was registered, with that client -/
  heard : List (Client × FingerprintMsg) := []
  panel : Panel := {}

def Sensor.step (s : Sensor Client) : Input Client → Sensor Client
  | .call c _ => { s with client := c.clientCallback s.client, panel := s.panel.call c }
  | .notify msg => { s with heard := s.heard ++ s.client.toList.map (·, msg) }
  | .advance _ => s

/-- What the clients are to be told. -/
def Sensor.told (devId : ℕ) (s : Sensor Client) : List (Client × ClientCallback) :=
  s.heard.filterMap fun e => (e.2.told devId).map (e.1, ·)

/-! ### The panel by the calls before -/

namespace Input

@[simp] def enrolls : Input Client → Bool
  | .call (.enroll _ _ _) _ => true
  | _ => false

/-- `postEnroll` and `cancel`. -/
@[simp] def endsEnrollment : Input Client → Bool
  | .call .postEnroll _ => true
  | .call .cancel _ => true
  | _ => false

@[simp] def authenticates : Input Client → Bool
  | .call (.authenticate _ _) _ => true
  | _ => false

@[simp] def cancels : Input Client → Bool
  | .call .cancel _ => true
  | _ => false

@[simp] def fingerDown : Input Client → Bool
  | .call .onFingerDown _ => true
  | _ => false

end Input

namespace Sensor

/-- The screen is dimmed for the finger. -/
def Dims (s : Sensor Client) (i : Input Client) : Prop :=
  i.fingerDown ∨ i.enrolls ∨ i.authenticates ∧ s.panel.cancelled = true

theorem longPress_step (s : Sensor Client) (i : Input Client) :
    (s.step i).panel.longPress = some false ↔
      i.enrolls ∨ s.panel.longPress = some false ∧ ¬(i.endsEnrollment ∨ i.authenticates) := by
  cases i with
  | call c answer =>
      cases c with
      | authenticate operationId gid =>
          simp only [step, Panel.call]
          split <;> simp
      | _ => simp [step, Panel.call]
  | notify msg => simp [step]
  | advance t => simp [step]

theorem enrolling_step (s : Sensor Client) (i : Input Client) :
    (s.step i).panel.enrolling = some true ↔
      i.enrolls ∨ s.panel.enrolling = some true ∧ ¬i.endsEnrollment := by
  cases i with
  | call c answer =>
      cases c with
      | authenticate operationId gid =>
          simp only [step, Panel.call]
          split <;> simp
      | _ => simp [step, Panel.call]
  | notify msg => simp [step]
  | advance t => simp [step]

theorem cancelled_step (s : Sensor Client) (i : Input Client) :
    (s.step i).panel.cancelled = true ↔
      i.cancels ∨ s.panel.cancelled = true ∧ ¬i.fingerDown := by
  cases i with
  | call c answer =>
      cases c with
      | authenticate operationId gid =>
          simp only [step, Panel.call]
          split <;> simp_all
      | _ => simp [step, Panel.call]
  | notify msg => simp [step]
  | advance t => simp [step]

theorem dim_step (s : Sensor Client) (i : Input Client) :
    (s.step i).panel.dim = some 1 ↔
      s.Dims i ∨ s.panel.dim = some 1 ∧ ¬i.endsEnrollment := by
  cases i with
  | call c answer =>
      cases c with
      | authenticate operationId gid =>
          simp only [step, Panel.call]
          split <;> simp_all [Dims]
      | _ => simp [step, Panel.call, Dims]
  | notify msg => simp [step, Dims]
  | advance t => simp [step, Dims]

/-- A long press is off only during an enrollment. -/
theorem enrolling_of_longPress (is : List (Input Client)) :
    (Machine.run step {} is).panel.longPress = some false →
      (Machine.run step {} is).panel.enrolling = some true := by
  refine Machine.run_invariant (I := fun s : Sensor Client =>
    s.panel.longPress = some false → s.panel.enrolling = some true) ?_ (by simp) is
  intro s i ih hoff
  rw [enrolling_step]
  obtain henrolls | ⟨hoff, hends⟩ := (longPress_step s i).mp hoff
  · exact .inl henrolls
  · exact .inr ⟨ih hoff, fun h => hends (.inl h)⟩

theorem wellFormed_of_mem_heard {is : List (Input Client)}
    (h : ∀ msg, Input.notify msg ∈ is → msg.WellFormed) :
    ∀ e ∈ (Machine.run step {} is).heard, e.2.WellFormed := by
  induction is using List.reverseRecOn with
  | nil => simp
  | append_singleton is i ih =>
      have ih := ih fun msg hmsg => h msg (List.mem_append_left _ hmsg)
      rw [Machine.run_append, Machine.run_cons, Machine.run_nil]
      cases i with
      | call c answer => exact ih
      | advance t => exact ih
      | notify msg =>
          intro e he
          obtain he | he := List.mem_append.mp he
          · exact ih e he
          · obtain ⟨client, -, rfl⟩ := List.mem_map.mp he
            exact h msg (List.mem_append_right _ List.mem_cons_self)

/-- What is told of well-formed messages gives them back. -/
theorem map_message_told (devId : ℕ) {s : Sensor Client} (h : ∀ e ∈ s.heard, e.2.WellFormed) :
    (s.told devId).map (fun e => (e.1, e.2.message)) =
      s.heard.filter fun e => (e.2.told devId).isSome := by
  rw [told, List.map_filterMap, ← List.filterMap_eq_filter]
  refine List.filterMap_congr fun e he => ?_
  cases htold : e.2.told devId with
  | none => simp [Option.guard, htold]
  | some callback => simp [Option.guard, htold, FingerprintMsg.message_of_told (h e he) htold]

end Sensor

/-! ### What a call leaves behind -/

def panelOf (as : List (Action Client)) : Panel where
  dim := lastWrite (Action.node .notifyDim) as
  auth := lastWrite (Action.node .authStatus) as
  power := lastWrite (Action.node .powerStatus) as
  longPress := lastWrite Action.longPress? as
  enrolling := lastWrite Action.enrolling? as
  cancelled := (lastWrite Action.cancelled? as).getD false

theorem panelOf_append_actions (as : List (Action Client)) (c : Call Client) (mDevice : ℕ)
    (answer : ℤ) :
    panelOf (as ++ c.actions mDevice (panelOf as).cancelled answer) = (panelOf as).call c := by
  cases c with
  | authenticate operationId gid =>
      cases hcancelled : (panelOf as).cancelled <;>
        ext1 <;> simp_all [panelOf, lastWrite_append, Call.actions, Panel.call]
  | setActiveGroup gid storePath writable =>
      simp only [Call.actions, Panel.call]
      split_ifs <;> ext1 <;> simp [panelOf, lastWrite_append]
  | _ => ext1 <;> simp [panelOf, lastWrite_append, Call.actions, Panel.call]

theorem callback?_actions (c : Call Client) (mDevice : ℕ) (isCancelled : Bool) (answer : ℤ) :
    ∀ a ∈ c.actions mDevice isCancelled answer, a.callback? = none := by
  cases c with
  | authenticate operationId gid => cases isCancelled <;> simp [Call.actions]
  | setActiveGroup gid storePath writable =>
      simp only [Call.actions]
      split_ifs <;> simp
  | _ => simp [Call.actions]

/-- The vendor's thread calls the client and takes the finger off the panel, and nothing else. -/
inductive OfVendor : Action Client → Prop
  | callback (client : Client) (message : ClientCallback) : OfVendor (.callback client message)
  | release : OfVendor (.set .notifyPress 0)

theorem ofVendor_notifyActions (mDevice : ℕ) (client : Client) (msg : FingerprintMsg) :
    ∀ a ∈ notifyActions mDevice client msg, OfVendor a := by
  cases msg with
  | acquired info =>
      simp only [notifyActions]
      split_ifs <;> simp [OfVendor.callback]
  | authenticated fid gid hat =>
      simp only [notifyActions]
      split_ifs <;> simp [OfVendor.callback, OfVendor.release]
  | _ => simp [notifyActions, OfVendor.callback, OfVendor.release]

/-- The two acquired images that `notify` keeps to itself, by their codes. -/
theorem vendorAcquiredFilter_eq_vendor_iff {info code : ℤ} (hcode : 0 ≤ code) :
    (vendorAcquiredFilter info).1 = .vendor ∧ (vendorAcquiredFilter info).2 = code ↔
      info = VENDOR_BASE + code := by
  rw [vendorAcquiredFilter, vendorFilter]
  cases hstandard : standardAcquired info with
  | some r =>
      obtain ⟨rfl, hne⟩ := standardAcquired_eq_some hstandard
      constructor
      · rintro ⟨rfl, -⟩
        exact absurd rfl hne
      · intro hinfo
        have hlt : r.value ≤ 6 := by cases r <;> decide
        simp only [VENDOR_BASE] at hinfo
        omega
  | none =>
      by_cases hbase : VENDOR_BASE ≤ info
      · simp only [if_pos hbase, true_and]
        omega
      · simp only [if_neg hbase]
        constructor
        · rintro ⟨hfallback, -⟩
          cases hfallback
        · omega

theorem filterMap_callback?_notifyActions (mDevice : ℕ) (client : Client) (msg : FingerprintMsg) :
    (notifyActions mDevice client msg).filterMap Action.callback? =
      ((msg.told mDevice).map (client, ·)).toList := by
  cases msg with
  | acquired info =>
      simp only [notifyActions, FingerprintMsg.told,
        vendorAcquiredFilter_eq_vendor_iff (Int.le_refl 0),
        vendorAcquiredFilter_eq_vendor_iff Int.one_nonneg, Int.add_zero]
      by_cases hdown : info = VENDOR_BASE
      · rw [if_pos hdown, if_pos (.inl hdown)]
        rfl
      · by_cases hup : info = VENDOR_BASE + 1
        · rw [if_neg hdown, if_pos hup, if_pos (.inr hup)]
          rfl
        · rw [if_neg hdown, if_neg hup, if_neg (not_or.mpr ⟨hdown, hup⟩)]
          rfl
  | authenticated fid gid hat =>
      by_cases hfid : fid = 0 <;> simp [notifyActions, FingerprintMsg.told, hfid]
  | _ => simp [notifyActions, FingerprintMsg.told]

/-! ### The refinement -/

namespace BiometricsFingerprint

theorem pending_of_idle {t : Thread} {b : BiometricsFingerprint Client} (h : b.idle t = true) :
    b.threads.pending t = [] := List.isEmpty_iff.mp h

/-- What the calls have left behind. -/
def panel (b : BiometricsFingerprint Client) : Panel where
  dim := b.threads.written (Action.node .notifyDim)
  auth := b.threads.written (Action.node .authStatus)
  power := b.threads.written (Action.node .powerStatus)
  longPress := b.threads.written Action.longPress?
  enrolling := b.threads.written Action.enrolling?
  cancelled := b.isCancelled

/-- The threads are on the course that the sensor has laid out. -/
structure Agrees (mDevice : ℕ) (b : BiometricsFingerprint Client) (s : Sensor Client) : Prop where
  device : b.mDevice = mDevice
  client : b.mClientCallback = s.client
  binder : ∀ a ∈ b.threads.course .binder, a.callback? = none
  vendor : ∀ a ∈ b.threads.course .vendor, OfVendor a
  told : (b.threads.course .vendor).filterMap Action.callback? = s.told mDevice
  panel : panelOf (b.threads.course .binder) = s.panel

variable {mDevice : ℕ} {b : BiometricsFingerprint Client} {s : Sensor Client}

theorem Agrees.init (mDevice : ℕ) :
    Agrees mDevice ({ mDevice := mDevice } : BiometricsFingerprint Client) {} where
  device := rfl
  client := rfl
  binder := by simp [course, performed]
  vendor := by simp [course, performed]
  told := rfl
  panel := rfl

theorem Agrees.written {f : Action Client → Option β} (h : Agrees mDevice b s)
    (hidle : b.idle .binder = true) (hf : ∀ a, OfVendor a → f a = none) :
    b.threads.written f = lastWrite f (b.threads.course .binder) := by
  apply written_of_idle (pending_of_idle hidle)
  intro u hu a ha
  cases u with
  | binder => exact absurd rfl hu
  | vendor => exact hf a (h.vendor a ha)

/-- While the binder thread is idle, the panel is as the sensor says. -/
theorem Agrees.panel_eq (h : Agrees mDevice b s) (hidle : b.idle .binder = true) :
    b.panel = s.panel := by
  rw [← h.panel]
  ext1
  · exact h.written hidle (by rintro _ ⟨⟩ <;> rfl)
  · exact h.written hidle (by rintro _ ⟨⟩ <;> rfl)
  · exact h.written hidle (by rintro _ ⟨⟩ <;> rfl)
  · exact h.written hidle (by rintro _ ⟨⟩ <;> rfl)
  · exact h.written hidle (by rintro _ ⟨⟩ <;> rfl)
  · have hcancelled := h.written (f := Action.cancelled?) hidle (by rintro _ ⟨⟩ <;> rfl)
    exact congrArg (·.getD false) hcancelled

theorem idle_of_accepts_call {c : Call Client} {answer : ℤ}
    (h : b.accepts (.call c answer) = true) : b.idle .binder = true := by
  cases c with
  | setNotify clientCallback => exact (Bool.and_eq_true_iff.mp h).1
  | _ => exact h

theorem Agrees.call (h : Agrees mDevice b s) {c : Call Client} {answer : ℤ}
    (haccepts : b.accepts (.call c answer) = true) :
    Agrees mDevice (b.take (.call c answer)) (s.step (.call c answer)) := by
  have hidle := idle_of_accepts_call haccepts
  have hbinder := course_start (pending_of_idle hidle)
    (c.actions b.mDevice b.isCancelled answer)
  have hvendor : (b.take (.call c answer)).threads.course .vendor = b.threads.course .vendor :=
    course_start_of_ne (by decide) _
  refine ⟨h.device, ?_, ?_, ?_, ?_, ?_⟩
  · exact congrArg c.clientCallback h.client
  · intro a ha
    obtain ha | ha := List.mem_append.mp (hbinder ▸ ha)
    · exact h.binder a ha
    · exact callback?_actions c _ _ _ a ha
  · rw [hvendor]
    exact h.vendor
  · rw [hvendor]
    exact h.told
  · show panelOf (Threads.course _ (b.threads.start _ _)) = s.panel.call c
    have hcancelled : b.isCancelled = (panelOf (b.threads.course .binder)).cancelled := by
      rw [h.panel]
      exact congrArg Panel.cancelled (h.panel_eq hidle)
    rw [hbinder, hcancelled, panelOf_append_actions, h.panel]

theorem Agrees.notify (h : Agrees mDevice b s) {msg : FingerprintMsg}
    (haccepts : b.accepts (.notify msg) = true) :
    Agrees mDevice (b.take (.notify msg)) (s.step (.notify msg)) := by
  have hvendor := course_start (pending_of_idle haccepts) (b.notify msg)
  have hbinder : (b.take (.notify msg)).threads.course .binder = b.threads.course .binder :=
    course_start_of_ne (by decide) _
  refine ⟨h.device, h.client, ?_, ?_, ?_, ?_⟩
  · rw [hbinder]
    exact h.binder
  · intro a ha
    obtain ha | ha := List.mem_append.mp (hvendor ▸ ha)
    · exact h.vendor a ha
    · rw [BiometricsFingerprint.notify] at ha
      split at ha
      · exact absurd ha List.not_mem_nil
      · exact ofVendor_notifyActions _ _ msg a ha
  · refine (congrArg (List.filterMap Action.callback?) hvendor).trans ?_
    rw [List.filterMap_append, h.told, Sensor.told, Sensor.told, Sensor.step,
      List.filterMap_append, BiometricsFingerprint.notify, h.client, h.device]
    cases s.client with
    | none => rfl
    | some client =>
        rw [filterMap_callback?_notifyActions]
        cases hmsg : msg.told mDevice <;> simp [hmsg]
  · rw [hbinder]
    exact h.panel

theorem Agrees.advance (h : Agrees mDevice b s) (t : Thread) :
    Agrees mDevice (b.take (.advance t)) (s.step (.advance t)) := by
  have hcourse (u : Thread) : (b.take (.advance t)).threads.course u = b.threads.course u :=
    course_advance u t b.threads
  refine ⟨h.device, h.client, ?_, ?_, ?_, ?_⟩
  · rw [hcourse]
    exact h.binder
  · rw [hcourse]
    exact h.vendor
  · rw [hcourse]
    exact h.told
  · rw [hcourse]
    exact h.panel

theorem Agrees.step (h : Agrees mDevice b s) {i : Input Client} (haccepts : b.accepts i = true) :
    Agrees mDevice (b.step i) (s.step i) := by
  rw [BiometricsFingerprint.step, if_pos haccepts]
  cases i with
  | call c answer => exact h.call haccepts
  | notify msg => exact h.notify haccepts
  | advance t => exact h.advance t

theorem agrees_run (mDevice : ℕ) (is : List (Input Client)) :
    Agrees mDevice (Machine.run BiometricsFingerprint.step { mDevice := mDevice } is)
      (Machine.run Sensor.step {}
        (Machine.taken BiometricsFingerprint.step accepts { mDevice := mDevice } is)) := by
  refine Machine.run_simulates (fun b s i h haccepts => h.step haccepts) ?_ (.init mDevice) is
  intro b s i h haccepts
  rw [BiometricsFingerprint.step, if_neg (by simp [haccepts])]
  exact h

theorem Agrees.delivered (h : Agrees mDevice b s) : b.delivered ++ b.inFlight = s.told mDevice := by
  rw [← h.told, course, List.filterMap_append]
  refine congrArg (· ++ _) (filterMap_log fun u hu a ha => ?_)
  cases u with
  | binder => exact h.binder a (List.mem_append_left _ ha)
  | vendor => exact absurd rfl hu

/-! ### The client that is called -/

/-- What is on its way is for the client that is registered. -/
def Current (b : BiometricsFingerprint Client) : Prop :=
  ∀ e ∈ b.inFlight, b.mClientCallback = some e.1

theorem inFlight_take_call (b : BiometricsFingerprint Client) (c : Call Client) (answer : ℤ) :
    (b.take (.call c answer)).inFlight = b.inFlight := by
  have hpending : (b.take (.call c answer)).threads.pending .vendor = b.threads.pending .vendor :=
    pending_start_of_ne (by decide) _ _
  rw [inFlight, inFlight, hpending]

theorem Current.call (h : b.Current) {c : Call Client} {answer : ℤ}
    (haccepts : b.accepts (.call c answer) = true) : (b.take (.call c answer)).Current := by
  intro e he
  rw [inFlight_take_call] at he
  cases c with
  | setNotify clientCallback =>
      -- The mutex: nothing is on its way when the client changes.
      have hidle := (Bool.and_eq_true_iff.mp haccepts).2
      rw [inFlight, pending_of_idle hidle] at he
      exact absurd he List.not_mem_nil
  | _ => exact h e he

theorem Current.notify (b : BiometricsFingerprint Client) (msg : FingerprintMsg) :
    (b.take (.notify msg)).Current := by
  intro e he
  have hpending : (b.take (.notify msg)).threads.pending .vendor = b.notify msg :=
    pending_start _ _ _
  rw [inFlight, hpending, BiometricsFingerprint.notify] at he
  show b.mClientCallback = some e.1
  cases hclient : b.mClientCallback with
  | none =>
      rw [hclient] at he
      exact absurd he List.not_mem_nil
  | some client =>
      simp only [hclient, filterMap_callback?_notifyActions, Option.mem_toList] at he
      obtain ⟨_, -, rfl⟩ := Option.map_eq_some_iff.mp he
      rfl

theorem Current.advance (h : b.Current) (t : Thread) : (b.take (.advance t)).Current := by
  intro e he
  obtain ⟨a, ha, hcallback⟩ := List.mem_filterMap.mp he
  exact h e (List.mem_filterMap.mpr ⟨a, pending_advance_subset _ _ _ ha, hcallback⟩)

theorem Current.step (h : b.Current) (i : Input Client) : (b.step i).Current := by
  rw [BiometricsFingerprint.step]
  split
  · rename_i haccepts
    cases i with
    | call c answer => exact h.call haccepts
    | notify msg => exact .notify b msg
    | advance t => exact h.advance t
  · exact h

/-- Whatever the interleaving, the clients hear what the sensor tells them: each message once, in
the order in which the messages came, and at the client that was registered then. What they have
not heard yet is on its way, and its client is not replaced before it has come. -/
theorem delivered_append_inFlight (mDevice : ℕ) (is : List (Input Client)) :
    (Machine.run step { mDevice := mDevice } is).delivered ++
        (Machine.run step { mDevice := mDevice } is).inFlight =
      (Machine.run Sensor.step {}
        (Machine.taken step accepts { mDevice := mDevice } is)).told mDevice ∧
      (Machine.run step { mDevice := mDevice } is).Current := by
  refine ⟨(agrees_run mDevice is).delivered, ?_⟩
  refine Machine.run_invariant (I := Current) (fun _ i h => h.step i) ?_ is
  exact fun e he => absurd he List.not_mem_nil

/-- However the vendor's messages interleave with the calls, the panel is that of the calls alone
as soon as the last of them has returned. -/
theorem panel_of_idle (mDevice : ℕ) (is : List (Input Client))
    (hidle : (Machine.run step { mDevice := mDevice } is).idle .binder = true) :
    (Machine.run step { mDevice := mDevice } is).panel =
      (Machine.run Sensor.step {}
        (Machine.taken step accepts { mDevice := mDevice } is)).panel :=
  (agrees_run mDevice is).panel_eq hidle

theorem panel_of_idle_postEnroll :
    let is : List (Input ℕ) :=
      [.call (.setNotify (some 7)) 0, .advance .binder, .notify (.error 5), .call .postEnroll 0,
        .advance .binder, .advance .vendor, .advance .binder, .advance .vendor, .advance .binder,
        .advance .binder, .advance .binder]
    (Machine.run step { mDevice := 1 } is).panel =
      (Machine.run Sensor.step {} (Machine.taken step accepts { mDevice := 1 } is)).panel :=
  panel_of_idle 1 _ rfl

/-- Nothing of a message is lost on its way: what the clients are told gives back the messages,
up to those that the framework is not to be told of. -/
theorem message_delivered (mDevice : ℕ) (is : List (Input Client))
    (h : ∀ msg, Input.notify msg ∈ is → msg.WellFormed) :
    ((Machine.run step { mDevice := mDevice } is).delivered ++
        (Machine.run step { mDevice := mDevice } is).inFlight).map
          (fun e => (e.1, e.2.message)) =
      (Machine.run Sensor.step {}
        (Machine.taken step accepts { mDevice := mDevice } is)).heard.filter
          fun e => (e.2.told mDevice).isSome := by
  rw [(agrees_run mDevice is).delivered]
  apply Sensor.map_message_told
  apply Sensor.wellFormed_of_mem_heard
  exact fun msg hmsg => h msg (Machine.mem_of_mem_taken hmsg)

theorem message_delivered_acquired :
    let is : List (Input ℕ) :=
      [.call (.setNotify (some 7)) 0, .notify (.acquired 1003), .advance .vendor]
    ((Machine.run step { mDevice := 1 } is).delivered ++
        (Machine.run step { mDevice := 1 } is).inFlight).map (fun e => (e.1, e.2.message)) =
      (Machine.run Sensor.step {} (Machine.taken step accepts { mDevice := 1 } is)).heard.filter
        fun e => (e.2.told 1).isSome := by
  refine message_delivered 1 _ fun msg hmsg => ?_
  obtain rfl : msg = .acquired 1003 := by simpa using hmsg
  exact .inr (by decide)

/-- The state in which the calls have left the panel, by the last ones of them. A long press is
off only during an enrollment. -/
theorem panel_iff_of_idle (mDevice : ℕ) (is : List (Input Client))
    (hidle : (Machine.run step { mDevice := mDevice } is).idle .binder = true) :
    let panel := (Machine.run step { mDevice := mDevice } is).panel
    let calls := Machine.taken step accepts { mDevice := mDevice } is
    (panel.longPress = some false ↔
        Machine.SetSince Sensor.step (fun _ i => i.enrolls)
          (fun _ i => i.endsEnrollment ∨ i.authenticates) {} calls) ∧
      (panel.enrolling = some true ↔
        Machine.SetSince Sensor.step (fun _ i => i.enrolls) (fun _ i => i.endsEnrollment)
          {} calls) ∧
      (panel.longPress = some false → panel.enrolling = some true) ∧
      (panel.cancelled = true ↔
        Machine.SetSince Sensor.step (fun _ i => i.cancels) (fun _ i => i.fingerDown) {} calls) ∧
      (panel.dim = some 1 ↔
        Machine.SetSince Sensor.step Sensor.Dims (fun _ i => i.endsEnrollment) {} calls) := by
  intro panel calls
  have hpanel : panel = (Machine.run Sensor.step {} calls).panel :=
    (agrees_run mDevice is).panel_eq hidle
  rw [hpanel]
  refine ⟨?_, ?_, Sensor.enrolling_of_longPress calls, ?_, ?_⟩
  · exact Machine.holds_run_iff (P := fun s : Sensor Client => s.panel.longPress = some false)
      Sensor.longPress_step (by simp) calls
  · exact Machine.holds_run_iff (P := fun s : Sensor Client => s.panel.enrolling = some true)
      Sensor.enrolling_step (by simp) calls
  · exact Machine.holds_run_iff (P := fun s : Sensor Client => s.panel.cancelled = true)
      Sensor.cancelled_step (by simp) calls
  · exact Machine.holds_run_iff (P := fun s : Sensor Client => s.panel.dim = some 1)
      Sensor.dim_step (by simp) calls

theorem panel_iff_of_idle_enroll :
    let is : List (Input ℕ) :=
      [.call (.enroll [] 0 60) 0, .advance .binder, .advance .binder, .advance .binder,
        .advance .binder, .advance .binder]
    (Machine.run step { mDevice := 1 } is).panel.longPress = some false ∧
      (Machine.run step { mDevice := 1 } is).panel.enrolling = some true :=
  ⟨rfl, (panel_iff_of_idle 1 _ rfl).2.2.1 rfl⟩

end BiometricsFingerprint

end OneplusHal.Fingerprint
