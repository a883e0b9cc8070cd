import OneplusHal.Vibrator.InputFFDevice

/-!
How the force-feedback device is found, with the files that are opened and closed on the way.

The constructor goes through the nodes of the input directory and keeps the first one that plays.
-/

namespace OneplusHal.Vibrator.InputFFDevice

inductive FdEvent
  | opened (fd : Int32)
  | closed (fd : Int32)

/-- The constructor's loop, with what it opens and closes. -/
def probe (p : Probe) (d : InputFFDevice) : List InputNode → List FdEvent × InputFFDevice
  | [] => ([], d)
  | node :: rest =>
      let next (events : List FdEvent) : List FdEvent × InputFFDevice :=
        (events ++ (probe p d rest).1, (probe p d rest).2)
      if node.fd < 0 then next []
      else if node.name ≠ some "qcom-hv-haptics" ∧ node.name ≠ some "qti-haptics" then
        next [.opened node.fd, .closed node.fd]
      else
        match node.ffBits with
        | none => next [.opened node.fd, .closed node.fd]
        | some bits =>
            if bits.constant || bits.periodic then
              let soc := if p.soc ≤ 0 then p.socFile.getD p.soc else p.soc
              ([.opened node.fd],
                { d with
                  mVibraFd := node.fd
                  mSupportEffects := d.mSupportEffects || bits.custom
                  mSupportGain := d.mSupportGain || bits.gain
                  mSupportExternalControl := externalControlSocs.contains soc })
            else next [.opened node.fd, .closed node.fd]

/-- The bits of a node that plays, if it does: it can be opened, is a haptics device by its name and
plays constant or periodic effects. -/
def InputNode.plays (node : InputNode) : Option FfBits :=
  if node.fd < 0 then none
  else if node.name ≠ some "qcom-hv-haptics" ∧ node.name ≠ some "qti-haptics" then none
  else node.ffBits.filter fun bits => bits.constant || bits.periodic

/-- The first node that plays. -/
def firstPlaying (nodes : List InputNode) : Option (InputNode × FfBits) :=
  nodes.findSome? fun node => node.plays.map fun bits => (node, bits)

/-- The device of a node that plays. -/
def deviceOf (p : Probe) (node : InputNode) (bits : FfBits) : InputFFDevice where
  mVibraFd := node.fd
  mSupportEffects := bits.custom
  mSupportGain := bits.gain
  mSupportExternalControl :=
    externalControlSocs.contains (if p.soc ≤ 0 then p.socFile.getD p.soc else p.soc)

/-- The file descriptors that are open after the events. -/
def openAfter (events : List FdEvent) : List Int32 :=
  events.foldl (fun fds e =>
    match e with
    | .opened fd => fd :: fds
    | .closed fd => fds.erase fd) []

theorem openAfter_rejected (fd : Int32) (events : List FdEvent) :
    openAfter (.opened fd :: .closed fd :: events) = openAfter events := by
  show events.foldl _ ([fd].erase fd) = _
  rw [List.erase_cons_head]
  rfl

/-- What a round of the loop does: a node that does not play is closed again, if it was opened. -/
inductive Probed (p : Probe) (node : InputNode) (rest : List InputNode) :
    List FdEvent × InputFFDevice → Prop
  | skipped (h : node.plays = none) : Probed p node rest (probe p {} rest)
  | rejected (h : node.plays = none) : Probed p node rest
      (.opened node.fd :: .closed node.fd :: (probe p {} rest).1, (probe p {} rest).2)
  | taken {bits : FfBits} (h : node.plays = some bits) :
      Probed p node rest ([.opened node.fd], deviceOf p node bits)

theorem probed (p : Probe) (node : InputNode) (rest : List InputNode) :
    Probed p node rest (probe p {} (node :: rest)) := by
  rw [probe]
  dsimp only
  split
  · rename_i hfd
    exact .skipped (by rw [InputNode.plays, if_pos hfd])
  rename_i hfd
  split
  · rename_i hname
    exact .rejected (by rw [InputNode.plays, if_neg hfd, if_pos hname])
  rename_i hname
  have hplays : node.plays = node.ffBits.filter fun bits => bits.constant || bits.periodic := by
    rw [InputNode.plays, if_neg hfd, if_neg hname]
  cases hbits : node.ffBits with
  | none => exact .rejected (by rw [hplays, hbits]; rfl)
  | some bits =>
      dsimp only
      split
      · rename_i hplaying
        have htaken : node.plays = some bits := by
          rw [hplays, hbits]
          exact Option.filter_some_pos hplaying
        have hround : Probed p node rest ([.opened node.fd], deviceOf p node bits) := .taken htaken
        simpa only [deviceOf, Bool.false_or] using hround
      · rename_i hsilent
        refine .rejected ?_
        rw [hplays, hbits]
        exact Option.filter_some_neg (Bool.eq_false_iff.mpr hsilent)

/-- The loop with its events is the loop. -/
theorem probe_snd (p : Probe) (d : InputFFDevice) (nodes : List InputNode) :
    (probe p d nodes).2 = detect p d nodes := by
  induction nodes with
  | nil => rfl
  | cons node rest ih =>
      rw [probe, detect]
      dsimp only
      split
      · exact ih
      split
      · exact ih
      cases node.ffBits with
      | none => exact ih
      | some bits =>
          dsimp only
          split
          · rfl
          · exact ih

theorem probe_firstPlaying (p : Probe) (nodes : List InputNode) :
    (probe p {} nodes).2 =
      (firstPlaying nodes).elim {} fun found => deviceOf p found.1 found.2 := by
  induction nodes with
  | nil => rfl
  | cons node rest ih =>
      rw [firstPlaying, List.findSome?_cons]
      have hprobed := probed p node rest
      generalize probe p {} (node :: rest) = r at hprobed ⊢
      cases hprobed with
      | skipped h =>
          rw [h]
          exact ih
      | rejected h =>
          rw [h]
          exact ih
      | taken h => rw [h]; rfl

theorem openAfter_probe (p : Probe) (nodes : List InputNode) :
    openAfter (probe p {} nodes).1 = ((firstPlaying nodes).map fun found => found.1.fd).toList := by
  induction nodes with
  | nil => rfl
  | cons node rest ih =>
      rw [firstPlaying, List.findSome?_cons]
      have hprobed := probed p node rest
      generalize probe p {} (node :: rest) = r at hprobed ⊢
      cases hprobed with
      | skipped h =>
          rw [h]
          exact ih
      | rejected h =>
          rw [h, openAfter_rejected]
          exact ih
      | taken h => rw [h]; rfl

/-- Never are two nodes open at a time. -/
theorem length_openAfter_le (p : Probe) (nodes : List InputNode) {events : List FdEvent}
    (h : events <+: (probe p {} nodes).1) : (openAfter events).length ≤ 1 := by
  induction nodes generalizing events with
  | nil =>
      rw [List.prefix_nil.mp h]
      exact Nat.zero_le 1
  | cons node rest ih =>
      generalize hprobe : probe p {} (node :: rest) = r at h
      have hprobed := probed p node rest
      rw [hprobe] at hprobed
      cases hprobed with
      | skipped _ => exact ih h
      | rejected _ =>
          obtain rfl | ⟨events, rfl, hclosed⟩ := List.prefix_cons_iff.mp h
          · exact Nat.zero_le 1
          obtain rfl | ⟨events, rfl, hrest⟩ := List.prefix_cons_iff.mp hclosed
          · exact Nat.le_refl 1
          rw [openAfter_rejected]
          exact ih hrest
      | taken _ =>
          obtain rfl | ⟨events, rfl, hnil⟩ := List.prefix_cons_iff.mp h
          · exact Nat.zero_le 1
          rw [List.prefix_nil.mp hnil]
          exact Nat.le_refl 1

/-- The nodes of the input directory; none if it cannot be opened. -/
def Probe.listed (p : Probe) : List InputNode := p.nodes.getD []

theorem probe_create (p : Probe) : (probe p {} p.listed).2 = create p := by
  rw [probe_snd, create, Probe.listed]
  cases p.nodes <;> rfl

/-- The constructor takes the first node that plays, opens one node at a time, and leaves open none
but that one. -/
theorem create_takes_first (p : Probe) :
    (probe p {} p.listed).2 = create p ∧
      create p = ((firstPlaying p.listed).elim {} fun found => deviceOf p found.1 found.2) ∧
      openAfter (probe p {} p.listed).1 =
        ((firstPlaying p.listed).map fun found => found.1.fd).toList ∧
      ∀ events, events <+: (probe p {} p.listed).1 → (openAfter events).length ≤ 1 := by
  refine ⟨probe_create p, ?_, openAfter_probe p p.listed, fun _ => length_openAfter_le p p.listed⟩
  rw [← probe_create]
  exact probe_firstPlaying p p.listed

end OneplusHal.Vibrator.InputFFDevice
