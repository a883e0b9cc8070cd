import OneplusHal.WifiMac.WifiMacGenerator

/-!
What becomes of `wlan_mac.bin` over boots that may each be cut off.

The file is only tested for being empty, so it is made by the first boot that writes to it,
and stays as that boot leaves it.
-/

namespace OneplusHal.WifiMac

open OneplusHal

namespace Boot

/-- The script got as far as a write, if it had to. -/
def Wrote (b : Boot) : Prop := 2 ≤ b.done

instance : DecidablePred Wrote := fun b => inferInstanceAs (Decidable (2 ≤ b.done))

/-- The script was not cut off. -/
def Completes (b : Boot) : Prop := 6 ≤ b.done

/-- The NV items that are found have the size of an address. -/
def SixBytes (b : Boot) : Prop :=
  (waitForFile b.nv0 = true → b.nv0.content.length = 6) ∧
    (waitForFile b.nv1 = true → b.nv1.content.length = 6)

/-- The lines that a boot writes to a fresh file. -/
def written (b : Boot) : Text := ((lines b.mac0 b.mac1).take (b.done - 1)).flatten

theorem Completes.wrote {b : Boot} (h : b.Completes) : b.Wrote :=
  Nat.le_trans (by decide) h

end Boot

/-- No file, or an empty one. -/
def Fresh (file : Option Text) : Prop := file.getD [] = []

/-- Twelve upper-case digits. -/
def IsAddress (text : Text) : Prop :=
  text.length = 12 ∧ ∀ c ∈ text, c ∈ "0123456789ABCDEF".toList

/-- The file is the five lines of one of the boots, with its two addresses. -/
def WellFormed (boots : List Boot) (file : Option Text) : Prop :=
  ∃ b ∈ boots, IsAddress (address b.nv0 b.random0) ∧ IsAddress (address b.nv1 b.random1) ∧
    file = some (lines (address b.nv0 b.random0) (address b.nv1 b.random1)).flatten

/-! ### One boot -/

variable {file : Option Text} {b : Boot}

theorem not_fresh {text : Text} (h : text ≠ []) : ¬Fresh (some text) := h

theorem foldl_append (file : Option Text) (ls : List Text) :
    (ls.map FileOp.append).foldl FileOp.apply file =
      if ls = [] then file else some (file.getD [] ++ ls.flatten) := by
  induction ls generalizing file with
  | nil => rfl
  | cons l ls ih =>
      rw [List.map_cons, List.foldl_cons, ih, if_neg (List.cons_ne_nil l ls)]
      split
      case isTrue hnil => simp [hnil, FileOp.apply]
      case isFalse => simp [FileOp.apply]

theorem run_eq (h : Fresh file) :
    b.run file = (b.fileOps.take b.done).foldl FileOp.apply file := if_pos h

theorem run_kept (h : ¬Fresh file) : b.run file = file := if_neg h

theorem run_fresh (h : Fresh file) (hb : ¬b.Wrote) : Fresh (b.run file) := by
  have hdone : b.done = 0 ∨ b.done = 1 := by
    unfold Boot.Wrote at hb
    omega
  rw [run_eq h]
  rcases hdone with hzero | hone
  · rwa [hzero]
  · rw [hone]
    rfl

theorem run_wrote (h : Fresh file) (hb : b.Wrote) : b.run file = some b.written := by
  obtain ⟨k, hk⟩ : ∃ k, b.done = k + 2 := ⟨b.done - 2, (Nat.sub_add_cancel hb).symm⟩
  rw [run_eq h, Boot.written, hk]
  change (((lines b.mac0 b.mac1).map FileOp.append).take (k + 1)).foldl FileOp.apply (some []) = _
  rw [← List.map_take, foldl_append, if_neg (by simp [lines])]
  rfl

theorem written_ne_nil (hb : b.Wrote) : b.written ≠ [] := by
  obtain ⟨k, hk⟩ : ∃ k, b.done = k + 2 := ⟨b.done - 2, (Nat.sub_add_cancel hb).symm⟩
  rw [Boot.written, hk]
  simp [lines, echo]

/-! ### Boots -/

theorem runs_kept (h : ¬Fresh file) (boots : List Boot) :
    Machine.run Boot.run file boots = file := by
  induction boots with
  | nil => rfl
  | cons b boots ih => rw [Machine.run_cons, run_kept h, ih]

/-- The file is what the first boot made of it that wrote to it. -/
theorem runs_eq (h : Fresh file) {boots : List Boot} {w : Boot}
    (hw : boots.find? (fun b => decide b.Wrote) = some w) :
    Machine.run Boot.run file boots = some w.written := by
  induction boots generalizing file with
  | nil => cases hw
  | cons b boots ih =>
      rw [Machine.run_cons]
      by_cases hb : b.Wrote
      · rw [List.find?_cons_of_pos (by simpa using hb)] at hw
        obtain rfl := Option.some.inj hw
        rw [run_wrote h hb]
        exact runs_kept (not_fresh (written_ne_nil hb)) boots
      · rw [List.find?_cons_of_neg (by simpa using hb)] at hw
        exact ih (run_fresh h hb) hw

/-! ### Well-formed files -/

theorem length_upperHex (bytes : List UInt8) :
    (bytes.flatMap upperHex).length = 2 * bytes.length := by
  induction bytes with
  | nil => rfl
  | cons b bytes ih =>
      rw [List.flatMap_cons, List.length_append, ih, List.length_cons]
      simp only [upperHex, List.length_cons, List.length_nil]
      omega

theorem upperDigit_mem {n : ℕ} (h : n < 16) : upperDigit n ∈ "0123456789ABCDEF".toList := by
  revert n
  decide

theorem mem_flatMap_upperHex {bytes : List UInt8} {c : Char}
    (h : c ∈ bytes.flatMap upperHex) : c ∈ "0123456789ABCDEF".toList := by
  obtain ⟨b, -, hc⟩ := List.mem_flatMap.mp h
  rcases List.mem_cons.mp hc with rfl | hc
  · exact upperDigit_mem (halves_lt b).1
  · rw [List.mem_singleton.mp hc]
    exact upperDigit_mem (halves_lt b).2

theorem mem_vendorPrefix {c : Char} (h : c ∈ WLAN_MAC_VENDOR_PREFIX) :
    c ∈ "0123456789ABCDEF".toList := by
  have hall : WLAN_MAC_VENDOR_PREFIX.all ("0123456789ABCDEF".toList.contains ·) = true := by
    decide
  exact List.contains_iff_mem.mp (List.all_eq_true.mp hall c h)

/-- An address has its length unless an NV item of another size was found. -/
theorem isAddress_iff (nv : NvItem) (random : Random) :
    IsAddress (address nv random) ↔ (waitForFile nv = true → nv.content.length = 6) := by
  unfold IsAddress address
  cases hfound : waitForFile nv with
  | false =>
      rw [if_neg Bool.false_ne_true, List.length_append, length_upperHex]
      refine iff_of_true ⟨rfl, fun c hc => ?_⟩ nofun
      rcases List.mem_append.mp hc with hc | hc
      · exact mem_vendorPrefix hc
      · exact mem_flatMap_upperHex hc
  | true =>
      rw [if_pos rfl, length_upperHex, List.length_reverse]
      constructor
      · rintro ⟨hlength, -⟩ -
        omega
      · exact fun hsix => ⟨by rw [hsix rfl], fun c hc => mem_flatMap_upperHex hc⟩

theorem newline_notMem_address (nv : NvItem) (random : Random) :
    '\n' ∉ address nv random := by
  unfold address
  split
  · exact newline_notMem_flatMap _
  · rw [List.mem_append, not_or]
    exact ⟨by decide, newline_notMem_flatMap _⟩

/-- A line is read off a text up to its newline. -/
theorem line_inj {s t u v : Text} (hs : '\n' ∉ s) (ht : '\n' ∉ t)
    (h : s ++ '\n' :: u = t ++ '\n' :: v) : s = t ∧ u = v := by
  induction s generalizing t with
  | nil =>
      cases t with
      | nil => exact ⟨rfl, (List.cons.inj h).2⟩
      | cons c t => exact absurd (List.mem_cons.mpr (.inl (List.cons.inj h).1)) ht
  | cons c s ih =>
      cases t with
      | nil => exact absurd (List.mem_cons.mpr (.inl (List.cons.inj h).1.symm)) hs
      | cons d t =>
          obtain ⟨rfl, hrest⟩ := List.cons.inj h
          obtain ⟨rfl, rfl⟩ := ih (fun hc => hs (List.mem_cons_of_mem _ hc))
            (fun hc => ht (List.mem_cons_of_mem _ hc)) hrest
          exact ⟨rfl, rfl⟩

/-- The addresses are read off the five lines. -/
theorem lines_inj {s t u v : Text} (hs : '\n' ∉ s) (ht : '\n' ∉ t) (hu : '\n' ∉ u) (hv : '\n' ∉ v)
    (h : (lines s t).flatten = (lines u v).flatten) : s = u ∧ t = v := by
  have hlines (x y : Text) : (lines x y).flatten = "Intf0MacAddress=".toList ++ (x ++ '\n' ::
      ("Intf1MacAddress=".toList ++ (y ++ '\n' :: ((lines [] []).drop 2).flatten))) := by
    simp [lines, echo]
  rw [hlines s t, hlines u v] at h
  obtain ⟨rfl, hrest⟩ := line_inj hs hu (List.append_cancel_left h)
  obtain ⟨rfl, -⟩ := line_inj ht hv (List.append_cancel_left hrest)
  exact ⟨rfl, rfl⟩

/-- Each of the lines ends with its newline and has no other. -/
theorem count_newline_take {s t : Text} (hs : '\n' ∉ s) (ht : '\n' ∉ t) (k : ℕ) :
    ((lines s t).take k).flatten.count '\n' = min k 5 := by
  have hone : ∀ l ∈ lines s t, l.count '\n' = 1 := by
    have hecho (text : Text) (h : '\n' ∉ text) : (echo text).count '\n' = 1 := by
      rw [echo, List.count_append, List.count_eq_zero.mpr h]
      rfl
    simp only [lines, List.forall_mem_cons, List.not_mem_nil, false_implies, implies_true, and_true]
    refine ⟨hecho _ ?_, hecho _ ?_, by decide, by decide, by decide⟩
    · rw [List.mem_append, not_or]
      exact ⟨by decide, hs⟩
    · rw [List.mem_append, not_or]
      exact ⟨by decide, ht⟩
  rw [List.count_flatten, List.map_congr_left fun l hl => hone l (List.mem_of_mem_take hl),
    List.map_const', List.sum_replicate_nat, List.length_take]
  simp [lines]

/-! ### The outcome -/

/-- The file that a boot makes alone is well formed exactly if the boot completes and finds NV
items of the size of an address. -/
theorem written_wellFormed_iff {boots : List Boot} {w : Boot} (hmem : w ∈ boots) :
    WellFormed boots (some w.written) ↔ w.Completes ∧ w.SixBytes := by
  have hmac0 : w.mac0 = address w.nv0 w.random0 := mac_eq w.nv0 w.random0
  have hmac1 : w.mac1 = address w.nv1 w.random1 := mac_eq w.nv1 w.random1
  have hsix : w.SixBytes ↔
      IsAddress (address w.nv0 w.random0) ∧ IsAddress (address w.nv1 w.random1) :=
    and_congr (isAddress_iff w.nv0 w.random0).symm (isAddress_iff w.nv1 w.random1).symm
  have hfull (h : w.Completes) :
      w.written = (lines (address w.nv0 w.random0) (address w.nv1 w.random1)).flatten := by
    unfold Boot.Completes at h
    rw [Boot.written, hmac0, hmac1,
      List.take_of_length_le (show (lines _ _).length ≤ w.done - 1 by simp [lines]; omega)]
  constructor
  · rintro ⟨b, -, haddress0, haddress1, hfile⟩
    have htext := Option.some.inj hfile
    have hcompletes : w.Completes := by
      -- A file that was cut off has too few lines.
      have hcount := congrArg (List.count '\n') htext
      rw [Boot.written, hmac0, hmac1,
        count_newline_take (newline_notMem_address _ _) (newline_notMem_address _ _),
        ← List.take_of_length_le (show (lines (address b.nv0 b.random0)
          (address b.nv1 b.random1)).length ≤ 5 from Nat.le_refl 5),
        count_newline_take (newline_notMem_address _ _) (newline_notMem_address _ _)] at hcount
      unfold Boot.Completes
      omega
    refine ⟨hcompletes, hsix.mpr ?_⟩
    rw [hfull hcompletes] at htext
    obtain ⟨h0, h1⟩ := lines_inj (newline_notMem_address _ _) (newline_notMem_address _ _)
      (newline_notMem_address _ _) (newline_notMem_address _ _) htext
    exact ⟨h0 ▸ haddress0, h1 ▸ haddress1⟩
  · rintro ⟨hcompletes, haddresses⟩
    obtain ⟨haddress0, haddress1⟩ := hsix.mp haddresses
    exact ⟨w, hmem, haddress0, haddress1, congrArg some (hfull hcompletes)⟩

/-- The first boot that writes to the file completes, and the NV items it finds have the size of
an address. -/
def FirstCompletes (boots : List Boot) : Prop :=
  ∃ w, boots.find? (fun b => decide b.Wrote) = some w ∧ w.Completes ∧ w.SixBytes

/-- Once a boot completes, the file is well formed and stays as it is, if and only if the first
boot that wrote to it completed, with NV items of the size of an address. -/
theorem mac_file_iff (file : Option Text) (hfresh : Fresh file) (boots : List Boot) (c : Boot)
    (hcompletes : c.Completes) :
    let after := Machine.run Boot.run file (boots ++ [c])
    (WellFormed (boots ++ [c]) after ∧
        ∀ later, Machine.run Boot.run after later = after) ↔
      FirstCompletes (boots ++ [c]) := by
  intro after
  obtain ⟨w, hw⟩ : ∃ w, (boots ++ [c]).find? (fun b => decide b.Wrote) = some w := by
    refine Option.isSome_iff_exists.mp (List.find?_isSome.mpr ⟨c, by simp, ?_⟩)
    exact decide_eq_true hcompletes.wrote
  have hafter : after = some w.written := runs_eq hfresh hw
  have hdecide := List.find?_some hw
  have hwrote : w.Wrote := of_decide_eq_true hdecide
  rw [hafter, written_wellFormed_iff (List.mem_of_find?_eq_some hw)]
  constructor
  · exact fun h => ⟨w, hw, h.1⟩
  · rintro ⟨w', hw', hgood⟩
    cases hw.symm.trans hw'
    exact ⟨hgood, runs_kept (not_fresh (written_ne_nil hwrote))⟩

/-- A boot that finds both NV items from the first test on, each of the given bytes. -/
def bootWith (content : List UInt8) (done : ℕ) : Boot :=
  ⟨⟨fun _ => true, content⟩, ⟨fun _ => true, content⟩, (1, 2, 3), (4, 5, 6), done⟩

/-- The first boot is cut off after its first write, and the file never gets its other lines;
and an empty NV item makes an empty address. -/
theorem mac_file_damaged :
    let run := Machine.run Boot.run none
    let good := [1, 2, 3, 4, 5, 6]
    run [bootWith good 2, bootWith good 6] = some "Intf0MacAddress=060504030201\n".toList ∧
      ¬WellFormed [bootWith good 2, bootWith good 6] (run [bootWith good 2, bootWith good 6]) ∧
      run [bootWith [] 6] = some (lines [] []).flatten ∧
      ¬WellFormed [bootWith [] 6] (run [bootWith [] 6]) := by
  intro run good
  refine ⟨by decide, fun h => ?_, by decide, fun h => ?_⟩
  · have hfirst := (written_wellFormed_iff (w := bootWith good 2) List.mem_cons_self).mp h
    exact absurd (show 6 ≤ 2 from hfirst.1) (by decide)
  · have hfirst := (written_wellFormed_iff (w := bootWith [] 6) List.mem_cons_self).mp h
    exact absurd (hfirst.2.1 rfl) (by decide)

/-- A first boot that completes makes the file for good. -/
theorem mac_file_made :
    let boot := bootWith [1, 2, 3, 4, 5, 6] 6
    let after := Machine.run Boot.run none [boot]
    WellFormed [boot] after ∧ ∀ later, Machine.run Boot.run after later = after :=
  (mac_file_iff none rfl [] (bootWith [1, 2, 3, 4, 5, 6] 6) (Nat.le_refl 6)).mpr
    ⟨_, rfl, Nat.le_refl 6, fun _ => rfl, fun _ => rfl⟩

end OneplusHal.WifiMac
