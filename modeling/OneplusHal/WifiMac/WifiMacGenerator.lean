import Mathlib.Data.List.DropRight
import OneplusHal.Lib.Machine

/-!
The script that generates `wlan_mac.bin` on the persist partition, where there is none yet.

Every boot runs it, and may cut it off. What a boot brings is what the script reads: the two
NV item files and the random bytes that stand in for them.
-/

namespace OneplusHal.WifiMac

open OneplusHal

abbrev Text := List Char

/-! ### Bytes as text -/

def lowerDigit (n : ℕ) : Char := "0123456789abcdef".toList.getD n '0'

def upperDigit (n : ℕ) : Char := "0123456789ABCDEF".toList.getD n '0'

def lowerHex (b : UInt8) : Text := [lowerDigit (b.toNat / 16), lowerDigit (b.toNat % 16)]

def upperHex (b : UInt8) : Text := [upperDigit (b.toNat / 16), upperDigit (b.toNat % 16)]

/-- `xxd -p`: thirty bytes a line. `column` counts the bytes of the line so far. -/
def xxd (column : ℕ) : List UInt8 → Text
  | [] => if column = 0 then [] else ['\n']
  | b :: bs => lowerHex b ++ if column + 1 = 30 then '\n' :: xxd 0 bs else xxd (column + 1) bs

/-- `grep -o '..'`: every two characters of a line, on lines of their own. -/
def grepPairs : Text → List Text
  | a :: b :: rest =>
      if a = '\n' then grepPairs (b :: rest)
      else if b = '\n' then grepPairs rest
      else [a, b] :: grepPairs rest
  | _ => []

def tac (lines : List Text) : List Text := lines.reverse

/-- `tr -d '\n'`, of lines -/
def joinLines (lines : List Text) : Text := lines.flatten

/-- `tr '[:lower:]' '[:upper:]'` -/
def toUpper (text : Text) : Text := text.map Char.toUpper

/-! ### The script -/

/-- An NV item file during a boot: whether a test finds it, and what is read from it then. -/
structure NvItem where
  present : ℕ → Bool
  content : List UInt8

/-- `wait_for_file`: ten tests, a second apart. -/
def waitForFile (nv : NvItem) : Bool := (List.range 10).any nv.present

/-- Three bytes of `/dev/urandom`. -/
abbrev Random := UInt8 × UInt8 × UInt8

def Random.bytes (r : Random) : List UInt8 := [r.1, r.2.1, r.2.2]

def WLAN_MAC_VENDOR_PREFIX : Text := "C0EEFB".toList

/-- `$(..)` removes the newlines at the end. -/
def substitute (text : Text) : Text := text.rdropWhile (· = '\n')

/-- `MAC_0` and `MAC_1` -/
def mac (nv : NvItem) (random : Random) : Text :=
  if !waitForFile nv then WLAN_MAC_VENDOR_PREFIX ++ substitute (toUpper (xxd 0 random.bytes))
  else substitute (toUpper (joinLines (tac (grepPairs (xxd 0 nv.content)))))

/-- One run of the script. `done` is how far it gets with `wlan_mac.bin`: the opening that
truncates the file, and the five writes. -/
structure Boot where
  nv0 : NvItem
  nv1 : NvItem
  random0 : Random
  random1 : Random
  done : ℕ

inductive FileOp
  | truncate
  | append (line : Text)

def FileOp.apply (file : Option Text) : FileOp → Option Text
  | .truncate => some []
  | .append line => some (file.getD [] ++ line)

def echo (text : Text) : Text := text ++ ['\n']

/-- The five lines, for two addresses. -/
def lines (mac0 mac1 : Text) : List Text :=
  [echo ("Intf0MacAddress=".toList ++ mac0), echo ("Intf1MacAddress=".toList ++ mac1),
    echo "Intf2MacAddress=000AF58989FD".toList, echo "Intf3MacAddress=000AF58989FC".toList,
    echo "END".toList]

namespace Boot

def mac0 (b : Boot) : Text := mac b.nv0 b.random0
def mac1 (b : Boot) : Text := mac b.nv1 b.random1

def fileOps (b : Boot) : List FileOp := .truncate :: (lines b.mac0 b.mac1).map .append

/-- The script: nothing is done to a file that is there and not empty. -/
def run (file : Option Text) (b : Boot) : Option Text :=
  if file.getD [] = [] then (b.fileOps.take b.done).foldl FileOp.apply file else file

end Boot

/-! ### The pipelines -/

theorem lowerDigit_cases {n : ℕ} (h : n < 16) :
    lowerDigit n ≠ '\n' ∧ (lowerDigit n).toUpper = upperDigit n := by
  revert n
  decide

theorem upperDigit_ne_newline {n : ℕ} (h : n < 16) : upperDigit n ≠ '\n' := by
  revert n
  decide

theorem halves_lt (b : UInt8) : b.toNat / 16 < 16 ∧ b.toNat % 16 < 16 := by
  have hlt := b.toNat_lt
  omega

theorem toUpper_lowerHex (b : UInt8) : toUpper (lowerHex b) = upperHex b := by
  simp only [toUpper, lowerHex, upperHex, List.map_cons, List.map_nil,
    (lowerDigit_cases (halves_lt b).1).2, (lowerDigit_cases (halves_lt b).2).2]

theorem newline_notMem_upperHex (b : UInt8) : '\n' ∉ upperHex b := by
  simp only [upperHex, List.mem_cons, List.not_mem_nil, or_false, not_or]
  exact ⟨(upperDigit_ne_newline (halves_lt b).1).symm, (upperDigit_ne_newline (halves_lt b).2).symm⟩

theorem grepPairs_newline (text : Text) : grepPairs ('\n' :: text) = grepPairs text := by
  cases text with
  | nil => rfl
  | cons c text => simp [grepPairs]

theorem grepPairs_lowerHex (b : UInt8) (text : Text) :
    grepPairs (lowerHex b ++ text) = lowerHex b :: grepPairs text := by
  have hhigh := (lowerDigit_cases (halves_lt b).1).1
  have hlow := (lowerDigit_cases (halves_lt b).2).1
  simp [lowerHex, grepPairs, hhigh, hlow]

/-- The pairs of a dump are the bytes, wherever its lines end. -/
theorem grepPairs_xxd (column : ℕ) (bytes : List UInt8) :
    grepPairs (xxd column bytes) = bytes.map lowerHex := by
  induction bytes generalizing column with
  | nil =>
      unfold xxd
      split <;> rfl
  | cons b bs ih =>
      rw [xxd, grepPairs_lowerHex, List.map_cons]
      split
      · rw [grepPairs_newline, ih]
      · rw [ih]

theorem toUpper_flatMap (bytes : List UInt8) :
    toUpper (bytes.flatMap lowerHex) = bytes.flatMap upperHex := by
  rw [toUpper, List.map_flatMap]
  exact List.flatMap_congr fun b _ => toUpper_lowerHex b

theorem newline_notMem_flatMap (bytes : List UInt8) : '\n' ∉ bytes.flatMap upperHex := by
  rw [List.mem_flatMap]
  rintro ⟨b, -, hmem⟩
  exact newline_notMem_upperHex b hmem

theorem substitute_eq_self {text : Text} (h : '\n' ∉ text) : substitute text = text := by
  rw [substitute, List.rdropWhile_eq_self_iff]
  intro hne
  have hlast : text.getLast hne ≠ '\n' := fun heq => h (heq ▸ List.getLast_mem hne)
  simpa using hlast

/-- The address of an NV item is its bytes from the last to the first. -/
theorem pipeline_eq (content : List UInt8) :
    substitute (toUpper (joinLines (tac (grepPairs (xxd 0 content))))) =
      content.reverse.flatMap upperHex := by
  have hjoin : joinLines (tac (grepPairs (xxd 0 content))) = content.reverse.flatMap lowerHex := by
    rw [grepPairs_xxd, tac, joinLines, ← List.map_reverse, List.flatMap_def]
  rw [hjoin, toUpper_flatMap, substitute_eq_self (newline_notMem_flatMap _)]

/-- Three bytes fit on a line. -/
theorem random_eq (r : Random) :
    substitute (toUpper (xxd 0 r.bytes)) = r.bytes.flatMap upperHex := by
  have hline : toUpper (xxd 0 r.bytes) = r.bytes.flatMap upperHex ++ ['\n'] := by
    rw [← toUpper_flatMap]
    simp [xxd, Random.bytes, toUpper]
  rw [hline, substitute, List.rdropWhile_concat_pos _ _ _ (by simp)]
  exact substitute_eq_self (newline_notMem_flatMap _)

/-- What an address is to be: that of the NV item where one was found, and a random one of the
vendor otherwise. -/
def address (nv : NvItem) (random : Random) : Text :=
  if waitForFile nv then nv.content.reverse.flatMap upperHex
  else WLAN_MAC_VENDOR_PREFIX ++ random.bytes.flatMap upperHex

theorem mac_eq (nv : NvItem) (random : Random) : mac nv random = address nv random := by
  unfold mac address
  cases waitForFile nv with
  | false => exact congrArg (WLAN_MAC_VENDOR_PREFIX ++ ·) (random_eq random)
  | true => exact pipeline_eq nv.content

end OneplusHal.WifiMac
