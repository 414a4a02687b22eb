import Mathlib.Data.List.Induction
import Mathlib.Data.Nat.Digits.Defs
import Rito.LcuProcessHandler.Extraction

namespace Rito

namespace LcuProcessHandler

variable {command token digits : List Char} {exception : Exception}

-- The number a string of digits writes, leading zeros and all.
def decimalValue (digits : List Char) : Nat :=
  Nat.ofDigits 10 (digits.reverse.map fun digit => digit.toNat - '0'.toNat)

theorem digitsValue_eq (digits : List Char) : digitsValue digits = decimalValue digits := by
  induction digits using List.reverseRecOn with
  | nil => rfl
  | append_singleton digits digit ih =>
      have hstep : decimalValue (digits ++ [digit]) =
          digit.toNat - '0'.toNat + 10 * decimalValue digits := by
        simp [decimalValue, Nat.ofDigits_cons]
      have hfold : digitsValue (digits ++ [digit]) =
          10 * digitsValue digits + (digit.toNat - '0'.toNat : Nat) := by
        simp [digitsValue]
      rw [hfold, ih, hstep]
      push_cast
      omega

theorem readSign_digits {first : Char} (rest : List Char) (hd : first.isDigit = true) :
    readSign (first :: rest) = (false, first :: rest) := by
  have hminus : first ≠ '-' := by
    rintro rfl
    exact absurd hd (by decide)
  have hplus : first ≠ '+' := by
    rintro rfl
    exact absurd hd (by decide)
  unfold readSign
  split
  · next h => exact absurd (List.cons.inj h).1 hminus
  · next h => exact absurd (List.cons.inj h).1 hplus
  · rfl

theorem isSpace_digit {char : Char} (hd : char.isDigit = true) : isSpace char = false := by
  by_contra hs
  simp only [isSpace, Bool.not_eq_false, Bool.or_eq_true, decide_eq_true_eq] at hs
  rcases hs with ((((rfl | rfl) | rfl) | rfl) | rfl) | rfl <;> exact absurd hd (by decide)

theorem stoi_digits (hne : digits ≠ []) (hall : digits.all Char.isDigit = true) :
    stoi digits = if decimalValue digits < 2 ^ 31 then .ok (decimalValue digits : Int)
      else .error (.std "stoi") := by
  obtain ⟨first, rest, rfl⟩ := List.exists_cons_of_ne_nil hne
  have hd : first.isDigit = true := List.all_eq_true.mp hall first List.mem_cons_self
  have hrun : (first :: rest).takeWhile Char.isDigit = first :: rest :=
    List.takeWhile_eq_self_iff.mpr (List.all_eq_true.mp hall)
  have hstart : (first :: rest).dropWhile isSpace = first :: rest :=
    List.dropWhile_cons_of_neg (by simp [isSpace_digit hd])
  simp only [stoi, hstart, readSign_digits rest hd, hrun, digitsValue_eq]
  by_cases hv : decimalValue (first :: rest) < 2 ^ 31
  · rw [if_neg (by simp), if_pos (by omega), if_pos hv]
    rfl
  · rw [if_neg (by simp), if_neg (by simp only [Bool.false_eq_true, if_false]; omega), if_neg hv]

theorem extractAppPort_digits (h : extractAppPort command = .ok digits) :
    digits ≠ [] ∧ digits.all Char.isDigit = true := by
  obtain ⟨_, ⟨suffix, -, rfl, hne, -⟩, -⟩ := extract_eq_ok h
  exact ⟨hne, List.all_takeWhile⟩

-- The three ranges of a port: it fits an int, and may fit 16 bits, or it does not.
theorem parametersOf_eq (ht : extractRemotingAuthToken command = .ok token)
    (hp : extractAppPort command = .ok digits) :
    parametersOf command =
      if decimalValue digits < 2 ^ 31 then
        .ok { remotingAuthToken := String.ofList token
              appPort := UInt16.ofNat (decimalValue digits) }
      else .error (.std "stoi") := by
  obtain ⟨hne, hall⟩ := extractAppPort_digits hp
  simp only [parametersOf, ht, hp, stoi_digits hne hall]
  split
  · have hport : UInt16.ofInt (decimalValue digits) = UInt16.ofNat (decimalValue digits) := by
      apply UInt16.toNat.inj
      simp only [UInt16.ofInt, UInt16.toNat_ofNat']
      omega
    rw [Except.map, hport]
  · rfl

-- Returning the port on the command line, or throwing the documented exception
-- where it is no port.
def ReportsPort (value : Nat) : Except Thrown LcuParameters → Prop
  | .ok parameters => parameters.appPort.toNat = value
  | .error thrown => 2 ^ 16 ≤ value ∧ ∃ what, thrown = .rito (.lcuParameters what)

theorem parametersOf_reportsPort_iff (ht : extractRemotingAuthToken command = .ok token)
    (hp : extractAppPort command = .ok digits) :
    ReportsPort (decimalValue digits) (parametersOf command) ↔ decimalValue digits < 2 ^ 16 := by
  rw [parametersOf_eq ht hp]
  split
  · simp only [ReportsPort, UInt16.toNat_ofNat']
    omega
  · next hv =>
      refine iff_of_false ?_ (by omega)
      rintro ⟨-, what, h⟩
      cases h

-- On both platforms the port on the command line is reported if and only if it
-- fits 16 bits.
theorem appPort_reported_iff (ht : extractRemotingAuthToken command = .ok token)
    (hp : extractAppPort command = .ok digits) :
    (∀ procDir, Linux.getLcuProcessCommand procDir = .ok command →
        (ReportsPort (decimalValue digits) (Linux.getLcuProcessParameters procDir) ↔
          decimalValue digits < 2 ^ 16)) ∧
      ∀ system, Windows.getLcuProcessCommand system = some (.ok command) →
        ∃ result, Windows.getLcuProcessParameters system = some result ∧
          (ReportsPort (decimalValue digits) result ↔ decimalValue digits < 2 ^ 16) := by
  constructor
  · intro procDir hc
    simp only [Linux.getLcuProcessParameters, hc]
    exact parametersOf_reportsPort_iff ht hp
  · intro system hc
    simp only [Windows.getLcuProcessParameters, hc]
    exact ⟨_, rfl, parametersOf_reportsPort_iff ht hp⟩

def clientOnPort (port : String) : List Char :=
  "LeagueClientUx.exe --remoting-auth-token=MyExampleAuthToken --app-port=".toList ++
    port.toList ++ " --no-rads".toList

def procDirOf (command : List Char) : ProcDirectory where
  path := "/proc"
  entries := [⟨"124".toList, command, []⟩]
  fails := false

-- A port one above the range comes back as port 0.
theorem wrappedPort_returned :
    Linux.getLcuProcessParameters (procDirOf (clientOnPort "65536")) =
      .ok ⟨"MyExampleAuthToken", 0⟩ := by
  decide

theorem appPort_reported_iff_leadingZeros :
    ReportsPort (decimalValue "00012345".toList)
      (Linux.getLcuProcessParameters (procDirOf (clientOnPort "00012345"))) := by
  have ht : extractRemotingAuthToken (clientOnPort "00012345") =
      .ok "MyExampleAuthToken".toList := by decide
  have hp : extractAppPort (clientOnPort "00012345") = .ok "00012345".toList := by decide
  exact ((appPort_reported_iff ht hp).1 _ (by decide)).mpr (by decide)

end LcuProcessHandler

end Rito
