import ContractAudit.Json.Printer
import ContractAudit.Json.Reader
import Mathlib.Tactic.SplitIfs

/-!
# Texts that are written and read

A text is written between quotes, character by character. Each character is read back as one unit that stands for it
(`readUnits?_escapeChar`), so that the units of a text join to the text (`readUnits?_printString`).
-/

namespace ContractAudit.Json

/-- The unit is the character itself, or the number of a control. -/
def CharUnit.Stands (u : CharUnit) (c : Char) : Prop := u = .char c ∨ u = .unit c.toNat ∧ c.toNat < 0x20

theorem joinUnits?_cons {u : CharUnit} {c : Char} (h : u.Stands c) (units : List CharUnit) :
    joinUnits? (u :: units) = (joinUnits? units).map (c :: ·) := by
  obtain rfl | ⟨rfl, hc⟩ := h
  · rfl
  · have hhigh : isHighHalf c.toNat = false := by simp [isHighHalf]; omega
    have hlow : isLowHalf c.toNat = false := by simp [isLowHalf]; omega
    -- A control is no half of a pair, whatever stands behind it.
    cases units with
    | nil => simp [joinUnits?, hhigh, hlow]
    | cons next units => cases next <;> simp [joinUnits?, hhigh, hlow]

theorem hexUnit?_hexPair {n : Nat} (h : n < 0x20) :
    hexUnit? '0' '0' (Nat.digitChar (n / 16)) (Nat.digitChar (n % 16)) = some n := by
  revert n
  decide

theorem readUnits?_plain {c : Char} (hquote : c ≠ '"') (hbackslash : c ≠ '\\') (hcontrol : ¬ c.toNat < 0x20)
    (rest : List Char) :
    readUnits? (c :: rest) = (readUnits? rest).map fun (units, rest) => (.char c :: units, rest) := by
  have hplain : (decide (c.toNat < 0x20) || c == '\\') = false := by simp [hbackslash]; omega
  simp [readUnits?, hbackslash, hplain]

theorem readUnits?_escapeChar (c : Char) (rest : List Char) : ∃ u : CharUnit, u.Stands c ∧
    readUnits? (escapeChar c ++ rest) = (readUnits? rest).map fun (units, rest) => (u :: units, rest) := by
  unfold escapeChar
  split_ifs with hquote hbackslash hback hfeed hline hreturn htab hcontrol
  iterate 7
    -- An escape of one letter.
    · obtain rfl := eq_of_beq ‹(c == _) = true›
      exact ⟨_, .inl rfl, rfl⟩
  · refine ⟨.unit c.toNat, .inr ⟨rfl, hcontrol⟩, ?_⟩
    simp [hexPair, readUnits?, hexUnit?_hexPair hcontrol]
  · exact ⟨.char c, .inl rfl, readUnits?_plain (by simpa using hquote) (by simpa using hbackslash) hcontrol rest⟩

theorem readUnits?_flatMap (cs rest : List Char) : ∃ units : List CharUnit, joinUnits? units = some cs ∧
    readUnits? (cs.flatMap escapeChar ++ '"' :: rest) = some (units, rest) := by
  induction cs with
  | nil => exact ⟨[], rfl, rfl⟩
  | cons c cs ih =>
    obtain ⟨units, hjoin, hread⟩ := ih
    obtain ⟨u, hu, hstep⟩ := readUnits?_escapeChar c (cs.flatMap escapeChar ++ '"' :: rest)
    refine ⟨u :: units, ?_, ?_⟩
    · rw [joinUnits?_cons hu, hjoin, Option.map_some]
    · rw [List.flatMap_cons, List.append_assoc, hstep, hread, Option.map_some]

/-- **A text is read back from between its quotes**, whatever its characters and whatever stands behind it. -/
theorem readUnits?_printString (s : String) (rest : List Char) : ∃ cs, printString s ++ rest = '"' :: cs ∧
    ∃ units, joinText? units = some s ∧ readUnits? cs = some (units, rest) := by
  obtain ⟨units, hjoin, hread⟩ := readUnits?_flatMap s.toList rest
  refine ⟨s.toList.flatMap escapeChar ++ '"' :: rest, ?_, units, ?_, hread⟩
  · simp [printString]
  · rw [joinText?, hjoin, Option.map_some, String.ofList_toList]

end ContractAudit.Json
