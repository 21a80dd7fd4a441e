import ContractAudit.Rule.Basic
import ContractAudit.Solidity.Version

/-!
# Rule on arithmetic

Before version 0.8.0 arithmetic wraps around.
-/

namespace ContractAudit.Catalogue

open Facts

/-- Arithmetic that wraps around. -/
def overflowInfo : RuleInfo where
  id := "IO-01"
  name := "Integer Overflow/Underflow"
  severity := .high
  description := "Arithmetic operations without SafeMath in Solidity < 0.8.0"
  recommendation := "Use Solidity 0.8.0+ or SafeMath library"
  references := ["SWC-101", "CWE-190", "CWE-191"]
  confidence := percent 70

/-- What its findings share. -/
def overflowTemplate : FindingTemplate where
  id := "IO-01"
  name := "Potential Integer Overflow/Underflow"
  severity := .high
  explanation :=
    "Solidity versions prior to 0.8.0 do not automatically check for integer overflow and underflow. Unchecked " ++
    "arithmetic can wrap around, leading to unexpected behavior."
  scenario :=
    "An attacker could manipulate arithmetic operations to overflow/underflow values, potentially bypassing " ++
    "balance checks or manipulating token supplies."
  recommendation :=
    "Upgrade to Solidity 0.8.0+ which has built-in overflow/underflow checking, or use SafeMath library for older " ++
    "versions."
  snippet := Text.lines [
    "// Vulnerable (Solidity < 0.8.0):",
    "uint256 balance = 0;",
    "balance = balance - 1; // underflows to max uint256",
    "",
    "// Fixed (Solidity >= 0.8.0):",
    "// Automatically reverts on overflow/underflow",
    "",
    "// Or use SafeMath:",
    "using SafeMath for uint256;",
    "balance = balance.sub(1); // safely reverts"]
  references := [
    "SWC-101: Integer Overflow and Underflow",
    "CWE-190: Integer Overflow",
    "CWE-191: Integer Underflow"]
  confidence := percent 70

/-- The compiler pragma with the lowest version that it admits, if that one lacks checked arithmetic. -/
def uncheckedCompiler? (unit : Solidity.SourceUnit) : Option (Solidity.Pragma × Solidity.Version) :=
  unit.compilerPragma?.bind fun pragma =>
    ((Solidity.Version.lowest? pragma.value).filter fun v => !v.hasCheckedArithmetic).map (pragma, ·)

/-- One finding for every contract if the pragma admits a compiler without checked arithmetic. -/
def overflow : Predicate := fun unit c =>
  match uncheckedCompiler? unit with
  | none => .ok []
  | some (pragma, version) =>
    .ok [overflowTemplate.finding
      ("Contract \"" ++ c.name ++ "\" may compile with Solidity " ++ version.text ++
        ", where arithmetic operations can overflow/underflow")
      ((Location.ofPosition c.location.file pragma.pos).inContract c.name)]

end ContractAudit.Catalogue
