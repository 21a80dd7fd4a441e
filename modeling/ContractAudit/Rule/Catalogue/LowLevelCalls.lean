import ContractAudit.Rule.Basic

/-!
# Rules on low-level calls

Reentrancy through `call`, a status that nobody tests, and code run by `delegatecall`.
-/

namespace ContractAudit.Catalogue

open Facts

/-- Functions that make external calls without a guard against reentrancy. -/
def reentrancyInfo : RuleInfo where
  id := "RE-01"
  name := "Reentrancy Vulnerability"
  severity := .critical
  description := "External calls followed by state changes can lead to reentrancy attacks"
  recommendation := "Implement checks-effects-interactions pattern or use ReentrancyGuard"
  references := ["SWC-107", "CWE-841"]
  confidence := percent 85

/-- What its findings share. -/
def reentrancyTemplate : FindingTemplate where
  id := "RE-01"
  name := "Reentrancy Vulnerability"
  severity := .critical
  explanation :=
    "External calls using .call\x7bvalue:\x7d() can allow malicious contracts to reenter the function before state " ++
    "changes are finalized, potentially draining funds."
  scenario :=
    "An attacker creates a malicious contract with a fallback function that calls back into this function, " ++
    "withdrawing funds multiple times before the balance is updated."
  recommendation :=
    "Use the checks-effects-interactions pattern: perform all state changes before making external calls, or use a " ++
    "ReentrancyGuard modifier."
  snippet := Text.lines [
    "// Vulnerable:",
    "function withdraw() public \x7b",
    "  (bool success, ) = msg.sender.call\x7bvalue: balance\x7d(\"\");",
    "  balance = 0; // State change after external call",
    "\x7d",
    "",
    "// Fixed:",
    "function withdraw() public nonReentrant \x7b",
    "  uint amount = balance;",
    "  balance = 0; // State change before external call",
    "  (bool success, ) = msg.sender.call\x7bvalue: amount\x7d(\"\");",
    "\x7d"]
  references := [
    "CWE-841: Improper Enforcement of Behavioral Workflow",
    "SWC-107: Reentrancy",
    "The DAO Hack (2016)"]
  confidence := percent 85

/-- One finding for every function that uses `call` and lacks the modifier `nonReentrant`. -/
def reentrancy : Predicate := fun _ c =>
  .ok ((c.functions.filter fun f =>
    (c.callsIn f.name).any (·.kind == .call) && !f.hasModifier "nonReentrant").map fun f =>
      reentrancyTemplate.finding
        ("Function \"" ++ f.name ++ "\" makes external calls without reentrancy protection") f.location)

/-- Calls whose status is never tested. -/
def uncheckedCallInfo : RuleInfo where
  id := "UR-01"
  name := "Unchecked Low-Level Call"
  severity := .critical
  description := "Low-level calls without return value checks can fail silently"
  recommendation := "Always verify return values from low-level calls"
  references := ["SWC-104", "CWE-252"]
  confidence := percent 95

/-- What its findings share. -/
def uncheckedCallTemplate : FindingTemplate where
  id := "UR-01"
  name := "Unchecked Low-Level Call"
  severity := .critical
  explanation := ""
  scenario :=
    "An attacker could force the external call to fail (e.g., by consuming all gas), but the contract continues " ++
    "assuming the call succeeded, potentially leading to incorrect state or loss of funds."
  recommendation :=
    "Always check the return value: require(success, \"Call failed\"); or use if-statement to handle failure."
  snippet := Text.lines [
    "// Vulnerable:",
    "(bool success, ) = target.call(data);",
    "// continues without checking success",
    "",
    "// Fixed:",
    "(bool success, ) = target.call(data);",
    "require(success, \"Call failed\");"]
  references := ["SWC-104: Unchecked Call Return Value", "CWE-252: Unchecked Return Value"]
  confidence := percent 95

def uncheckedCallFinding (call : ExternalCall) : Finding :=
  { uncheckedCallTemplate.finding
      ("Unchecked " ++ call.kind.label ++ "() return value") call.location with
    explanation := "The " ++ call.kind.label ++ "() function returns a boolean indicating success or failure. Not " ++
      "checking this return value means the contract will continue execution even if the call failed." }

/-- One finding for every call that returns a status and is not checked. -/
def uncheckedCall : Predicate := fun _ c =>
  .ok ((c.calls.filter fun call => call.kind.returnsStatus && !call.checked).map uncheckedCallFinding)

/-- Code of another contract run on the own storage. -/
def delegatecallInfo : RuleInfo where
  id := "DC-01"
  name := "Delegatecall to Untrusted Address"
  severity := .critical
  description := "Delegatecall to user-controlled addresses can lead to complete contract takeover"
  recommendation := "Whitelist approved contracts and restrict delegatecall usage"
  references := ["SWC-112"]
  confidence := percent 90

/-- What its findings share. -/
def delegatecallTemplate : FindingTemplate where
  id := "DC-01"
  name := "Delegatecall to Untrusted Address"
  severity := .critical
  explanation :=
    "Delegatecall executes code from another contract in the context of the calling contract, preserving " ++
    "msg.sender and storage. If the target is malicious or user-controlled, it can completely take over the " ++
    "contract."
  scenario :=
    "An attacker provides a malicious contract address that, when called via delegatecall, overwrites critical " ++
    "storage slots like the owner address, draining funds or destroying the contract."
  recommendation :=
    "Only use delegatecall with trusted, whitelisted contract addresses. Implement strict access controls and " ++
    "validate target addresses."
  snippet := Text.lines [
    "// Vulnerable:",
    "function execute(address target, bytes memory data) public \x7b",
    "  target.delegatecall(data); // target is user-controlled!",
    "\x7d",
    "",
    "// Fixed:",
    "mapping(address => bool) public trustedTargets;",
    "",
    "function execute(address target, bytes memory data) public onlyOwner \x7b",
    "  require(trustedTargets[target], \"Untrusted target\");",
    "  target.delegatecall(data);",
    "\x7d"]
  references := ["SWC-112: Delegatecall to Untrusted Callee", "Parity Wallet Hack (2017)"]
  confidence := percent 90

/-- One finding for every `delegatecall`; whether its target can be trusted is not decided. -/
def delegatecall : Predicate := fun _ c =>
  .ok ((c.calls.filter (·.kind == .delegatecall)).map fun call =>
    delegatecallTemplate.finding "Delegatecall usage detected - verify target address is trusted"
      call.location)

end ContractAudit.Catalogue
