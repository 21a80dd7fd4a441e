import ContractAudit.Rule.Basic

/-!
# Rules by pattern

What can be seen in the text of a source alone.
-/

namespace ContractAudit.Catalogue

open Facts

/-- Payable functions that are open to all. -/
def frontRunningInfo : RuleInfo where
  id := "FR-01"
  name := "Front-Running Vulnerability"
  severity := .high
  description := "Price or state changes visible before execution can be front-run"
  recommendation := "Use commit-reveal scheme for sensitive operations"
  references := ["Front-Running", "MEV"]
  confidence := percent 50

/-- Block properties as a source of randomness. -/
def weakRandomnessInfo : RuleInfo where
  id := "RN-01"
  name := "Weak Randomness Source"
  severity := .high
  description := "Using block properties for randomness is predictable"
  recommendation := "Use Chainlink VRF or similar oracle for secure randomness"
  references := ["SWC-120", "Predictable Randomness"]
  confidence := percent 60

/-- Logic that depends on the time of a block. -/
def timestampDependenceInfo : RuleInfo where
  id := "TD-01"
  name := "Timestamp Dependence"
  severity := .medium
  description := "Usage of block.timestamp for critical logic can be manipulated by miners"
  recommendation := "Use block.number for time-sensitive logic or accept miner manipulation risk"
  references := ["SWC-116"]
  confidence := percent 60

/-- Authorization by the origin of a transaction. -/
def txOriginInfo : RuleInfo where
  id := "TX-01"
  name := "Tx.origin Authentication"
  severity := .medium
  description := "Using tx.origin for authorization is vulnerable to phishing attacks"
  recommendation := "Use msg.sender instead of tx.origin for authentication"
  references := ["SWC-115"]
  confidence := percent 80

/-- A pragma that does not fix the compiler. -/
def floatingPragmaInfo : RuleInfo where
  id := "FP-01"
  name := "Floating Pragma"
  severity := .medium
  description := "Pragma version not locked to specific compiler version"
  recommendation := "Lock pragma to specific Solidity version for production contracts"
  references := ["SWC-103"]
  confidence := percent 90

/-- Loops over arrays of any length. -/
def unboundedLoopInfo : RuleInfo where
  id := "DOS-01"
  name := "DoS with Block Gas Limit"
  severity := .medium
  description := "Unbounded loops over dynamic arrays can lead to DoS"
  recommendation := "Implement pagination or pull pattern for large arrays"
  references := ["SWC-128"]
  confidence := percent 60

/-- Local structs without a storage location. -/
def uninitializedStorageInfo : RuleInfo where
  id := "US-01"
  name := "Uninitialized Storage Pointers"
  severity := .medium
  description := "Local structs without explicit storage location can corrupt state"
  recommendation := "Explicitly declare memory or storage for struct variables"
  references := ["SWC-109"]
  confidence := percent 50

/-- Address parameters of open functions. -/
def shortAddressInfo : RuleInfo where
  id := "SA-01"
  name := "Short Address Attack"
  severity := .low
  description := "Missing input validation for address length"
  recommendation := "Validate address parameter length"
  references := ["Short Address Attack"]
  confidence := percent 40

/-- Uses of `assert`. -/
def assertMisuseInfo : RuleInfo where
  id := "AR-01"
  name := "Improper Use of Assert"
  severity := .low
  description := "Assert should only be used for invariants, not input validation"
  recommendation := "Use require() for input validation, assert() only for invariants"
  references := ["Best Practice"]
  confidence := percent 60

end ContractAudit.Catalogue
