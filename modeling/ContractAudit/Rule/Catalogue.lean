import ContractAudit.Rule.Catalogue.Arithmetic
import ContractAudit.Rule.Catalogue.Interface
import ContractAudit.Rule.Catalogue.LowLevelCalls
import ContractAudit.Rule.Catalogue.Privileges
import ContractAudit.Rule.Catalogue.Storage
import ContractAudit.Rule.Catalogue.Wording
import ContractAudit.Rule.Registry

/-!
# The built-in rules

Twenty rules, from the most to the least severe. The registry keeps this order, and so do the findings.
-/

namespace ContractAudit

/-- A rule before its checks: what it says about itself, with a predicate or with the text of a pattern. -/
inductive RuleDraft where
  | byPredicate (info : RuleInfo) (predicate : Predicate)
  | byPattern (info : RuleInfo) (text : String)

def RuleDraft.rule (compiler : Pattern.Compiler) : RuleDraft → Except RuleError Rule
  | byPredicate info predicate => Rule.structural info predicate
  | byPattern info text => Rule.lexical compiler info text

namespace Catalogue

def drafts : List RuleDraft := [
  .byPredicate reentrancyInfo reentrancy,
  .byPredicate uncheckedCallInfo uncheckedCall,
  .byPredicate delegatecallInfo delegatecall,
  .byPredicate overflowInfo overflow,
  .byPredicate accessControlInfo accessControl,
  .byPredicate selfdestructInfo selfdestruct,
  .byPattern frontRunningInfo "function\\s+\\w+.*public.*payable|function\\s+\\w+.*external.*payable",
  .byPattern weakRandomnessInfo "block\\.timestamp|block\\.number|block\\.difficulty|blockhash",
  .byPattern timestampDependenceInfo "block\\.timestamp|\\bnow\\b",
  .byPattern txOriginInfo "tx\\.origin",
  .byPattern floatingPragmaInfo "pragma\\s+solidity\\s+[\\^~]",
  .byPattern unboundedLoopInfo "for\\s*\\([^)]*\\.length",
  .byPattern uninitializedStorageInfo "struct\\s+\\w+\\s+\\w+\\s*;",
  .byPredicate zeroAddressInfo zeroAddress,
  .byPredicate unusedVariableInfo unusedVariable,
  .byPredicate missingEventInfo missingEvent,
  .byPattern shortAddressInfo "function.*\\(.*address.*\\).*external|function.*\\(.*address.*\\).*public",
  .byPattern assertMisuseInfo "assert\\s*\\(",
  .byPredicate packingInfo packing,
  .byPredicate publicToExternalInfo publicToExternal]

def rules (compiler : Pattern.Compiler) : Except RuleError (List Rule) := drafts.mapM (RuleDraft.rule compiler)

end Catalogue

/-- The registry of the built-in rules. -/
def Registry.builtin (compiler : Pattern.Compiler) : Except RuleError Registry := do
  Registry.ofRules (← Catalogue.rules compiler)

end ContractAudit
