import ContractAudit.Config.Basic
import ContractAudit.Rule.Basic
import ContractAudit.Solidity.Declaration
import ContractAudit.Text.Message

/-!
# Failures

What ends an audit, and the wording of what only takes something out of it: a declaration that lacks a part, or a rule
that fails on a contract.
-/

namespace ContractAudit

/-- Why there is no report. -/
inductive AuditError where
  | unreadable (detail : String)
  | grammar (detail : String)
  | rule (error : RuleError)
  | config (error : ConfigError)
deriving DecidableEq, Repr

namespace AuditError

def ofSyntax (e : Solidity.SyntaxError) : AuditError := unreadable e.message

def configMessage (detail : String) : String := "invalid auditor configuration: " ++ detail

def message : AuditError → String
  | unreadable detail => "failed to parse contract source: " ++ detail
  | grammar detail => "solidity grammar could not be loaded: " ++ detail
  | rule error => error.message
  | config error => configMessage error.message

end AuditError

/-- A declaration without a part that it needs. -/
structure MissingPart where
  declaration : String
  part : String
  line : Nat
deriving DecidableEq, Repr

def MissingPart.message (m : MissingPart) : String :=
  m.declaration ++ " declaration at line " ++ toString m.line ++ " is missing its `" ++ m.part ++ "`"

/-- A rule that failed on a contract. -/
structure RuleFailure where
  ruleId : String
  contract : String
  trace : Text.Trace
deriving DecidableEq, Repr

def RuleFailure.message (f : RuleFailure) : String :=
  "rule `" ++ f.ruleId ++ "` failed on contract `" ++ f.contract ++ "`: " ++ f.trace.text

end ContractAudit
