import ContractAudit.Report.Basic
import ContractAudit.Text.Message
import ContractAudit.Time.Duration

/-!
# Semantic reviews

A reviewer reads a contract together with the findings of the rules, and answers with an analysis.
-/

namespace ContractAudit.Review

open Numeric (Binary)

/-- What a reviewer is shown. -/
structure Request where
  file : String
  source : String
  findings : List Finding
deriving DecidableEq, Repr

/-- A finding as a reviewer puts it; its severity is a text that may not name one. -/
structure Proposal where
  description : String
  severity : String
  location : Location
  recommendation : String
deriving DecidableEq, Repr

/-- What a reviewer has to say. -/
structure Analysis where
  score : Binary
  summary : String
  proposals : List Proposal
  /-- Ids of findings that the reviewer agrees with. -/
  confirmed : List String
  /-- Ids of findings that the reviewer holds to be false alarms. -/
  dismissed : List String
  gas : List GasOptimization
  practices : List BestPractice
  model : Option String
deriving DecidableEq, Repr

/-- Why there is no analysis. -/
inductive ReviewError where
  | unconfigured
  | timeout (limit : Time.Duration)
  | request (trace : Text.Trace)
  | malformed (detail : String)
deriving DecidableEq, Repr

def ReviewError.message : ReviewError → String
  | unconfigured => "semantic analysis is not configured"
  | timeout limit => "semantic analysis timed out after " ++ limit.text
  | request trace => "semantic analysis request failed: " ++ trace.text
  | malformed detail => "semantic analysis returned malformed data: " ++ detail

/-- What a reviewer does with a request: it answers, or not in time. -/
inductive Response where
  | answer (result : Except ReviewError Analysis)
  | late

structure Reviewer where
  model : Option String
  review : Request → Response

/-- A reviewer that is there in name only. -/
def idle : Reviewer := ⟨none, fun _ => .answer (.error .unconfigured)⟩

end ContractAudit.Review
