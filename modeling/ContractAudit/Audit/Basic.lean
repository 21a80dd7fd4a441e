import ContractAudit.Audit.Error
import ContractAudit.Review.Merge
import ContractAudit.Rule.Catalogue
import ContractAudit.Rule.Scan
import ContractAudit.Text.Message

/-!
# Audits

An audit reads a contract, evaluates the rules, has the result reviewed, and writes the report. Only a source in which
nothing is recognized, or rules that cannot be installed, end it without a report: a review that fails leaves the
findings of the rules as they are.
-/

namespace ContractAudit

open Solidity (SourceUnit)
open Review (Reviewer Request Outcome Merged)

/-- The contract to audit: its text, and the tree of that text. -/
structure Subject where
  name : String
  source : String
  tree : Tree.Node

structure Options where
  /-- Is the reviewer asked? -/
  review : Bool
  /-- Ids of rules that are left out. -/
  skip : List String
  /-- Rules that replace one of the same id or come in addition. -/
  custom : List Rule

/-- What differs from one run to the next: ids, the time, and how long it took. -/
structure Occasion where
  reportId : String
  proposalId : Nat → String
  now : Time.Timestamp
  milliseconds : Nat

structure Auditor where
  registry : Registry
  reviewer : Option Reviewer
  timeLimit : Time.Duration
  /-- Rules may be evaluated side by side, which does not show in the result. -/
  parallel : Bool
  file : String

/-- A finished audit, with what the reviewer was shown if it was asked. -/
structure Audited where
  report : Report
  request : Option Request

namespace Auditor

def defaultTimeLimit : Time.Duration := .ofSeconds 60

/-- Without a reviewer, and all else by default. -/
def ofRegistry (registry : Registry) : Auditor := ⟨registry, none, defaultTimeLimit, true, defaultFile⟩

/-- The findings of the rules. -/
def findings (a : Auditor) (subject : Subject) (options : Options) : Except AuditError (List Finding) := do
  let unit ← (SourceUnit.ofTree subject.source.toList subject.tree).mapError AuditError.ofSyntax
  let registry ← (a.registry.configured options.skip options.custom).mapError AuditError.rule
  return (Scan.ofUnit a.file subject.source unit).findings registry

/-- The reviewer that is asked, and what it is shown. -/
def request? (a : Auditor) (subject : Subject) (options : Options) (findings : List Finding) :
    Option (Reviewer × Request) :=
  if options.review then a.reviewer.map fun r => (r, ⟨a.file, subject.source, findings⟩) else none

/-- What becomes of the review. A reviewer that is there in name only is passed over. -/
def outcome (a : Auditor) (request : Option (Reviewer × Request)) : Outcome :=
  match request with
  | none => .skipped
  | some (reviewer, request) =>
    match reviewer.review request with
    | .late => .failed (.timeout a.timeLimit)
    | .answer (.ok analysis) => .completed analysis
    | .answer (.error .unconfigured) => .skipped
    | .answer (.error e) => .failed e

def draft (subject : Subject) (merged : Merged) (milliseconds : Nat) : Draft where
  contractName := subject.name
  source := subject.source
  findings := merged.findings
  score := merged.score
  context := merged.summary
  gas := merged.gas
  practices := merged.practices
  model := merged.model
  milliseconds := milliseconds

/-- Audits a contract. -/
def audit (a : Auditor) (subject : Subject) (options : Options) (occasion : Occasion) : Except AuditError Audited := do
  let findings ← a.findings subject options
  let request := a.request? subject options findings
  let merged := (a.outcome request).merge occasion.proposalId a.file findings
  let report := (draft subject merged occasion.milliseconds).report occasion.reportId occasion.now
  return ⟨report, request.map (·.2)⟩

/-- One line about an auditor. -/
def describe (a : Auditor) : String :=
  let model := match a.reviewer.bind (·.model) with
    | none => "None"
    | some m => "Some(" ++ Text.quote m ++ ")"
  "Auditor \x7b rules: " ++ toString a.registry.size ++ ", analyzer: " ++ model ++ ", analysis_timeout: " ++
    a.timeLimit.text ++ ", parallel_rules: " ++ toString a.parallel ++ ", file_name: " ++ Text.quote a.file ++ " \x7d"

end Auditor

end ContractAudit
