import ContractAudit.Rule.Registry
import ContractAudit.Text.Lines

/-!
# Scanning a source

The findings of a registry in the order of its rules. A rule by pattern reports every occurrence with its line; a
structural rule reports what its predicate says of each contract, without findings that are not well formed.
-/

namespace ContractAudit

open Solidity (SourceUnit)
open Facts (ContractFacts)

/-- What the rules look at. -/
structure Scan where
  file : String
  source : List Char
  unit : SourceUnit
  contracts : List ContractFacts

namespace Scan

def ofUnit (file source : String) (unit : SourceUnit) : Scan := ⟨file, source.toList, unit, Facts.ofUnit file unit⟩

/-- The place of a byte offset, inside the first contract around it. -/
def locate (scan : Scan) (lines : Text.LineIndex) (offset : Nat) : Location :=
  { Location.ofPosition scan.file (lines.position offset) with contract := scan.unit.contractAt? offset }

/-- The finding of an occurrence, which shows at most 80 characters of it and 240 of its line. -/
def lexicalFinding (scan : Scan) (lines : Text.LineIndex) (info : RuleInfo) (m : Pattern.Match) : Finding :=
  let location := scan.locate lines m.start
  let shown := Text.truncate 80 (Text.trimChars (Text.slice scan.source m.start m.stop))
  { id := info.id
    name := info.name
    severity := info.severity
    description := info.description
    location
    explanation := info.description
    scenario := "Source text `" ++ shown ++ "` at line " ++ toString location.line ++ " matches this pattern."
    recommendation := info.recommendation
    snippet := Text.truncate 240 (Text.trimChars (lines.lineText scan.source location.line))
    references := info.references
    confidence := info.confidence }

/-- The findings of matches; one that is empty is passed over. -/
def lexicalFindings (scan : Scan) (info : RuleInfo) (found : List Pattern.Match) : List Finding :=
  let lines := Text.LineIndex.ofChars scan.source
  (found.filter fun m => m.start < m.stop).map (scan.lexicalFinding lines info)

/-- The well-formed findings of a predicate on one contract; none if it fails. -/
def structuralFindings (scan : Scan) (predicate : Predicate) (c : ContractFacts) : List Finding :=
  match predicate scan.unit c with
  | .ok findings => findings.filter fun f => f.check.isOk
  | .error _ => []

/-- The findings of one rule. -/
def ruleFindings (scan : Scan) (r : Rule) : List Finding :=
  match r.matcher with
  | .lexical pattern => scan.lexicalFindings r.toRuleInfo (pattern.program.findAll scan.source)
  | .structural predicate => scan.contracts.flatMap (scan.structuralFindings predicate)

/-- The findings of all rules of a registry. -/
def findings (scan : Scan) (reg : Registry) : List Finding := reg.rules.flatMap scan.ruleFindings

end Scan

end ContractAudit
