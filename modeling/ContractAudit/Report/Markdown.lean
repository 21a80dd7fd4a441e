import ContractAudit.Report.Basic

/-!
# Reports as Markdown

The report as a list of lines. Scores have one place, confidences none, both rounded from the exact value with ties to
even.
-/

namespace ContractAudit

namespace Markdown

def severityMark : Severity → String
  | .critical => "🔴"
  | .high => "🟠"
  | .medium => "🟡"
  | .low => "🔵"
  | .info => "⚪"

def recommendationMark : Risk.Recommendation → String
  | .safe => "✅"
  | .review => "⚠️"
  | .doNotDeploy => "🚫"

/-- A score out of ten. -/
def scoreText (score : Numeric.Binary) : String := Numeric.fixed 1 score ++ "/10"

/-- A confidence in percent, computed with the precision of the confidence. -/
def confidencePercent (confidence : Numeric.Binary) : String :=
  Numeric.fixed 0 (Numeric.binary32.mul confidence (Numeric.binary32.ofNat 100)) ++ "%"

def locationText (l : Location) : String :=
  match l.function with
  | some f => "Line " ++ toString l.line ++ " in function `" ++ f ++ "`"
  | none => "Line " ++ toString l.line

/-- Lines that start with the number of their item. -/
def numbered {α : Type} (items : List α) (lines : String → α → List String) : List String :=
  (items.mapIdx fun i item => lines (toString (i + 1) ++ ". ") item).flatten

def header (r : Report) : List String := [
  "# Smart Contract Security Audit Report",
  "",
  "**Contract:** " ++ r.contractName,
  "**Date:** " ++ r.timestamp.text "+00:00",
  "**Report ID:** " ++ r.id,
  ""]

def summary (s : Summary) : List String := [
  "## Executive Summary",
  "",
  "**Overall Risk Score:** " ++ scoreText s.score,
  "**Deployment Recommendation:** " ++ recommendationMark s.recommendation ++ " " ++ s.recommendation.label,
  "",
  "**Vulnerabilities Found:**",
  "- 🔴 Critical: " ++ toString s.critical,
  "- 🟠 High: " ++ toString s.high,
  "- 🟡 Medium: " ++ toString s.medium,
  "- 🔵 Low: " ++ toString s.low,
  "- ⚪ Info: " ++ toString s.info,
  ""] ++
  if s.topConcerns.isEmpty then []
  else "**Top Concerns:**" :: numbered s.topConcerns (fun n concern => [n ++ concern]) ++ [""]

def textPart (heading text : String) : List String := ["**" ++ heading ++ ":**", text, ""]

def finding (f : Finding) : List String := [
  "### " ++ severityMark f.severity ++ " " ++ f.name ++ " [" ++ f.id ++ "]",
  "**Severity:** " ++ f.severity.label,
  "**Location:** " ++ locationText f.location,
  "**Confidence:** " ++ confidencePercent f.confidence,
  ""] ++
  textPart "Description" f.description ++
  textPart "Technical Explanation" f.explanation ++
  textPart "Exploit Scenario" f.scenario ++
  textPart "Recommendation" f.recommendation ++
  (if f.snippet.isEmpty then [] else ["**Code:**", "```solidity", f.snippet, "```", ""]) ++
  (if f.references.isEmpty then [] else ["**References:** " ++ String.intercalate ", " f.references, ""]) ++
  ["---", ""]

def findings (fs : List Finding) : List String :=
  ["## Detailed Findings", ""] ++
  (if fs.isEmpty then ["No vulnerabilities detected.", ""] else []) ++
  fs.flatMap finding

def gas (items : List GasOptimization) : List String :=
  if items.isEmpty then []
  else ["## Gas Optimization Opportunities", ""] ++
    numbered items (fun n item => [
      n ++ "**" ++ item.description ++ "** (Line " ++ toString item.location.line ++ ")",
      "   - Estimated Savings: " ++ item.savings,
      "   - Difficulty: " ++ item.difficulty.label]) ++
    [""]

def practices (items : List BestPractice) : List String :=
  if items.isEmpty then []
  else ["## Best Practice Violations", ""] ++
    numbered items (fun n item =>
      [n ++ "**" ++ item.category ++ ":** " ++ item.description ++ " (Line " ++ toString item.location.line ++ ")"]) ++
    [""]

def assessment (a : Assessment) : List String :=
  ["## Risk Assessment", "", "**Overall Risk Score:** " ++ scoreText a.score, ""] ++
  (if a.context.isEmpty then [] else [a.context, ""]) ++
  "**Category Breakdown:**" :: a.categories.map (fun (name, count) => "- " ++ name ++ ": " ++ toString count) ++
  [""]

def provenance (p : Provenance) : List String := [
  "## Audit Metadata",
  "",
  "- **Analysis Version:** " ++ p.analysisVersion,
  "- **Rules Version:** " ++ p.rulesVersion,
  "- **AI Model:** " ++ p.model.getD "none",
  "- **Analysis Time:** " ++ toString p.milliseconds ++ "ms",
  "",
  "---",
  "",
  "*Generated by solguard " ++ p.analysisVersion ++ "*"]

end Markdown

def Report.markdown (r : Report) : String :=
  Text.lines (Markdown.header r ++ Markdown.summary r.summary ++ Markdown.findings r.findings ++ Markdown.gas r.gas ++
    Markdown.practices r.practices ++ Markdown.assessment r.assessment ++ Markdown.provenance r.provenance)

end ContractAudit
