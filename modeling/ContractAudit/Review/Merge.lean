import ContractAudit.Review.Basic

/-!
# Merging a review

The findings of the rules are joined with what a review came to. Proposals are added behind them, then all findings
that the review dismisses are taken out.
-/

namespace ContractAudit.Review

open Numeric (Binary)

/-- What became of a review. -/
inductive Outcome where
  | skipped
  | failed (error : ReviewError)
  | completed (analysis : Analysis)

/-- What goes into a report. -/
structure Merged where
  findings : List Finding
  score : Binary
  summary : String
  gas : List GasOptimization
  practices : List BestPractice
  model : Option String
deriving DecidableEq, Repr

def skippedSummary : String := "Semantic analysis skipped; risk score derived from pattern-based findings only."

def unavailableSummary : String := "Semantic analysis unavailable"

/-- The id of a proposal: nine hexadecimal digits of a number that is drawn for it. -/
def proposalId (n : Nat) : String :=
  let digits := Nat.toDigits 16 (n % Nat.pow 16 9)
  "AI-" ++ String.ofList (List.replicate (9 - digits.length) '0' ++ digits)

/-- The finding of a proposal whose severity is one. -/
def Proposal.finding? (p : Proposal) (id file : String) : Option Finding :=
  (Severity.read? p.severity).map fun severity =>
    { id, name := p.description, severity, description := p.description
      location := if p.location.file.isEmpty then { p.location with file } else p.location
      explanation := p.description, scenario := p.recommendation, recommendation := p.recommendation
      snippet := "", references := ["AI Analysis"], confidence := percent 70 }

/-- The findings of proposals; `ids` gives an id for every place in the list. -/
def findingsOf (ids : Nat → String) (file : String) (proposals : List Proposal) : List Finding :=
  proposals.zipIdx.filterMap fun (p, i) => p.finding? (ids i) file

def Analysis.merge (a : Analysis) (ids : Nat → String) (file : String) (findings : List Finding) : Merged where
  findings := (findings ++ findingsOf ids file a.proposals).filter fun f => !a.dismissed.contains f.id
  score := Risk.clamp a.score
  summary := a.summary
  gas := a.gas
  practices := a.practices
  model := a.model

def Outcome.merge (outcome : Outcome) (ids : Nat → String) (file : String) (findings : List Finding) : Merged :=
  match outcome with
  | skipped => ⟨findings, Risk.score findings, skippedSummary, [], [], none⟩
  | failed _ => ⟨findings, Risk.neutral, unavailableSummary, [], [], none⟩
  | completed analysis => analysis.merge ids file findings

end ContractAudit.Review
