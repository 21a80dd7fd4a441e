import ContractAudit.Finding.Risk
import ContractAudit.Time.Timestamp

/-!
# Reports

The result of an audit: a summary, the findings from the most to the least severe, suggestions, and an assessment of
the risk. `Draft.report` derives all of it from the findings and the score.
-/

namespace ContractAudit

open Numeric (Binary)

/-- How much work a suggestion takes. -/
inductive Difficulty where
  | low
  | medium
  | high
deriving DecidableEq, Repr

namespace Difficulty

def label : Difficulty → String
  | low => "LOW"
  | medium => "MEDIUM"
  | high => "HIGH"

/-- Labels are read in any case, with blanks around them. -/
def read? (text : String) : Option Difficulty :=
  [low, medium, high].find? fun d => Text.eqIgnoreAsciiCase d.label (Text.trim text)

end Difficulty

structure GasOptimization where
  description : String
  location : Location
  savings : String
  difficulty : Difficulty
deriving DecidableEq, Repr

structure BestPractice where
  description : String
  location : Location
  category : String
deriving DecidableEq, Repr

structure Summary where
  total : Nat
  critical : Nat
  high : Nat
  medium : Nat
  low : Nat
  info : Nat
  score : Binary
  recommendation : Risk.Recommendation
  /-- Names of the first blocking findings. -/
  topConcerns : List String
deriving DecidableEq, Repr

structure Assessment where
  score : Binary
  /-- Number of findings of every category, by increasing name. -/
  categories : List (String × Nat)
  context : String
deriving DecidableEq, Repr

structure Provenance where
  analysisVersion : String
  rulesVersion : String
  model : Option String
  milliseconds : Nat
deriving DecidableEq, Repr

structure Report where
  id : String
  timestamp : Time.Timestamp
  contractName : String
  source : String
  summary : Summary
  findings : List Finding
  gas : List GasOptimization
  practices : List BestPractice
  assessment : Assessment
  provenance : Provenance
deriving DecidableEq, Repr

/-! ## Making a report -/

/-- What a report is made of, the findings in any order. -/
structure Draft where
  contractName : String
  source : String
  findings : List Finding
  score : Binary
  context : String
  gas : List GasOptimization
  practices : List BestPractice
  model : Option String
  milliseconds : Nat

def countOf (s : Severity) (findings : List Finding) : Nat := findings.countP fun f => f.severity == s

/-- The names of the first three findings that block a deployment. -/
def topConcerns (findings : List Finding) : List String :=
  ((findings.filter fun f => f.severity.isBlocking).take 3).map (·.name)

/-- Counts one more for a name, in a list ordered by name. -/
def countName (name : String) : List (String × Nat) → List (String × Nat)
  | [] => [(name, 1)]
  | (n, k) :: rest =>
    if name < n then (name, 1) :: (n, k) :: rest
    else if name = n then (n, k + 1) :: rest
    else (n, k) :: countName name rest

/-- The number of findings of every category. -/
def categoryCounts (findings : List Finding) : List (String × Nat) :=
  findings.foldl (fun counts f => countName f.category counts) []

/-- From the most to the least severe, findings of one severity in their order. -/
def sortBySeverity (findings : List Finding) : List Finding :=
  findings.mergeSort fun a b => a.severity.rank ≤ b.severity.rank

def analysisVersion : String := "0.1.0"

def rulesVersion : String := "1.0.0"

def Draft.summary (d : Draft) : Summary where
  total := d.findings.length
  critical := countOf .critical d.findings
  high := countOf .high d.findings
  medium := countOf .medium d.findings
  low := countOf .low d.findings
  info := countOf .info d.findings
  score := d.score
  recommendation := Risk.recommend (0 < countOf .critical d.findings) (0 < countOf .high d.findings) d.score
  topConcerns := topConcerns d.findings

/-- The report with an id, made at an instant. -/
def Draft.report (d : Draft) (id : String) (now : Time.Timestamp) : Report where
  id := id
  timestamp := now
  contractName := d.contractName
  source := d.source
  summary := d.summary
  findings := sortBySeverity d.findings
  gas := d.gas
  practices := d.practices
  assessment := ⟨d.score, categoryCounts d.findings, d.context⟩
  provenance := ⟨analysisVersion, rulesVersion, d.model, d.milliseconds⟩

end ContractAudit
