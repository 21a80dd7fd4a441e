import ContractAudit.Facts.Contract
import ContractAudit.Finding.Basic
import ContractAudit.Pattern.Search
import ContractAudit.Text.Message

/-!
# Rules

A rule finds a weakness either by a pattern in the source text or by a predicate on the facts of a contract. A rule
that is put to use has an id, a name, a pattern that is not blank, and a confidence between zero and one.
-/

namespace ContractAudit

open Numeric (Binary)
open Solidity (SourceUnit)
open Facts (ContractFacts)

/-- What a rule says about itself. -/
structure RuleInfo where
  id : String
  name : String
  severity : Severity
  description : String
  recommendation : String
  references : List String
  /-- Confidence of the findings by pattern. -/
  confidence : Binary
deriving DecidableEq, Repr

/-- A predicate on the contracts of a file. It may fail, which counts as finding nothing. -/
abbrev Predicate := SourceUnit → ContractFacts → Except String (List Finding)

inductive Matcher where
  /-- One finding for every occurrence in the source. -/
  | lexical (pattern : Pattern)
  /-- Evaluated once for every contract. -/
  | structural (predicate : Predicate)

def Matcher.kind : Matcher → String
  | lexical _ => "lexical"
  | structural _ => "structural"

/-- A matcher in the words of a diagnosis. -/
def Matcher.show : Matcher → String
  | lexical p => "Lexical(" ++ Text.quote p.text ++ ")"
  | structural _ => "Structural(..)"

structure Rule extends RuleInfo where
  matcher : Matcher

/-- What is wrong with a rule or with a list of rules. -/
inductive RuleError where
  | blankId
  | blankName (id : String)
  | blankPattern (id : String)
  | invalidPattern (id : String)
  | confidence (id : String) (value : Binary)
  | duplicateId (id : String)
deriving DecidableEq, Repr

def RuleError.message : RuleError → String
  | blankId => "rule id must not be blank"
  | blankName id => "rule `" ++ id ++ "` name must not be blank"
  | blankPattern id => "rule `" ++ id ++ "` pattern must not be empty"
  | invalidPattern id => "rule `" ++ id ++ "` pattern does not compile"
  | confidence id value =>
    "rule `" ++ id ++ "` confidence must be within 0.0..=1.0 (got " ++ confidenceText value ++ ")"
  | duplicateId id => "duplicate rule id `" ++ id ++ "`"

namespace Rule

/-- The text of a pattern. -/
def patternText? (r : Rule) : Option String :=
  match r.matcher with
  | .lexical p => some p.text
  | .structural _ => none

def check (r : Rule) : Except RuleError Unit :=
  if Text.isBlankText r.id then .error .blankId
  else if Text.isBlankText r.name then .error (.blankName r.id)
  else if r.patternText?.any Text.isBlankText then .error (.blankPattern r.id)
  else if !isConfidence r.confidence then .error (.confidence r.id r.confidence)
  else .ok ()

/-- The rule itself, if it passes its check. -/
def checked (r : Rule) : Except RuleError Rule := r.check.map fun _ => r

/-- A rule by pattern. A blank pattern is refused before it is compiled, and all else after that. -/
def lexical (compiler : Pattern.Compiler) (info : RuleInfo) (text : String) : Except RuleError Rule :=
  if Text.isBlankText text then .error (.blankPattern info.id)
  else match compiler text with
    | none => .error (.invalidPattern info.id)
    | some program => checked { info with matcher := .lexical ⟨text, program⟩ }

/-- A rule by predicate. -/
def structural (info : RuleInfo) (predicate : Predicate) : Except RuleError Rule :=
  checked { info with matcher := .structural predicate }

end Rule

/-! ## Findings of a rule -/

/-- What all findings of a structural rule share. It names the rule and its severity once more. -/
structure FindingTemplate where
  id : String
  name : String
  severity : Severity
  explanation : String
  scenario : String
  recommendation : String
  snippet : String
  references : List String
  confidence : Binary

def FindingTemplate.finding (t : FindingTemplate) (description : String) (location : Location) : Finding where
  id := t.id
  name := t.name
  severity := t.severity
  description := description
  location := location
  explanation := t.explanation
  scenario := t.scenario
  recommendation := t.recommendation
  snippet := t.snippet
  references := t.references
  confidence := t.confidence

end ContractAudit
