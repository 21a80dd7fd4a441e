import ContractAudit.Numeric.Layout
import ContractAudit.Text.Blank
import ContractAudit.Text.Lines

/-!
# Findings

What an audit reports: a severity, a place, texts and a confidence. A well-formed finding has an id and a confidence
between zero and one.
-/

namespace ContractAudit

open Numeric (Binary)

/-! ## Severity -/

/-- From the most to the least severe. -/
inductive Severity where
  | critical
  | high
  | medium
  | low
  | info
deriving DecidableEq, Repr, Inhabited

namespace Severity

def all : List Severity := [critical, high, medium, low, info]

def label : Severity → String
  | critical => "CRITICAL"
  | high => "HIGH"
  | medium => "MEDIUM"
  | low => "LOW"
  | info => "INFO"

/-- Place in the ranking; the most severe comes first. -/
def rank : Severity → Nat
  | critical => 0
  | high => 1
  | medium => 2
  | low => 3
  | info => 4

/-- Halves that a finding of this severity weighs. -/
def halves : Severity → Nat
  | critical => 8
  | high => 6
  | medium => 4
  | low => 2
  | info => 1

def weight (s : Severity) : Binary := Numeric.binary64.round false s.halves 2

/-- Labels are read in any case, with blanks around them. -/
def read? (text : String) : Option Severity :=
  all.find? fun s => Text.eqIgnoreAsciiCase s.label (Text.trim text)

/-- Severe enough to stop a deployment. -/
def isBlocking : Severity → Bool
  | critical | high => true
  | _ => false

end Severity

/-! ## Places -/

/-- A place in a file, with the function and the contract around it if they are known. -/
structure Location where
  file : String
  line : Nat
  column : Nat
  function : Option String := none
  contract : Option String := none
deriving DecidableEq, Repr, Inhabited

namespace Location

def ofPosition (file : String) (pos : Text.Position) : Location := { file, line := pos.line, column := pos.column }

/-- Somewhere in the file. -/
def unknown (file : String) : Location := { file, line := 0, column := 0 }

def inFunction (l : Location) (name : String) : Location := { l with function := some name }

def inContract (l : Location) (name : String) : Location := { l with contract := some name }

end Location

/-- The file name if none is given. -/
def defaultFile : String := "contract.sol"

/-! ## Findings -/

structure Finding where
  id : String
  name : String
  severity : Severity
  description : String
  location : Location
  explanation : String
  scenario : String
  recommendation : String
  snippet : String
  references : List String
  confidence : Binary
deriving DecidableEq, Repr, Inhabited

inductive FindingError where
  | blankId
  | confidence (id : String) (value : Binary)
deriving DecidableEq, Repr

/-- A confidence in the words of a message. -/
def confidenceText (value : Binary) : String := Numeric.messageLayout.text Numeric.binary32 value

def FindingError.message : FindingError → String
  | blankId => "finding id must not be blank"
  | confidence id value =>
    "finding `" ++ id ++ "` confidence must be within 0.0..=1.0 (got " ++ confidenceText value ++ ")"

/-- Between zero and one, both included. -/
def isConfidence (value : Binary) : Bool :=
  Numeric.binary32.zero.le value && value.le (Numeric.binary32.ofNat 1)

/-- A confidence in hundredths. -/
def percent (n : Nat) : Binary := Numeric.binary32.ofDecimal false n (-2)

namespace Finding

/-- The part of the id before its first dash. -/
def category (f : Finding) : String := String.ofList (f.id.toList.takeWhile (· != '-'))

def check (f : Finding) : Except FindingError Unit :=
  if Text.isBlankText f.id then .error .blankId
  else if !isConfidence f.confidence then .error (.confidence f.id f.confidence)
  else .ok ()

end Finding

end ContractAudit
