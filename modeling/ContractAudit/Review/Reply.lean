import ContractAudit.Json.Decode
import ContractAudit.Json.Reader
import ContractAudit.Json.Relaxed
import ContractAudit.Json.Repair
import ContractAudit.Review.Basic
import ContractAudit.Review.Payload

/-!
# Replies

The payload of a reply is read as JSON, failing that after a repair, and failing that in the relaxed notation. Every
part of an analysis may be missing from it.
-/

namespace ContractAudit.Review

open Json (Decoder)
open Numeric (Binary)

/-! ## Parts -/

/-- A line number: a whole number, the whole part of a positive number, or a text of digits; 0 if it is none of these. -/
def lineOf : Json → Nat
  | .number (.int n) => n.toNat
  | .number (.double (.finite negative significand exponent)) =>
    if negative then 0 else min (Binary.truncate significand exponent) Numeric.maxU64
  | .string s => (Numeric.readNat? Numeric.maxU64 (Text.trimChars s.toList)).getD 0
  | _ => 0

/-- A location, of which only the line is given. -/
def decodeLine : Decoder Nat := fun bound j => do
  let r ← Json.record? ["line"] bound j
  return ((← r.withDefault? 0 (Json.decodeOption Json.decodeAny) none).map lineOf).getD 0

def lineLocation (file : String) (line : Nat) : Location := { file, line, column := 0 }

def decodeProposal (file : String) : Decoder Proposal := fun bound j => do
  let r ← Json.record? ["description", "severity", "location", "recommendation"] bound j
  return {
    description := ← r.withDefault? 0 Json.decodeString ""
    severity := ← r.withDefault? 1 Json.decodeString ""
    location := lineLocation file (← r.withDefault? 2 decodeLine 0)
    recommendation := ← r.withDefault? 3 Json.decodeString "" }

/-- A difficulty that is missing or unknown counts as medium. -/
def decodeGas (file : String) : Decoder GasOptimization := fun bound j => do
  let r ← Json.record? ["description", "location", "estimatedSavings", "difficulty"] bound j
  return {
    description := ← r.withDefault? 0 Json.decodeString ""
    location := lineLocation file (← r.withDefault? 1 decodeLine 0)
    savings := ← r.withDefault? 2 Json.decodeString ""
    difficulty := (Difficulty.read? (← r.withDefault? 3 Json.decodeString "")).getD .medium }

def decodePractice (file : String) : Decoder BestPractice := fun bound j => do
  let r ← Json.record? ["description", "location", "category"] bound j
  return {
    description := ← r.withDefault? 0 Json.decodeString ""
    location := lineLocation file (← r.withDefault? 1 decodeLine 0)
    category := ← r.withDefault? 2 Json.decodeString "" }

/-! ## Analyses -/

/-- A score that is missing, zero or not finite counts as neutral. -/
def scoreOf : Option Binary → Binary
  | some value => if value.isFinite && !value.isZero then Risk.clamp value else Risk.neutral
  | none => Risk.neutral

def noSummary : String := "No summary available"

def summaryOf (text : Option String) : String :=
  match text.map Text.trim with
  | some s => if s.isEmpty then noSummary else s
  | none => noSummary

def decodeAnalysis (file : String) (model : Option String) : Decoder Analysis := fun bound j => do
  let r ← Json.record? ["overallRiskScore", "executiveSummary", "additionalVulnerabilities", "validatedFindings",
    "falsePositives", "gasOptimizations", "bestPracticeViolations"] bound j
  return {
    score := scoreOf (← r.withDefault? 0 (Json.decodeOption Json.decodeDouble) none)
    summary := summaryOf (← r.withDefault? 1 (Json.decodeOption Json.decodeString) none)
    proposals := ← r.withDefault? 2 (Json.decodeList (decodeProposal file)) []
    confirmed := ← r.withDefault? 3 (Json.decodeList Json.decodeString) []
    dismissed := ← r.withDefault? 4 (Json.decodeList Json.decodeString) []
    gas := ← r.withDefault? 5 (Json.decodeList (decodeGas file)) []
    practices := ← r.withDefault? 6 (Json.decodeList (decodePractice file)) []
    model }

/-! ## Reading -/

/-- The value of a text that is JSON as it stands. -/
def strict? {α : Type} (decoder : Decoder α) (text : String) : Option α :=
  (Json.read? text).bind (decoder Json.strictBound)

/-- The value of a payload: as it stands, repaired, or repaired and in the relaxed notation, in which the levels of
nesting are not bounded. -/
def readPayload {α : Type} (decoder : Decoder α) (text : String) : Except ReviewError α :=
  match strict? decoder text with
  | some a => .ok a
  | none =>
    let repaired := Json.repair text
    match strict? decoder repaired with
    | some a => .ok a
    | none =>
      match Json.Relaxed.read? repaired with
      | none => .error (.malformed "invalid JSON")
      | some j =>
        match decoder (j.depth + 2) j with
        | none => .error (.malformed "unexpected analysis shape")
        | some a => .ok a

/-- The analysis of a reply; `file` is attached to every location. -/
def readReply (raw file : String) (model : Option String) : Except ReviewError Analysis :=
  readPayload (decodeAnalysis file model) (String.ofList (payload raw.toList))

end ContractAudit.Review
