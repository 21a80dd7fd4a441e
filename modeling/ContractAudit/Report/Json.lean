import ContractAudit.Json.Decode
import ContractAudit.Json.Printer
import ContractAudit.Json.Reader
import ContractAudit.Report.Basic

/-!
# Reports as JSON

A report is written with all its fields, apart from a function or contract that is not known. It can be read back from
that text and from others that say the same.
-/

namespace ContractAudit

open Json (Decoder Record)

/-! ## Locations and findings -/

def Location.toJson (l : Location) : Json :=
  .object ([("file", .string l.file), ("line", .nat l.line), ("column", .nat l.column)] ++
    (l.function.map fun f => ("function_name", Json.string f)).toList ++
    (l.contract.map fun c => ("contract_name", Json.string c)).toList)

def Location.decode : Decoder Location := fun bound j => do
  let r ← Json.record? ["file", "line", "column", "function_name", "contract_name"] bound j
  return {
    file := ← r.required? 0 Json.decodeString
    line := ← r.required? 1 Json.decodeNat
    column := ← r.required? 2 Json.decodeNat
    function := ← r.withDefault? 3 (Json.decodeOption Json.decodeString) none
    contract := ← r.withDefault? 4 (Json.decodeOption Json.decodeString) none }

def strings (ss : List String) : Json := .array (ss.map Json.string)

def Severity.ofLabel? (label : String) : Option Severity := Severity.all.find? (·.label == label)

def Finding.toJson (f : Finding) : Json :=
  .object [("id", .string f.id), ("name", .string f.name), ("severity", .string f.severity.label),
    ("description", .string f.description), ("location", f.location.toJson),
    ("technical_explanation", .string f.explanation), ("exploit_scenario", .string f.scenario),
    ("recommendation", .string f.recommendation), ("code_snippet", .string f.snippet),
    ("references", strings f.references), ("confidence", .number (.single f.confidence))]

def Finding.decode : Decoder Finding := fun bound j => do
  let r ← Json.record? ["id", "name", "severity", "description", "location", "technical_explanation",
    "exploit_scenario", "recommendation", "code_snippet", "references", "confidence"] bound j
  return {
    id := ← r.required? 0 Json.decodeString
    name := ← r.required? 1 Json.decodeString
    severity := ← r.required? 2 (Json.decodeName Severity.ofLabel?)
    description := ← r.required? 3 Json.decodeString
    location := ← r.required? 4 Location.decode
    explanation := ← r.required? 5 Json.decodeString
    scenario := ← r.required? 6 Json.decodeString
    recommendation := ← r.required? 7 Json.decodeString
    snippet := ← r.withDefault? 8 Json.decodeString ""
    references := ← r.withDefault? 9 (Json.decodeList Json.decodeString) []
    confidence := ← r.required? 10 Json.decodeSingle }

/-! ## Suggestions -/

def GasOptimization.toJson (g : GasOptimization) : Json :=
  .object [("description", .string g.description), ("location", g.location.toJson),
    ("estimated_savings", .string g.savings), ("difficulty", .string g.difficulty.label)]

def Difficulty.ofLabel? (label : String) : Option Difficulty := [low, medium, high].find? (·.label == label)

def GasOptimization.decode : Decoder GasOptimization := fun bound j => do
  let r ← Json.record? ["description", "location", "estimated_savings", "difficulty"] bound j
  return {
    description := ← r.required? 0 Json.decodeString
    location := ← r.required? 1 Location.decode
    savings := ← r.required? 2 Json.decodeString
    difficulty := ← r.required? 3 (Json.decodeName Difficulty.ofLabel?) }

def BestPractice.toJson (b : BestPractice) : Json :=
  .object [("description", .string b.description), ("location", b.location.toJson), ("category", .string b.category)]

def BestPractice.decode : Decoder BestPractice := fun bound j => do
  let r ← Json.record? ["description", "location", "category"] bound j
  return {
    description := ← r.required? 0 Json.decodeString
    location := ← r.required? 1 Location.decode
    category := ← r.required? 2 Json.decodeString }

/-! ## Parts of a report -/

def Risk.Recommendation.ofLabel? (label : String) : Option Risk.Recommendation :=
  [safe, review, doNotDeploy].find? (·.label == label)

def Summary.toJson (s : Summary) : Json :=
  .object [("total_vulnerabilities", .nat s.total), ("critical_count", .nat s.critical), ("high_count", .nat s.high),
    ("medium_count", .nat s.medium), ("low_count", .nat s.low), ("info_count", .nat s.info),
    ("overall_risk_score", .number (.double s.score)), ("deployment_recommendation", .string s.recommendation.label),
    ("top_concerns", strings s.topConcerns)]

def Summary.decode : Decoder Summary := fun bound j => do
  let r ← Json.record? ["total_vulnerabilities", "critical_count", "high_count", "medium_count", "low_count",
    "info_count", "overall_risk_score", "deployment_recommendation", "top_concerns"] bound j
  return {
    total := ← r.required? 0 Json.decodeNat
    critical := ← r.required? 1 Json.decodeNat
    high := ← r.required? 2 Json.decodeNat
    medium := ← r.required? 3 Json.decodeNat
    low := ← r.required? 4 Json.decodeNat
    info := ← r.required? 5 Json.decodeNat
    score := ← r.required? 6 Json.decodeDouble
    recommendation := ← r.required? 7 (Json.decodeName Risk.Recommendation.ofLabel?)
    topConcerns := ← r.required? 8 (Json.decodeList Json.decodeString) }

/-- Sets the number of a name in a list ordered by name. -/
def setCount (name : String) (count : Nat) : List (String × Nat) → List (String × Nat)
  | [] => [(name, count)]
  | (n, k) :: rest =>
    if name < n then (name, count) :: (n, k) :: rest
    else if name = n then (n, count) :: rest
    else (n, k) :: setCount name count rest

def Assessment.toJson (a : Assessment) : Json :=
  .object [("overall_score", .number (.double a.score)),
    ("category_breakdown", .object (a.categories.map fun (name, count) => (name, .nat count))),
    ("historical_context", .string a.context)]

def Assessment.decode : Decoder Assessment := fun bound j => do
  let r ← Json.record? ["overall_score", "category_breakdown", "historical_context"] bound j
  let counts ← r.required? 1 (Json.decodeMap Json.decodeNat)
  return {
    score := ← r.required? 0 Json.decodeDouble
    categories := counts.foldl (fun acc (name, count) => setCount name count acc) []
    context := ← r.required? 2 Json.decodeString }

def Provenance.toJson (p : Provenance) : Json :=
  .object [("analysis_version", .string p.analysisVersion), ("rules_version", .string p.rulesVersion),
    ("ai_model", .text? p.model), ("analysis_time_ms", .nat p.milliseconds)]

def Provenance.decode : Decoder Provenance := fun bound j => do
  let r ← Json.record? ["analysis_version", "rules_version", "ai_model", "analysis_time_ms"] bound j
  return {
    analysisVersion := ← r.required? 0 Json.decodeString
    rulesVersion := ← r.required? 1 Json.decodeString
    model := ← r.nullable? 2 Json.decodeString
    milliseconds := ← r.required? 3 Json.decodeNat }

/-! ## Reports -/

def decodeTimestamp : Decoder Time.Timestamp := fun bound j => (Json.decodeString bound j).bind Time.Timestamp.read?

def Report.toJson (r : Report) : Json :=
  .object [("id", .string r.id), ("timestamp", .string (r.timestamp.text "Z")),
    ("contract_name", .string r.contractName), ("source_code", .string r.source),
    ("executive_summary", r.summary.toJson), ("vulnerabilities", .array (r.findings.map Finding.toJson)),
    ("gas_optimizations", .array (r.gas.map GasOptimization.toJson)),
    ("best_practices", .array (r.practices.map BestPractice.toJson)), ("risk_assessment", r.assessment.toJson),
    ("metadata", r.provenance.toJson)]

def Report.decode : Decoder Report := fun bound j => do
  let r ← Json.record? ["id", "timestamp", "contract_name", "source_code", "executive_summary", "vulnerabilities",
    "gas_optimizations", "best_practices", "risk_assessment", "metadata"] bound j
  return {
    id := ← r.required? 0 Json.decodeString
    timestamp := ← r.required? 1 decodeTimestamp
    contractName := ← r.required? 2 Json.decodeString
    source := ← r.required? 3 Json.decodeString
    summary := ← r.required? 4 Summary.decode
    findings := ← r.required? 5 (Json.decodeList Finding.decode)
    gas := ← r.required? 6 (Json.decodeList GasOptimization.decode)
    practices := ← r.required? 7 (Json.decodeList BestPractice.decode)
    assessment := ← r.required? 8 Assessment.decode
    provenance := ← r.required? 9 Provenance.decode }

/-- The report as an indented JSON text. -/
def Report.json (r : Report) : String := r.toJson.pretty

/-- The report of a JSON text. -/
def Report.ofJson? (text : String) : Option Report := (Json.read? text).bind (Report.decode Json.strictBound)

end ContractAudit
