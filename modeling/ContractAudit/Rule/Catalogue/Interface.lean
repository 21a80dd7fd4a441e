import ContractAudit.Rule.Basic
import ContractAudit.Unicode.Case

/-!
# Rules on the functions of an interface

Events that a change of state should emit, and functions that need not be callable from inside.
-/

namespace ContractAudit.Catalogue

open Facts

/-- Constructor, fallback and receive functions, whose names are not chosen. -/
def hasFixedName (name : String) : Bool := name == "constructor" || Text.startsWith name "<"

/-- A function whose name was chosen and is not marked as internal by an underscore. -/
def hasPlainName (f : FunctionFacts) : Bool := !Text.startsWith f.name "_" && !hasFixedName f.name

/-- The name with its first letter in upper case. -/
def capitalize (name : String) : String :=
  match name.toList with
  | [] => ""
  | c :: cs => String.ofList (Unicode.upper c ++ cs)

/-- Changes of state without an event. -/
def missingEventInfo : RuleInfo where
  id := "EM-01"
  name := "Missing Event Emission"
  severity := .low
  description := "State-changing functions should emit events"
  recommendation := "Emit events for all state changes"
  references := ["Best Practice"]
  confidence := percent 50

/-- What its findings share. -/
def missingEventTemplate : FindingTemplate where
  id := "EM-01"
  name := "Missing Event Emission"
  severity := .low
  explanation := "Functions that modify state should emit events for off-chain tracking and transparency."
  scenario := "State changes without events make it difficult to track contract behavior and audit trails."
  recommendation := "Add event emission for all significant state changes."
  snippet := ""
  references := ["Best Practice"]
  confidence := percent 50

/-- One finding for every function with a body that may change state and emits nothing. -/
def missingEvent : Predicate := fun _ c =>
  .ok ((c.functions.filter fun f => !f.isReadOnly && f.hasBody && f.emits.isEmpty && hasPlainName f).map fun f =>
    { missingEventTemplate.finding
        ("Function \"" ++ f.name ++ "\" modifies state but may not emit events") f.location with
      snippet := "event " ++ capitalize f.name ++ "(...);" })

/-- Public functions that the contract never calls. -/
def publicToExternalInfo : RuleInfo where
  id := "PE-01"
  name := "Public Functions Could Be External"
  severity := .info
  description := "Public functions not called internally should be external for gas savings"
  recommendation := "Change public to external for gas optimization"
  references := ["Gas Optimization"]
  confidence := percent 50

/-- What its findings share. -/
def publicToExternalTemplate : FindingTemplate where
  id := "PE-01"
  name := "Public Function Could Be External"
  severity := .info
  explanation := "Functions that are not called internally can be marked as external instead of public, saving gas."
  scenario := "Not a security issue, but wastes gas unnecessarily."
  recommendation := "Change visibility from public to external if the function is not called internally."
  snippet := ""
  references := ["Gas Optimization"]
  confidence := percent 50

/-- One finding for every public function that no code of the contract calls by name. -/
def publicToExternal : Predicate := fun _ c =>
  .ok ((c.functions.filter fun f => f.visibility == "public" && hasPlainName f && !c.calledNames.contains f.name).map
    fun f =>
      { publicToExternalTemplate.finding
          ("Function \"" ++ f.name ++ "\" is public but could be external") f.location with
        snippet := Text.lines [
          "// Before:",
          "function " ++ f.name ++ "() public \x7b \x7d",
          "",
          "// After:",
          "function " ++ f.name ++ "() external \x7b \x7d"] })

end ContractAudit.Catalogue
