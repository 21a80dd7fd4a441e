import ContractAudit.Json.Decode
import ContractAudit.Json.Reader
import ContractAudit.Rule.Registry
import ContractAudit.Text.Files
import ContractAudit.Yaml.Reader

/-!
# Rule packs

A directory may hold lexical rules in a JSON file and in a YAML file, each a list of entries. A pack is loaded as a
whole or not at all: ids are distinct across both files, and every entry makes a valid rule.
-/

namespace ContractAudit

namespace RulePack

open Json (Decoder)
open Numeric (Binary)
open Text (Files)

/-- A rule as it is written in a file. -/
structure Entry where
  id : String
  name : String
  severity : String
  description : String
  pattern : String
  recommendation : String
  references : List String
  confidence : Binary
deriving DecidableEq, Repr

inductive PackError where
  | unreadable (path : String)
  | invalidJson (path : String)
  | invalidYaml (path : String)
  | duplicateId (id : String)
  | unknownSeverity (severity id path : String)
  | invalidRule (id path : String) (cause : RuleError)
deriving DecidableEq, Repr

namespace PackError

def message : PackError → String
  | unreadable path => "failed to read rule file at " ++ path
  | invalidJson path => "invalid JSON structure in rule file at " ++ path
  | invalidYaml path => "invalid YAML structure in rule file at " ++ path
  | duplicateId id => "duplicate rule id `" ++ id ++ "`"
  | unknownSeverity severity id path => "unknown severity `" ++ severity ++ "` for rule `" ++ id ++ "` in " ++ path
  | invalidRule id path _ => "invalid rule `" ++ id ++ "` in " ++ path

/-- What is wrong with the rule that the pack cannot be loaded for. -/
def cause? : PackError → Option RuleError
  | invalidRule _ _ cause => some cause
  | _ => none

end PackError

/-! ## Rules of entries -/

def Entry.info (e : Entry) (severity : Severity) : RuleInfo where
  id := e.id
  name := e.name
  severity := severity
  description := e.description
  recommendation := e.recommendation
  references := e.references
  confidence := e.confidence

def Entry.rule (compiler : Pattern.Compiler) (e : Entry) (path : String) : Except PackError Rule :=
  match Severity.read? e.severity with
  | none => .error (.unknownSeverity e.severity e.id path)
  | some severity => (Rule.lexical compiler (e.info severity) e.pattern).mapError (.invalidRule e.id path)

/-- The rules of entries, given the ids seen before; `path` is for messages. -/
def rulesOf (compiler : Pattern.Compiler) (seen : List String) (path : String) :
    List Entry → Except PackError (List Rule)
  | [] => .ok []
  | e :: rest =>
    if seen.contains e.id then .error (.duplicateId e.id)
    else do
      let r ← e.rule compiler path
      let rs ← rulesOf compiler (e.id :: seen) path rest
      return r :: rs

/-! ## Entries in files -/

def defaultConfidence : Binary := percent 50

def fieldNames : List String :=
  ["id", "name", "severity", "description", "pattern", "recommendation", "references", "confidence"]

def decodeEntry : Decoder Entry := fun bound j => do
  let r ← Json.record? fieldNames bound j
  return {
    id := ← r.required? 0 Json.decodeString
    name := ← r.required? 1 Json.decodeString
    severity := ← r.required? 2 Json.decodeString
    description := ← r.withDefault? 3 Json.decodeString ""
    pattern := ← r.required? 4 Json.decodeString
    recommendation := ← r.withDefault? 5 Json.decodeString ""
    references := ← r.withDefault? 6 (Json.decodeList Json.decodeString) []
    confidence := ← r.withDefault? 7 Json.decodeSingle defaultConfidence }

def entriesOfJson? (text : String) : Option (List Entry) :=
  (Json.read? text).bind (Json.decodeList decodeEntry Json.strictBound)

/-- Any scalar is a text, whatever it looks like. -/
def textOf? : Yaml.Node → Option String
  | .missing => some ""
  | .scalar _ _ text => some text
  | _ => none

/-- Nothing at all is an empty list. -/
def listOf? : Yaml.Node → Option (List Yaml.Node)
  | .missing | .scalar _ .plain "" => some []
  | .sequence _ items => some items
  | _ => none

/-- The number of a text with marks for the values that are not finite; all others have to be finite. -/
def readDouble? (text : String) : Option Binary :=
  let unsigned := match text.toList with
    | '+' :: rest => rest
    | cs => cs
  if [".inf", ".Inf", ".INF"].contains (String.ofList unsigned) then some (.infinite false)
  else if ["-.inf", "-.Inf", "-.INF"].contains text then some (.infinite true)
  else if [".nan", ".NaN", ".NAN"].contains text then some .nan
  else if text.startsWith "+" && (unsigned.head? == some '+' || unsigned.head? == some '-') then none
  else (Numeric.binary64.read? (String.ofList unsigned)).filter (·.isFinite)

def singleOf? : Yaml.Node → Option Binary
  | .scalar _ .plain text => (readDouble? text).map Numeric.binary32.convert
  | .scalar ⟨_, some "!!float"⟩ .literal text => (readDouble? text).map Numeric.binary32.convert
  | _ => none

/-- The values of the fields of an entry, in their order; `none` if a field is there twice. -/
def fieldsOf? : Yaml.Node → Option (List (Option Yaml.Node))
  | .mapping _ entries => do
    let fields ← entries.mapM fun (key, value) => (textOf? key).map (·, value)
    fieldNames.mapM fun name =>
      match fields.filter fun f => f.1 == name with
      | [] => some none
      | [(_, value)] => some (some value)
      | _ => none
  | .sequence _ items =>
    if items.length ≤ fieldNames.length then
      some (items.map some ++ List.replicate (fieldNames.length - items.length) none)
    else none
  | _ => none

def entryOf? (node : Yaml.Node) : Option Entry := do
  let fields ← fieldsOf? node
  let value := fun (i : Nat) => (fields[i]?).join
  let text := fun (i : Nat) => ((value i).map textOf?).getD (some "")
  return {
    id := ← (value 0).bind textOf?
    name := ← (value 1).bind textOf?
    severity := ← (value 2).bind textOf?
    description := ← text 3
    pattern := ← (value 4).bind textOf?
    recommendation := ← text 5
    references := ← ((value 6).map fun v => (listOf? v).bind (·.mapM textOf?)).getD (some [])
    confidence := ← ((value 7).map singleOf?).getD (some defaultConfidence) }

/-- A character that may stand in a YAML file. -/
def isPrintable (c : Char) : Bool :=
  let n := c.toNat
  n == 0x9 || n == 0xA || n == 0xD || (0x20 ≤ n && n ≤ 0x7E) || n == 0x85 || (0xA0 ≤ n && n ≤ 0xFFFD) || 0x10000 ≤ n

def entriesOfYaml? (text : String) : Option (List Entry) :=
  if text.toList.all isPrintable then (Yaml.read? text).bind fun node => (listOf? node).bind (·.mapM entryOf?)
  else none

/-! ## Loading -/

/-- The entries of a file, none if there is no file. -/
def readEntries (files : Files) (path : String) (entries? : String → Option (List Entry)) (invalid : PackError) :
    Except PackError (List Entry) :=
  match files.entry? path with
  | none => .ok []
  | some .directory => .error (.unreadable path)
  | some (.file text) => match entries? text with
    | none => .error invalid
    | some entries => .ok entries

/-- The YAML file of a directory, under the first of its names that is there. -/
def yamlPath (files : Files) (directory : String) : String :=
  let path := Text.joinPath directory "rules.yaml"
  if files.exists? path then path else Text.joinPath directory "rules.yml"

/-- The rules of a directory, those of the JSON file first. -/
def load (compiler : Pattern.Compiler) (files : Files) (directory : String) : Except PackError (List Rule) := do
  let jsonPath := Text.joinPath directory "rules.json"
  let first ← readEntries files jsonPath entriesOfJson? (.invalidJson jsonPath)
  let rules ← rulesOf compiler [] jsonPath first
  let path := yamlPath files directory
  let second ← readEntries files path entriesOfYaml? (.invalidYaml path)
  let more ← rulesOf compiler (first.map (·.id)) path second
  return rules ++ more

end RulePack

/-- A directory of rules; rules that were loaded once stay as they are. -/
structure RulePack where
  directory : String
  loaded : Option (List Rule) := none

namespace RulePack

def rules (compiler : Pattern.Compiler) (pack : RulePack) (files : Text.Files) :
    Except PackError (List Rule) × RulePack :=
  match pack.loaded with
  | some rules => (.ok rules, pack)
  | none =>
    match load compiler files pack.directory with
    | .ok rules => (.ok rules, { pack with loaded := some rules })
    | .error e => (.error e, pack)

end RulePack

end ContractAudit
