import ContractAudit.Config.Value
import ContractAudit.Json.Decode
import ContractAudit.Json.Reader
import ContractAudit.Text.Files
import ContractAudit.Toml.Reader
import ContractAudit.Yaml.Reader

/-!
# Sources of a configuration

Files in TOML, YAML or JSON, and the variables of the environment. Every source gives values under names, and a name
with dots in it is a path.
-/

namespace ContractAudit.Config

open Numeric (Binary)

/-! ## JSON -/

mutual

def ofJson : Json → Value
  | .null | .unusable => .null
  | .bool b => .bool b
  | .number (.int n) => if n ≤ Numeric.maxI64 then .int n else .float (Numeric.binary64.ofInt n)
  | .number (.double x) | .number (.single x) => .float x
  | .string s => .text s
  | .array items => .list (ofJsonItems items)
  | .object fields => .table (ofJsonFields fields)

def ofJsonItems : List Json → List Value
  | [] => []
  | j :: rest => ofJson j :: ofJsonItems rest

/-- Of fields with one name the last counts. -/
def ofJsonFields : List (String × Json) → Fields
  | [] => []
  | (name, j) :: rest =>
    let fields := ofJsonFields rest
    if (fields.lookup name).isSome then fields else (name, ofJson j) :: fields

end

/-! ## YAML -/

/-- A number in another base, with a sign behind the mark of the base. -/
def readBased? (base : Nat) (cs : List Char) : Option Int := do
  let (negative, digits) := match cs with
    | '-' :: rest => (true, rest)
    | '+' :: rest => (false, rest)
    | _ => (false, cs)
  if digits.isEmpty || !digits.all (Toml.isDigitOf base) then none
  let n : Int := Toml.baseValue base digits
  let n := if negative then -n else n
  if Numeric.minI64 ≤ n && n ≤ Numeric.maxI64 then some n else none

/-- A whole number: with a mark for base sixteen or eight, with an extra plus, or in digits. -/
def readWhole? (text : String) : Option Int :=
  let marked := match text.toList with
    | '0' :: 'x' :: rest => readBased? 16 rest
    | '0' :: 'o' :: rest => readBased? 8 rest
    | '+' :: rest => Numeric.readInt? rest
    | _ => none
  marked <|> Numeric.readInt? text.toList

/-- Names of values that are not finite; no other number is written with a dot in front of a letter. -/
def isSpecialFloat (text : String) : Bool :=
  [".inf", ".Inf", ".INF", "+.inf", "+.Inf", "+.INF", "-.inf", "-.Inf", "-.INF", ".nan", ".NAN"].contains text

/-- The value of a text without quotes; `none` for a number that has no value here. -/
def ofPlain? (text : String) : Option Value :=
  match readWhole? text with
  | some n => some (.int n)
  | none =>
    if text == "~" || text == "null" then some .null
    else if text == "true" then some (.bool true)
    else if text == "false" then some (.bool false)
    else if isSpecialFloat text then none
    else match Numeric.binary64.read? text with
      | some x => some (.float x)
      | none => some (.text text)

/-- The value of a text without quotes under a tag; one that does not fit the tag is null. -/
def ofTagged? (tag text : String) : Option Value :=
  match tag with
  | "!!bool" => some (if text == "true" then .bool true else if text == "false" then .bool false else .null)
  | "!!int" => some (((Numeric.readInt? text.toList).map Value.int).getD .null)
  | "!!float" =>
    if isSpecialFloat text then none else some (((Numeric.binary64.read? text).map Value.float).getD .null)
  | "!!null" => some .null
  | _ => some (.text text)

def ofScalar? (properties : Yaml.Properties) (style : Yaml.Style) (text : String) : Option Value :=
  match style, properties.tag with
  | .plain, none => ofPlain? text
  | .plain, some tag => ofTagged? tag text
  | _, _ => some (.text text)

mutual

def ofYaml? : Yaml.Node → Option Value
  | .missing | .reference _ => some .null
  | .scalar properties style text => ofScalar? properties style text
  | .sequence _ items => (ofYamlItems? items).map Value.list
  | .mapping _ entries => (ofYamlEntries? entries).map Value.table

def ofYamlItems? : List Yaml.Node → Option (List Value)
  | [] => some []
  | node :: rest => do return (← ofYaml? node) :: (← ofYamlItems? rest)

/-- The entries whose keys are texts; of those with one key the last counts. -/
def ofYamlEntries? : List (Yaml.Node × Yaml.Node) → Option Fields
  | [] => some []
  | (key, node) :: rest => do
    let key ← ofYaml? key
    let value ← ofYaml? node
    let fields ← ofYamlEntries? rest
    match key with
    | .text name => return if (fields.lookup name).isSome then fields else (name, value) :: fields
    | _ => return fields

end

/-! ## Files -/

/-- The values of a file, by the extension of its name; `none` if it cannot be read. What is not a table counts as an
empty one. -/
def fileFields? (path text : String) : Option Fields :=
  match Text.extension path with
  | "toml" => Toml.read? text
  | "yaml" | "yml" => ((Yaml.read? text).bind ofYaml?).map (·.fields)
  | "json" => ((Json.read? text).bind (Json.decodeAny Json.strictBound)).map fun j => (ofJson j).fields
  | _ => none

/-! ## The environment -/

def isListName (name : String) : Bool := name == "skip_rules"

/-- The value of a variable: a truth value, a number, a list for the names of lists, or a text. -/
def variableValue (name text : String) : Value :=
  if Text.lowerAscii text == "true" then .bool true
  else if Text.lowerAscii text == "false" then .bool false
  else match Numeric.readInt? text.toList with
    | some n => .int n
    | none =>
      match Numeric.binary64.read? text with
      | some x => .float x
      | none =>
        if isListName name then .list ((Text.splitWhere (· == ',') text.toList).map fun cs => .text (String.ofList cs))
        else .text text

def variableMark : List Char := "solguard__".toList

/-- The values of the variables whose names begin with a mark, in any case; two underlines stand for a dot. -/
def environmentFields (env : List (String × String)) : Fields :=
  env.filterMap fun (name, text) =>
    (Text.stripFront? variableMark (Text.lowerAscii name).toList).map fun rest =>
      let name := String.ofList (['.'].intercalate (Text.splitMark ['_', '_'] rest))
      (name, variableValue name text)

/-! ## Paths -/

def isPathChar (c : Char) : Bool := c.isAlphanum || c == ' ' || c == '_' || c == '-'

/-- The names on a path; a name that is no path stands for itself. -/
def pathOf (name : String) : List String :=
  let parts := Text.splitWhere (· == '.') name.toList
  if parts.all fun part => !part.isEmpty && part.all isPathChar then parts.map String.ofList else [name]

/-- Sets all values of a source. -/
def apply (root : Value) (source : Fields) : Value :=
  source.foldl (fun root (name, value) => Value.set (pathOf name) value root) root

end ContractAudit.Config
