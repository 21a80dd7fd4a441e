import ContractAudit.Config.Source
import ContractAudit.Finding.Basic
import ContractAudit.Review.Settings
import ContractAudit.Rule.Pack
import ContractAudit.Time.Duration

/-!
# Configuration of an auditor

Read from a file, if one is given, and from the environment, which comes second and wins. Everything has a default.
-/

namespace ContractAudit

open Config (Value)
open Review (Settings)
open Text (Files)

inductive ConfigError where
  | missingFile (path : String)
  /-- A source that cannot be read, or a value that cannot be converted. -/
  | unusable
  | zeroTimeout
  | blankFile
  | pack (error : RulePack.PackError)
  | settings (error : Review.SettingsError)
deriving DecidableEq, Repr

def ConfigError.message : ConfigError → String
  | missingFile path => "configuration file " ++ path ++ " does not exist"
  | unusable => "the configuration cannot be read"
  | zeroTimeout => "analysis_timeout must be greater than zero"
  | blankFile => "file_name must not be blank"
  | pack error => error.message
  | settings error => error.message

structure Config where
  review : Bool := true
  skip : List String := []
  /-- Where custom rules are. -/
  rulesDirectory : Option String := none
  parallel : Bool := true
  timeLimit : Time.Duration := .ofSeconds 60
  file : String := defaultFile
  settings : Option Settings := none
deriving DecidableEq, Repr

namespace Config

/-! ## Reading fields -/

/-- A field, with a default if it is missing. -/
def field? {α : Type} (fields : Fields) (name : String) (convert : Value → Option α) (fallback : α) : Option α :=
  match fields.lookup name with
  | none => some fallback
  | some value => convert value

/-- Null stands for no value. -/
def optional? {α : Type} (convert : Value → Option α) : Value → Option (Option α)
  | .null => some none
  | value => (convert value).map some

/-- The low 32 bits of a number. -/
def word? (value : Value) : Option Nat := value.nat?.map (· % Nat.pow 2 32)

def settingNames : List String :=
  ["provider", "api_key", "endpoint", "model", "timeout_secs", "max_retries", "api_version"]

/-- The fields of settings: those of a table, or the items of a list in their order. -/
def settingFields? : Value → Option Fields
  | .table fields => some fields
  | .list items => some (settingNames.zip items)
  | _ => none

def settings? (value : Value) : Option Settings := do
  let fields ← settingFields? value
  return {
    provider := ← field? fields "provider" Value.text? Settings.defaultProvider
    apiKey := ← field? fields "api_key" Value.text? ""
    endpoint := ← field? fields "endpoint" (optional? Value.text?) none
    model := ← field? fields "model" (optional? Value.text?) none
    timeoutSeconds := ← field? fields "timeout_secs" (optional? Value.nat?) none
    maxRetries := ← field? fields "max_retries" word? Settings.defaultRetries
    apiVersion := ← field? fields "api_version" (optional? Value.text?) none }

def duration? (value : Value) : Option Time.Duration := value.text?.bind Time.Duration.read?

/-- The configuration in some fields; names that are not known are passed over. -/
def ofFields? (fields : Fields) : Option Config := do
  let base : Config := {}
  return {
    review := ← field? fields "enable_ai_analysis" Value.bool? base.review
    skip := ← field? fields "skip_rules" Value.texts? base.skip
    rulesDirectory := ← field? fields "rules_dir" (optional? Value.text?) base.rulesDirectory
    parallel := ← field? fields "parallel_rules" Value.bool? base.parallel
    timeLimit := ← field? fields "analysis_timeout" duration? base.timeLimit
    file := ← field? fields "file_name" Value.text? base.file
    settings := ← field? fields "llm" (optional? settings?) base.settings }

/-! ## Loading -/

def check (c : Config) : Except ConfigError Config :=
  if c.timeLimit.isZero then .error .zeroTimeout
  else if Text.isBlankText c.file then .error .blankFile
  else .ok c

/-- The values of a file that has to be there. -/
def fileSource (files : Files) (path : String) : Except ConfigError Fields :=
  match files.entry? path with
  | none => .error (.missingFile path)
  | some .directory => .error .unusable
  | some (.file text) => match fileFields? path text with
    | none => .error .unusable
    | some fields => .ok fields

/-- The configuration of a file, if one is given, under the variables of the environment. -/
def load (files : Files) (path : Option String) (env : List (String × String)) : Except ConfigError Config := do
  let first ← match path with
    | none => .ok []
    | some path => fileSource files path
  let root := apply (apply (.table []) first) (environmentFields env)
  match ofFields? root.fields with
  | none => .error .unusable
  | some config => config.check

end Config

end ContractAudit
