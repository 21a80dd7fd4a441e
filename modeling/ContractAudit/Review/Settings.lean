import ContractAudit.Numeric.Reading
import ContractAudit.Text.Blank

/-!
# Settings of a reviewer

Which provider is asked, and how. Settings can be taken from variables of the environment.
-/

namespace ContractAudit.Review

structure Settings where
  provider : String
  apiKey : String
  endpoint : Option String
  model : Option String
  timeoutSeconds : Option Nat
  maxRetries : Nat
  apiVersion : Option String
deriving DecidableEq, Repr

inductive SettingsError where
  /-- No key in the environment. -/
  | noKey (provider : String)
  /-- A blank key for a provider, given by its display name. -/
  | blankKey (provider : String)
  | unsupported (provider : String)
deriving DecidableEq, Repr

def keyVariable : String := "SOLGUARD_API_KEY"

def SettingsError.message : SettingsError → String
  | noKey provider => "environment variable " ++ keyVariable ++ " must be set for provider `" ++ provider ++ "`"
  | blankKey provider => provider ++ " API key must be provided via " ++ keyVariable
  | unsupported provider => "unsupported semantic analysis provider `" ++ provider ++ "`"

namespace Settings

def defaultProvider : String := "openai"

def idleProvider : String := "noop"

def defaultRetries : Nat := 2

/-- Settings for no provider at all. -/
def idle : Settings := ⟨idleProvider, "", none, none, none, defaultRetries, none⟩

/-- The trimmed value of a variable that is set to more than blanks. -/
def setting? (env : List (String × String)) (name : String) : Option String :=
  ((env.lookup name).map Text.trim).filter fun value => !value.isEmpty

/-- A variable that holds a number up to a bound; any other value counts as not set. -/
def number? (env : List (String × String)) (max : Nat) (name : String) : Option Nat :=
  (setting? env name).bind fun value => Numeric.readNat? max value.toList

/-- The settings in an environment. Only the idle provider needs no key. -/
def ofEnvironment (env : List (String × String)) : Except SettingsError Settings :=
  let provider := (setting? env "SOLGUARD_PROVIDER").getD defaultProvider
  match setting? env keyVariable, Text.eqIgnoreAsciiCase provider idleProvider with
  | none, false => .error (.noKey provider)
  | key, _ => .ok
    { provider
      apiKey := key.getD ""
      endpoint := setting? env "SOLGUARD_ENDPOINT"
      model := setting? env "SOLGUARD_MODEL"
      timeoutSeconds := number? env Numeric.maxU64 "SOLGUARD_TIMEOUT_SECS"
      maxRetries := (number? env Numeric.maxU32 "SOLGUARD_MAX_RETRIES").getD defaultRetries
      apiVersion := setting? env "SOLGUARD_API_VERSION" }

end Settings

end ContractAudit.Review
