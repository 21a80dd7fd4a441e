import ContractAudit.Review.Reply
import ContractAudit.Review.Settings

/-!
# Providers

A provider answers requests by a model behind a web address. The exchange itself is a parameter, `Transport`.
-/

namespace ContractAudit.Review

inductive Provider where
  | openAi
  | anthropic
  | idle
deriving DecidableEq, Repr

namespace Provider

/-- Names are read in any case. -/
def read? (name : String) : Option Provider :=
  match Text.lowerAscii name with
  | "openai" => some openAi
  | "anthropic" => some anthropic
  | "noop" => some idle
  | _ => none

def label : Provider → String
  | openAi => "OpenAI"
  | anthropic => "Anthropic"
  | idle => "noop"

def defaultModel : Provider → Option String
  | openAi => some "gpt-4o-mini"
  | anthropic => some "claude-3-5-sonnet-20241022"
  | idle => none

end Provider

/-- A call to a provider: the settings and model that it is made with, and what is to be reviewed. -/
structure Call where
  provider : Provider
  settings : Settings
  model : String
  request : Request

/-- Makes calls. The result is the text of the reply, or `none` if no attempt got through. -/
abbrev Transport := Call → Option String

/-- The transport of a machine without a network. -/
def offline : Transport := fun _ => none

/-- The answer to a call. -/
def Call.result (call : Call) (transport : Transport) : Except ReviewError Analysis :=
  match transport call with
  | none => .error (.request (.ofRoot ("failed to call " ++ call.provider.label ++ " API")))
  | some reply => readReply reply call.request.file (some call.model)

/-- A reviewer that asks a model of a provider. -/
def Provider.reviewer (p : Provider) (settings : Settings) (transport : Transport) (model : String) : Reviewer where
  model := some model
  review request := .answer ((Call.mk p settings model request).result transport)

/-- The reviewer that settings name; all but the idle one need a key. -/
def Reviewer.ofSettings (transport : Transport) (settings : Settings) : Except SettingsError Reviewer :=
  match Provider.read? settings.provider with
  | none => .error (.unsupported (Text.lowerAscii settings.provider))
  | some p =>
    match p.defaultModel with
    | none => .ok Review.idle
    | some model =>
      if Text.isBlankText settings.apiKey then .error (.blankKey p.label)
      else .ok (p.reviewer settings transport (settings.model.getD model))

end ContractAudit.Review
