import ContractAudit.Audit.Basic
import ContractAudit.Review.Provider

/-!
# Configured auditors

The auditor and the options that a configuration describes.
-/

namespace ContractAudit

/-- The built-in rules with those of a directory. -/
def Registry.withPack (compiler : Pattern.Compiler) (files : Text.Files) (directory : Option String) :
    Except AuditError Registry := do
  let builtin ← (Registry.builtin compiler).mapError AuditError.rule
  match directory with
  | none => return builtin
  | some directory =>
    let custom ← (RulePack.load compiler files directory).mapError fun e => AuditError.config (.pack e)
    (builtin.configured [] custom).mapError AuditError.rule

/-- The reviewer of some settings, if there are any. -/
def reviewerOf (transport : Review.Transport) (settings : Option Review.Settings) :
    Except AuditError (Option Review.Reviewer) :=
  match settings with
  | none => .ok none
  | some settings =>
    (Review.Reviewer.ofSettings transport settings).map some |>.mapError fun e => AuditError.config (.settings e)

def Auditor.ofConfig (compiler : Pattern.Compiler) (files : Text.Files) (transport : Review.Transport)
    (config : Config) : Except AuditError Auditor := do
  let registry ← Registry.withPack compiler files config.rulesDirectory
  let reviewer ← reviewerOf transport config.settings
  return ⟨registry, reviewer, config.timeLimit, config.parallel, config.file⟩

def Options.ofConfig (config : Config) : Options := ⟨config.review, config.skip, []⟩

end ContractAudit
