import ContractAudit.Rule.Basic

/-!
# Registries

An ordered list of rules with distinct ids. Custom rules replace the rules of the same id in place or are added at the
end, and rules can be left out by id.
-/

namespace ContractAudit

structure Registry where
  rules : List Rule

namespace Registry

def size (reg : Registry) : Nat := reg.rules.length

def isEmpty (reg : Registry) : Bool := reg.rules.isEmpty

def get? (reg : Registry) (id : String) : Option Rule := reg.rules.find? (·.id == id)

/-- Checks rules one after the other: each by itself, then against the ids before it. -/
def checkRules (seen : List String) : List Rule → Except RuleError Unit
  | [] => .ok ()
  | r :: rs =>
    match r.check with
    | .error e => .error e
    | .ok _ => if seen.contains r.id then .error (.duplicateId r.id) else checkRules (r.id :: seen) rs

/-- The registry of some rules in their order. -/
def ofRules (rules : List Rule) : Except RuleError Registry := (checkRules [] rules).map fun _ => ⟨rules⟩

/-- Puts a rule in place of the first one with its id, or at the end. -/
def put (r : Rule) : List Rule → List Rule
  | [] => [r]
  | s :: rest => if s.id == r.id then r :: rest else s :: put r rest

/-- Puts rules one after the other. -/
def install (custom rules : List Rule) : List Rule := custom.foldl (fun acc r => put r acc) rules

/-- Leaves out the rules with some ids. -/
def without (skip : List String) (rules : List Rule) : List Rule := rules.filter fun r => !skip.contains r.id

/-- The registry for one audit. -/
def configured (reg : Registry) (skip : List String) (custom : List Rule) : Except RuleError Registry :=
  if skip.isEmpty && custom.isEmpty then .ok reg
  else (checkRules [] custom).map fun _ => ⟨without skip (install custom reg.rules)⟩

end Registry

end ContractAudit
