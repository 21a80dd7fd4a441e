import ContractAudit.Rule.Basic

/-!
# Rules on state variables

Variables that nothing refers to, and the order of variables in storage slots.
-/

namespace ContractAudit.Catalogue

open Facts

/-- State variables that nothing refers to. -/
def unusedVariableInfo : RuleInfo where
  id := "UV-01"
  name := "Unused Variables"
  severity := .low
  description := "Declared variables that are never used"
  recommendation := "Remove unused variables or prefix with underscore"
  references := ["Code Quality"]
  confidence := percent 60

/-- What its findings share. -/
def unusedVariableTemplate : FindingTemplate where
  id := "UV-01"
  name := "Unused Variables"
  severity := .low
  explanation :=
    "A state variable that no function, modifier or initializer of the contract reads or writes occupies storage " ++
    "and adds deployment cost without affecting behavior."
  scenario :=
    "Not directly exploitable, but unused state often signals incomplete logic, such as a flag that was meant to " ++
    "be checked."
  recommendation := "Remove unused variables or prefix with underscore"
  snippet := ""
  references := ["Code Quality"]
  confidence := percent 60

/-- A variable that is neither constant nor public nor marked by an underscore, and that no code refers to. -/
def isUnused (c : ContractFacts) (v : VariableFacts) : Bool :=
  !v.constant && v.visibility != "public" && !Text.startsWith v.name "_" && !c.identifiers.contains v.name

/-- One finding for every unused variable. -/
def unusedVariable : Predicate := fun _ c =>
  .ok ((c.stateVariables.filter (isUnused c)).map fun v =>
    { unusedVariableTemplate.finding
        ("State variable \"" ++ v.name ++ "\" is never used") v.location with
      snippet := v.type ++ " " ++ v.visibility ++ " " ++ v.name ++ ";" })

/-! ## Packing -/

/-- An order of variables that wastes storage slots. -/
def packingInfo : RuleInfo where
  id := "SP-01"
  name := "Inefficient Storage Packing"
  severity := .info
  description := "Storage variables could be better packed to save gas"
  recommendation := "Reorder state variables to optimize storage slots"
  references := ["Gas Optimization"]
  confidence := percent 60

/-- What its findings share. -/
def packingTemplate : FindingTemplate where
  id := "SP-01"
  name := "Inefficient Storage Packing"
  severity := .info
  explanation :=
    "The EVM stores state in 32-byte slots and packs consecutive variables smaller than a slot together. " ++
    "Declaration order decides which variables share a slot, so interleaving small and full-width types wastes " ++
    "slots."
  scenario := "Not a security issue, but every additional slot costs gas on first write and on each cold read."
  recommendation := "Reorder state variables to optimize storage slots"
  snippet := Text.lines [
    "// Before: 3 slots",
    "uint128 a;",
    "uint256 b;",
    "uint128 c;",
    "",
    "// After: 2 slots",
    "uint128 a;",
    "uint128 c;",
    "uint256 b;"]
  references := ["Gas Optimization"]
  confidence := percent 60

/-- Bytes of a storage slot. -/
def slotBytes : Nat := 32

/-- The size in a type name such as `uint128`: the number behind `front`, divided by `divisor`, if it fits a slot. -/
def sizedType? (type front : String) (divisor : Nat) : Option Nat :=
  ((Text.stripFront? front.toList type.toList).bind (Numeric.readNat? Numeric.maxU32)).bind fun n =>
    if 1 ≤ n / divisor && n / divisor ≤ slotBytes then some (n / divisor) else none

/-- Bytes that a value of a type takes; what cannot share a slot takes all of it. -/
def storageSize (type : String) : Nat :=
  match type with
  | "bool" => 1
  | "address" | "address payable" => 20
  | _ => ((sizedType? type "uint" 8).or ((sizedType? type "int" 8).or (sizedType? type "bytes" 1))).getD slotBytes

/-- Slots taken in the given order, if `free` bytes are left in the current one. -/
def slotsFrom (free : Nat) : List Nat → Nat
  | [] => 0
  | size :: sizes => if free < size then 1 + slotsFrom (slotBytes - size) sizes else slotsFrom (free - size) sizes

def slotsInOrder (sizes : List Nat) : Nat := slotsFrom 0 sizes

/-- Puts a size into the first slot with enough bytes left, or into a new one. -/
def place (size : Nat) : List Nat → List Nat
  | [] => [slotBytes - size]
  | free :: rest => if size ≤ free then (free - size) :: rest else free :: place size rest

/-- Slots taken if the sizes are placed from the greatest to the least. -/
def slotsPacked (sizes : List Nat) : Nat :=
  ((sizes.mergeSort fun a b => b ≤ a).foldl (fun free size => place size free) []).length

/-- Sizes of the variables that take storage. -/
def storageSizes (c : ContractFacts) : List Nat :=
  (c.stateVariables.filter fun v => !v.constant).map fun v => storageSize v.type

/-- One finding for a contract whose variables would take fewer slots in another order. -/
def packing : Predicate := fun _ c =>
  let declared := slotsInOrder (storageSizes c)
  let packed := slotsPacked (storageSizes c)
  if declared ≤ packed then .ok []
  else .ok [packingTemplate.finding
    ("Contract \"" ++ c.name ++ "\" uses " ++ toString declared ++
      " storage slots; reordering state variables could use " ++ toString packed) c.location]

end ContractAudit.Catalogue
