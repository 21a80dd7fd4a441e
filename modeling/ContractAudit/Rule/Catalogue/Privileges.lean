import ContractAudit.Rule.Basic

/-!
# Rules on privileged functions

Privileged and destructive functions are recognized by their names, address parameters by their types.
-/

namespace ContractAudit.Catalogue

open Facts

/-- Does one of the words stand in the name, in any case? -/
def namedLike (words : List String) (name : String) : Bool :=
  words.any fun word => Text.hasPart (Text.lowerAscii word).toList (Text.lowerAscii name).toList

/-- Privileged functions that anybody may call. -/
def accessControlInfo : RuleInfo where
  id := "AC-01"
  name := "Missing Access Control"
  severity := .high
  description := "Critical functions lack proper access control modifiers"
  recommendation := "Add appropriate access control modifiers to critical functions"
  references := ["SWC-105", "CWE-284"]
  confidence := percent 90

/-- What its findings share. -/
def accessControlTemplate : FindingTemplate where
  id := "AC-01"
  name := "Missing Access Control"
  severity := .high
  explanation :=
    "Functions that modify critical contract state or handle funds should be restricted to authorized addresses " ++
    "only."
  scenario := ""
  recommendation := "Add access control modifier such as \"onlyOwner\" or implement role-based access control."
  snippet := ""
  references := ["SWC-105: Unprotected Ether Withdrawal", "CWE-284: Improper Access Control"]
  confidence := percent 90

def privilegedWords : List String :=
  ["withdraw", "transferOwnership", "setOwner", "pause", "unpause", "mint", "burn"]

def authModifiers : List String := ["onlyOwner", "onlyAdmin", "requiresAuth", "authorized"]

def accessControlFinding (f : FunctionFacts) : Finding :=
  { accessControlTemplate.finding
      ("Critical function \"" ++ f.name ++ "\" is " ++ f.visibility ++ " without access control") f.location with
    scenario := "Any user can call " ++ f.name ++ "() and perform privileged operations, potentially draining funds or " ++
      "taking over the contract."
    snippet := Text.lines [
      "// Vulnerable:",
      "function " ++ f.name ++ "() public \x7b",
      "  // critical operation",
      "\x7d",
      "",
      "// Fixed:",
      "function " ++ f.name ++ "() public onlyOwner \x7b",
      "  // critical operation",
      "\x7d"] }

/-- One finding for every function with a privileged name that is open to all and has no modifier that restricts it. -/
def accessControl : Predicate := fun _ c =>
  .ok ((c.functions.filter fun f =>
    namedLike privilegedWords f.name && !authModifiers.any f.hasModifier && f.isExternallyCallable).map
      accessControlFinding)

/-- Functions that may destroy the contract. -/
def selfdestructInfo : RuleInfo where
  id := "SD-01"
  name := "Unprotected Selfdestruct"
  severity := .high
  description := "Selfdestruct without proper access control can destroy the contract"
  recommendation := "Add onlyOwner modifier to selfdestruct functions"
  references := ["SWC-106"]
  confidence := percent 85

/-- What its findings share. -/
def selfdestructTemplate : FindingTemplate where
  id := "SD-01"
  name := "Unprotected Selfdestruct"
  severity := .high
  explanation :=
    "The selfdestruct() function permanently destroys the contract and sends all remaining Ether to a specified " ++
    "address. Without proper access control, anyone can destroy the contract."
  scenario :=
    "An attacker calls the selfdestruct function, permanently destroying the contract and potentially stealing all " ++
    "funds."
  recommendation :=
    "Protect selfdestruct with onlyOwner or equivalent modifier. Consider if selfdestruct is even necessary."
  snippet := Text.lines [
    "// Vulnerable:",
    "function destroy(address payable recipient) public \x7b",
    "  selfdestruct(recipient);",
    "\x7d",
    "",
    "// Fixed:",
    "function destroy(address payable recipient) public onlyOwner \x7b",
    "  selfdestruct(recipient);",
    "\x7d"]
  references := ["SWC-106: Unprotected SELFDESTRUCT Instruction", "Parity Wallet Hack (2017)"]
  confidence := percent 85

/-- One finding for every function with a destructive name and no modifier for owners. -/
def selfdestruct : Predicate := fun _ c =>
  .ok ((c.functions.filter fun f =>
    namedLike ["destruct", "kill"] f.name && !(["onlyOwner", "onlyAdmin"].any f.hasModifier)).map fun f =>
      selfdestructTemplate.finding
        ("Function \"" ++ f.name ++ "\" may contain selfdestruct without access control") f.location)

/-- Address parameters that may be zero. -/
def zeroAddressInfo : RuleInfo where
  id := "ZA-01"
  name := "Missing Zero Address Check"
  severity := .low
  description := "Address parameters should be validated against zero address"
  recommendation := "Add require(address != address(0)) checks"
  references := ["Best Practice"]
  confidence := percent 60

/-- What its findings share. -/
def zeroAddressTemplate : FindingTemplate where
  id := "ZA-01"
  name := "Missing Zero Address Check"
  severity := .low
  explanation :=
    "Address parameters should be validated to ensure they are not the zero address (0x0) to prevent accidental " ++
    "loss of funds or broken functionality."
  scenario :=
    "User accidentally passes zero address, causing funds to be permanently locked or functionality to break."
  recommendation := "Add require statement to check address != address(0)."
  snippet := Text.lines [
    "// Vulnerable:",
    "function setOwner(address newOwner) public \x7b",
    "  owner = newOwner;",
    "\x7d",
    "",
    "// Fixed:",
    "function setOwner(address newOwner) public \x7b",
    "  require(newOwner != address(0), \"Zero address\");",
    "  owner = newOwner;",
    "\x7d"]
  references := ["Best Practice"]
  confidence := percent 60

def isAddressType (type : String) : Bool := type == "address" || type == "address payable"

/-- One finding for every open function with an address parameter that it never compares with zero. -/
def zeroAddress : Predicate := fun _ c =>
  .ok ((c.functions.filter fun f =>
    f.isExternallyCallable &&
      f.parameters.any fun p => isAddressType p.type && !f.zeroChecked.contains p.name).map fun f =>
      zeroAddressTemplate.finding
        ("Function \"" ++ f.name ++ "\" accepts address parameter without zero address validation") f.location)

end ContractAudit.Catalogue
