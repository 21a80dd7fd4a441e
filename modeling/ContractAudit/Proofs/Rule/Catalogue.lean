import ContractAudit.Proofs.Facts.Places
import ContractAudit.Proofs.Rule.Registry
import ContractAudit.Rule.Scan

/-!
# Every built-in finding names its rule

What a built-in rule finds has the id, the severity and the confidence of that rule, and a place in a file that the facts
name (`Catalogue.signs_of_mem`). The findings of a rule by pattern do so whatever the pattern is. Rules of both kinds are
`Standard`; a rule with another predicate may report under any id. A scan keeps every finding that is signed so, since
it is well formed with its rule.
-/

namespace ContractAudit

open Facts (ContractFacts FunctionFacts ExternalCall)
open Solidity (SourceUnit)

/-- The finding has the id, the severity and the confidence of the rule, and a place in a file of the facts. -/
structure Signed (info : RuleInfo) (c : ContractFacts) (f : Finding) : Prop where
  id : f.id = info.id
  severity : f.severity = info.severity
  confidence : f.confidence = info.confidence
  place : ∃ l ∈ c.places, f.location.file = l.file

/-- The predicate never fails and signs its findings for the rule. -/
def Predicate.Signs (predicate : Predicate) (info : RuleInfo) : Prop :=
  ∀ unit c, ∃ findings, predicate unit c = .ok findings ∧ ∀ f ∈ findings, Signed info c f

/-- The predicate of the draft, if it has one, signs its findings for the rule. -/
def RuleDraft.Signs : RuleDraft → Prop
  | byPredicate info predicate => predicate.Signs info
  | byPattern .. => True

/-- The predicate of the rule, if it has one, signs its findings for the rule. -/
def Rule.Signs (r : Rule) : Prop :=
  match r.matcher with
  | .lexical _ => True
  | .structural predicate => predicate.Signs r.toRuleInfo

theorem RuleDraft.Makes.signs {compiler : Pattern.Compiler} {d : RuleDraft} {r : Rule} (h : Makes compiler d r)
    (hd : d.Signs) : r.Signs := by
  cases h with
  | predicate info predicate => exact hd
  | pattern info hprogram => trivial

namespace Catalogue

/-! ## Predicates -/

/-- Most predicates make one finding of each of some things that the facts record, at the place of that thing. -/
theorem signs_map {α : Type} {info : RuleInfo} {things : ContractFacts → List α} {p : ContractFacts → α → Bool}
    {place : α → Location} {make : α → Finding} (hplace : ∀ c, ∀ x ∈ things c, place x ∈ c.places)
    (hmake : ∀ x, (make x).id = info.id ∧ (make x).severity = info.severity ∧ (make x).confidence = info.confidence ∧
      (make x).location = place x) :
    Predicate.Signs (fun _ c => .ok (((things c).filter (p c)).map make)) info := by
  intro unit c
  refine ⟨_, rfl, fun f hf => ?_⟩
  obtain ⟨x, hx, rfl⟩ := List.mem_map.mp hf
  obtain ⟨hid, hseverity, hconfidence, hlocation⟩ := hmake x
  exact ⟨hid, hseverity, hconfidence, _, hplace c x (List.mem_filter.mp hx).1, by rw [hlocation]⟩

theorem signs_functions {info : RuleInfo} {p : ContractFacts → FunctionFacts → Bool} {make : FunctionFacts → Finding}
    (hmake : ∀ f, (make f).id = info.id ∧ (make f).severity = info.severity ∧ (make f).confidence = info.confidence ∧
      (make f).location = f.location) :
    Predicate.Signs (fun _ c => .ok ((c.functions.filter (p c)).map make)) info :=
  signs_map (fun _ _ => ContractFacts.mem_places_of_function) hmake

theorem signs_calls {info : RuleInfo} {p : ContractFacts → ExternalCall → Bool} {make : ExternalCall → Finding}
    (hmake : ∀ x, (make x).id = info.id ∧ (make x).severity = info.severity ∧ (make x).confidence = info.confidence ∧
      (make x).location = x.location) :
    Predicate.Signs (fun _ c => .ok ((c.calls.filter (p c)).map make)) info :=
  signs_map (fun _ _ => ContractFacts.mem_places_of_call) hmake

theorem signs_overflow : Predicate.Signs overflow overflowInfo := by
  intro unit c
  unfold overflow
  split
  · exact ⟨_, rfl, by simp⟩
  · exact ⟨_, rfl, List.forall_mem_singleton.mpr ⟨rfl, rfl, rfl, _, ContractFacts.location_mem_places, rfl⟩⟩

theorem signs_packing : Predicate.Signs packing packingInfo := by
  intro unit c
  simp only [packing]
  split
  · exact ⟨_, rfl, by simp⟩
  · exact ⟨_, rfl, List.forall_mem_singleton.mpr ⟨rfl, rfl, rfl, _, ContractFacts.location_mem_places, rfl⟩⟩

theorem signs_drafts : ∀ d ∈ drafts, d.Signs := by
  simp only [drafts, List.forall_mem_cons]
  refine ⟨?reentrancy, ?uncheckedCall, ?delegatecall, signs_overflow, ?accessControl, ?selfdestruct,
    trivial, trivial, trivial, trivial, trivial, trivial, trivial, ?zeroAddress, ?unusedVariable, ?missingEvent,
    trivial, trivial, signs_packing, ?publicToExternal, by simp⟩
  case reentrancy | accessControl | selfdestruct | zeroAddress | missingEvent | publicToExternal =>
    exact signs_functions fun _ => ⟨rfl, rfl, rfl, rfl⟩
  case uncheckedCall | delegatecall => exact signs_calls fun _ => ⟨rfl, rfl, rfl, rfl⟩
  case unusedVariable =>
    exact signs_map (fun _ _ => ContractFacts.mem_places_of_variable) fun _ => ⟨rfl, rfl, rfl, rfl⟩

theorem signs_of_mem {compiler : Pattern.Compiler} {rules : List Rule} (h : Catalogue.rules compiler = .ok rules)
    {r : Rule} (hr : r ∈ rules) : r.Signs := by
  obtain ⟨d, hd, hmakes⟩ := exists_left_of_mem (rules_eq_ok_iff.mp h) hr
  exact hmakes.signs (signs_drafts d hd)

end Catalogue

/-! ## Findings -/

theorem Finding.check_eq_ok_iff {f : Finding} :
    f.check = .ok () ↔ Text.isBlankText f.id = false ∧ isConfidence f.confidence = true := by
  unfold check
  cases Text.isBlankText f.id <;> cases isConfidence f.confidence <;> simp

theorem Finding.check_eq_ok {f : Finding} (info : RuleInfo) (hid : f.id = info.id)
    (hconfidence : f.confidence = info.confidence)
    (hinfo : Text.isBlankText info.id = false ∧ isConfidence info.confidence = true) : f.check = .ok () :=
  check_eq_ok_iff.mpr ⟨hid ▸ hinfo.1, hconfidence ▸ hinfo.2⟩

/-- A built-in rule, or a rule by pattern. -/
def Rule.Standard (r : Rule) : Prop :=
  (∃ compiler rules, Catalogue.rules compiler = .ok rules ∧ r ∈ rules) ∨ ∃ pattern, r.matcher = .lexical pattern

theorem Rule.Standard.signs {r : Rule} (h : r.Standard) : r.Signs := by
  rcases h with ⟨compiler, rules, hrules, hr⟩ | ⟨pattern, h⟩
  · exact Catalogue.signs_of_mem hrules hr
  · rw [Rule.Signs, h]
    trivial

namespace Scan

theorem structuralFindings_eq {scan : Scan} {predicate : Predicate} {facts : ContractFacts} {findings : List Finding}
    (h : predicate scan.unit facts = .ok findings) (hcheck : ∀ f ∈ findings, f.check = .ok ()) :
    scan.structuralFindings predicate facts = findings := by
  simp only [structuralFindings, h]
  refine List.filter_eq_self.mpr fun f hf => ?_
  rw [hcheck f hf]
  rfl

/-- The facts of the scan are facts about its file. -/
def FactsInFile (scan : Scan) : Prop := ∀ c ∈ scan.contracts, ∀ l ∈ c.places, l.file = scan.file

theorem factsInFile_ofUnit (file source : String) (unit : SourceUnit) : (ofUnit file source unit).FactsInFile :=
  fun _ hc _ hl => Facts.file_of_mem_places hc hl

theorem signed_of_mem_ruleFindings {scan : Scan} {r : Rule} (hr : r.Signs) {f : Finding}
    (hf : f ∈ scan.ruleFindings r) : f.id = r.id ∧ f.severity = r.severity ∧ f.confidence = r.confidence ∧
      (scan.FactsInFile → f.location.file = scan.file) := by
  unfold ruleFindings at hf
  cases hmatcher : r.matcher with
  | lexical pattern =>
    simp only [hmatcher] at hf
    obtain ⟨m, -, rfl⟩ := List.mem_map.mp hf
    exact ⟨rfl, rfl, rfl, fun _ => rfl⟩
  | structural predicate =>
    simp only [hmatcher] at hf
    obtain ⟨c, hc, hf⟩ := List.mem_flatMap.mp hf
    rw [Rule.Signs, hmatcher] at hr
    obtain ⟨findings, hok, hsigned⟩ := hr scan.unit c
    rw [structuralFindings, hok] at hf
    obtain ⟨hid, hseverity, hconfidence, l, hl, hfile⟩ := hsigned f (List.mem_filter.mp hf).1
    exact ⟨hid, hseverity, hconfidence, fun hfacts => hfile.trans (hfacts c hc l hl)⟩

end Scan

end ContractAudit
