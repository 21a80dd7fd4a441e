import ContractAudit.Proofs.Partial
import ContractAudit.Rule.Catalogue
import Mathlib.Data.List.Nodup

/-!
# What every registry keeps

All registries come from the built-in rules or from a list of rules, by way of any number of configurations
(`Registry.Obtained`). Every step on this way keeps the rules well formed and their ids distinct
(`Registry.WellFormed.configured`), and so every registry has both properties (`Registry.Obtained.wellFormed`).
-/

namespace ContractAudit

/-! ## Checks -/

theorem Rule.check_eq_ok_iff {r : Rule} : r.check = .ok () ↔
    Text.isBlankText r.id = false ∧ Text.isBlankText r.name = false ∧
      r.patternText?.any Text.isBlankText = false ∧ isConfidence r.confidence = true := by
  unfold Rule.check
  cases Text.isBlankText r.id <;> cases Text.isBlankText r.name <;> cases r.patternText?.any Text.isBlankText <;>
    cases isConfidence r.confidence <;> simp

namespace Registry

theorem checkRules_eq_ok_iff {seen : List String} {rules : List Rule} : checkRules seen rules = .ok () ↔
    (∀ r ∈ rules, r.check = .ok ()) ∧ (rules.map (·.id)).Nodup ∧ ∀ r ∈ rules, r.id ∉ seen := by
  induction rules generalizing seen with
  | nil => simp [checkRules]
  | cons r rs ih =>
    rw [checkRules]
    cases hr : r.check with
    | error e => simp [hr]
    | ok _ =>
      by_cases hseen : r.id ∈ seen
      · simp [hseen]
      · have hfresh : (∀ s ∈ rs, s.id ∉ r.id :: seen) ↔ r.id ∉ rs.map (·.id) ∧ ∀ s ∈ rs, s.id ∉ seen := by
          simp only [List.mem_cons, not_or, List.mem_map, not_exists, not_and, ← forall_and]
        simp only [List.contains_eq_mem, hseen, decide_false, Bool.false_eq_true, if_false, ih, hfresh, List.map_cons,
          List.nodup_cons, List.forall_mem_cons, hr]
        tauto

/-- The rules are well formed, and no two of them share an id. -/
structure WellFormed (reg : Registry) : Prop where
  checked : ∀ r ∈ reg.rules, r.check = .ok ()
  distinct : (reg.rules.map (·.id)).Nodup

theorem WellFormed.ofRules {rules : List Rule} {reg : Registry} (h : Registry.ofRules rules = .ok reg) :
    reg.WellFormed := by
  unfold Registry.ofRules at h
  cases hcheck : checkRules [] rules with
  | error e =>
    rw [hcheck] at h
    cases h
  | ok _ =>
    rw [hcheck] at h
    cases h
    obtain ⟨hchecked, hdistinct, -⟩ := checkRules_eq_ok_iff.mp hcheck
    exact ⟨hchecked, hdistinct⟩

/-! ## Configurations -/

/-- An empty configuration is no exception: it checks nothing and changes nothing. -/
theorem configured_eq (reg : Registry) (skip : List String) (custom : List Rule) :
    reg.configured skip custom = (checkRules [] custom).map fun _ => ⟨without skip (install custom reg.rules)⟩ := by
  unfold configured
  split
  · next h =>
    rw [Bool.and_eq_true, List.isEmpty_iff, List.isEmpty_iff] at h
    obtain ⟨rfl, rfl⟩ := h
    simp [checkRules, install, without, Except.map]
  · rfl

theorem of_configured_eq_ok {reg next : Registry} {skip : List String} {custom : List Rule}
    (h : reg.configured skip custom = .ok next) :
    checkRules [] custom = .ok () ∧ next = ⟨without skip (install custom reg.rules)⟩ := by
  rw [configured_eq] at h
  cases hcheck : checkRules [] custom with
  | error e =>
    rw [hcheck] at h
    cases h
  | ok _ =>
    rw [hcheck] at h
    cases h
    exact ⟨rfl, rfl⟩

theorem mem_put {r s : Rule} {rules : List Rule} (h : s ∈ put r rules) : s = r ∨ s ∈ rules := by
  induction rules with
  | nil => exact .inl (List.mem_singleton.mp h)
  | cons t rest ih =>
    rw [put] at h
    split at h
    · exact (List.mem_cons.mp h).imp_right (List.mem_cons_of_mem t)
    · rcases List.mem_cons.mp h with rfl | h
      · exact .inr List.mem_cons_self
      · exact (ih h).imp_right (List.mem_cons_of_mem t)

theorem mem_put_self (r : Rule) (rules : List Rule) : r ∈ put r rules := by
  induction rules with
  | nil => exact List.mem_cons_self
  | cons t rest ih =>
    rw [put]
    split
    · exact List.mem_cons_self
    · exact List.mem_cons_of_mem t ih

theorem mem_install {s : Rule} {custom rules : List Rule} (h : s ∈ install custom rules) : s ∈ custom ∨ s ∈ rules := by
  induction custom generalizing rules with
  | nil => exact .inr h
  | cons r custom ih =>
    rcases ih h with h | h
    · exact .inl (List.mem_cons_of_mem r h)
    · rcases mem_put h with rfl | h
      · exact .inl List.mem_cons_self
      · exact .inr h

theorem ids_put (r : Rule) (rules : List Rule) : (put r rules).map (·.id) =
    if r.id ∈ rules.map (·.id) then rules.map (·.id) else rules.map (·.id) ++ [r.id] := by
  induction rules with
  | nil => rfl
  | cons t rest ih =>
    rw [put]
    by_cases ht : t.id = r.id
    · simp [ht]
    · have ht' : r.id ≠ t.id := fun h => ht h.symm
      by_cases hr : r.id ∈ rest.map (·.id)
      · rw [if_pos hr] at ih
        simp [ht, ht', ih, hr]
      · rw [if_neg hr] at ih
        simp [ht, ht', ih, hr]

theorem nodup_install (custom : List Rule) {rules : List Rule} (h : (rules.map (·.id)).Nodup) :
    ((install custom rules).map (·.id)).Nodup := by
  induction custom generalizing rules with
  | nil => exact h
  | cons r custom ih =>
    refine ih ?_
    rw [ids_put]
    split
    · exact h
    · next hr => exact h.append (List.nodup_singleton _) (List.disjoint_singleton.mpr hr)

theorem WellFormed.configured {reg next : Registry} (hreg : reg.WellFormed) {skip : List String} {custom : List Rule}
    (h : reg.configured skip custom = .ok next) : next.WellFormed := by
  obtain ⟨hcustom, rfl⟩ := of_configured_eq_ok h
  refine ⟨fun r hr => ?_, ?_⟩
  · rcases mem_install (List.mem_filter.mp hr).1 with hr | hr
    · exact (checkRules_eq_ok_iff.mp hcustom).1 r hr
    · exact hreg.checked r hr
  · exact (nodup_install custom hreg.distinct).sublist (List.filter_sublist.map _)

end Registry

/-! ## New rules -/

namespace Rule

theorem checked_eq_ok_iff {r s : Rule} : r.checked = .ok s ↔ r.check = .ok () ∧ s = r := by
  unfold checked
  cases r.check with
  | error e => simp [Except.map]
  | ok _ => simp [Except.map, eq_comm]

theorem structural_eq_ok_iff {info : RuleInfo} {predicate : Predicate} {r : Rule} :
    Rule.structural info predicate = .ok r ↔ Text.isBlankText info.id = false ∧ Text.isBlankText info.name = false ∧
      isConfidence info.confidence = true ∧ r = { info with matcher := .structural predicate } := by
  simp only [Rule.structural, checked_eq_ok_iff, check_eq_ok_iff, patternText?, Option.any_none, true_and, and_assoc]

/-- The pattern is looked at twice, as a text and as the pattern of the rule, with one outcome. -/
theorem lexical_eq_ok_iff {compiler : Pattern.Compiler} {info : RuleInfo} {text : String} {r : Rule} :
    Rule.lexical compiler info text = .ok r ↔
      Text.isBlankText info.id = false ∧ Text.isBlankText info.name = false ∧ Text.isBlankText text = false ∧
        isConfidence info.confidence = true ∧ ∃ program, compiler text = some program ∧
          r = { info with matcher := .lexical ⟨text, program⟩ } := by
  unfold Rule.lexical
  cases hblank : Text.isBlankText text with
  | true => simp
  | false =>
    cases hprogram : compiler text with
    | none => simp
    | some program =>
      simp only [Bool.false_eq_true, if_false, checked_eq_ok_iff, check_eq_ok_iff, patternText?, Option.any_some, hblank,
        true_and, Option.some.injEq, exists_eq_left', and_assoc]

end Rule

/-! ## The built-in rules -/

namespace RuleDraft

def info : RuleDraft → RuleInfo
  | byPredicate info _ => info
  | byPattern info _ => info

/-- The text of a pattern. -/
def text? : RuleDraft → Option String
  | byPredicate .. => none
  | byPattern _ text => some text

/-- The draft is in order, except that its pattern may not compile. -/
structure InOrder (d : RuleDraft) : Prop where
  id : Text.isBlankText d.info.id = false
  name : Text.isBlankText d.info.name = false
  text : d.text?.any Text.isBlankText = false
  confidence : isConfidence d.info.confidence = true

/-- `Makes compiler d r`: the rule is what the draft says, its pattern compiled. -/
inductive Makes (compiler : Pattern.Compiler) : RuleDraft → Rule → Prop
  | predicate (info : RuleInfo) (predicate : Predicate) :
    Makes compiler (byPredicate info predicate) { info with matcher := .structural predicate }
  | pattern (info : RuleInfo) {text : String} {program : Pattern.Program} (h : compiler text = some program) :
    Makes compiler (byPattern info text) { info with matcher := .lexical ⟨text, program⟩ }

variable {compiler : Pattern.Compiler} {d : RuleDraft} {r : Rule}

theorem rule_eq_ok_iff (hd : d.InOrder) : d.rule compiler = .ok r ↔ Makes compiler d r := by
  obtain ⟨hid, hname, htext, hconfidence⟩ := hd
  cases d with
  | byPredicate info predicate =>
    simp only [rule, Rule.structural_eq_ok_iff]
    constructor
    · rintro ⟨-, -, -, rfl⟩
      exact .predicate info predicate
    · rintro ⟨⟩
      exact ⟨hid, hname, hconfidence, rfl⟩
  | byPattern info text =>
    simp only [rule, Rule.lexical_eq_ok_iff]
    constructor
    · rintro ⟨-, -, -, -, program, hprogram, rfl⟩
      exact .pattern info hprogram
    · rintro ⟨⟩
      exact ⟨hid, hname, htext, hconfidence, _, ‹_›, rfl⟩

theorem rule_eq_error_iff (hd : d.InOrder) {e : RuleError} : d.rule compiler = .error e ↔
    ∃ info text, d = byPattern info text ∧ compiler text = none ∧ e = .invalidPattern info.id := by
  cases d with
  | byPredicate info predicate => simp [(rule_eq_ok_iff hd).mpr (.predicate info predicate)]
  | byPattern info text =>
    cases hprogram : compiler text with
    | none =>
      have htext : Text.isBlankText text = false := hd.text
      simp [rule, Rule.lexical, htext, hprogram, eq_comm]
    | some program => simp [(rule_eq_ok_iff hd).mpr (.pattern info hprogram), hprogram]

theorem exists_rule_iff (hd : d.InOrder) :
    (∃ r, d.rule compiler = .ok r) ↔ ∀ text ∈ d.text?, (compiler text).isSome = true := by
  cases d with
  | byPredicate info predicate => simp [(rule_eq_ok_iff hd).mpr (.predicate info predicate), text?]
  | byPattern info text =>
    cases hprogram : compiler text with
    | none => simp [(rule_eq_error_iff hd).mpr ⟨info, text, rfl, hprogram, rfl⟩, text?, hprogram]
    | some program => simp [(rule_eq_ok_iff hd).mpr (.pattern info hprogram), text?, hprogram]

theorem Makes.info_eq (h : Makes compiler d r) : r.toRuleInfo = d.info := by
  cases h <;> rfl

theorem Makes.check (hd : d.InOrder) (h : Makes compiler d r) : r.check = .ok () := by
  obtain ⟨hid, hname, htext, hconfidence⟩ := hd
  cases h <;> exact Rule.check_eq_ok_iff.mpr ⟨hid, hname, htext, hconfidence⟩

end RuleDraft

namespace Catalogue

/-- The texts of the built-in patterns. -/
def patterns : List String := drafts.filterMap RuleDraft.text?

theorem inOrder_of_mem : ∀ d ∈ drafts, d.InOrder := by
  have hall : ∀ d ∈ drafts, Text.isBlankText d.info.id = false ∧ Text.isBlankText d.info.name = false ∧
      d.text?.any Text.isBlankText = false ∧ isConfidence d.info.confidence = true := by decide +kernel
  intro d hd
  obtain ⟨hid, hname, htext, hconfidence⟩ := hall d hd
  exact ⟨hid, hname, htext, hconfidence⟩

theorem nodup_ids : (drafts.map (·.info.id)).Nodup := by decide

theorem compiles_of_mem_patterns : ∀ text ∈ patterns, (Pattern.compile text).isSome = true := by
  have hread : ∀ text ∈ patterns, (Pattern.Regex.read? text).isSome = true := by decide +kernel
  intro text htext
  rw [Pattern.compile, Option.isSome_map]
  exact hread text htext

variable {compiler : Pattern.Compiler}

theorem rules_eq_ok_iff {rules : List Rule} :
    Catalogue.rules compiler = .ok rules ↔ List.Forall₂ (RuleDraft.Makes compiler) drafts rules :=
  mapM_eq_ok_iff fun d hd _ => RuleDraft.rule_eq_ok_iff (inOrder_of_mem d hd)

/-- The error of the first built-in pattern that does not compile. -/
def FirstFault (compiler : Pattern.Compiler) (e : RuleError) : Prop :=
  ∃ before info text after, drafts = before ++ .byPattern info text :: after ∧
    (∀ d ∈ before, ∀ text ∈ d.text?, (compiler text).isSome = true) ∧ compiler text = none ∧
      e = .invalidPattern info.id

theorem rules_eq_error_iff {e : RuleError} : Catalogue.rules compiler = .error e ↔ FirstFault compiler e := by
  rw [Catalogue.rules, mapM_eq_error_iff]
  constructor
  · rintro ⟨before, d, after, hdrafts, hbefore, he⟩
    have hin : ∀ d' ∈ before ++ d :: after, d'.InOrder := hdrafts ▸ inOrder_of_mem
    obtain ⟨info, text, rfl, hnone, rfl⟩ := (RuleDraft.rule_eq_error_iff (hin d (by simp))).mp he
    refine ⟨before, info, text, after, hdrafts, fun d' hd' => ?_, hnone, rfl⟩
    exact (RuleDraft.exists_rule_iff (hin d' (List.mem_append_left _ hd'))).mp (hbefore d' hd')
  · rintro ⟨before, info, text, after, hdrafts, hbefore, hnone, rfl⟩
    have hin : ∀ d ∈ before ++ .byPattern info text :: after, d.InOrder := hdrafts ▸ inOrder_of_mem
    refine ⟨before, .byPattern info text, after, hdrafts, fun d hd => ?_, ?_⟩
    · exact (RuleDraft.exists_rule_iff (hin d (List.mem_append_left _ hd))).mpr (hbefore d hd)
    · exact (RuleDraft.rule_eq_error_iff (hin _ (by simp))).mpr ⟨info, text, rfl, hnone, rfl⟩

theorem map_info {rules : List Rule} (h : List.Forall₂ (RuleDraft.Makes compiler) drafts rules) :
    rules.map (·.toRuleInfo) = drafts.map (·.info) := by
  have hinfo : List.Forall₂ (· = ·) (drafts.map (·.info)) (rules.map (·.toRuleInfo)) := by
    rw [List.forall₂_map_left_iff, List.forall₂_map_right_iff]
    exact h.imp fun _ _ hmakes => hmakes.info_eq.symm
  exact (List.forall₂_eq_eq_eq ▸ hinfo).symm

theorem checkRules_rules {rules : List Rule} (h : Catalogue.rules compiler = .ok rules) :
    Registry.checkRules [] rules = .ok () := by
  have hmakes := rules_eq_ok_iff.mp h
  have hids : rules.map (·.id) = drafts.map (·.info.id) := by
    simpa [Function.comp_def] using congrArg (List.map (·.id)) (map_info hmakes)
  refine Registry.checkRules_eq_ok_iff.mpr ⟨fun r hr => ?_, hids ▸ nodup_ids, fun _ _ => List.not_mem_nil⟩
  obtain ⟨d, hd, hdr⟩ := exists_left_of_mem hmakes hr
  exact hdr.check (inOrder_of_mem d hd)

end Catalogue

namespace Registry

variable {compiler : Pattern.Compiler} {reg : Registry}

theorem builtin_eq_ok_iff : builtin compiler = .ok reg ↔ Catalogue.rules compiler = .ok reg.rules := by
  rw [builtin, bind_eq_ok_iff]
  constructor
  · rintro ⟨rules, hrules, hreg⟩
    rw [ofRules, Catalogue.checkRules_rules hrules] at hreg
    cases hreg
    exact hrules
  · intro h
    refine ⟨_, h, ?_⟩
    rw [ofRules, Catalogue.checkRules_rules h]
    rfl

theorem builtin_eq_error_iff {e : RuleError} : builtin compiler = .error e ↔ Catalogue.FirstFault compiler e := by
  have hrules : builtin compiler = .error e ↔ Catalogue.rules compiler = .error e := by
    rw [builtin, bind_eq_error_iff, or_iff_left]
    rintro ⟨rules, hrules, h⟩
    rw [ofRules, Catalogue.checkRules_rules hrules] at h
    cases h
  rw [hrules, Catalogue.rules_eq_error_iff]

theorem exists_builtin_iff :
    (∃ reg, builtin compiler = .ok reg) ↔ ∀ text ∈ Catalogue.patterns, (compiler text).isSome = true := by
  constructor
  · rintro ⟨reg, hbuiltin⟩ text htext
    obtain ⟨d, hd, htext⟩ := List.mem_filterMap.mp htext
    obtain ⟨r, -, hr⟩ := exists_left_of_mem (Catalogue.rules_eq_ok_iff.mp (builtin_eq_ok_iff.mp hbuiltin)).flip hd
    have hd := Catalogue.inOrder_of_mem d hd
    exact (RuleDraft.exists_rule_iff hd).mp ⟨r, (RuleDraft.rule_eq_ok_iff hd).mpr hr⟩ text htext
  · intro h
    cases hbuiltin : builtin compiler with
    | ok reg => exact ⟨reg, rfl⟩
    | error e =>
      obtain ⟨before, info, text, after, hdrafts, -, hnone, -⟩ := builtin_eq_error_iff.mp hbuiltin
      have hmem : RuleDraft.byPattern info text ∈ Catalogue.drafts := by simp [hdrafts]
      have hsome := h text (List.mem_filterMap.mpr ⟨_, hmem, rfl⟩)
      rw [hnone] at hsome
      cases hsome

theorem exists_builtin : ∃ reg, builtin Pattern.compile = .ok reg :=
  exists_builtin_iff.mpr Catalogue.compiles_of_mem_patterns

/-- The registries that there are: the built-in one, those of lists of rules, and what configurations make of them. -/
inductive Obtained : Registry → Prop
  | builtin {compiler : Pattern.Compiler} {reg : Registry} (h : builtin compiler = .ok reg) : Obtained reg
  | ofRules {rules : List Rule} {reg : Registry} (h : ofRules rules = .ok reg) : Obtained reg
  | configured {reg next : Registry} {skip : List String} {custom : List Rule} (before : Obtained reg)
      (h : reg.configured skip custom = .ok next) : Obtained next

theorem WellFormed.builtin (h : Registry.builtin compiler = .ok reg) : reg.WellFormed := by
  obtain ⟨rules, -, hrules⟩ := bind_eq_ok_iff.mp h
  exact .ofRules hrules

theorem Obtained.wellFormed (h : reg.Obtained) : reg.WellFormed := by
  induction h with
  | builtin h => exact .builtin h
  | ofRules h => exact .ofRules h
  | configured _ h ih => exact ih.configured h

end Registry

end ContractAudit
