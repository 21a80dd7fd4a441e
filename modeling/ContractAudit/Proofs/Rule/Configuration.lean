import ContractAudit.Proofs.Rule.Registry
import Mathlib.Data.List.Induction

/-!
# What a configuration makes of a registry

Custom rules are put into the list one after the other, and each looks for its id in a list that already holds the ones
before it. With distinct ids the outcome does not show this: every rule from before is replaced by the custom rule of its
id, and the custom rules with new ids follow in their order (`install_eq`). A list of custom rules is refused for the
first of them that is at fault (`checkRules_eq_error_iff`), before any id is skipped.
-/

namespace ContractAudit.Registry

/-! ## The first fault -/

/-- `Fault before r e`: behind the rules `before`, the rule `r` is refused with `e`. Its own check comes first. -/
inductive Fault (before : List Rule) (r : Rule) : RuleError → Prop
  | malformed {e : RuleError} (h : r.check = .error e) : Fault before r e
  | repeated (hcheck : r.check = .ok ()) (hid : r.id ∈ before.map (·.id)) : Fault before r (.duplicateId r.id)

/-- The error of the first rule at fault; the rules in front of it would make a registry. -/
def FirstFault (rules : List Rule) (e : RuleError) : Prop :=
  ∃ before r after, rules = before ++ r :: after ∧ WellFormed ⟨before⟩ ∧ Fault before r e

theorem checkRules_nil_eq_ok_iff {rules : List Rule} : checkRules [] rules = .ok () ↔ WellFormed ⟨rules⟩ := by
  rw [checkRules_eq_ok_iff]
  constructor
  · rintro ⟨hchecked, hdistinct, -⟩
    exact ⟨hchecked, hdistinct⟩
  · rintro ⟨hchecked, hdistinct⟩
    exact ⟨hchecked, hdistinct, fun _ _ => List.not_mem_nil⟩

theorem checkRules_append {seen : List String} {front : List Rule} (hfront : checkRules seen front = .ok ())
    (rest : List Rule) : checkRules seen (front ++ rest) = checkRules ((front.map (·.id)).reverse ++ seen) rest := by
  induction front generalizing seen with
  | nil => rfl
  | cons r front ih =>
    obtain ⟨hchecked, hdistinct, hfresh⟩ := checkRules_eq_ok_iff.mp hfront
    have hcheck : r.check = .ok () := hchecked r List.mem_cons_self
    have hseen : seen.contains r.id = false := by
      rw [List.contains_eq_mem, decide_eq_false_iff_not]
      exact hfresh r List.mem_cons_self
    have hrest : checkRules (r.id :: seen) front = .ok () := by
      simpa only [checkRules, hcheck, hseen, Bool.false_eq_true, if_false] using hfront
    have hstep : checkRules seen (r :: (front ++ rest)) = checkRules (r.id :: seen) (front ++ rest) := by
      simp only [checkRules, hcheck, hseen, Bool.false_eq_true, if_false]
    rw [List.cons_append, hstep, ih hrest, List.map_cons, List.reverse_cons, List.append_assoc, List.singleton_append]

theorem checkRules_of_firstFault {rules : List Rule} {e : RuleError} (h : FirstFault rules e) :
    checkRules [] rules = .error e := by
  obtain ⟨before, r, after, rfl, hbefore, hfault⟩ := h
  rw [checkRules_append (checkRules_nil_eq_ok_iff.mpr hbefore), List.append_nil, checkRules]
  cases hfault with
  | malformed hcheck => rw [hcheck]
  | repeated hcheck hid =>
    have hseen : (before.map (·.id)).reverse.contains r.id = true := by
      rw [List.contains_eq_mem, decide_eq_true_iff, List.mem_reverse]
      exact hid
    rw [hcheck]
    dsimp only
    rw [if_pos hseen]

theorem wellFormed_or_firstFault (rules : List Rule) : WellFormed ⟨rules⟩ ∨ ∃ e, FirstFault rules e := by
  induction rules using List.reverseRecOn with
  | nil => exact .inl ⟨nofun, List.nodup_nil⟩
  | append_singleton rules r ih =>
    rcases ih with hwellFormed | ⟨e, before, s, after, rfl, hbefore, hfault⟩
    · cases hcheck : r.check with
      | error e => exact .inr ⟨e, rules, r, [], rfl, hwellFormed, .malformed hcheck⟩
      | ok _ =>
        by_cases hid : r.id ∈ rules.map (·.id)
        · exact .inr ⟨_, rules, r, [], rfl, hwellFormed, .repeated hcheck hid⟩
        · left
          constructor
          · intro s hs
            rcases List.mem_append.mp hs with hs | hs
            · exact hwellFormed.checked s hs
            · rw [List.mem_singleton.mp hs]
              exact hcheck
          · rw [List.map_append]
            exact hwellFormed.distinct.append (List.nodup_singleton _) (List.disjoint_singleton.mpr hid)
    · refine .inr ⟨e, before, s, after ++ [r], ?_, hbefore, hfault⟩
      rw [List.append_assoc, List.cons_append]

theorem checkRules_eq_error_iff {rules : List Rule} {e : RuleError} :
    checkRules [] rules = .error e ↔ FirstFault rules e := by
  refine ⟨fun h => ?_, checkRules_of_firstFault⟩
  rcases wellFormed_or_firstFault rules with hwellFormed | ⟨e', hfault⟩
  · rw [checkRules_nil_eq_ok_iff.mpr hwellFormed] at h
    cases h
  · rw [checkRules_of_firstFault hfault] at h
    cases h
    exact hfault

/-! ## The installed rules -/

/-- The custom rule with the id of a rule, or else the rule itself. -/
def override (custom : List Rule) (r : Rule) : Rule := (custom.find? (·.id == r.id)).getD r

/-- The custom rules with new ids. -/
def additions (custom rules : List Rule) : List Rule := custom.filter fun c => c.id ∉ rules.map (·.id)

theorem override_of_not_mem {custom : List Rule} {r : Rule} (h : r.id ∉ custom.map (·.id)) : override custom r = r := by
  have hnone : custom.find? (·.id == r.id) = none := by
    rw [List.find?_eq_none]
    intro c hc hid
    exact h (List.mem_map.mpr ⟨c, hc, eq_of_beq hid⟩)
  rw [override, hnone]
  rfl

theorem map_override_of_not_mem {custom rules : List Rule} (h : ∀ r ∈ rules, r.id ∉ custom.map (·.id)) :
    rules.map (override custom) = rules := by
  calc rules.map (override custom) = rules.map id := List.map_congr_left fun r hr => override_of_not_mem (h r hr)
    _ = rules := List.map_id rules

theorem override_cons (c : Rule) (custom : List Rule) (r : Rule) :
    override (c :: custom) r = if c.id = r.id then c else override custom r := by
  unfold override
  by_cases hid : c.id = r.id
  · rw [List.find?_cons_of_pos (by simpa using hid), if_pos hid]
    rfl
  · rw [List.find?_cons_of_neg (by simpa using hid), if_neg hid]

theorem additions_singleton (r : Rule) (rules : List Rule) :
    additions [r] rules = if r.id ∈ rules.map (·.id) then [] else [r] := by
  unfold additions
  by_cases hid : r.id ∈ rules.map (·.id)
  · rw [List.filter_cons_of_neg (by simpa using hid), if_pos hid, List.filter_nil]
  · rw [List.filter_cons_of_pos (by simpa using hid), if_neg hid, List.filter_nil]

theorem put_eq {rules : List Rule} (hdistinct : (rules.map (·.id)).Nodup) (r : Rule) :
    put r rules = rules.map (override [r]) ++ additions [r] rules := by
  rw [additions_singleton]
  induction rules with
  | nil => rfl
  | cons s rest ih =>
    rw [List.map_cons, List.nodup_cons] at hdistinct
    obtain ⟨hs, hrest⟩ := hdistinct
    rw [put, List.map_cons, override_cons]
    by_cases hid : r.id = s.id
    · have hkept : rest.map (override [r]) = rest := by
        apply map_override_of_not_mem
        intro t ht htid
        rw [List.map_cons, List.map_nil, List.mem_singleton, hid] at htid
        exact hs (List.mem_map.mpr ⟨t, ht, htid⟩)
      rw [if_pos (by simp [hid]), if_pos hid, hkept, if_pos (by simp [hid]), List.append_nil]
    · have hsame : override [] s = s := rfl
      have hmem : r.id ∈ (s :: rest).map (·.id) ↔ r.id ∈ rest.map (·.id) := by simp [hid]
      rw [if_neg (by simpa using fun h => hid h.symm), if_neg hid, hsame, ih hrest]
      simp only [hmem, List.cons_append]

theorem additions_put {c : Rule} {custom : List Rule} (hc : c.id ∉ custom.map (·.id)) (rules : List Rule) :
    additions custom (put c rules) = additions custom rules := by
  apply List.filter_congr
  intro d hd
  have hne : d.id ≠ c.id := fun h => hc (List.mem_map.mpr ⟨d, hd, h⟩)
  rw [ids_put]
  split
  · rfl
  · simp [hne]

/-- **The custom rules replace those of their ids in place, and the rest of them follow.** -/
theorem install_eq {custom rules : List Rule} (hcustom : (custom.map (·.id)).Nodup)
    (hrules : (rules.map (·.id)).Nodup) :
    install custom rules = rules.map (override custom) ++ additions custom rules := by
  induction custom generalizing rules with
  | nil =>
    rw [map_override_of_not_mem fun _ _ => List.not_mem_nil]
    exact (List.append_nil rules).symm
  | cons c custom ih =>
    rw [List.map_cons, List.nodup_cons] at hcustom
    obtain ⟨hc, hcustom⟩ := hcustom
    have hput : ((put c rules).map (·.id)).Nodup := nodup_install [c] hrules
    have hstep : install (c :: custom) rules = install custom (put c rules) := rfl
    have hreplaced : ∀ r, override custom (override [c] r) = override (c :: custom) r := by
      intro r
      rw [override_cons, override_cons]
      split
      · exact override_of_not_mem hc
      · rfl
    have hadded : (additions [c] rules).map (override custom) = additions [c] rules := by
      apply map_override_of_not_mem
      intro d hd
      rw [List.mem_singleton.mp (List.mem_filter.mp hd).1]
      exact hc
    have hsplit : additions (c :: custom) rules = additions [c] rules ++ additions custom rules :=
      List.filter_append [c] custom
    rw [hstep, ih hcustom hput, additions_put hc, put_eq hrules, List.map_append, hadded, hsplit, List.append_assoc,
      List.map_map]
    simp only [Function.comp_def, hreplaced]

/-! ## Looking up a rule -/

theorem find?_put (r : Rule) (rules : List Rule) (id : String) :
    (put r rules).find? (·.id == id) = if r.id = id then some r else rules.find? (·.id == id) := by
  induction rules with
  | nil => by_cases hid : r.id = id <;> simp [put, hid]
  | cons s rest ih =>
    rw [put]
    by_cases hs : s.id = r.id
    · by_cases hid : r.id = id <;> simp [hs, hid]
    · by_cases hid : r.id = id
      · have hs' : s.id ≠ id := fun h => hs (h.trans hid.symm)
        simp [hs', ih, hid]
      · simp [hs, ih, hid, List.find?_cons]

theorem find?_install_of_not_mem {custom : List Rule} {id : String} (h : id ∉ custom.map (·.id)) (rules : List Rule) :
    (install custom rules).find? (·.id == id) = rules.find? (·.id == id) := by
  induction custom generalizing rules with
  | nil => rfl
  | cons c custom ih =>
    rw [List.map_cons, List.mem_cons, not_or] at h
    have hput := find?_put c rules id
    rw [if_neg fun hid => h.1 hid.symm] at hput
    exact (ih h.2 (put c rules)).trans hput

theorem find?_install_of_mem {custom : List Rule} (hcustom : (custom.map (·.id)).Nodup) {c : Rule} (hc : c ∈ custom)
    (rules : List Rule) : (install custom rules).find? (·.id == c.id) = some c := by
  induction custom generalizing rules with
  | nil => cases hc
  | cons d custom ih =>
    rw [List.map_cons, List.nodup_cons] at hcustom
    rcases List.mem_cons.mp hc with rfl | hc
    · have hput := find?_put c rules c.id
      rw [if_pos rfl] at hput
      exact (find?_install_of_not_mem hcustom.1 (put c rules)).trans hput
    · exact ih hcustom.2 hc (put d rules)

theorem find?_without (skip : List String) (rules : List Rule) (id : String) :
    (without skip rules).find? (·.id == id) = if id ∈ skip then none else rules.find? (·.id == id) := by
  have hkept : ∀ r : Rule, decide ((!skip.contains r.id) = true ∧ (r.id == id) = true) =
      (decide (id ∉ skip) && r.id == id) := by
    intro r
    rw [Bool.eq_iff_iff, decide_eq_true_iff, Bool.and_eq_true, beq_iff_eq]
    constructor
    · rintro ⟨hkept, rfl⟩
      simpa using hkept
    · rintro ⟨hkept, rfl⟩
      simpa using hkept
  rw [without, List.find?_filter]
  simp only [hkept]
  by_cases hskip : id ∈ skip <;> simp [hskip]

/-! ## Configurations -/

/-- **A configuration yields exactly the registry that it describes.** It succeeds if and only if the custom rules are
well formed and have distinct ids; otherwise it fails with the error of the first custom rule at fault, skipped or not.
The result has the rules from before in their order, each replaced by the custom rule of its id if there is one, then the
custom rules with new ids in their order, all without the skipped ids. It is well formed again. Under a skipped id it has
nothing, under the id of a custom rule that rule, and under any other id what was there before. -/
theorem configured_exact {reg : Registry} (hreg : reg.Obtained) (skip : List String) (custom : List Rule) :
    ((∃ next, reg.configured skip custom = .ok next) ↔
      (∀ r ∈ custom, r.check = .ok ()) ∧ (custom.map (·.id)).Nodup) ∧
    (∀ e, reg.configured skip custom = .error e ↔ FirstFault custom e) ∧
    ∀ next, reg.configured skip custom = .ok next →
      next.rules = (reg.rules.map (override custom) ++ additions custom reg.rules).filter (fun r => r.id ∉ skip) ∧
      next.WellFormed ∧
      (∀ id ∈ skip, next.get? id = none) ∧
      (∀ c ∈ custom, c.id ∉ skip → next.get? c.id = some c) ∧
      ∀ id, id ∉ skip → id ∉ custom.map (·.id) → next.get? id = reg.get? id := by
  have hwellFormed := hreg.wellFormed
  refine ⟨?_, ?_, ?_⟩
  · constructor
    · rintro ⟨next, hnext⟩
      obtain ⟨hcheck, -⟩ := of_configured_eq_ok hnext
      have hwellFormed := checkRules_nil_eq_ok_iff.mp hcheck
      exact ⟨hwellFormed.checked, hwellFormed.distinct⟩
    · rintro ⟨hchecked, hdistinct⟩
      rw [configured_eq, checkRules_nil_eq_ok_iff.mpr ⟨hchecked, hdistinct⟩]
      exact ⟨_, rfl⟩
  · intro e
    rw [configured_eq, ← checkRules_eq_error_iff]
    cases checkRules [] custom <;> simp [Except.map]
  · intro next hnext
    have hnext' := hwellFormed.configured hnext
    obtain ⟨hcheck, rfl⟩ := of_configured_eq_ok hnext
    have hdistinct := (checkRules_nil_eq_ok_iff.mp hcheck).distinct
    refine ⟨?_, hnext', ?_, ?_, ?_⟩
    · rw [install_eq hdistinct hwellFormed.distinct]
      apply List.filter_congr
      intro r _
      simp
    · intro id hskip
      exact (find?_without skip _ id).trans (if_pos hskip)
    · intro c hc hskip
      rw [get?, find?_without, if_neg hskip, find?_install_of_mem hdistinct hc]
    · intro id hskip hnew
      rw [get?, find?_without, if_neg hskip, find?_install_of_not_mem hnew]
      rfl

/-- A rule that finds nothing. -/
def silentRule (id name : String) : Rule :=
  ⟨⟨id, name, .low, "", "", [], percent 50⟩, .structural fun _ _ => .ok []⟩

/-- One rule is replaced in its place, one is added, and one is skipped; a rule that is given twice is an error although
it is skipped. -/
theorem configured_exact_threefold : ∃ reg next : Registry,
    ofRules [silentRule "A-01" "a", silentRule "B-01" "b", silentRule "C-01" "c"] = .ok reg ∧
    reg.configured ["C-01"] [silentRule "Z-01" "z", silentRule "B-01" "bee"] = .ok next ∧
    next.rules = [silentRule "A-01" "a", silentRule "B-01" "bee", silentRule "Z-01" "z"] ∧
    next.get? "B-01" = some (silentRule "B-01" "bee") ∧ next.get? "C-01" = none ∧
    reg.configured ["Z-01"] [silentRule "Z-01" "z", silentRule "Z-01" "z"] = .error (.duplicateId "Z-01") := by
  have hrules : ofRules [silentRule "A-01" "a", silentRule "B-01" "b", silentRule "C-01" "c"] =
      .ok ⟨[silentRule "A-01" "a", silentRule "B-01" "b", silentRule "C-01" "c"]⟩ := rfl
  have hreg := Obtained.ofRules hrules
  obtain ⟨hok, -, hnext⟩ :=
    configured_exact hreg ["C-01"] [silentRule "Z-01" "z", silentRule "B-01" "bee"]
  obtain ⟨-, herror, -⟩ := configured_exact hreg ["Z-01"] [silentRule "Z-01" "z", silentRule "Z-01" "z"]
  obtain ⟨next, hconfigured⟩ := hok.mpr ⟨by decide +kernel, by decide⟩
  obtain ⟨hlist, -, hskipped, hcustom, -⟩ := hnext next hconfigured
  have hreplaced := hcustom (silentRule "B-01" "bee") (by simp) (by decide)
  refine ⟨_, next, hrules, hconfigured, hlist, hreplaced, hskipped _ (by simp), ?_⟩
  refine (herror _).mpr ⟨[silentRule "Z-01" "z"], silentRule "Z-01" "z", [], rfl, ?_, .repeated rfl (by simp)⟩
  exact ⟨by decide +kernel, List.nodup_singleton _⟩

end ContractAudit.Registry
