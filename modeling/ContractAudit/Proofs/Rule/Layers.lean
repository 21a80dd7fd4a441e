import ContractAudit.Proofs.Rule.Configuration

/-!
# Layers of custom rules

A rule pack is installed when an auditor starts, and the options of an audit bring further rules. Instead of installing
one layer on top of the other, the upper layer can be installed into the lower one beforehand, and the outcome installed
at once (`install_install`). Where a rule ends up depends on which of the three lists have its id, but both ways put it
at the same place: an id stands where the lowest layer with that id has it, and the rule is the one of the highest layer.
-/

namespace ContractAudit.Registry

/-! ## Ids -/

@[simp] theorem id_override (custom : List Rule) (r : Rule) : (override custom r).id = r.id := by
  unfold override
  cases hfound : custom.find? (·.id == r.id) with
  | none => rfl
  | some c =>
    have hid := List.find?_some hfound
    exact eq_of_beq hid

theorem mem_ids_install {id : String} {custom rules : List Rule} :
    id ∈ (install custom rules).map (·.id) ↔ id ∈ custom.map (·.id) ∨ id ∈ rules.map (·.id) := by
  induction custom generalizing rules with
  | nil => simp [install]
  | cons c custom ih =>
    have hstep : install (c :: custom) rules = install custom (put c rules) := rfl
    have hput : id ∈ (put c rules).map (·.id) ↔ id = c.id ∨ id ∈ rules.map (·.id) := by
      rw [ids_put]
      split
      · next hc =>
        constructor
        · exact Or.inr
        · rintro (rfl | hid)
          · exact hc
          · exact hid
      · rw [List.mem_append, List.mem_singleton, or_comm]
    rw [hstep, ih, hput, List.map_cons, List.mem_cons]
    tauto

theorem find?_install {upper : List Rule} (hupper : (upper.map (·.id)).Nodup) (lower : List Rule) (id : String) :
    (install upper lower).find? (·.id == id) = (upper.find? (·.id == id)).or (lower.find? (·.id == id)) := by
  cases hfound : upper.find? (·.id == id) with
  | none =>
    have hfresh : id ∉ upper.map (·.id) := by
      intro hid
      obtain ⟨c, hc, rfl⟩ := List.mem_map.mp hid
      have hnot := List.find?_eq_none.mp hfound c hc
      exact hnot (beq_self_eq_true c.id)
    rw [find?_install_of_not_mem hfresh, Option.none_or]
  | some c =>
    have hid := List.find?_some hfound
    obtain rfl := eq_of_beq hid
    rw [find?_install_of_mem hupper (List.mem_of_find?_eq_some hfound), Option.some_or]

/-! ## Two layers -/

theorem override_install {upper : List Rule} (hupper : (upper.map (·.id)).Nodup) (lower : List Rule) (r : Rule) :
    override (install upper lower) r = override upper (override lower r) := by
  have hid := id_override lower r
  rw [override, override, find?_install hupper, hid, override]
  cases upper.find? (·.id == r.id) <;> rfl

theorem additions_install {upper lower : List Rule} (hupper : (upper.map (·.id)).Nodup)
    (hlower : (lower.map (·.id)).Nodup) (rules : List Rule) :
    additions (install upper lower) rules =
      (additions lower rules).map (override upper) ++ additions upper (install lower rules) := by
  -- The lower layer keeps its order and its ids, and what the upper layer adds to it comes last.
  have hreplaced : additions (lower.map (override upper)) rules = (additions lower rules).map (override upper) := by
    unfold additions
    rw [List.filter_map]
    simp only [Function.comp_def, id_override]
  have hadded : additions (additions upper lower) rules = additions upper (install lower rules) := by
    unfold additions
    rw [List.filter_filter]
    apply List.filter_congr
    intro c _
    rw [Bool.eq_iff_iff, Bool.and_eq_true, decide_eq_true_iff, decide_eq_true_iff, decide_eq_true_iff,
      mem_ids_install]
    tauto
  have hsplit : additions (install upper lower) rules =
      additions (lower.map (override upper)) rules ++ additions (additions upper lower) rules := by
    rw [install_eq hupper hlower]
    exact List.filter_append _ _
  rw [hsplit, hreplaced, hadded]

/-- **Installing one layer after the other is installing the merged layers.** -/
theorem install_install {upper lower rules : List Rule} (hupper : (upper.map (·.id)).Nodup)
    (hlower : (lower.map (·.id)).Nodup) (hrules : (rules.map (·.id)).Nodup) :
    install upper (install lower rules) = install (install upper lower) rules := by
  have hmerged : ((install upper lower).map (·.id)).Nodup := nodup_install upper hlower
  have hbelow : ((install lower rules).map (·.id)).Nodup := nodup_install lower hrules
  have hoverride : override (install upper lower) = override upper ∘ override lower :=
    funext (override_install hupper lower)
  have hreplaced : (install lower rules).map (override upper) =
      rules.map (override upper ∘ override lower) ++ (additions lower rules).map (override upper) := by
    rw [install_eq hlower hrules, List.map_append, List.map_map]
  rw [install_eq hupper hbelow, install_eq hmerged hrules, hreplaced, hoverride, additions_install hupper hlower,
    List.append_assoc]

/-! ## Layers of a configuration -/

@[simp] theorem without_nil (rules : List Rule) : without [] rules = rules := by
  simp [without]

theorem ofRules_of_wellFormed {rules : List Rule} (h : WellFormed ⟨rules⟩) : ofRules rules = .ok ⟨rules⟩ := by
  rw [ofRules, checkRules_nil_eq_ok_iff.mpr h]
  rfl

theorem ofRules_of_firstFault {rules : List Rule} {e : RuleError} (h : FirstFault rules e) :
    ofRules rules = .error e := by
  rw [ofRules, checkRules_of_firstFault h]
  rfl

theorem configured_of_wellFormed {custom : List Rule} (h : WellFormed ⟨custom⟩) (reg : Registry) (skip : List String) :
    reg.configured skip custom = .ok ⟨without skip (install custom reg.rules)⟩ := by
  rw [configured_eq, checkRules_nil_eq_ok_iff.mpr h]
  rfl

theorem configured_of_firstFault {custom : List Rule} {e : RuleError} (h : FirstFault custom e) (reg : Registry)
    (skip : List String) : reg.configured skip custom = .error e := by
  rw [configured_eq, checkRules_of_firstFault h]
  rfl

theorem configured_merged {pack options : List Rule} (hpack : WellFormed ⟨pack⟩) (hoptions : WellFormed ⟨options⟩)
    {reg : Registry} (hreg : (reg.rules.map (·.id)).Nodup) (skip : List String) :
    reg.configured skip (install options pack) = .ok ⟨without skip (install options (install pack reg.rules))⟩ := by
  have hmerged : WellFormed ⟨install options pack⟩ := by
    have hconfigured := configured_of_wellFormed hoptions ⟨pack⟩ []
    rw [without_nil] at hconfigured
    exact hpack.configured hconfigured
  rw [configured_of_wellFormed hmerged, install_install hoptions.distinct hpack.distinct hreg]

/-- **Layers of rules can be merged beforehand.** Let the rules of a pack be installed first and the rules of the options
on top of them, with some ids skipped. If both layers are well formed, every step succeeds, and so does installing the
options into the pack by itself and the outcome into the registry; both ways lead to the same rules. If a layer is at
fault, both ways fail with the same error. -/
theorem layers_associate {reg : Registry} (hreg : (reg.rules.map (·.id)).Nodup) (skip : List String)
    (pack options : List Rule) :
    (WellFormed ⟨pack⟩ → WellFormed ⟨options⟩ → ∃ started audited base merged single : Registry,
      reg.configured [] pack = .ok started ∧ started.configured skip options = .ok audited ∧
      ofRules pack = .ok base ∧ base.configured [] options = .ok merged ∧
      reg.configured skip merged.rules = .ok single ∧ audited.rules = single.rules) ∧
    (reg.configured [] pack).bind (fun started => started.configured skip options) =
      ((ofRules pack).bind fun base => base.configured [] options).bind
        fun merged => reg.configured skip merged.rules := by
  constructor
  · intro hpack hoptions
    refine ⟨_, _, _, _, _, configured_of_wellFormed hpack reg [], configured_of_wellFormed hoptions _ skip,
      ofRules_of_wellFormed hpack, configured_of_wellFormed hoptions _ [], ?_, rfl⟩
    simp only [without_nil]
    exact configured_merged hpack hoptions hreg skip
  · rcases wellFormed_or_firstFault pack with hpack | ⟨e, hfault⟩
    · rw [configured_of_wellFormed hpack, ofRules_of_wellFormed hpack]
      rcases wellFormed_or_firstFault options with hoptions | ⟨e, hfault⟩
      · simp only [Except.bind, configured_of_wellFormed hoptions, without_nil]
        exact (configured_merged hpack hoptions hreg skip).symm
      · simp only [Except.bind, configured_of_firstFault hfault]
    · rw [configured_of_firstFault hfault, ofRules_of_firstFault hfault]
      rfl

/-- A registry of three rules. -/
def threeRules : Registry := ⟨[silentRule "A-01" "a", silentRule "B-01" "b", silentRule "C-01" "c"]⟩

/-- A pack that adds a rule and replaces two. -/
def samplePack : List Rule := [silentRule "D-01" "d", silentRule "B-01" "bee", silentRule "A-01" "ay"]

/-- Options that add a rule and replace two of the pack. -/
def sampleOptions : List Rule := [silentRule "E-01" "e", silentRule "B-01" "beta", silentRule "D-01" "delta"]

/-- The options replace a rule of the pack that itself replaces one of the registry, and one that the pack adds. -/
theorem layers_associate_sample : ∃ started audited base merged single : Registry,
    threeRules.configured [] samplePack = .ok started ∧ started.configured ["C-01"] sampleOptions = .ok audited ∧
    ofRules samplePack = .ok base ∧ base.configured [] sampleOptions = .ok merged ∧
    threeRules.configured ["C-01"] merged.rules = .ok single ∧ audited.rules = single.rules ∧
    audited.rules.map (·.name) = ["ay", "beta", "delta", "e"] := by
  have hdistinct : (threeRules.rules.map (·.id)).Nodup := by decide
  have hpack : WellFormed ⟨samplePack⟩ := ⟨by decide +kernel, by decide⟩
  have hoptions : WellFormed ⟨sampleOptions⟩ := ⟨by decide +kernel, by decide⟩
  obtain ⟨hlayers, -⟩ := layers_associate hdistinct ["C-01"] samplePack sampleOptions
  obtain ⟨started, audited, base, merged, single, hstarted, haudited, hmerge⟩ := hlayers hpack hoptions
  obtain ⟨hbase, hmerged, hsingle, hrules⟩ := hmerge
  refine ⟨started, audited, base, merged, single, hstarted, haudited, hbase, hmerged, hsingle, hrules, ?_⟩
  obtain ⟨-, rfl⟩ := of_configured_eq_ok hstarted
  obtain ⟨-, rfl⟩ := of_configured_eq_ok haudited
  rfl

end ContractAudit.Registry
