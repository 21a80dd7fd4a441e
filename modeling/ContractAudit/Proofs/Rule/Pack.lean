import ContractAudit.Audit.Configured
import ContractAudit.Proofs.Rule.Layers
import Mathlib.Data.List.Forall2

/-!
# A pack that loads can be installed

The entries of two files become rules one after the other, with one collection of ids for both files, while a registry
collects the ids of the custom rules by itself and checks each rule once more. Both agree: entries load exactly if they
have distinct ids and each of them is accepted (`exists_build_iff`), and the rules that they make pass every check of a
registry (`wellFormed_of_forall₂`). Otherwise the load fails for the first entry at fault, whatever the entries before
it have made (`of_build_eq_error`). All this is so whatever texts compile. A configuration is refused for a rule exactly
if a built-in pattern does not compile (`Auditor.ofConfig_eq_rule_iff`), and all of them do.
-/

namespace ContractAudit

namespace RulePack

variable {compiler : Pattern.Compiler}

/-! ## One entry -/

/-- `Makes compiler e r`: the fields of the entry are all in order, and the rule is the one that they describe. -/
inductive Entry.Makes (compiler : Pattern.Compiler) (e : Entry) : Rule → Prop
  | intro {severity : Severity} {program : Pattern.Program} (hid : Text.isBlankText e.id = false)
    (hname : Text.isBlankText e.name = false) (hblank : Text.isBlankText e.pattern = false)
    (hconfidence : isConfidence e.confidence = true) (hseverity : Severity.read? e.severity = some severity)
    (hpattern : compiler e.pattern = some program) :
    Makes compiler e { e.info severity with matcher := .lexical ⟨e.pattern, program⟩ }

/-- The severity can be read, and the other fields make a rule. -/
def Entry.Accepted (compiler : Pattern.Compiler) (e : Entry) : Prop :=
  ∃ severity, Severity.read? e.severity = some severity ∧ ∃ r, Rule.lexical compiler (e.info severity) e.pattern = .ok r

/-- `Fault compiler seen path e err`: with these ids before it, the entry is refused. Its id comes first, then its
severity. -/
inductive Fault (compiler : Pattern.Compiler) (seen : List String) (path : String) (e : Entry) : PackError → Prop
  | repeated (hid : e.id ∈ seen) : Fault compiler seen path e (.duplicateId e.id)
  | severity (hid : e.id ∉ seen) (hseverity : Severity.read? e.severity = none) :
    Fault compiler seen path e (.unknownSeverity e.severity e.id path)
  | rule {severity : Severity} {cause : RuleError} (hid : e.id ∉ seen)
    (hseverity : Severity.read? e.severity = some severity)
    (hrule : Rule.lexical compiler (e.info severity) e.pattern = .error cause) :
    Fault compiler seen path e (.invalidRule e.id path cause)

theorem Entry.makes_iff {e : Entry} {r : Rule} : e.Makes compiler r ↔ ∃ severity,
    Severity.read? e.severity = some severity ∧ Rule.lexical compiler (e.info severity) e.pattern = .ok r := by
  constructor
  · rintro ⟨hid, hname, hblank, hconfidence, hseverity, hpattern⟩
    exact ⟨_, hseverity, Rule.lexical_eq_ok_iff.mpr ⟨hid, hname, hblank, hconfidence, _, hpattern, rfl⟩⟩
  · rintro ⟨severity, hseverity, hrule⟩
    obtain ⟨hid, hname, hblank, hconfidence, program, hpattern, rfl⟩ := Rule.lexical_eq_ok_iff.mp hrule
    exact .intro hid hname hblank hconfidence hseverity hpattern

theorem Entry.accepted_iff {e : Entry} : e.Accepted compiler ↔ ∃ r, e.Makes compiler r := by
  constructor
  · rintro ⟨severity, hseverity, r, hrule⟩
    exact ⟨r, makes_iff.mpr ⟨severity, hseverity, hrule⟩⟩
  · rintro ⟨r, hmakes⟩
    obtain ⟨severity, hseverity, hrule⟩ := makes_iff.mp hmakes
    exact ⟨severity, hseverity, r, hrule⟩

theorem Entry.Makes.id_eq {e : Entry} {r : Rule} (h : e.Makes compiler r) : r.id = e.id := by
  cases h
  rfl

theorem Entry.Makes.check {e : Entry} {r : Rule} (h : e.Makes compiler r) : r.check = .ok () := by
  obtain ⟨hid, hname, hblank, hconfidence, -, -⟩ := h
  exact Rule.check_eq_ok_iff.mpr ⟨hid, hname, hblank, hconfidence⟩

theorem Entry.rule_eq_ok_iff {e : Entry} (path : String) {r : Rule} :
    e.rule compiler path = .ok r ↔ e.Makes compiler r := by
  unfold Entry.rule
  rw [makes_iff]
  cases Severity.read? e.severity with
  | none => simp
  | some severity => simp [mapError_eq_ok_iff]

theorem Entry.fault_of_rule {e : Entry} {path : String} {err : PackError} {seen : List String} (hid : e.id ∉ seen)
    (h : e.rule compiler path = .error err) : Fault compiler seen path e err := by
  unfold Entry.rule at h
  cases hseverity : Severity.read? e.severity with
  | none =>
    rw [hseverity] at h
    cases h
    exact .severity hid hseverity
  | some severity =>
    rw [hseverity] at h
    obtain ⟨cause, hrule, rfl⟩ := mapError_eq_error_iff.mp h
    exact .rule hid hseverity hrule

/-! ## The entries of a file -/

/-- The ids of the entries are distinct from each other and from those seen before. -/
def Fresh (seen : List String) (entries : List Entry) : Prop :=
  (entries.map (·.id)).Nodup ∧ ∀ e ∈ entries, e.id ∉ seen

theorem fresh_cons {seen : List String} {e : Entry} {rest : List Entry} :
    Fresh seen (e :: rest) ↔ e.id ∉ seen ∧ Fresh (e.id :: seen) rest := by
  have hids : (∀ d ∈ rest, d.id ∉ e.id :: seen) ↔ e.id ∉ rest.map (·.id) ∧ ∀ d ∈ rest, d.id ∉ seen := by
    simp only [List.mem_cons, not_or, List.mem_map, not_exists, not_and, ← forall_and]
  rw [Fresh, Fresh, hids, List.map_cons, List.nodup_cons, List.forall_mem_cons]
  tauto

theorem fresh_append {first second : List Entry} :
    Fresh [] (first ++ second) ↔ Fresh [] first ∧ Fresh (first.map (·.id)) second := by
  have hids : List.Disjoint (first.map (·.id)) (second.map (·.id)) ↔ ∀ e ∈ second, e.id ∉ first.map (·.id) := by
    rw [List.disjoint_right, List.forall_mem_map]
  simp only [Fresh, List.map_append, List.nodup_append', hids, List.not_mem_nil, not_false_iff, implies_true, and_true]

theorem rulesOf_cons_eq_ok_iff {seen : List String} {path : String} {e : Entry} {rest : List Entry}
    {rules : List Rule} : rulesOf compiler seen path (e :: rest) = .ok rules ↔
      e.id ∉ seen ∧ ∃ r, e.Makes compiler r ∧
        ∃ more, rulesOf compiler (e.id :: seen) path rest = .ok more ∧ r :: more = rules := by
  rw [rulesOf]
  by_cases hid : e.id ∈ seen
  · simp [hid]
  · simp only [List.contains_eq_mem, hid, decide_false, Bool.false_eq_true, if_false, not_false_iff, true_and,
      bind_eq_ok_iff, Entry.rule_eq_ok_iff, pure, Except.pure, Except.ok.injEq]

theorem rulesOf_eq_ok_iff {seen : List String} {path : String} {entries : List Entry} {rules : List Rule} :
    rulesOf compiler seen path entries = .ok rules ↔
      Fresh seen entries ∧ List.Forall₂ (Entry.Makes compiler) entries rules := by
  induction entries generalizing seen rules with
  | nil => simp [rulesOf, Fresh, eq_comm]
  | cons e rest ih =>
    rw [rulesOf_cons_eq_ok_iff, fresh_cons]
    constructor
    · rintro ⟨hid, r, hr, more, hmore, rfl⟩
      obtain ⟨hfresh, hmakes⟩ := ih.mp hmore
      exact ⟨⟨hid, hfresh⟩, .cons hr hmakes⟩
    · rintro ⟨⟨hid, hfresh⟩, hmakes⟩
      obtain ⟨r, more, hr, hmore, rfl⟩ := List.forall₂_cons_left_iff.mp hmakes
      exact ⟨hid, r, hr, more, ih.mpr ⟨hfresh, hmore⟩, rfl⟩

theorem exists_forall₂_makes {entries : List Entry} (h : ∀ e ∈ entries, e.Accepted compiler) :
    ∃ rules, List.Forall₂ (Entry.Makes compiler) entries rules := by
  induction entries with
  | nil => exact ⟨[], .nil⟩
  | cons e rest ih =>
    rw [List.forall_mem_cons] at h
    obtain ⟨r, hr⟩ := Entry.accepted_iff.mp h.1
    obtain ⟨rules, hrules⟩ := ih h.2
    exact ⟨r :: rules, .cons hr hrules⟩

theorem accepted_of_forall₂ {entries : List Entry} {rules : List Rule}
    (h : List.Forall₂ (Entry.Makes compiler) entries rules) : ∀ e ∈ entries, e.Accepted compiler := by
  intro e he
  obtain ⟨r, -, hmakes⟩ := exists_left_of_mem h.flip he
  exact Entry.accepted_iff.mpr ⟨r, hmakes⟩

theorem Fault.congr {seen seen' : List String} {path : String} {e : Entry} {err : PackError}
    (h : Fault compiler seen path e err) (hseen : e.id ∈ seen ↔ e.id ∈ seen') : Fault compiler seen' path e err := by
  cases h with
  | repeated hid => exact .repeated (hseen.mp hid)
  | severity hid hseverity => exact .severity (mt hseen.mpr hid) hseverity
  | rule hid hseverity hrule => exact .rule (mt hseen.mpr hid) hseverity hrule

theorem of_rulesOf_eq_error {seen : List String} {path : String} {entries : List Entry} {err : PackError}
    (h : rulesOf compiler seen path entries = .error err) : ∃ before e after built, entries = before ++ e :: after ∧
      rulesOf compiler seen path before = .ok built ∧ Fault compiler (seen ++ before.map (·.id)) path e err := by
  induction entries generalizing seen with
  | nil => cases h
  | cons e rest ih =>
    by_cases hid : e.id ∈ seen
    · rw [rulesOf, if_pos (by simpa using hid)] at h
      cases h
      exact ⟨[], e, rest, [], rfl, rfl, .repeated (List.mem_append_left _ hid)⟩
    · rw [rulesOf, if_neg (by simpa using hid), bind_eq_error_iff] at h
      rcases h with hrule | ⟨r, hrule, h⟩
      · exact ⟨[], e, rest, [], rfl, rfl, (Entry.fault_of_rule hid hrule).congr (by simp)⟩
      · rcases bind_eq_error_iff.mp h with hrest | ⟨rules, -, h⟩
        · obtain ⟨before, d, after, built, rfl, hbuilt, hfault⟩ := ih hrest
          refine ⟨e :: before, d, after, r :: built, rfl, ?_, hfault.congr (by simp [or_left_comm])⟩
          exact rulesOf_cons_eq_ok_iff.mpr ⟨hid, r, (Entry.rule_eq_ok_iff path).mp hrule, built, hbuilt, rfl⟩
        · cases h

/-! ## The entries of both files -/

/-- The rules of the entries of two files. -/
def build (compiler : Pattern.Compiler) (jsonPath yamlPath : String) (first second : List Entry) :
    Except PackError (List Rule) := do
  let rules ← rulesOf compiler [] jsonPath first
  let more ← rulesOf compiler (first.map (·.id)) yamlPath second
  return rules ++ more

/-- No id is used twice, and every entry is accepted. -/
structure Sound (compiler : Pattern.Compiler) (entries : List Entry) : Prop where
  distinct : (entries.map (·.id)).Nodup
  accepted : ∀ e ∈ entries, e.Accepted compiler

/-- Every entry with the path of its file, in the order of a load. -/
def located (jsonPath yamlPath : String) (first second : List Entry) : List (String × Entry) :=
  first.map (jsonPath, ·) ++ second.map (yamlPath, ·)

/-- The error of the first entry at fault; the entries in front of it would load. -/
def FirstFault (compiler : Pattern.Compiler) (entries : List (String × Entry)) (err : PackError) : Prop :=
  ∃ before path e after, entries = before ++ (path, e) :: after ∧ Sound compiler (before.map (·.2)) ∧
    Fault compiler (before.map (·.2.id)) path e err

theorem build_eq_ok_iff {jsonPath yamlPath : String} {first second : List Entry} {rules : List Rule} :
    build compiler jsonPath yamlPath first second = .ok rules ↔
      ∃ front, rulesOf compiler [] jsonPath first = .ok front ∧
        ∃ back, rulesOf compiler (first.map (·.id)) yamlPath second = .ok back ∧ front ++ back = rules := by
  simp only [build, bind_eq_ok_iff, pure, Except.pure, Except.ok.injEq]

theorem of_build_eq_ok {jsonPath yamlPath : String} {first second : List Entry} {rules : List Rule}
    (h : build compiler jsonPath yamlPath first second = .ok rules) :
    Fresh [] (first ++ second) ∧ List.Forall₂ (Entry.Makes compiler) (first ++ second) rules := by
  obtain ⟨front, hfront, back, hback, rfl⟩ := build_eq_ok_iff.mp h
  obtain ⟨hfreshFront, hmakesFront⟩ := rulesOf_eq_ok_iff.mp hfront
  obtain ⟨hfreshBack, hmakesBack⟩ := rulesOf_eq_ok_iff.mp hback
  exact ⟨fresh_append.mpr ⟨hfreshFront, hfreshBack⟩, List.rel_append hmakesFront hmakesBack⟩

theorem exists_build_iff (jsonPath yamlPath : String) (first second : List Entry) :
    (∃ rules, build compiler jsonPath yamlPath first second = .ok rules) ↔ Sound compiler (first ++ second) := by
  constructor
  · rintro ⟨rules, h⟩
    obtain ⟨hfresh, hmakes⟩ := of_build_eq_ok h
    exact ⟨hfresh.1, accepted_of_forall₂ hmakes⟩
  · rintro ⟨hdistinct, haccepted⟩
    obtain ⟨hfirst, hsecond⟩ := fresh_append.mp ⟨hdistinct, fun _ _ => List.not_mem_nil⟩
    rw [List.forall_mem_append] at haccepted
    obtain ⟨front, hfront⟩ := exists_forall₂_makes haccepted.1
    obtain ⟨back, hback⟩ := exists_forall₂_makes haccepted.2
    exact ⟨front ++ back, build_eq_ok_iff.mpr ⟨front, rulesOf_eq_ok_iff.mpr ⟨hfirst, hfront⟩, back,
      rulesOf_eq_ok_iff.mpr ⟨hsecond, hback⟩, rfl⟩⟩

theorem of_build_eq_error {jsonPath yamlPath : String} {first second : List Entry} {err : PackError}
    (h : build compiler jsonPath yamlPath first second = .error err) :
    FirstFault compiler (located jsonPath yamlPath first second) err := by
  rcases bind_eq_error_iff.mp h with hfirst | ⟨front, hfirst, h⟩
  · obtain ⟨before, e, after, built, rfl, hbuilt, hfault⟩ := of_rulesOf_eq_error hfirst
    obtain ⟨hfresh, hmakes⟩ := rulesOf_eq_ok_iff.mp hbuilt
    refine ⟨before.map (jsonPath, ·), jsonPath, e, after.map (jsonPath, ·) ++ second.map (yamlPath, ·), ?_, ?_, ?_⟩
    · simp [located]
    · simpa [Function.comp_def] using Sound.mk hfresh.1 (accepted_of_forall₂ hmakes)
    · simpa [Function.comp_def] using hfault
  · rcases bind_eq_error_iff.mp h with hsecond | ⟨back, -, h⟩
    · obtain ⟨before, e, after, built, rfl, hbuilt, hfault⟩ := of_rulesOf_eq_error hsecond
      -- The first file and the entries of the second one so far would be a pack of their own.
      have hbuild := build_eq_ok_iff.mpr ⟨front, hfirst, built, hbuilt, rfl⟩
      have hsound : Sound compiler (first ++ before) := (exists_build_iff jsonPath yamlPath first before).mp ⟨_, hbuild⟩
      refine ⟨located jsonPath yamlPath first before, yamlPath, e, after.map (yamlPath, ·), ?_, ?_, ?_⟩
      · simp [located]
      · simpa [located, Function.comp_def] using hsound
      · simpa [located, Function.comp_def] using hfault
    · cases h

-- The files share their ids.
example :
    let entry (id severity : String) : Entry := ⟨id, "calls", severity, "", "call", "", [], percent 50⟩
    build Pattern.compile "rules.json" "rules.yml" [entry "X-01" "high", entry "X-02" " Low "] [entry "X-02" "high"] =
      .error (.duplicateId "X-02") := by rfl

/-! ## Installing a pack -/

theorem ids_of_forall₂ {entries : List Entry} {rules : List Rule}
    (h : List.Forall₂ (Entry.Makes compiler) entries rules) : rules.map (·.id) = entries.map (·.id) := by
  induction h with
  | nil => rfl
  | cons hmakes _ ih => rw [List.map_cons, List.map_cons, hmakes.id_eq, ih]

theorem checked_of_forall₂ {entries : List Entry} {rules : List Rule}
    (h : List.Forall₂ (Entry.Makes compiler) entries rules) : ∀ r ∈ rules, r.check = .ok () := by
  intro r hr
  obtain ⟨e, -, hmakes⟩ := exists_left_of_mem h hr
  exact hmakes.check

theorem wellFormed_of_forall₂ {entries : List Entry} {rules : List Rule}
    (hdistinct : (entries.map (·.id)).Nodup) (h : List.Forall₂ (Entry.Makes compiler) entries rules) :
    Registry.WellFormed ⟨rules⟩ := by
  refine ⟨checked_of_forall₂ h, ?_⟩
  show (rules.map (·.id)).Nodup
  rw [ids_of_forall₂ h]
  exact hdistinct

/-- Rules that are a registry of their own are installed into any other one, and found there. -/
theorem exists_configured {reg : Registry} (hreg : reg.WellFormed) {rules : List Rule}
    (hrules : Registry.WellFormed ⟨rules⟩) : ∃ next, reg.configured [] rules = .ok next ∧ next.WellFormed ∧
      ∀ r ∈ rules, next.get? r.id = some r := by
  have hconfigured := Registry.configured_of_wellFormed hrules reg []
  refine ⟨_, hconfigured, hreg.configured hconfigured, ?_⟩
  intro r hr
  rw [Registry.get?, Registry.without_nil]
  exact Registry.find?_install_of_mem hrules.distinct hr reg.rules

def jsonPath (directory : String) : String := Text.joinPath directory "rules.json"

def jsonEntries (files : Text.Files) (directory : String) : Except PackError (List Entry) :=
  readEntries files (jsonPath directory) entriesOfJson? (.invalidJson (jsonPath directory))

def yamlEntries (files : Text.Files) (directory : String) : Except PackError (List Entry) :=
  readEntries files (yamlPath files directory) entriesOfYaml? (.invalidYaml (yamlPath files directory))

theorem load_eq_ok_iff {files : Text.Files} {directory : String} {rules : List Rule} :
    load compiler files directory = .ok rules ↔ ∃ first second, jsonEntries files directory = .ok first ∧
      yamlEntries files directory = .ok second ∧
      build compiler (jsonPath directory) (yamlPath files directory) first second = .ok rules := by
  simp only [load, jsonEntries, yamlEntries, jsonPath, build, bind_eq_ok_iff]
  constructor
  · rintro ⟨first, hfirst, front, hfront, second, hsecond, hback⟩
    exact ⟨first, second, hfirst, hsecond, front, hfront, hback⟩
  · rintro ⟨first, second, hfirst, hsecond, front, hfront, hback⟩
    exact ⟨first, hfirst, front, hfront, second, hsecond, hback⟩

theorem wellFormed_of_load {files : Text.Files} {directory : String} {rules : List Rule}
    (h : load compiler files directory = .ok rules) : Registry.WellFormed ⟨rules⟩ := by
  obtain ⟨first, second, -, -, hbuild⟩ := load_eq_ok_iff.mp h
  obtain ⟨hfresh, hmakes⟩ := of_build_eq_ok hbuild
  exact wellFormed_of_forall₂ hfresh.1 hmakes

theorem rules_of_load_eq_error {files : Text.Files} {directory : String} {err : PackError}
    (h : load compiler files directory = .error err) :
    RulePack.rules compiler ⟨directory, none⟩ files = (.error err, ⟨directory, none⟩) := by
  simp only [RulePack.rules, h]

end RulePack

/-! ## Auditors with a pack -/

variable {compiler : Pattern.Compiler}

namespace Registry

variable {builtin : Registry}

theorem withPack_of_builtin (h : Registry.builtin compiler = .ok builtin) (files : Text.Files) (directory : String) :
    withPack compiler files (some directory) =
      ((RulePack.load compiler files directory).mapError fun e => AuditError.config (.pack e)) >>= fun rules =>
        (builtin.configured [] rules).mapError AuditError.rule := by
  rw [withPack, h]
  rfl

theorem exists_withPack (h : Registry.builtin compiler = .ok builtin) {files : Text.Files} {directory : String}
    {rules : List Rule} (hload : RulePack.load compiler files directory = .ok rules) :
    ∃ reg, builtin.configured [] rules = .ok reg ∧ withPack compiler files (some directory) = .ok reg ∧
      reg.WellFormed ∧ ∀ r ∈ rules, reg.get? r.id = some r := by
  obtain ⟨reg, hreg, hkept⟩ := RulePack.exists_configured (.builtin h) (RulePack.wellFormed_of_load hload)
  refine ⟨reg, hreg, ?_, hkept⟩
  rw [withPack_of_builtin h]
  exact bind_eq_ok_iff.mpr ⟨rules, mapError_eq_ok_iff.mpr hload, mapError_eq_ok_iff.mpr hreg⟩

/-- Installing a pack never fails; only loading it does. -/
theorem withPack_ne_rule (h : Registry.builtin compiler = .ok builtin) (files : Text.Files)
    (directory : Option String) (err : RuleError) : withPack compiler files directory ≠ .error (.rule err) := by
  intro herror
  cases directory with
  | none =>
    rw [withPack, h] at herror
    cases herror
  | some directory =>
    cases hload : RulePack.load compiler files directory with
    | ok rules =>
      obtain ⟨reg, -, hreg, -⟩ := exists_withPack h hload
      rw [hreg] at herror
      cases herror
    | error e =>
      rw [withPack_of_builtin h, hload] at herror
      cases herror

theorem withPack_eq_rule_iff {files : Text.Files} {directory : Option String} {err : RuleError} :
    withPack compiler files directory = .error (.rule err) ↔ Registry.builtin compiler = .error err := by
  cases h : Registry.builtin compiler with
  | ok builtin => simp [withPack_ne_rule h files directory err]
  | error e =>
    have hfails : withPack compiler files directory = .error (.rule e) := by
      rw [withPack, h]
      rfl
    simp [hfails]

end Registry

theorem reviewerOf_ne_rule (transport : Review.Transport) (settings : Option Review.Settings) (err : RuleError) :
    reviewerOf transport settings ≠ .error (.rule err) := by
  intro h
  cases settings with
  | none => cases h
  | some settings =>
    obtain ⟨e, -, he⟩ := mapError_eq_error_iff.mp h
    cases he

theorem Auditor.ofConfig_eq_rule_iff {files : Text.Files} {transport : Review.Transport} {config : Config}
    {err : RuleError} : Auditor.ofConfig compiler files transport config = .error (.rule err) ↔
      Registry.builtin compiler = .error err := by
  rw [Auditor.ofConfig, bind_eq_error_iff, Registry.withPack_eq_rule_iff, or_iff_left]
  rintro ⟨registry, -, h⟩
  rcases bind_eq_error_iff.mp h with hreviewer | ⟨reviewer, -, h⟩
  · exact reviewerOf_ne_rule transport config.settings err hreviewer
  · cases h

open RulePack (Entry Sound FirstFault build located load jsonEntries yamlEntries jsonPath yamlPath) in
/-- **A pack that loads can always be installed.** Whatever texts compile, the entries of two files load if and only if
all their ids are distinct, every severity can be read and the other fields of every entry make a rule. Then there is one
rule for each entry, in their order, and any well-formed registry takes them all and stays well formed; otherwise the
load fails for the first entry at fault and gives no rule, whatever the entries before it have made. A directory loads
exactly if its two files can be read and their entries load, and the built-in registry then takes the rules. So a
configuration is refused for a rule if and only if a built-in pattern does not compile; and all of them do. -/
theorem loaded_pack_installs :
    (∀ compiler : Pattern.Compiler,
      (∀ (json yaml : String) (first second : List Entry),
        ((∃ rules, build compiler json yaml first second = .ok rules) ↔ Sound compiler (first ++ second)) ∧
        (∀ rules, build compiler json yaml first second = .ok rules →
          List.Forall₂ (Entry.Makes compiler) (first ++ second) rules ∧
          ∀ reg : Registry, reg.WellFormed → ∃ next, reg.configured [] rules = .ok next ∧ next.WellFormed ∧
            ∀ r ∈ rules, next.get? r.id = some r) ∧
        ∀ err, build compiler json yaml first second = .error err →
          FirstFault compiler (located json yaml first second) err) ∧
      (∀ (files : Text.Files) (directory : String),
        (∀ rules, load compiler files directory = .ok rules ↔ ∃ first second,
          jsonEntries files directory = .ok first ∧ yamlEntries files directory = .ok second ∧
          build compiler (jsonPath directory) (yamlPath files directory) first second = .ok rules) ∧
        ∀ err, load compiler files directory = .error err →
          RulePack.rules compiler ⟨directory, none⟩ files = (.error err, ⟨directory, none⟩)) ∧
      (∀ builtin, Registry.builtin compiler = .ok builtin → builtin.WellFormed ∧
        ∀ files directory rules, load compiler files directory = .ok rules →
          ∃ reg, builtin.configured [] rules = .ok reg ∧ Registry.withPack compiler files (some directory) = .ok reg ∧
            reg.WellFormed ∧ ∀ r ∈ rules, reg.get? r.id = some r) ∧
      (∀ files transport config err, Auditor.ofConfig compiler files transport config = .error (.rule err) ↔
        Catalogue.FirstFault compiler err)) ∧
    ∀ files transport config err, Auditor.ofConfig Pattern.compile files transport config ≠ .error (.rule err) := by
  refine ⟨fun compiler => ⟨?_, ?_, ?_, ?_⟩, ?_⟩
  · intro json yaml first second
    refine ⟨RulePack.exists_build_iff json yaml first second, ?_, fun err => RulePack.of_build_eq_error⟩
    intro rules hbuild
    obtain ⟨hfresh, hmakes⟩ := RulePack.of_build_eq_ok hbuild
    have hrules := RulePack.wellFormed_of_forall₂ hfresh.1 hmakes
    exact ⟨hmakes, fun reg hreg => RulePack.exists_configured hreg hrules⟩
  · intro files directory
    exact ⟨fun rules => RulePack.load_eq_ok_iff, fun err => RulePack.rules_of_load_eq_error⟩
  · intro builtin hbuiltin
    exact ⟨.builtin hbuiltin, fun files directory rules => Registry.exists_withPack hbuiltin⟩
  · intro files transport config err
    rw [Auditor.ofConfig_eq_rule_iff, Registry.builtin_eq_error_iff]
  · intro files transport config err herror
    obtain ⟨builtin, hbuiltin⟩ := Registry.exists_builtin
    rw [Auditor.ofConfig_eq_rule_iff, hbuiltin] at herror
    cases herror

end ContractAudit
