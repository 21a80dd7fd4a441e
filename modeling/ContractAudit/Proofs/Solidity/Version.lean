import ContractAudit.Proofs.Numeric.Digits
import ContractAudit.Proofs.Text.Blank
import ContractAudit.Solidity.Version
import Mathlib.Data.List.Forall2
import Mathlib.Data.Prod.Lex
import Mathlib.Order.BoundedOrder.Basic

/-!
# Compiler versions that a constraint admits

A constraint is a list of alternatives, each a list of comparators, and admits a version if every comparator of some
alternative does. `ConstraintText` says how a constraint is written. From the text, `Version.lowest?` takes the least
version among the comparators that are lower bounds, over all alternatives at once, and `0.0.0` if there are none
(`lowest?_text`).

That is a lower bound of what the constraint admits exactly if no alternative of upper bounds alone, which admits
everything down to `0.0.0`, stands beside lower bounds above it (`lowest?_le_admitted_iff`).
-/

namespace ContractAudit.Solidity

open Numeric (Numeral)
open Text (isBlank words splitMark)

/-! ## Order -/

namespace Version

def lt (v w : Version) : Bool := !w.le v

def zero : Version := ⟨0, 0, 0⟩

/-- The numbers of a version in the order in which they are compared. -/
def key (v : Version) : ℕ ×ₗ ℕ ×ₗ ℕ := toLex (v.major, toLex (v.minor, v.patch))

theorem key_injective : Function.Injective key := by
  rintro ⟨major, minor, patch⟩ ⟨major', minor', patch'⟩ h
  simpa [key] using h

instance : LinearOrder Version := LinearOrder.lift' key key_injective

theorem le_iff_numbers {v w : Version} : v ≤ w ↔ v.major < w.major ∨
    v.major = w.major ∧ (v.minor < w.minor ∨ v.minor = w.minor ∧ v.patch ≤ w.patch) := by
  show key v ≤ key w ↔ _
  rw [key, key, Prod.Lex.toLex_le_toLex, Prod.Lex.toLex_le_toLex]

theorem le_iff {v w : Version} : v.le w = true ↔ v ≤ w := by
  rw [le_iff_numbers]
  simp [le]

theorem lt_iff {v w : Version} : v.lt w = true ↔ v < w := by
  rw [← not_le, ← le_iff]
  simp [lt]

theorem min_eq (v w : Version) : v.min w = Min.min v w := by
  rw [Version.min, min_def]
  simp only [le_iff]

instance : OrderBot Version where
  bot := zero
  bot_le v := by
    show zero ≤ v
    rw [le_iff_numbers]
    simp only [zero]
    omega

end Version

/-! ## Constraints and what they admit -/

/-- How a comparator compares; without a mark it asks for its version. -/
inductive Operator where
  | plain
  | equal
  | caret
  | tilde
  | greater
  | atLeast
  | less
  | atMost
deriving DecidableEq

/-- The mark in front of the version. -/
def Operator.mark : Operator → List Char
  | plain => []
  | equal => ['=']
  | caret => ['^']
  | tilde => ['~']
  | greater => ['>']
  | atLeast => ['>', '=']
  | less => ['<']
  | atMost => ['<', '=']

def Operator.isUpper : Operator → Bool
  | less | atMost => true
  | _ => false

structure Comparator where
  operator : Operator
  version : Version
deriving DecidableEq

/-- The first version behind those compatible with `v`: the leftmost number that is not zero must not change. -/
def Version.nextBreaking (v : Version) : Version :=
  if v.major ≠ 0 then ⟨v.major + 1, 0, 0⟩ else if v.minor ≠ 0 then ⟨0, v.minor + 1, 0⟩ else ⟨0, 0, v.patch + 1⟩

def Version.nextMinor (v : Version) : Version := ⟨v.major, v.minor + 1, 0⟩

/-- Does the comparator admit the version? -/
def Comparator.admits (c : Comparator) (v : Version) : Bool :=
  match c.operator with
  | .plain | .equal => v == c.version
  | .caret => c.version.le v && v.lt c.version.nextBreaking
  | .tilde => c.version.le v && v.lt c.version.nextMinor
  | .greater => c.version.lt v
  | .atLeast => c.version.le v
  | .less => v.lt c.version
  | .atMost => v.le c.version

/-- Alternatives, each a list of comparators. -/
abbrev Constraint := List (List Comparator)

def Constraint.Admits (alternatives : Constraint) (v : Version) : Prop :=
  ∃ a ∈ alternatives, ∀ c ∈ a, c.admits v = true

instance (alternatives : Constraint) (v : Version) : Decidable (alternatives.Admits v) :=
  inferInstanceAs (Decidable (∃ a ∈ alternatives, ∀ c ∈ a, c.admits v = true))

/-- The versions of the comparators that bound from below, of all alternatives. -/
def Constraint.lowerBounds (alternatives : Constraint) : List Version :=
  (alternatives.flatten.filter fun c => !c.operator.isUpper).map Comparator.version

/-- An alternative without a lower bound that admits the least version of all. -/
def Constraint.OpenBelow (alternatives : Constraint) : Prop :=
  ∃ a ∈ alternatives, ∀ c ∈ a, c.operator.isUpper = true ∧ c.admits .zero = true

instance (alternatives : Constraint) : Decidable alternatives.OpenBelow :=
  inferInstanceAs (Decidable (∃ a ∈ alternatives, ∀ c ∈ a, c.operator.isUpper = true ∧ c.admits .zero = true))

/-! ## How constraints are written -/

/-- The mark of the operator and, directly behind it, three numbers with points between them. -/
def ComparatorText (c : Comparator) (cs : List Char) : Prop :=
  ∃ major minor patch, Numeral c.version.major major ∧ Numeral c.version.minor minor ∧
    Numeral c.version.patch patch ∧ cs = c.operator.mark ++ (major ++ '.' :: minor ++ '.' :: patch)

/-- Comparators with blanks between them. -/
inductive ComparatorsText : List Comparator → List Char → Prop
  | last {c : Comparator} {cs : List Char} (h : ComparatorText c cs) : ComparatorsText [c] cs
  | more {c : Comparator} {rest : List Comparator} {cs gap text : List Char} (h : ComparatorText c cs)
    (hgap : ∀ x ∈ gap, isBlank x = true) (hne : gap ≠ []) (hrest : ComparatorsText rest text) :
    ComparatorsText (c :: rest) (cs ++ gap ++ text)

/-- An alternative may stand between blanks. -/
def AlternativeText (a : List Comparator) (cs : List Char) : Prop :=
  ∃ before body after, (∀ x ∈ before, isBlank x = true) ∧ (∀ x ∈ after, isBlank x = true) ∧
    ComparatorsText a body ∧ cs = before ++ body ++ after

/-- Alternatives with `||` between them. -/
inductive ConstraintText : Constraint → List Char → Prop
  | last {a : List Comparator} {cs : List Char} (h : AlternativeText a cs) : ConstraintText [a] cs
  | more {a : List Comparator} {rest : Constraint} {cs text : List Char} (h : AlternativeText a cs)
    (hrest : ConstraintText rest text) : ConstraintText (a :: rest) (cs ++ ['|', '|'] ++ text)

/-! ## Reading numbers and versions -/

theorem readPart_eq {n : Nat} {cs : List Char} (h : Numeral n cs) : Version.readPart (some cs) = n := by
  have hkeep : Text.dropWhileEnd (fun c => c == 'x' || c == '*') cs = cs := by
    unfold Text.dropWhileEnd
    cases hrev : cs.reverse with
    | nil => simpa using hrev
    | cons d ds =>
      have hd : d ∈ cs := List.mem_reverse.mp (hrev ▸ List.mem_cons_self)
      have hx := h.ne_of_mem hd (d := 'x') (by decide)
      have hstar := h.ne_of_mem hd (d := '*') (by decide)
      rw [List.dropWhile_cons, if_neg (by simp [hx, hstar]), ← hrev, List.reverse_reverse]
  rw [Version.readPart, Option.bind_some, hkeep, h.readNat?_eq, Option.getD_some]

theorem read?_eq {v : Version} {major minor patch : List Char} (hmajor : Numeral v.major major)
    (hminor : Numeral v.minor minor) (hpatch : Numeral v.patch patch) :
    Version.read? (major ++ '.' :: minor ++ '.' :: patch) = some v := by
  have hpoint : ∀ {n : Nat} {cs : List Char}, Numeral n cs → ∀ c ∈ cs, (c == '.') = false :=
    fun h c hc => by simpa using h.ne_of_mem hc (by decide)
  have hsplit : Text.splitWhere (· == '.') (major ++ '.' :: minor ++ '.' :: patch) = [major, minor, patch] := by
    rw [Text.splitWhere_append_cons (by decide), Text.splitWhere_append_cons (by decide),
      Text.splitWhere_eq_singleton (hpoint hmajor), Text.splitWhere_eq_singleton (hpoint hminor),
      Text.splitWhere_eq_singleton (hpoint hpatch)]
    rfl
  simp only [Version.read?, hsplit, List.head?_cons, Option.bind_some, Text.trimChars_eq_self (fun _ => hmajor.not_blank),
    hmajor.readNat?_eq, Option.map_some, List.getElem?_cons_succ, List.getElem?_cons_zero, readPart_eq hminor,
    readPart_eq hpatch]

/-! ## Reading comparators -/

namespace ComparatorText

variable {c : Comparator} {cs : List Char}

theorem ne_nil (h : ComparatorText c cs) : cs ≠ [] := by
  obtain ⟨major, minor, patch, -, -, -, rfl⟩ := h
  simp

/-- A comparator holds no blank and no bar, so a text of several comparators falls apart between them. -/
theorem not_separator (h : ComparatorText c cs) : ∀ x ∈ cs, isBlank x = false ∧ x ≠ '|' := by
  obtain ⟨major, minor, patch, hmajor, hminor, hpatch, rfl⟩ := h
  have hnumeral : ∀ {n : Nat} {ds : List Char}, Numeral n ds → ∀ x ∈ ds, isBlank x = false ∧ x ≠ '|' :=
    fun hn x hx => ⟨hn.not_blank hx, hn.ne_of_mem hx (by decide)⟩
  have hmark : ∀ x ∈ c.operator.mark, isBlank x = false ∧ x ≠ '|' := by
    cases c.operator <;> simp [Operator.mark, isBlank]
  intro x hx
  simp only [List.append_assoc, List.cons_append, List.mem_append, List.mem_cons] at hx
  rcases hx with hx | hx | rfl | hx | rfl | hx
  · exact hmark x hx
  · exact hnumeral hmajor x hx
  · decide
  · exact hnumeral hminor x hx
  · decide
  · exact hnumeral hpatch x hx

theorem words_eq (h : ComparatorText c cs) : words cs = [cs] :=
  Text.words_eq_singleton h.ne_nil fun x hx => (h.not_separator x hx).1

theorem lowerBound?_eq (h : ComparatorText c cs) :
    Version.lowerBound? cs = if c.operator.isUpper then none else some c.version := by
  obtain ⟨major, minor, patch, hmajor, hminor, hpatch, rfl⟩ := h
  obtain ⟨d, ds, rfl⟩ := List.exists_cons_of_ne_nil hmajor.ne_nil
  have hd : ∀ x : Char, x.isDigit = false → d ≠ x := fun x hx => hmajor.ne_of_mem List.mem_cons_self hx
  have hread := read?_eq hmajor hminor hpatch
  have hstop : Version.isComparatorMark d = false := by
    simp [Version.isComparatorMark, hd '^' (by decide), hd '~' (by decide), hd '>' (by decide), hd '=' (by decide),
      hd 'v' (by decide)]
  have hless : d ≠ '<' := hd '<' (by decide)
  cases hop : c.operator <;>
    simp_all [Version.lowerBound?, Operator.mark, Operator.isUpper, Version.isComparatorMark]

theorem mem_less (h : ComparatorText c cs) (hupper : c.operator.isUpper = true) : '<' ∈ cs := by
  obtain ⟨major, minor, patch, -, -, -, rfl⟩ := h
  cases hop : c.operator <;> simp_all [Operator.isUpper, Operator.mark]

end ComparatorText

/-! ## Reading constraints -/

theorem ComparatorsText.forall₂_words {a : List Comparator} {cs : List Char} (h : ComparatorsText a cs) :
    List.Forall₂ ComparatorText a (words cs) := by
  induction h with
  | last h =>
    rw [h.words_eq]
    exact .cons h .nil
  | more h hgap hne _ ih =>
    rw [Text.words_append_blanks hgap hne, h.words_eq]
    exact .cons h ih

theorem ComparatorsText.not_mem_bar {a : List Comparator} {cs : List Char} (h : ComparatorsText a cs) : '|' ∉ cs := by
  induction h with
  | last h => exact fun hmem => (h.not_separator _ hmem).2 rfl
  | more h hgap _ _ ih =>
    simp only [List.mem_append, not_or]
    refine ⟨⟨fun hmem => (h.not_separator _ hmem).2 rfl, fun hmem => ?_⟩, ih⟩
    exact absurd (hgap _ hmem) (by decide)

theorem AlternativeText.forall₂_words {a : List Comparator} {cs : List Char} (h : AlternativeText a cs) :
    List.Forall₂ ComparatorText a (words cs) := by
  obtain ⟨before, body, after, hbefore, hafter, hbody, rfl⟩ := h
  rw [Text.words_surrounded hbefore hafter]
  exact hbody.forall₂_words

theorem AlternativeText.not_mem_bar {a : List Comparator} {cs : List Char} (h : AlternativeText a cs) : '|' ∉ cs := by
  obtain ⟨before, body, after, hbefore, hafter, hbody, rfl⟩ := h
  simp only [List.mem_append, not_or]
  refine ⟨⟨fun hmem => ?_, hbody.not_mem_bar⟩, fun hmem => ?_⟩
  · exact absurd (hbefore _ hmem) (by decide)
  · exact absurd (hafter _ hmem) (by decide)

theorem ConstraintText.forall₂_comparators {alternatives : Constraint} {cs : List Char}
    (h : ConstraintText alternatives cs) :
    List.Forall₂ ComparatorText alternatives.flatten (Version.comparators cs) := by
  have hmark : "||".toList = ['|', '|'] := by decide
  unfold Version.comparators
  rw [hmark]
  induction h with
  | last h =>
    rw [Text.splitMark_eq_singleton h.not_mem_bar]
    simpa using h.forall₂_words
  | more h _ ih =>
    rw [Text.splitMark_append h.not_mem_bar, List.flatMap_cons, List.flatten_cons]
    exact List.rel_append h.forall₂_words ih

theorem filterMap_lowerBound? {cs : List Comparator} {texts : List (List Char)}
    (h : List.Forall₂ ComparatorText cs texts) :
    texts.filterMap Version.lowerBound? = (cs.filter fun c => !c.operator.isUpper).map Comparator.version := by
  induction h with
  | nil => rfl
  | @cons c text cs texts hc _ ih => cases hupper : c.operator.isUpper <;> simp [hc.lowerBound?_eq, hupper, ih]

theorem ComparatorsText.ne_nil {a : List Comparator} {cs : List Char} (h : ComparatorsText a cs) : a ≠ [] := by
  cases h <;> simp

theorem ComparatorsText.mem_less {a : List Comparator} {cs : List Char} (h : ComparatorsText a cs) {c : Comparator}
    (hc : c ∈ a) (hupper : c.operator.isUpper = true) : '<' ∈ cs := by
  induction h with
  | last h =>
    rw [List.mem_singleton] at hc
    subst hc
    exact h.mem_less hupper
  | more h _ _ _ ih =>
    rw [List.mem_cons] at hc
    rcases hc with rfl | hc
    · simp [h.mem_less hupper]
    · simp [ih hc]

theorem ConstraintText.flatten_ne_nil {alternatives : Constraint} {cs : List Char}
    (h : ConstraintText alternatives cs) : alternatives.flatten ≠ [] := by
  have halternative : ∀ {a : List Comparator} {cs : List Char}, AlternativeText a cs → a ≠ [] := by
    rintro a _ ⟨before, body, after, -, -, hbody, -⟩
    exact hbody.ne_nil
  cases h with
  | last h => simpa using halternative h
  | more h _ => simp [halternative h]

theorem ConstraintText.mem_less {alternatives : Constraint} {cs : List Char} (h : ConstraintText alternatives cs)
    {c : Comparator} (hc : c ∈ alternatives.flatten) (hupper : c.operator.isUpper = true) : '<' ∈ cs := by
  have halternative : ∀ {a : List Comparator} {cs : List Char}, AlternativeText a cs → c ∈ a → '<' ∈ cs := by
    rintro a _ ⟨before, body, after, -, -, hbody, rfl⟩ hmem
    simp [hbody.mem_less hmem hupper]
  induction h with
  | last h => exact halternative h (by simpa using hc)
  | more h _ ih =>
    rw [List.flatten_cons, List.mem_append] at hc
    rcases hc with hc | hc
    · simp [halternative h hc]
    · simp [ih hc]

/-! ## The lowest version -/

theorem Version.foldl_min (v : Version) (vs : List Version) :
    vs.foldl Version.min v ∈ v :: vs ∧ ∀ w ∈ v :: vs, vs.foldl Version.min v ≤ w := by
  induction vs generalizing v with
  | nil => simp
  | cons u vs ih =>
    obtain ⟨hmem, hle⟩ := ih (v.min u)
    have hfirst := hle (v.min u) List.mem_cons_self
    rw [min_eq] at hmem hle hfirst
    rw [List.foldl_cons, min_eq]
    refine ⟨?_, fun w hw => ?_⟩
    · rcases List.mem_cons.mp hmem with h | h
      · rw [h]
        rcases min_choice v u with hv | hu
        · simp [hv]
        · simp [hu]
      · simp [h]
    · simp only [List.mem_cons] at hw
      rcases hw with rfl | rfl | hw
      · exact hfirst.trans (min_le_left _ _)
      · exact hfirst.trans (min_le_right _ _)
      · exact hle w (List.mem_cons_of_mem _ hw)

theorem lowest?_text {constraint : String} {alternatives : Constraint}
    (h : ConstraintText alternatives constraint.toList) : ∃ l, Version.lowest? constraint = some l ∧
      (alternatives.lowerBounds = [] ∧ l = .zero ∨
        l ∈ alternatives.lowerBounds ∧ ∀ b ∈ alternatives.lowerBounds, l ≤ b) := by
  have hbounds := filterMap_lowerBound? h.forall₂_comparators
  change _ = alternatives.lowerBounds at hbounds
  unfold Version.lowest?
  simp only [hbounds]
  cases hlower : alternatives.lowerBounds with
  | cons v vs => exact ⟨_, rfl, .inr (Version.foldl_min v vs)⟩
  | nil =>
    obtain ⟨c, cs, hflatten⟩ := List.exists_cons_of_ne_nil h.flatten_ne_nil
    have hupper : c.operator.isUpper = true := by
      rw [Constraint.lowerBounds, List.map_eq_nil_iff, List.filter_eq_nil_iff, hflatten] at hlower
      simpa using hlower c
    have hless : '<' ∈ constraint.toList := h.mem_less (by simp [hflatten]) hupper
    have hread : Version.comparators constraint.toList ≠ [] := by
      intro hnil
      have hlength := h.forall₂_comparators.length_eq
      rw [hnil, hflatten] at hlength
      simp at hlength
    exact ⟨.zero, by simp [hread, hless, Version.zero], .inl ⟨rfl, rfl⟩⟩

/-! ## What the lowest version says about the admitted ones -/

theorem Comparator.le_of_admits {c : Comparator} {v : Version} (hlower : c.operator.isUpper = false)
    (h : c.admits v = true) : c.version ≤ v := by
  unfold Comparator.admits at h
  cases hop : c.operator <;> rw [hop] at h hlower
  case plain | equal =>
    rw [beq_iff_eq] at h
    exact h.ge
  case caret | tilde => exact Version.le_iff.mp (Bool.and_eq_true_iff.mp h).1
  case greater => exact (Version.lt_iff.mp h).le
  case atLeast => exact Version.le_iff.mp h
  case less | atMost => simp [Operator.isUpper] at hlower

theorem Comparator.admits_zero {c : Comparator} {v : Version} (hupper : c.operator.isUpper = true)
    (h : c.admits v = true) : c.admits .zero = true := by
  unfold Comparator.admits at h ⊢
  cases hop : c.operator <;> rw [hop] at h hupper
  case less =>
    rw [Version.lt_iff] at h ⊢
    exact lt_of_le_of_lt bot_le h
  case atMost => exact Version.le_iff.mpr bot_le
  all_goals simp [Operator.isUpper] at hupper

theorem Constraint.Admits.bounded {alternatives : Constraint} {v : Version} (h : alternatives.Admits v) :
    (∃ b ∈ alternatives.lowerBounds, b ≤ v) ∨ alternatives.OpenBelow := by
  obtain ⟨a, ha, hadmits⟩ := h
  by_cases hlower : ∃ c ∈ a, c.operator.isUpper = false
  · obtain ⟨c, hc, hcl⟩ := hlower
    refine .inl ⟨c.version, ?_, Comparator.le_of_admits hcl (hadmits c hc)⟩
    exact List.mem_map.mpr ⟨c, List.mem_filter.mpr ⟨List.mem_flatten.mpr ⟨a, ha, hc⟩, by simp [hcl]⟩, rfl⟩
  · refine .inr ⟨a, ha, fun c hc => ?_⟩
    have hcu : c.operator.isUpper = true := by
      by_contra hcl
      exact hlower ⟨c, hc, by simpa using hcl⟩
    exact ⟨hcu, Comparator.admits_zero hcu (hadmits c hc)⟩

theorem Constraint.OpenBelow.admits_zero {alternatives : Constraint} (h : alternatives.OpenBelow) :
    alternatives.Admits .zero := by
  obtain ⟨a, ha, hopen⟩ := h
  exact ⟨a, ha, fun c hc => (hopen c hc).2⟩

/-- The lowest version is below all admitted ones unless an alternative is open below and all lower bounds are above
`0.0.0`. -/
theorem lowest?_le_admitted_iff {constraint : String} {alternatives : Constraint}
    (h : ConstraintText alternatives constraint.toList) :
    (∀ v, alternatives.Admits v → ∃ l, Version.lowest? constraint = some l ∧ l.le v = true) ↔
      (alternatives.OpenBelow → alternatives.lowerBounds = [] ∨ .zero ∈ alternatives.lowerBounds) := by
  obtain ⟨l, hl, hcases⟩ := lowest?_text h
  simp only [hl, Option.some.injEq, exists_eq_left', Version.le_iff]
  constructor
  · intro hle hopen
    have hzero : l = .zero := le_bot_iff.mp (hle _ hopen.admits_zero)
    rcases hcases with ⟨hnil, -⟩ | ⟨hmem, -⟩
    · exact .inl hnil
    · exact .inr (hzero ▸ hmem)
  · intro hopen v hv
    rcases hcases with ⟨-, rfl⟩ | ⟨hmem, hleast⟩
    · exact bot_le
    · rcases hv.bounded with ⟨b, hb, hbv⟩ | hbelow
      · exact (hleast b hb).trans hbv
      · rcases hopen hbelow with hnil | hzero
        · simp [hnil] at hmem
        · exact (hleast _ hzero).trans bot_le

/-- A compiler without checked arithmetic is overlooked exactly if an alternative is open below and the lower bounds of
the other alternatives, of which there is one, all have checked arithmetic. -/
theorem unchecked_admitted_iff {constraint : String} {alternatives : Constraint}
    (h : ConstraintText alternatives constraint.toList) {l : Version} (hl : Version.lowest? constraint = some l) :
    ((∃ v, alternatives.Admits v ∧ v.hasCheckedArithmetic = false) → l.hasCheckedArithmetic = false) ↔
      ¬ (alternatives.OpenBelow ∧ alternatives.lowerBounds ≠ [] ∧
        ∀ b ∈ alternatives.lowerBounds, b.hasCheckedArithmetic = true) := by
  obtain ⟨l', hl', hcases⟩ := lowest?_text h
  obtain rfl : l = l' := Option.some.inj (hl.symm.trans hl')
  have hup : ∀ {v w : Version}, v ≤ w → v.hasCheckedArithmetic = true → w.hasCheckedArithmetic = true :=
    fun hvw hv => Version.le_iff.mpr ((Version.le_iff.mp hv).trans hvw)
  constructor
  · rintro hfound ⟨hopen, hne, hchecked⟩
    have hl := hfound ⟨.zero, hopen.admits_zero, by decide⟩
    rcases hcases with ⟨hnil, -⟩ | ⟨hmem, -⟩
    · exact hne hnil
    · rw [hchecked l hmem] at hl
      exact absurd hl (by simp)
  · rintro hnot ⟨v, hv, hvu⟩
    by_contra hlc
    rw [Bool.not_eq_false] at hlc
    rcases hcases with ⟨-, rfl⟩ | ⟨hmem, hleast⟩
    · exact absurd hlc (by decide)
    · rcases hv.bounded with ⟨b, hb, hbv⟩ | hbelow
      · rw [hup ((hleast b hb).trans hbv) hlc] at hvu
        exact absurd hvu (by simp)
      · exact hnot ⟨hbelow, List.ne_nil_of_mem hmem, fun b hb => hup (hleast b hb) hlc⟩

/-! ## Short texts -/

theorem numeral_singleton {c : Char} (h : c.isDigit = true) : Numeral (c.toNat - '0'.toNat) [c] := by
  have hrange := Numeric.isDigit_iff.mp h
  refine ⟨by simp, by simpa using h, by simp, ?_⟩
  have hzero : '0'.toNat = 48 := rfl
  omega

theorem ComparatorText.ofDigits {operator : Operator} {v : Version} {a b c : Char} (ha : a.isDigit = true)
    (hb : b.isDigit = true) (hc : c.isDigit = true)
    (hv : v = ⟨a.toNat - '0'.toNat, b.toNat - '0'.toNat, c.toNat - '0'.toNat⟩) :
    ComparatorText ⟨operator, v⟩ (operator.mark ++ [a, '.', b, '.', c]) := by
  subst hv
  exact ⟨[a], [b], [c], numeral_singleton ha, numeral_singleton hb, numeral_singleton hc, rfl⟩

end ContractAudit.Solidity
