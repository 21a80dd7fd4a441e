import ContractAudit.Proofs.Json.RoundTrip
import Mathlib.Data.List.TakeWhile
import Mathlib.Tactic.SplitIfs
import Mathlib.Tactic.Tauto

/-!
# The grammar of JSON

The productions of RFC 8259 as predicates on texts, with no regard to how a text is read or what it stands for. Whatever
the reader takes for a value is a text of the grammar (`isDocument_of_read?`): it reads no more than that.
-/

namespace ContractAudit.Json

/-! ## Tokens -/

/-- Blanks between tokens. -/
def Blanks (cs : List Char) : Prop := ∀ c ∈ cs, c = ' ' ∨ c = '\t' ∨ c = '\n' ∨ c = '\r'

/-- One digit or more. -/
def Digits (cs : List Char) : Prop := cs ≠ [] ∧ ∀ c ∈ cs, '0' ≤ c ∧ c ≤ '9'

/-- A hexadecimal digit. -/
def IsHex (c : Char) : Prop := '0' ≤ c ∧ c ≤ '9' ∨ 'a' ≤ c ∧ c ≤ 'f' ∨ 'A' ≤ c ∧ c ≤ 'F'

/-- A point with digits behind it, or nothing. -/
inductive FractionText : List Char → Prop
  | absent : FractionText []
  | present {ds : List Char} (h : Digits ds) : FractionText ('.' :: ds)

/-- The mark of an exponent, a sign or none, and digits; or nothing. -/
inductive ExponentText : List Char → Prop
  | absent : ExponentText []
  | present {mark : Char} {sign ds : List Char} (hmark : mark = 'e' ∨ mark = 'E')
      (hsign : sign = [] ∨ sign = ['+'] ∨ sign = ['-']) (h : Digits ds) : ExponentText (mark :: (sign ++ ds))

/-- A number: a minus or none, digits of which the first is zero only if it is alone, a fraction and an exponent. -/
inductive NumberText : List Char → Prop
  | mk {sign whole fraction exponent : List Char} (hsign : sign = [] ∨ sign = ['-']) (hwhole : Digits whole)
      (hzero : whole.head? = some '0' → whole = ['0']) (hfraction : FractionText fraction)
      (hexponent : ExponentText exponent) : NumberText (sign ++ (whole ++ (fraction ++ exponent)))

/-- A character of a string as it is written: itself, or escaped by a letter or by four hexadecimal digits. -/
inductive CharText : List Char → Prop
  | plain {c : Char} (hcontrol : 0x20 ≤ c.toNat) (hquote : c ≠ '"') (hbackslash : c ≠ '\\') : CharText [c]
  | letter {c : Char} (h : c ∈ ['"', '\\', '/', 'b', 'f', 'n', 'r', 't']) : CharText ['\\', c]
  | number {a b c d : Char} (ha : IsHex a) (hb : IsHex b) (hc : IsHex c) (hd : IsHex d) :
      CharText ['\\', 'u', a, b, c, d]

/-- The characters of a string. -/
inductive CharsText : List Char → Prop
  | nil : CharsText []
  | cons {c cs : List Char} (h : CharText c) (hcs : CharsText cs) : CharsText (c ++ cs)

/-- Characters between quotes. -/
inductive StringText : List Char → Prop
  | mk {cs : List Char} (h : CharsText cs) : StringText ('"' :: (cs ++ ['"']))

/-! ## Values -/

/-- What a text can be derived from: a value, an element (a value between blanks), elements with commas between them, a
member (a name and an element), members with commas between them. -/
inductive Symbol where
  | value
  | element
  | elements
  | member
  | members

/-- The texts of a symbol. -/
inductive Derives : Symbol → List Char → Prop
  | literal {cs : List Char} (h : cs ∈ ["null".toList, "true".toList, "false".toList]) : Derives .value cs
  | number {cs : List Char} (h : NumberText cs) : Derives .value cs
  | string {cs : List Char} (h : StringText cs) : Derives .value cs
  | emptyArray {blanks : List Char} (h : Blanks blanks) : Derives .value ('[' :: (blanks ++ [']']))
  | array {cs : List Char} (h : Derives .elements cs) : Derives .value ('[' :: (cs ++ [']']))
  | emptyObject {blanks : List Char} (h : Blanks blanks) : Derives .value ('\x7b' :: (blanks ++ ['\x7d']))
  | object {cs : List Char} (h : Derives .members cs) : Derives .value ('\x7b' :: (cs ++ ['\x7d']))
  | element {before cs after : List Char} (hbefore : Blanks before) (h : Derives .value cs) (hafter : Blanks after) :
      Derives .element (before ++ (cs ++ after))
  | lastElement {cs : List Char} (h : Derives .element cs) : Derives .elements cs
  | moreElements {cs rest : List Char} (h : Derives .element cs) (hrest : Derives .elements rest) :
      Derives .elements (cs ++ ',' :: rest)
  | member {before name after cs : List Char} (hbefore : Blanks before) (hname : StringText name)
      (hafter : Blanks after) (h : Derives .element cs) : Derives .member (before ++ (name ++ (after ++ ':' :: cs)))
  | lastMember {cs : List Char} (h : Derives .member cs) : Derives .members cs
  | moreMembers {cs rest : List Char} (h : Derives .member cs) (hrest : Derives .members rest) :
      Derives .members (cs ++ ',' :: rest)

/-- A text that is a JSON document. -/
def IsDocument (text : String) : Prop := Derives .element text.toList

/-! ## Tokens that are read -/

theorem blanks_of_skipSpace {cs rest : List Char} (h : skipSpace cs = rest) :
    ∃ blanks, Blanks blanks ∧ cs = blanks ++ rest := by
  subst h
  refine ⟨cs.takeWhile isSpace, ?_, List.takeWhile_append_dropWhile.symm⟩
  intro c hc
  have hspace := List.mem_takeWhile_imp hc
  simp only [isSpace, Bool.or_eq_true, beq_iff_eq] at hspace
  tauto

theorem isHex_of_hexDigit? {c : Char} {n : Nat} (h : hexDigit? c = some n) : IsHex c := by
  unfold hexDigit? at h
  unfold IsHex
  split_ifs at h <;> simp_all

theorem isHex_of_hexUnit? {a b c d : Char} {n : Nat} (h : hexUnit? a b c d = some n) :
    IsHex a ∧ IsHex b ∧ IsHex c ∧ IsHex d := by
  obtain ⟨_, ha, h⟩ := Option.bind_eq_some_iff.mp h
  obtain ⟨_, hb, h⟩ := Option.bind_eq_some_iff.mp h
  obtain ⟨_, hc, h⟩ := Option.bind_eq_some_iff.mp h
  obtain ⟨_, hd, -⟩ := Option.map_eq_some_iff.mp h
  exact ⟨isHex_of_hexDigit? ha, isHex_of_hexDigit? hb, isHex_of_hexDigit? hc, isHex_of_hexDigit? hd⟩

theorem mem_letters_of_escaped? {e c : Char} (h : escaped? e = some c) :
    e ∈ ['"', '\\', '/', 'b', 'f', 'n', 'r', 't'] := by
  unfold escaped? at h
  split at h <;> simp_all

theorem charsText_of_readUnits? {cs rest : List Char} {units : List CharUnit} (h : readUnits? cs = some (units, rest)) :
    ∃ body, CharsText body ∧ cs = body ++ '"' :: rest := by
  fun_induction readUnits? cs generalizing units rest with
  | case1 => cases h
  | case2 =>
    cases h
    exact ⟨[], .nil, rfl⟩
  | case3 a b c d after ih =>
    obtain ⟨n, hn, h⟩ := Option.bind_eq_some_iff.mp h
    obtain ⟨⟨units', rest'⟩, hread, hparts⟩ := Option.map_eq_some_iff.mp h
    cases hparts
    obtain ⟨body, hbody, rfl⟩ := ih hread
    obtain ⟨ha, hb, hc, hd⟩ := isHex_of_hexUnit? hn
    exact ⟨_, .cons (.number ha hb hc hd) hbody, rfl⟩
  | case4 e after hnot ih =>
    obtain ⟨c, he, h⟩ := Option.bind_eq_some_iff.mp h
    obtain ⟨⟨units', rest'⟩, hread, hparts⟩ := Option.map_eq_some_iff.mp h
    cases hparts
    obtain ⟨body, hbody, rfl⟩ := ih hread
    exact ⟨_, .cons (.letter (mem_letters_of_escaped? he)) hbody, rfl⟩
  | case5 => cases h
  | case6 c after hquote hunit hletter hplain ih =>
    obtain ⟨⟨units', rest'⟩, hread, hparts⟩ := Option.map_eq_some_iff.mp h
    cases hparts
    obtain ⟨body, hbody, rfl⟩ := ih hread
    simp only [Bool.or_eq_true, decide_eq_true_eq, beq_iff_eq, not_or, Nat.not_lt] at hplain
    exact ⟨_, .cons (.plain hplain.1 hquote hplain.2) hbody, rfl⟩

theorem enclosed_append (first last : Char) (body rest : List Char) :
    first :: (body ++ last :: rest) = first :: (body ++ [last]) ++ rest := by
  rw [List.cons_append, List.append_assoc, List.singleton_append]

theorem stringText_of_readUnits? {cs rest : List Char} {units : List CharUnit} (h : readUnits? cs = some (units, rest)) :
    ∃ front, StringText front ∧ '"' :: cs = front ++ rest := by
  obtain ⟨body, hbody, rfl⟩ := charsText_of_readUnits? h
  exact ⟨_, .mk hbody, enclosed_append _ _ _ _⟩

/-! ## Numerals that are read -/

theorem sign_splitMinus (cs : List Char) : ∃ sign, (sign = [] ∨ sign = ['-']) ∧ cs = sign ++ (splitMinus cs).2 := by
  unfold splitMinus
  split
  · exact ⟨['-'], .inr rfl, rfl⟩
  · exact ⟨[], .inl rfl, rfl⟩

theorem sign_splitSign (cs : List Char) :
    ∃ sign, (sign = [] ∨ sign = ['+'] ∨ sign = ['-']) ∧ cs = sign ++ (splitSign cs).2 := by
  unfold splitSign
  split
  · exact ⟨['+'], .inr (.inl rfl), rfl⟩
  · obtain ⟨sign, hsign, hcs⟩ := sign_splitMinus cs
    exact ⟨sign, by tauto, hcs⟩

theorem digits_takeWhile {cs : List Char} (h : ¬ (cs.takeWhile Numeric.isDigit).isEmpty) :
    Digits (cs.takeWhile Numeric.isDigit) := by
  constructor
  · simpa using h
  · intro c hc
    have hdigit := List.mem_takeWhile_imp hc
    simpa [Numeric.isDigit] using hdigit

theorem fractionText_of_readFraction? {cs rest : List Char} {fraction : Option (List Char)}
    (h : readFraction? cs = some (fraction, rest)) : ∃ front, FractionText front ∧ cs = front ++ rest := by
  unfold readFraction? at h
  split at h
  · next after =>
    dsimp only at h
    split at h
    · cases h
    · next hdigits =>
      cases h
      refine ⟨_, .present (digits_takeWhile hdigits), ?_⟩
      rw [List.cons_append, List.takeWhile_append_dropWhile]
  · cases h
    exact ⟨[], .absent, rfl⟩

theorem digits_of_readPower? {cs rest : List Char} {power : Bool × List Char} (h : readPower? cs = some (power, rest)) :
    ∃ sign ds, (sign = [] ∨ sign = ['+'] ∨ sign = ['-']) ∧ Digits ds ∧ cs = sign ++ (ds ++ rest) := by
  obtain ⟨sign, hsign, hcs⟩ := sign_splitSign cs
  simp only [readPower?] at h
  split at h
  · cases h
  · next hdigits =>
    cases h
    refine ⟨sign, _, hsign, digits_takeWhile hdigits, ?_⟩
    rwa [List.takeWhile_append_dropWhile]

theorem exponentText_of_readExponent? {cs rest : List Char} {exponent : Option (Bool × List Char)}
    (h : readExponent? cs = some (exponent, rest)) : ∃ front, ExponentText front ∧ cs = front ++ rest := by
  unfold readExponent? at h
  split at h
  · cases h
    exact ⟨[], .absent, rfl⟩
  · next mark after =>
    split at h
    · next hmark =>
      obtain ⟨⟨power, rest'⟩, hpower, hparts⟩ := Option.map_eq_some_iff.mp h
      cases hparts
      obtain ⟨sign, ds, hsign, hds, rfl⟩ := digits_of_readPower? hpower
      rw [Bool.or_eq_true, beq_iff_eq, beq_iff_eq] at hmark
      refine ⟨_, .present hmark hsign hds, ?_⟩
      rw [List.cons_append, List.append_assoc]
    · cases h
      exact ⟨[], .absent, rfl⟩

theorem eq_zero_of_head? {ds : List Char} (h : 1 < ds.length → ds.head? ≠ some '0') (hzero : ds.head? = some '0') :
    ds = ['0'] := by
  cases ds with
  | nil => cases hzero
  | cons d ds =>
    cases hzero
    cases ds with
    | nil => rfl
    | cons e ds => exact absurd rfl (h (by simp))

theorem numberText_of_read? {cs rest : List Char} {n : Numeral} (h : Numeral.read? cs = some (n, rest)) :
    ∃ front, NumberText front ∧ cs = front ++ rest := by
  obtain ⟨sign, hsign, hcs⟩ := sign_splitMinus cs
  simp only [Numeral.read?] at h
  split at h
  · cases h
  · next hwhole =>
    obtain ⟨⟨fraction, after⟩, hfraction, h⟩ := Option.bind_eq_some_iff.mp h
    obtain ⟨⟨exponent, rest'⟩, hexponent, hparts⟩ := Option.map_eq_some_iff.mp h
    cases hparts
    obtain ⟨fractionFront, hfractionText, hafter⟩ := fractionText_of_readFraction? hfraction
    obtain ⟨exponentFront, hexponentText, rfl⟩ := exponentText_of_readExponent? hexponent
    rw [Bool.or_eq_true, not_or, Bool.and_eq_true, not_and, decide_eq_true_eq, beq_iff_eq] at hwhole
    refine ⟨_, .mk hsign (digits_takeWhile hwhole.1) (eq_zero_of_head? hwhole.2) hfractionText hexponentText, ?_⟩
    calc cs = sign ++ (splitMinus cs).2 := hcs
      _ = sign ++ ((splitMinus cs).2.takeWhile Numeric.isDigit ++ (splitMinus cs).2.dropWhile Numeric.isDigit) := by
          rw [List.takeWhile_append_dropWhile]
      _ = _ := by
          rw [hafter]
          simp only [List.append_assoc]

/-! ## Values that are read -/

/-- What is read with some fuel is derived from the grammar. -/
structure ReadsGrammar (fuel : Nat) : Prop where
  value {cs rest : List Char} {j : Json} (h : readValue? fuel cs = some (j, rest)) :
    ∃ before front, Blanks before ∧ Derives .value front ∧ cs = before ++ (front ++ rest)
  elements {cs rest : List Char} {items : List Json} (h : readItems? fuel cs = some (items, rest)) :
    ∃ front, Derives .elements front ∧ cs = front ++ ']' :: rest
  members {cs rest : List Char} {fields : List (Option String × Json)} (h : readFields? fuel cs = some (fields, rest)) :
    ∃ front, Derives .members front ∧ cs = front ++ '\x7d' :: rest

theorem ReadsGrammar.array {fuel : Nat} (ih : ReadsGrammar fuel) {cs rest : List Char} {j : Json}
    (h : readValue? (fuel + 1) ('[' :: cs) = some (j, rest)) :
    ∃ front, Derives .value front ∧ '[' :: cs = front ++ rest := by
  rw [readValue?, skipSpace_cons rfl] at h
  simp only at h
  split at h
  · next after hempty =>
    cases h
    obtain ⟨blanks, hblanks, rfl⟩ := blanks_of_skipSpace hempty
    exact ⟨_, .emptyArray hblanks, enclosed_append _ _ _ _⟩
  · obtain ⟨⟨items, after⟩, hitems, hparts⟩ := Option.map_eq_some_iff.mp h
    cases hparts
    rw [readItems?_skipSpace] at hitems
    obtain ⟨front, hfront, rfl⟩ := ih.elements hitems
    exact ⟨_, .array hfront, enclosed_append _ _ _ _⟩

theorem ReadsGrammar.object {fuel : Nat} (ih : ReadsGrammar fuel) {cs rest : List Char} {j : Json}
    (h : readValue? (fuel + 1) ('\x7b' :: cs) = some (j, rest)) :
    ∃ front, Derives .value front ∧ '\x7b' :: cs = front ++ rest := by
  rw [readValue?, skipSpace_cons rfl] at h
  simp only at h
  split at h
  · next after hempty =>
    cases h
    obtain ⟨blanks, hblanks, rfl⟩ := blanks_of_skipSpace hempty
    exact ⟨_, .emptyObject hblanks, enclosed_append _ _ _ _⟩
  · obtain ⟨⟨fields, after⟩, hfields, hparts⟩ := Option.map_eq_some_iff.mp h
    cases hparts
    rw [readFields?_skipSpace] at hfields
    obtain ⟨front, hfront, rfl⟩ := ih.members hfields
    exact ⟨_, .object hfront, enclosed_append _ _ _ _⟩

theorem ReadsGrammar.value_succ {fuel : Nat} (ih : ReadsGrammar fuel) {cs rest : List Char} {j : Json}
    (h : readValue? (fuel + 1) cs = some (j, rest)) :
    ∃ before front, Blanks before ∧ Derives .value front ∧ cs = before ++ (front ++ rest) := by
  have hfront : ∃ front, Derives .value front ∧ skipSpace cs = front ++ rest := by
    -- For the brackets the whole step is needed, from the first token on.
    have hskip := h
    rw [← readValue?_skipSpace] at hskip
    rw [readValue?] at h
    split at h
    · next after hcs =>
      cases h
      exact ⟨"null".toList, .literal (by simp), hcs⟩
    · next after hcs =>
      cases h
      exact ⟨"true".toList, .literal (by simp), hcs⟩
    · next after hcs =>
      cases h
      exact ⟨"false".toList, .literal (by simp), hcs⟩
    · next after hcs =>
      obtain ⟨⟨units, rest'⟩, hread, hparts⟩ := Option.map_eq_some_iff.mp h
      cases hparts
      obtain ⟨front, hfront, htext⟩ := stringText_of_readUnits? hread
      exact ⟨front, .string hfront, hcs.trans htext⟩
    · next after hcs =>
      rw [hcs] at hskip ⊢
      exact ih.array hskip
    · next after hcs =>
      rw [hcs] at hskip ⊢
      exact ih.object hskip
    · obtain ⟨⟨n, rest'⟩, hread, hparts⟩ := Option.map_eq_some_iff.mp h
      cases hparts
      obtain ⟨front, hfront, htext⟩ := numberText_of_read? hread
      exact ⟨front, .number hfront, htext⟩
  obtain ⟨front, hderives, hskip⟩ := hfront
  obtain ⟨before, hbefore, hcs⟩ := blanks_of_skipSpace hskip
  exact ⟨before, front, hbefore, hderives, hcs⟩

theorem ReadsGrammar.element {fuel : Nat} (ih : ReadsGrammar fuel) {cs rest : List Char} {j : Json}
    (h : readValue? fuel cs = some (j, rest)) : ∃ front, Derives .element front ∧ cs = front ++ skipSpace rest := by
  obtain ⟨before, front, hbefore, hfront, rfl⟩ := ih.value h
  obtain ⟨after, hafter, hrest⟩ := blanks_of_skipSpace (Eq.refl (skipSpace rest))
  refine ⟨_, .element hbefore hfront hafter, ?_⟩
  conv_lhs => rw [hrest]
  simp only [List.append_assoc]

theorem ReadsGrammar.elements_succ {fuel : Nat} (ih : ReadsGrammar fuel) {cs rest : List Char} {items : List Json}
    (h : readItems? (fuel + 1) cs = some (items, rest)) : ∃ front, Derives .elements front ∧ cs = front ++ ']' :: rest := by
  rw [readItems?_succ] at h
  obtain ⟨⟨j, after⟩, hvalue, hstep⟩ := Option.bind_eq_some_iff.mp h
  obtain ⟨front, hfront, hcs⟩ := ih.element hvalue
  dsimp only at hstep
  split at hstep
  · next more hafter =>
    obtain ⟨⟨items', rest'⟩, hmore, hparts⟩ := Option.map_eq_some_iff.mp hstep
    cases hparts
    obtain ⟨next, hnext, rfl⟩ := ih.elements hmore
    refine ⟨_, .moreElements hfront hnext, ?_⟩
    rw [hcs, hafter, List.append_assoc, List.cons_append]
  · next more hafter =>
    cases hstep
    exact ⟨front, .lastElement hfront, hafter ▸ hcs⟩
  · cases hstep

theorem of_readFields?_succ {fuel : Nat} {cs rest : List Char} {fields : List (Option String × Json)}
    (h : readFields? (fuel + 1) cs = some (fields, rest)) : ∃ quoted units gap text j after,
      skipSpace cs = '"' :: quoted ∧ readUnits? quoted = some (units, gap) ∧ skipSpace gap = ':' :: text ∧
      readValue? fuel text = some (j, after) ∧
      ((∃ more fields', skipSpace after = ',' :: more ∧ readFields? fuel more = some (fields', rest)) ∨
        skipSpace after = '\x7d' :: rest) := by
  rw [readFields?] at h
  split at h
  · next quoted hquote =>
    obtain ⟨⟨units, gap⟩, hunits, hname⟩ := Option.bind_eq_some_iff.mp h
    dsimp only at hname
    split at hname
    · next text hcolon =>
      obtain ⟨⟨j, after⟩, hvalue, hend⟩ := Option.bind_eq_some_iff.mp hname
      dsimp only at hend
      refine ⟨quoted, units, gap, text, j, after, hquote, hunits, hcolon, hvalue, ?_⟩
      split at hend
      · next more hcomma =>
        obtain ⟨⟨fields', rest'⟩, hfields, hparts⟩ := Option.map_eq_some_iff.mp hend
        cases hparts
        exact .inl ⟨more, fields', hcomma, hfields⟩
      · next more hbrace =>
        cases hend
        exact .inr hbrace
      · cases hend
    · cases hname
  · cases h

theorem ReadsGrammar.members_succ {fuel : Nat} (ih : ReadsGrammar fuel) {cs rest : List Char}
    {fields : List (Option String × Json)} (h : readFields? (fuel + 1) cs = some (fields, rest)) :
    ∃ front, Derives .members front ∧ cs = front ++ '\x7d' :: rest := by
  obtain ⟨quoted, units, gap, text, j, after, hquote, hunits, hcolon, hvalue, hend⟩ := of_readFields?_succ h
  obtain ⟨before, hbefore, hcs⟩ := blanks_of_skipSpace hquote
  obtain ⟨name, hname, hquoted⟩ := stringText_of_readUnits? hunits
  obtain ⟨blanks, hblanks, hgap⟩ := blanks_of_skipSpace hcolon
  obtain ⟨front, hfront, htext⟩ := ih.element hvalue
  have hmember : Derives .member (before ++ (name ++ (blanks ++ ':' :: front))) := .member hbefore hname hblanks hfront
  have hsplit : cs = before ++ (name ++ (blanks ++ ':' :: front)) ++ skipSpace after := by
    rw [hcs, hquoted, hgap, htext]
    simp only [List.append_assoc, List.cons_append]
  rcases hend with ⟨more, fields', hcomma, hmore⟩ | hbrace
  · obtain ⟨next, hnext, rfl⟩ := ih.members hmore
    refine ⟨_, .moreMembers hmember hnext, ?_⟩
    rw [hsplit, hcomma]
    simp only [List.append_assoc, List.cons_append]
  · exact ⟨_, .lastMember hmember, hbrace ▸ hsplit⟩

/-- Fuel bounds the depth of the calls, and each step goes down by one: the three readers are sound together. -/
theorem readsGrammar (fuel : Nat) : ReadsGrammar fuel := by
  induction fuel with
  | zero =>
    refine ⟨fun h => ?_, fun h => ?_, fun h => ?_⟩
    · cases h
    · cases h
    · cases h
  | succ fuel ih => exact ⟨ih.value_succ, ih.elements_succ, ih.members_succ⟩

theorem isDocument_of_read? {text : String} (h : (read? text).isSome) : IsDocument text := by
  obtain ⟨j, hread⟩ := Option.isSome_iff_exists.mp h
  obtain ⟨⟨value, rest⟩, hvalue, hend⟩ := Option.bind_eq_some_iff.mp hread
  obtain ⟨front, hfront, htext⟩ := (readsGrammar _).element hvalue
  dsimp only at hend
  split at hend
  · next hempty =>
    rw [List.isEmpty_iff.mp hempty, List.append_nil] at htext
    rw [IsDocument, htext]
    exact hfront
  · cases hend

end ContractAudit.Json
