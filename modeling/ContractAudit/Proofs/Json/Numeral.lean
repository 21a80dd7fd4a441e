import ContractAudit.Json.Printer
import ContractAudit.Json.Reader
import ContractAudit.Proofs.Numeric.Digits
import Mathlib.Data.List.TakeWhile
import Mathlib.Tactic.SplitIfs

/-!
# Numerals that are written and read

A numeral ends where no character of a numeral follows: what is read from it alone is read from it in front of such a
text too (`Numeral.read?_append`). The text of a number has no other characters (`isNumeralChar_of_mem_printNumber`),
and a natural number of 64 bits is read from its digits as itself (`value?_digitChars`).
-/

namespace ContractAudit.Json

open Numeric (isDigit digitChars)

/-! ## Where a numeral ends -/

/-- Characters of which numerals are made. -/
def isNumeralChar (c : Char) : Bool :=
  isDigit c || c == '.' || c == '-' || c == '+' || c == 'e' || c == 'E'

theorem ne_of_isNumeralChar {c d : Char} (hc : isNumeralChar c = true) (hd : isNumeralChar d = false) : c ≠ d := by
  rintro rfl
  rw [hc] at hd
  cases hd

theorem isSpace_of_isNumeralChar {c : Char} (h : isNumeralChar c = true) : isSpace c = false := by
  have hne : ∀ d, isNumeralChar d = false → c ≠ d := fun d => ne_of_isNumeralChar h
  simp [isSpace, hne ' ' rfl, hne '\n' rfl, hne '\t' rfl, hne '\r' rfl]

/-- No numeral goes on into the text. -/
def Ends (rest : List Char) : Prop := ∀ c ∈ rest.head?, isNumeralChar c = false

theorem Ends.nil : Ends [] := by simp [Ends]

theorem Ends.cons {c : Char} (h : isNumeralChar c = false) (rest : List Char) : Ends (c :: rest) := by
  simpa [Ends] using h

theorem Ends.isDigit {c : Char} {rest : List Char} (h : Ends (c :: rest)) : isDigit c = false := by
  have hc := h c rfl
  simp only [isNumeralChar, Bool.or_eq_false_iff] at hc
  simp [hc]

theorem takeWhile_isDigit_append {rest : List Char} (h : Ends rest) (cs : List Char) :
    (cs ++ rest).takeWhile isDigit = cs.takeWhile isDigit := by
  induction cs with
  | nil =>
    cases rest with
    | nil => rfl
    | cons c rest => simp [h.isDigit]
  | cons c cs ih => cases hc : isDigit c <;> simp [hc, ih]

theorem dropWhile_isDigit_append {rest : List Char} (h : Ends rest) (cs : List Char) :
    (cs ++ rest).dropWhile isDigit = cs.dropWhile isDigit ++ rest := by
  induction cs with
  | nil =>
    cases rest with
    | nil => rfl
    | cons c rest => simp [h.isDigit]
  | cons c cs ih => cases hc : isDigit c <;> simp [hc, ih]

/-! ## The parts of a numeral in front of a text -/

section Append

variable {cs rest : List Char}

theorem splitMinus_append (h : cs ≠ []) (rest : List Char) :
    splitMinus (cs ++ rest) = ((splitMinus cs).1, (splitMinus cs).2 ++ rest) := by
  obtain ⟨c, cs, rfl⟩ := List.exists_cons_of_ne_nil h
  unfold splitMinus
  split <;> simp_all

theorem splitSign_append (h : cs ≠ []) (rest : List Char) :
    splitSign (cs ++ rest) = ((splitSign cs).1, (splitSign cs).2 ++ rest) := by
  obtain ⟨c, cs, rfl⟩ := List.exists_cons_of_ne_nil h
  by_cases hc : c = '+'
  · subst hc
    rfl
  · have hsame : ∀ more, splitSign (c :: more) = splitMinus (c :: more) := fun more => by simp [splitSign, hc]
    rw [List.cons_append, hsame, hsame, ← List.cons_append, splitMinus_append (List.cons_ne_nil c cs)]

theorem readFraction?_of_ne {c : Char} (h : c ≠ '.') (cs : List Char) :
    readFraction? (c :: cs) = some (none, c :: cs) := by
  simp [readFraction?, h]

theorem readFraction?_append {fraction : Option (List Char)} {r : List Char}
    (h : readFraction? cs = some (fraction, r)) (hrest : Ends rest) :
    readFraction? (cs ++ rest) = some (fraction, r ++ rest) := by
  cases cs with
  | nil =>
    cases h
    cases rest with
    | nil => rfl
    | cons c rest =>
      refine readFraction?_of_ne ?_ rest
      rintro rfl
      exact absurd (hrest '.' rfl) (by decide)
  | cons c cs =>
    by_cases hc : c = '.'
    · subst hc
      simp only [readFraction?, List.cons_append, takeWhile_isDigit_append hrest, dropWhile_isDigit_append hrest] at h ⊢
      split at h
      · cases h
      · next hdigits =>
        cases h
        rw [if_neg hdigits]
    · rw [readFraction?_of_ne hc] at h
      cases h
      exact readFraction?_of_ne hc (cs ++ rest)

theorem readPower?_append {power : Bool × List Char} {r : List Char} (h : readPower? cs = some (power, r))
    (hrest : Ends rest) : readPower? (cs ++ rest) = some (power, r ++ rest) := by
  have hne : cs ≠ [] := by
    rintro rfl
    cases h
  simp only [readPower?, splitSign_append hne, takeWhile_isDigit_append hrest, dropWhile_isDigit_append hrest] at h ⊢
  split at h
  · cases h
  · next hdigits =>
    cases h
    rw [if_neg hdigits]

theorem readExponent?_append {exponent : Option (Bool × List Char)} {r : List Char}
    (h : readExponent? cs = some (exponent, r)) (hrest : Ends rest) :
    readExponent? (cs ++ rest) = some (exponent, r ++ rest) := by
  cases cs with
  | nil =>
    cases h
    cases rest with
    | nil => rfl
    | cons c rest =>
      have hc : (c == 'e' || c == 'E') = false := by
        have hchar := hrest c rfl
        simp only [isNumeralChar, Bool.or_eq_false_iff] at hchar
        simp [hchar]
      simp [readExponent?, hc]
  | cons mark cs =>
    simp only [readExponent?, List.cons_append] at h ⊢
    split at h
    · next hmark =>
      obtain ⟨⟨power, r'⟩, hpower, hparts⟩ := Option.map_eq_some_iff.mp h
      rw [if_pos hmark, readPower?_append hpower hrest]
      cases hparts
      rfl
    · next hmark =>
      rw [if_neg hmark]
      cases h
      rfl

theorem Numeral.read?_append {n : Numeral} {r : List Char} (h : Numeral.read? cs = some (n, r)) (hrest : Ends rest) :
    Numeral.read? (cs ++ rest) = some (n, r ++ rest) := by
  have hne : cs ≠ [] := by
    rintro rfl
    cases h
  simp only [Numeral.read?, splitMinus_append hne, takeWhile_isDigit_append hrest,
    dropWhile_isDigit_append hrest] at h ⊢
  split at h
  · cases h
  · next hwhole =>
    obtain ⟨⟨fraction, r'⟩, hfraction, h⟩ := Option.bind_eq_some_iff.mp h
    obtain ⟨⟨exponent, r''⟩, hexponent, hparts⟩ := Option.map_eq_some_iff.mp h
    rw [if_neg hwhole, readFraction?_append hfraction hrest, Option.bind_some,
      readExponent?_append hexponent hrest]
    cases hparts
    rfl

end Append

/-! ## What is left behind a numeral -/

section Suffix

variable {cs r : List Char}

theorem splitMinus_suffix (cs : List Char) : (splitMinus cs).2 <:+ cs := by
  unfold splitMinus
  split
  · exact List.suffix_cons _ _
  · exact List.suffix_rfl

theorem splitSign_suffix (cs : List Char) : (splitSign cs).2 <:+ cs := by
  unfold splitSign
  split
  · exact List.suffix_cons _ _
  · exact splitMinus_suffix cs

theorem readFraction?_suffix {fraction : Option (List Char)} (h : readFraction? cs = some (fraction, r)) :
    r <:+ cs := by
  unfold readFraction? at h
  split at h
  · dsimp only at h
    split at h
    · cases h
    · cases h
      exact (List.dropWhile_suffix _).trans (List.suffix_cons _ _)
  · cases h
    exact List.suffix_rfl

theorem readPower?_suffix {power : Bool × List Char} (h : readPower? cs = some (power, r)) : r <:+ cs := by
  simp only [readPower?] at h
  split at h
  · cases h
  · cases h
    exact (List.dropWhile_suffix _).trans (splitSign_suffix cs)

theorem readExponent?_suffix {exponent : Option (Bool × List Char)} (h : readExponent? cs = some (exponent, r)) :
    r <:+ cs := by
  unfold readExponent? at h
  split at h
  · cases h
    exact List.suffix_rfl
  · split at h
    · obtain ⟨⟨power, r'⟩, hpower, hparts⟩ := Option.map_eq_some_iff.mp h
      cases hparts
      exact (readPower?_suffix hpower).trans (List.suffix_cons _ _)
    · cases h
      exact List.suffix_rfl

theorem Numeral.read?_suffix {n : Numeral} (h : Numeral.read? cs = some (n, r)) : r <:+ cs := by
  simp only [Numeral.read?] at h
  split at h
  · cases h
  · obtain ⟨⟨fraction, r'⟩, hfraction, h⟩ := Option.bind_eq_some_iff.mp h
    obtain ⟨⟨exponent, r''⟩, hexponent, hparts⟩ := Option.map_eq_some_iff.mp h
    cases hparts
    have hdigits : r' <:+ (splitMinus cs).2 := (readFraction?_suffix hfraction).trans (List.dropWhile_suffix _)
    exact (readExponent?_suffix hexponent).trans (hdigits.trans (splitMinus_suffix cs))

end Suffix

/-! ## The texts of numbers -/

theorem isNumeralChar_of_isDigit {c : Char} (h : isDigit c = true) : isNumeralChar c = true := by
  simp [isNumeralChar, h]

theorem isNumeralChar_of_mem_zeros {n : Nat} {c : Char} (h : c ∈ Numeric.zeros n) : isNumeralChar c = true := by
  obtain rfl := List.eq_of_mem_replicate h
  decide

theorem isNumeralChar_of_mem_digitChars {n : Nat} {c : Char} (h : c ∈ digitChars n) : isNumeralChar c = true :=
  isNumeralChar_of_isDigit (Numeric.isDigit_of_mem_digitChars h)

theorem isNumeralChar_of_mem_stripZeros {d : Numeric.Decimal} {c : Char} (h : c ∈ (Numeric.stripZeros d).1) :
    isNumeralChar c = true := by
  have hkept : c ∈ (digitChars d.digits).reverse.dropWhile (· == '0') := List.mem_reverse.mp h
  exact isNumeralChar_of_mem_digitChars (List.mem_reverse.mp ((List.dropWhile_suffix _).subset hkept))

theorem isNumeralChar_of_mem_positional {cs : List Char} (hcs : ∀ c ∈ cs, isNumeralChar c = true) (exponent : Int)
    {c : Char} (h : c ∈ (Numeric.positional Numeric.dataLayout cs exponent).toList) : isNumeralChar c = true := by
  have hmark : ∀ c ∈ Numeric.dataLayout.wholeMark.toList, isNumeralChar c = true := by
    simp [Numeric.dataLayout, isNumeralChar, isDigit]
  have hpoint : isNumeralChar '.' = true := by decide
  have hzero : isNumeralChar '0' = true := by decide
  simp only [Numeric.positional] at h
  split_ifs at h <;> simp only [String.toList_append, String.toList_ofList, List.mem_append, List.mem_cons] at h
  · obtain (h | h) | h := h
    · exact hcs c h
    · exact isNumeralChar_of_mem_zeros h
    · exact hmark c h
  · obtain h | rfl | h := h
    · exact hcs c (List.mem_of_mem_take h)
    · exact hpoint
    · exact hcs c (List.mem_of_mem_drop h)
  · obtain rfl | rfl | h | h := h
    · exact hzero
    · exact hpoint
    · exact isNumeralChar_of_mem_zeros h
    · exact hcs c h

theorem isNumeralChar_of_mem_scientific {cs : List Char} (hcs : ∀ c ∈ cs, isNumeralChar c = true) (exponent : Int)
    {c : Char} (h : c ∈ (Numeric.scientific cs exponent).toList) : isNumeralChar c = true := by
  have hmark : ∀ c ∈ "e".toList, isNumeralChar c = true := by simp [isNumeralChar]
  simp only [Numeric.scientific, String.toList_append, String.toList_ofList, List.mem_append] at h
  obtain ((h | h) | h) | h := h
  · match cs, hcs, h with
    | [], _, h =>
      obtain rfl := List.mem_singleton.mp h
      decide
    | [d], hcs, h => exact hcs c h
    | d :: e :: rest, hcs, h =>
      simp only [List.mem_cons] at h hcs
      obtain rfl | rfl | h := h
      · exact hcs c (.inl rfl)
      · decide
      · exact hcs c (.inr h)
  · exact hmark c h
  · split_ifs at h <;> revert c <;> simp [isNumeralChar]
  · exact isNumeralChar_of_mem_digitChars h

theorem isNumeralChar_of_mem_text (f : Numeric.Format) {x : Numeric.Binary} (hx : x.isFinite = true) {c : Char}
    (h : c ∈ (Numeric.dataLayout.text f x).toList) : isNumeralChar c = true := by
  cases x with
  | nan => cases hx
  | infinite s => cases hx
  | finite s m e =>
    rw [Numeric.Layout.text, String.toList_append, List.mem_append] at h
    obtain h | h := h
    · cases s <;> simp [Numeric.signText] at h
      subst h
      decide
    · have hdigits : ∀ c ∈ (Numeric.stripZeros (f.shortest m e)).1, isNumeralChar c = true :=
        fun _ => isNumeralChar_of_mem_stripZeros
      unfold Numeric.Layout.magnitude at h
      obtain ⟨cs, k⟩ := Numeric.stripZeros (f.shortest m e)
      dsimp only at h
      split_ifs at h
      · revert c
        simp [Numeric.dataLayout, isNumeralChar, isDigit]
      · exact isNumeralChar_of_mem_positional hdigits _ h
      · exact isNumeralChar_of_mem_scientific hdigits _ h

/-! ## Natural numbers -/

theorem le_foldl_digitValue (a : Nat) (ds : List Char) :
    a ≤ ds.foldl (fun n c => 10 * n + Numeric.digitValue c) a := by
  induction ds generalizing a with
  | nil => exact Nat.le_refl a
  | cons d ds ih =>
    have hnext := ih (10 * a + Numeric.digitValue d)
    rw [List.foldl_cons]
    omega

theorem gatherWhole_eq {a : Nat} {ds : List Char}
    (h : ds.foldl (fun n c => 10 * n + Numeric.digitValue c) a ≤ Numeric.maxU64) :
    gatherWhole a ds = ⟨ds.foldl (fun n c => 10 * n + Numeric.digitValue c) a, 0⟩ := by
  induction ds generalizing a with
  | nil => rfl
  | cons d ds ih =>
    have hnext := le_foldl_digitValue (10 * a + Numeric.digitValue d) ds
    rw [List.foldl_cons] at h ⊢
    rw [gatherWhole, if_pos (Nat.le_trans hnext h), ih h]

theorem read?_digitChars (n : Nat) :
    Numeral.read? (digitChars n) = some (⟨false, digitChars n, none, none⟩, []) := by
  have hdigits : ∀ c ∈ digitChars n, isDigit c = true := fun c => Numeric.isDigit_of_mem_digitChars
  have hwhole : (digitChars n).takeWhile isDigit = digitChars n := List.takeWhile_eq_self_iff.mpr hdigits
  have hrest : (digitChars n).dropWhile isDigit = [] := List.dropWhile_eq_nil_iff.mpr hdigits
  have hsign : splitMinus (digitChars n) = (false, digitChars n) := by
    unfold splitMinus
    split
    · next rest hminus => exact absurd (hdigits '-' (hminus ▸ List.mem_cons_self)) (by decide)
    · rfl
  have hzero : (1 < (digitChars n).length && (digitChars n).head? == some '0') = false := by
    by_cases hn : n = 0
    · subst hn
      decide
    · simp [Numeric.head?_digitChars hn]
  simp [Numeral.read?, hsign, hwhole, hrest, hzero, Numeric.digitChars_ne_nil, readFraction?, readExponent?]

theorem value?_digitChars {n : Nat} (h : n ≤ Numeric.maxU64) :
    Numeral.value? ⟨false, digitChars n, none, none⟩ = some (.int n) := by
  have hgather : gatherWhole 0 (digitChars n) = ⟨n, 0⟩ := by
    have hvalue := Numeric.digitsValue_digitChars n
    rw [Numeric.digitsValue] at hvalue
    rw [gatherWhole_eq (by rw [hvalue]; exact h), hvalue]
  simp [Numeral.value?, hgather]

end ContractAudit.Json
