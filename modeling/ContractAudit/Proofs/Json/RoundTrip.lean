import ContractAudit.Proofs.Json.Numeral
import ContractAudit.Proofs.Json.Text
import ContractAudit.Proofs.Partial

/-!
# Values that are written and read

Of all the parts of a value only numbers may change when its text is read, since their digits are rounded. `reread` is
the value with every number as its own text is read. The indented text of a value reads as that (`read?_pretty`), if
the texts of its numbers can be read at all: whatever the characters of its texts and names, and however deep it is.
-/

namespace ContractAudit.Json

/-! ## Blanks -/

theorem skipSpace_cons {c : Char} (h : isSpace c = false) (cs : List Char) : skipSpace (c :: cs) = c :: cs := by
  rw [skipSpace, List.dropWhile_cons_of_neg (by simp [h])]

theorem skipSpace_space {c : Char} (h : isSpace c = true) (cs : List Char) : skipSpace (c :: cs) = skipSpace cs :=
  List.dropWhile_cons_of_pos h

theorem skipSpace_skipSpace (cs : List Char) : skipSpace (skipSpace cs) = skipSpace cs := by
  induction cs with
  | nil => rfl
  | cons c cs ih =>
    cases h : isSpace c with
    | true => rw [skipSpace_space h, ih]
    | false => rw [skipSpace_cons h, skipSpace_cons h]

theorem skipSpace_newline (level : Nat) (cs : List Char) : skipSpace (newline level ++ cs) = skipSpace cs := by
  have hblank : ∀ n : Nat, skipSpace (List.replicate n ' ' ++ cs) = skipSpace cs := by
    intro n
    induction n with
    | zero => rfl
    | succ n ih => rw [List.replicate_succ, List.cons_append, skipSpace_space rfl, ih]
  rw [newline, List.cons_append, skipSpace_space rfl, hblank]

theorem length_newline (level : Nat) : (newline level).length = 2 * level + 1 := by
  simp [newline]

/-! ## What one step of the reader does -/

section Steps

variable {fuel : Nat} {cs rest after : List Char} {value : Json}

theorem readValue?_skipSpace (fuel : Nat) (cs : List Char) : readValue? fuel (skipSpace cs) = readValue? fuel cs := by
  cases fuel with
  | zero => rfl
  | succ fuel => simp only [readValue?, skipSpace_skipSpace]

theorem readItems?_succ (fuel : Nat) (cs : List Char) :
    readItems? (fuel + 1) cs = (readValue? fuel cs).bind fun p => match skipSpace p.2 with
      | ',' :: rest => (readItems? fuel rest).map fun q => (p.1 :: q.1, q.2)
      | ']' :: rest => some ([p.1], rest)
      | _ => none := rfl

theorem readItems?_skipSpace (fuel : Nat) (cs : List Char) : readItems? fuel (skipSpace cs) = readItems? fuel cs := by
  cases fuel with
  | zero => rfl
  | succ fuel => rw [readItems?_succ, readItems?_succ, readValue?_skipSpace]

theorem readFields?_skipSpace (fuel : Nat) (cs : List Char) :
    readFields? fuel (skipSpace cs) = readFields? fuel cs := by
  cases fuel with
  | zero => rfl
  | succ fuel => simp only [readFields?, skipSpace_skipSpace]

theorem readValue?_other {c : Char} (hspace : isSpace c = false) (h : c ∉ ['n', 't', 'f', '"', '[', '\x7b'])
    (cs : List Char) : readValue? (fuel + 1) (c :: cs) = (Numeral.read? (c :: cs)).map fun (n, rest) =>
      ((n.value?.map Json.number).getD .unusable, rest) := by
  simp only [List.mem_cons, List.not_mem_nil, or_false, not_or] at h
  rw [readValue?, skipSpace_cons hspace]
  split <;> simp_all

theorem readItems?_bracket (fuel : Nat) (cs : List Char) : readItems? fuel (']' :: cs) = none := by
  match fuel with
  | 0 | 1 | fuel + 2 => rfl

theorem readValue?_null (rest : List Char) :
    readValue? (fuel + 1) ("null".toList ++ rest) = some (null, rest) := rfl

theorem readValue?_true (rest : List Char) :
    readValue? (fuel + 1) ("true".toList ++ rest) = some (bool true, rest) := rfl

theorem readValue?_false (rest : List Char) :
    readValue? (fuel + 1) ("false".toList ++ rest) = some (bool false, rest) := rfl

theorem readValue?_emptyArray (rest : List Char) :
    readValue? (fuel + 1) ('[' :: ']' :: rest) = some (array [], rest) := rfl

theorem readValue?_emptyObject (rest : List Char) :
    readValue? (fuel + 1) ('\x7b' :: '\x7d' :: rest) = some (object [], rest) := rfl

theorem readValue?_array {items : List Json} (h : readItems? fuel cs = some (items, rest)) :
    readValue? (fuel + 1) ('[' :: cs) = some (.array items, rest) := by
  rw [readValue?, skipSpace_cons rfl]
  simp only
  split
  · next after hempty =>
    rw [← readItems?_skipSpace, hempty, readItems?_bracket] at h
    cases h
  · rw [readItems?_skipSpace, h]
    rfl

theorem readValue?_object {fields : List (Option String × Json)} (h : readFields? fuel cs = some (fields, rest)) :
    readValue? (fuel + 1) ('\x7b' :: cs) = some (objectOf fields, rest) := by
  rw [readValue?, skipSpace_cons rfl]
  simp only
  split
  · next after hempty =>
    rw [← readFields?_skipSpace, hempty] at h
    cases fuel <;> cases h
  · rw [readFields?_skipSpace, h]
    rfl

theorem readValue?_printString (s : String) (rest : List Char) :
    readValue? (fuel + 1) (printString s ++ rest) = some (.string s, rest) := by
  obtain ⟨cs, htext, units, hjoin, hread⟩ := readUnits?_printString s rest
  have hopen : readValue? (fuel + 1) ('"' :: cs) = (readUnits? cs).map fun p =>
    (((joinText? p.1).map Json.string).getD .unusable, p.2) := rfl
  rw [htext, hopen, hread, Option.map_some, hjoin, Option.map_some, Option.getD_some]

theorem readValue?_numeral {c : Char} (h : isNumeralChar c = true) (cs : List Char) :
    readValue? (fuel + 1) (c :: cs) = (Numeral.read? (c :: cs)).map fun (n, rest) =>
      ((n.value?.map Json.number).getD .unusable, rest) := by
  refine readValue?_other (isSpace_of_isNumeralChar h) ?_ cs
  intro hmem
  have hother : ∀ d ∈ ['n', 't', 'f', '"', '[', '\x7b'], isNumeralChar d = false := by
    simp [isNumeralChar, Numeric.isDigit]
  exact ne_of_isNumeralChar h (hother c hmem) rfl

theorem readValue?_newline (fuel level : Nat) (cs : List Char) :
    readValue? fuel (newline level ++ cs) = readValue? fuel cs := by
  rw [← readValue?_skipSpace, skipSpace_newline, readValue?_skipSpace]

theorem readValue?_space (fuel : Nat) (cs : List Char) : readValue? fuel (' ' :: cs) = readValue? fuel cs := by
  rw [← readValue?_skipSpace, skipSpace_space rfl, readValue?_skipSpace]

theorem readFields?_newline (fuel level : Nat) (cs : List Char) :
    readFields? fuel (newline level ++ cs) = readFields? fuel cs := by
  rw [← readFields?_skipSpace, skipSpace_newline, readFields?_skipSpace]

theorem readItems?_last (h : readValue? fuel cs = some (value, rest)) (hrest : skipSpace rest = ']' :: after) :
    readItems? (fuel + 1) cs = some ([value], after) := by
  rw [readItems?_succ, h, Option.bind_some, hrest]
  rfl

theorem readItems?_more {items : List Json} (h : readValue? fuel cs = some (value, ',' :: rest))
    (hmore : readItems? fuel rest = some (items, after)) :
    readItems? (fuel + 1) cs = some (value :: items, after) := by
  rw [readItems?_succ, h, Option.bind_some, skipSpace_cons rfl]
  show (readItems? fuel rest).map _ = _
  rw [hmore]
  rfl

theorem readFields?_cons (fuel : Nat) (cs : List Char) :
    readFields? (fuel + 1) ('"' :: cs) = (readUnits? cs).bind fun p => match skipSpace p.2 with
      | ':' :: rest => (readValue? fuel rest).bind fun q => match skipSpace q.2 with
        | ',' :: rest => (readFields? fuel rest).map fun r => ((joinText? p.1, q.1) :: r.1, r.2)
        | '\x7d' :: rest => some ([(joinText? p.1, q.1)], rest)
        | _ => none
      | _ => none := rfl

theorem readFields?_last (name : String) (h : readValue? fuel cs = some (value, rest))
    (hrest : skipSpace rest = '\x7d' :: after) :
    readFields? (fuel + 1) (printString name ++ ':' :: cs) = some ([(some name, value)], after) := by
  obtain ⟨text, htext, units, hjoin, hread⟩ := readUnits?_printString name (':' :: cs)
  rw [htext, readFields?_cons, hread, Option.bind_some, skipSpace_cons rfl]
  show (readValue? fuel cs).bind _ = _
  rw [h, Option.bind_some, hrest, hjoin]
  rfl

theorem readFields?_more {fields : List (Option String × Json)} (name : String)
    (h : readValue? fuel cs = some (value, ',' :: rest)) (hmore : readFields? fuel rest = some (fields, after)) :
    readFields? (fuel + 1) (printString name ++ ':' :: cs) = some ((some name, value) :: fields, after) := by
  obtain ⟨text, htext, units, hjoin, hread⟩ := readUnits?_printString name (':' :: cs)
  rw [htext, readFields?_cons, hread, Option.bind_some, skipSpace_cons rfl]
  show (readValue? fuel cs).bind _ = _
  rw [h, Option.bind_some, skipSpace_cons rfl, hjoin]
  show (readFields? fuel rest).map _ = _
  rw [hmore]
  rfl

end Steps

/-! ## The value that a text is read as -/

mutual

/-- Numbers as their texts are read, all else as it is; what is unusable was written as null. -/
def reread : Json → Json
  | null | unusable => null
  | bool b => bool b
  | number n => (read? (number n).pretty).getD unusable
  | string s => string s
  | array items => array (rereadItems items)
  | object fields => object (rereadFields fields)

def rereadItems : List Json → List Json
  | [] => []
  | j :: js => reread j :: rereadItems js

def rereadFields : List (String × Json) → List (String × Json)
  | [] => []
  | (name, j) :: fs => (name, reread j) :: rereadFields fs

end

theorem reread_array (items : List Json) : reread (array items) = array (items.map reread) := by
  have hitems : rereadItems items = items.map reread := by
    induction items with
    | nil => rfl
    | cons j js ih => rw [rereadItems, ih, List.map_cons]
  rw [reread, hitems]

theorem reread_object (fields : List (String × Json)) :
    reread (object fields) = object (fields.map fun f => (f.1, f.2.reread)) := by
  have hfields : rereadFields fields = fields.map fun f => (f.1, f.2.reread) := by
    induction fields with
    | nil => rfl
    | cons f fs ih => rw [rereadFields, ih, List.map_cons]
  rw [reread, hfields]

/-- The texts of all numbers in a value can be read. -/
inductive Readable : Json → Prop
  | null : Readable null
  | unusable : Readable unusable
  | bool (b : Bool) : Readable (bool b)
  | string (s : String) : Readable (string s)
  | number {n : Number} (h : (read? (number n).pretty).isSome = true) : Readable (number n)
  | array {items : List Json} (h : ∀ j ∈ items, Readable j) : Readable (array items)
  | object {fields : List (String × Json)} (h : ∀ f ∈ fields, Readable f.2) : Readable (object fields)

@[simp] theorem readable_string (s : String) : (string s).Readable := .string s

@[simp] theorem readable_text? (s : Option String) : (text? s).Readable := by
  cases s with
  | none => exact .null
  | some s => exact .string s

@[simp] theorem readable_array {items : List Json} : (array items).Readable ↔ ∀ j ∈ items, j.Readable :=
  ⟨fun | .array h => h, .array⟩

@[simp] theorem readable_object {fields : List (String × Json)} :
    (object fields).Readable ↔ ∀ f ∈ fields, f.2.Readable :=
  ⟨fun | .object h => h, .object⟩

/-- The text of a value is read as it should be at every level, in front of everything that may follow it. -/
def Restored (j : Json) : Prop :=
  ∀ (fuel level : Nat) (rest : List Char), (print level j).length ≤ fuel → Ends rest →
    readValue? (fuel + 1) (print level j ++ rest) = some (j.reread, rest)

/-! ## Numbers -/

theorem printFloat_of_not_finite {f : Numeric.Format} {x : Numeric.Binary} (h : x.isFinite = false) :
    printFloat f x = "null".toList := by
  simp [printFloat, h]

theorem printFloat_cases (f : Numeric.Format) (x : Numeric.Binary) :
    printFloat f x = "null".toList ∨ ∀ c ∈ printFloat f x, isNumeralChar c = true := by
  cases hx : x.isFinite with
  | false => exact .inl (printFloat_of_not_finite hx)
  | true =>
    rw [printFloat, if_pos hx]
    exact .inr fun c => isNumeralChar_of_mem_text f hx

theorem printNumber_cases (n : Number) :
    printNumber n = "null".toList ∨ ∀ c ∈ printNumber n, isNumeralChar c = true := by
  cases n with
  | double x => exact printFloat_cases _ x
  | single x => exact printFloat_cases _ x
  | int n =>
    refine .inr fun c hc => ?_
    rw [printNumber, printInt] at hc
    split_ifs at hc
    · obtain rfl | hc := List.mem_cons.mp hc
      · decide
      · exact isNumeralChar_of_mem_digitChars hc
    · exact isNumeralChar_of_mem_digitChars hc

theorem read?_ofList {cs : List Char} {value : Json} (h : readValue? (2 * cs.length + 1 + 1) cs = some (value, [])) :
    read? (String.ofList cs) = some value := by
  rw [read?, String.length_ofList, String.toList_ofList, h, Option.bind_some]
  rfl

theorem read?_of_printNumber_null {n : Number} (h : printNumber n = "null".toList) :
    read? (number n).pretty = some null := by
  rw [pretty, print, h]
  exact read?_ofList (readValue?_null [])

theorem exists_numeral {cs : List Char} (hchars : ∀ c ∈ cs, isNumeralChar c = true) {value : Json}
    (h : read? (String.ofList cs) = some value) :
    ∃ n, Numeral.read? cs = some (n, []) ∧ value = (n.value?.map Json.number).getD .unusable := by
  simp only [read?, String.length_ofList, String.toList_ofList] at h
  obtain ⟨⟨v, r⟩, hread, hend⟩ := Option.bind_eq_some_iff.mp h
  cases cs with
  | nil => cases hread
  | cons c cs =>
    rw [readValue?_numeral (hchars c List.mem_cons_self)] at hread
    obtain ⟨⟨n, r'⟩, hnumeral, hparts⟩ := Option.map_eq_some_iff.mp hread
    cases hparts
    -- Nothing is left of the text, since it has no blanks.
    obtain rfl : r = [] := by
      cases r with
      | nil => rfl
      | cons d ds =>
        have hd := hchars d ((Numeral.read?_suffix hnumeral).subset List.mem_cons_self)
        simp [skipSpace_cons (isSpace_of_isNumeralChar hd)] at hend
    cases hend
    exact ⟨n, hnumeral, rfl⟩

theorem restored_number {n : Number} (h : (read? (number n).pretty).isSome = true) : Restored (number n) := by
  intro fuel level rest _ hrest
  obtain ⟨value, hvalue⟩ := Option.isSome_iff_exists.mp h
  rw [reread, hvalue, Option.getD_some, print]
  obtain htext | hchars := printNumber_cases n
  · rw [read?_of_printNumber_null htext] at hvalue
    cases hvalue
    rw [htext, readValue?_null]
  · obtain ⟨m, hnumeral, rfl⟩ := exists_numeral hchars hvalue
    have happend := Numeral.read?_append hnumeral hrest
    obtain ⟨c, cs, htext⟩ : ∃ c cs, printNumber n = c :: cs := by
      refine List.exists_cons_of_ne_nil fun hnil => ?_
      rw [hnil] at hnumeral
      cases hnumeral
    rw [htext] at hchars happend ⊢
    rw [List.cons_append, readValue?_numeral (hchars c List.mem_cons_self), ← List.cons_append, happend]
    rfl

/-! ## Items and fields -/

theorem ends_comma (rest : List Char) : Ends (',' :: rest) := .cons rfl rest

theorem ends_newline (level : Nat) (rest : List Char) : Ends (newline level ++ rest) := .cons rfl _

theorem printParts_more (level : Nat) (part next : List Char) (parts : List (List Char)) :
    printParts level (part :: next :: parts) =
      newline (level + 1) ++ (part ++ ',' :: printParts level (next :: parts)) := by
  rw [printParts, List.append_assoc]
  exact List.cons_ne_nil next parts

theorem readItems?_printParts {items : List Json} (hne : items ≠ []) (hitems : ∀ j ∈ items, Restored j)
    {fuel level : Nat} (hfuel : (printParts level (printItems (level + 1) items)).length < fuel) (rest : List Char) :
    readItems? fuel (printParts level (printItems (level + 1) items) ++ (newline level ++ ']' :: rest)) =
      some (items.map reread, rest) := by
  induction items generalizing fuel with
  | nil => exact absurd rfl hne
  | cons j js ih =>
    have hj := hitems j List.mem_cons_self
    cases js with
    | nil =>
      simp only [printItems, printParts, List.length_append, length_newline] at hfuel ⊢
      obtain ⟨fuel, rfl⟩ : ∃ n, fuel = n + 2 := ⟨fuel - 2, by omega⟩
      have hread := hj fuel (level + 1) (newline level ++ ']' :: rest) (by omega) (ends_newline level _)
      rw [← readValue?_newline _ (level + 1), ← List.append_assoc] at hread
      exact readItems?_last hread (by rw [skipSpace_newline, skipSpace_cons rfl])
    | cons k ks =>
      have hks : ∀ i ∈ k :: ks, Restored i := fun i hi => hitems i (List.mem_cons_of_mem j hi)
      simp only [printItems, printParts_more, List.length_append, List.length_cons, length_newline] at hfuel ih ⊢
      obtain ⟨fuel, rfl⟩ : ∃ n, fuel = n + 2 := ⟨fuel - 2, by omega⟩
      refine readItems?_more ?_ (ih (List.cons_ne_nil k ks) hks (by omega))
      rw [List.append_assoc, List.append_assoc, readValue?_newline]
      exact hj fuel (level + 1) _ (by omega) (ends_comma _)

theorem readFields?_printParts {fields : List (String × Json)} (hne : fields ≠ [])
    (hfields : ∀ f ∈ fields, Restored f.2) {fuel level : Nat}
    (hfuel : (printParts level (printFields (level + 1) fields)).length < fuel) (rest : List Char) :
    readFields? fuel (printParts level (printFields (level + 1) fields) ++ (newline level ++ '\x7d' :: rest)) =
      some (fields.map fun f => (some f.1, f.2.reread), rest) := by
  induction fields generalizing fuel with
  | nil => exact absurd rfl hne
  | cons f fs ih =>
    obtain ⟨name, j⟩ := f
    have hj : Restored j := hfields (name, j) List.mem_cons_self
    cases fs with
    | nil =>
      simp only [printFields, printParts, List.length_append, List.length_cons, length_newline] at hfuel ⊢
      obtain ⟨fuel, rfl⟩ : ∃ n, fuel = n + 2 := ⟨fuel - 2, by omega⟩
      have hread := hj fuel (level + 1) (newline level ++ '\x7d' :: rest) (by omega) (ends_newline level _)
      rw [← readValue?_space] at hread
      simp only [List.append_assoc, List.cons_append, readFields?_newline]
      exact readFields?_last name hread (by rw [skipSpace_newline, skipSpace_cons rfl])
    | cons g gs =>
      have hgs : ∀ f ∈ g :: gs, Restored f.2 := fun f hf => hfields f (List.mem_cons_of_mem _ hf)
      simp only [printFields, printParts_more, List.length_append, List.length_cons, length_newline] at hfuel ih ⊢
      obtain ⟨fuel, rfl⟩ : ∃ n, fuel = n + 2 := ⟨fuel - 2, by omega⟩
      simp only [List.append_assoc, List.cons_append, readFields?_newline]
      refine readFields?_more name ?_ (ih (List.cons_ne_nil g gs) hgs (by omega))
      rw [readValue?_space]
      exact hj fuel (level + 1) _ (by omega) (ends_comma _)

theorem objectOf_names (fields : List (String × Json)) :
    objectOf (fields.map fun f => (some f.1, f.2.reread)) = object (fields.map fun f => (f.1, f.2.reread)) := by
  simp only [objectOf, List.mapM_map, Function.comp_def, Option.map_some]
  rw [mapM_eq_some (g := fun f : String × Json => (f.1, f.2.reread)) fun _ _ => rfl]

/-! ## Whole values -/

theorem bracket_append {parts : List (List Char)} (h : parts ≠ []) (level : Nat) (left right : Char)
    (rest : List Char) : bracket level left right parts ++ rest =
      left :: (printParts level parts ++ (newline level ++ right :: rest)) := by
  simp [bracket, h]

theorem length_printParts_lt {parts : List (List Char)} (h : parts ≠ []) (level : Nat) (left right : Char) :
    (printParts level parts).length + 1 < (bracket level left right parts).length := by
  simp [bracket, h]

theorem Readable.restored {j : Json} (h : j.Readable) : Restored j := by
  induction h with
  | number h => exact restored_number h
  | null =>
    intro fuel level rest _ _
    exact readValue?_null rest
  | unusable =>
    intro fuel level rest _ _
    exact readValue?_null rest
  | bool b =>
    intro fuel level rest _ _
    cases b with
    | true => exact readValue?_true rest
    | false => exact readValue?_false rest
  | string s =>
    intro fuel level rest _ _
    exact readValue?_printString s rest
  | @array items _ ih =>
    intro fuel level rest hfuel _
    rw [print] at hfuel ⊢
    rw [reread_array]
    cases items with
    | nil => exact readValue?_emptyArray rest
    | cons j js =>
      have hparts : printItems (level + 1) (j :: js) ≠ [] := List.cons_ne_nil _ _
      have hlength := length_printParts_lt hparts level '[' ']'
      rw [bracket_append hparts]
      exact readValue?_array (readItems?_printParts (List.cons_ne_nil j js) ih (by omega) rest)
  | @object fields _ ih =>
    intro fuel level rest hfuel _
    rw [print] at hfuel ⊢
    rw [reread_object]
    cases fields with
    | nil => exact readValue?_emptyObject rest
    | cons f fs =>
      have hparts : printFields (level + 1) (f :: fs) ≠ [] := List.cons_ne_nil _ _
      have hlength := length_printParts_lt hparts level '\x7b' '\x7d'
      rw [bracket_append hparts, ← objectOf_names]
      exact readValue?_object (readFields?_printParts (List.cons_ne_nil f fs) ih (by omega) rest)

/-- **The text of a value reads as the value**, up to the rounding of its numbers. -/
theorem read?_pretty {j : Json} (h : j.Readable) : read? j.pretty = some j.reread := by
  have hread := h.restored (2 * (print 0 j).length + 1) 0 [] (by omega) .nil
  rw [List.append_nil] at hread
  exact read?_ofList hread

/-! ## Numbers that stay as they are -/

theorem read?_nat {n : Nat} (h : n ≤ Numeric.maxU64) : read? (nat n).pretty = some (nat n) := by
  have htext : print 0 (nat n) = Numeric.digitChars n := by simp [nat, print, printNumber, printInt]
  obtain ⟨c, cs, hchars⟩ := List.exists_cons_of_ne_nil (Numeric.digitChars_ne_nil n)
  have hc : isNumeralChar c = true := isNumeralChar_of_mem_digitChars (hchars ▸ List.mem_cons_self)
  rw [pretty, htext]
  refine read?_ofList ?_
  rw [hchars, readValue?_numeral hc, ← hchars, read?_digitChars]
  simp [value?_digitChars h, nat]

theorem readable_nat {n : Nat} (h : n ≤ Numeric.maxU64) : (nat n).Readable :=
  .number (by rw [← nat, read?_nat h]; rfl)

theorem reread_nat {n : Nat} (h : n ≤ Numeric.maxU64) : (nat n).reread = nat n := by
  have hread := read?_nat h
  rw [nat] at hread ⊢
  rw [reread, hread, Option.getD_some]

end ContractAudit.Json
