import ContractAudit.Text.Blank
import Mathlib.Data.List.Basic
import Mathlib.Data.List.TakeWhile

/-!
# Trimming and splitting a text

Trimming stops at the first character from either end that is not blank (`trimChars_append`). Pieces that are joined by
a separator and do not contain it themselves come back from `splitWhere`, `words` and `splitMark`.
-/

namespace ContractAudit.Text

/-! ## Trimming -/

section Trimming

variable {c d : Char}

theorem trimStartChars_append_cons (front : List Char) (hc : isBlank c = false) (back : List Char) :
    trimStartChars (front ++ c :: back) = trimStartChars front ++ c :: back := by
  induction front with
  | nil => simp [trimStartChars, hc]
  | cons f front ih =>
    unfold trimStartChars at ih ⊢
    rw [List.cons_append, List.dropWhile_cons, List.dropWhile_cons]
    split
    · exact ih
    · rfl

theorem trimEndChars_append_cons (front : List Char) (hd : isBlank d = false) (back : List Char) :
    trimEndChars (front ++ d :: back) = front ++ d :: trimEndChars back := by
  have hreverse : (front ++ d :: back).reverse = back.reverse ++ d :: front.reverse := by simp
  have hstart := trimStartChars_append_cons back.reverse hd front.reverse
  unfold trimStartChars at hstart
  rw [trimEndChars, dropWhileEnd, hreverse, hstart, trimEndChars, dropWhileEnd]
  simp

theorem trimChars_append (front : List Char) (hc : isBlank c = false) (inner : List Char) (hd : isBlank d = false)
    (back : List Char) :
    trimChars (front ++ c :: (inner ++ d :: back)) =
      trimStartChars front ++ c :: (inner ++ d :: trimEndChars back) := by
  have hshift : ∀ start rest : List Char, start ++ c :: (inner ++ d :: rest) = (start ++ c :: inner) ++ d :: rest := by
    simp
  rw [trimChars, trimStartChars_append_cons _ hc, hshift, trimEndChars_append_cons _ hd, ← hshift]

theorem trimStartChars_of_blank {cs : List Char} (h : ∀ x ∈ cs, isBlank x = true) : trimStartChars cs = [] :=
  List.dropWhile_eq_nil_iff.mpr h

theorem trimEndChars_of_blank {cs : List Char} (h : ∀ x ∈ cs, isBlank x = true) : trimEndChars cs = [] := by
  have hnil : cs.reverse.dropWhile isBlank = [] :=
    List.dropWhile_eq_nil_iff.mpr fun x hx => h x (List.mem_reverse.mp hx)
  rw [trimEndChars, dropWhileEnd, hnil, List.reverse_nil]

theorem mem_of_mem_trimStartChars {x : Char} {cs : List Char} (h : x ∈ trimStartChars cs) : x ∈ cs :=
  (List.dropWhile_suffix isBlank).mem h

theorem mem_of_mem_trimEndChars {x : Char} {cs : List Char} (h : x ∈ trimEndChars cs) : x ∈ cs :=
  List.mem_reverse.mp ((List.dropWhile_suffix isBlank).mem (List.mem_reverse.mp h))

theorem trimChars_eq_self {cs : List Char} (h : ∀ x ∈ cs, isBlank x = false) : trimChars cs = cs := by
  have hkeep : ∀ ds : List Char, (∀ x ∈ ds, x ∈ cs) → ds.dropWhile isBlank = ds := by
    intro ds hds
    cases ds with
    | nil => rfl
    | cons d ds =>
      rw [List.dropWhile_cons, h d (hds d List.mem_cons_self)]
      rfl
  rw [trimChars, trimStartChars, hkeep cs fun _ hx => hx, trimEndChars, dropWhileEnd,
    hkeep cs.reverse fun x hx => List.mem_reverse.mp hx, List.reverse_reverse]

end Trimming

/-! ## Separating characters -/

variable {p : Char → Bool}

theorem splitWhere_ne_nil (cs : List Char) : splitWhere p cs ≠ [] := by
  cases cs with
  | nil => simp [splitWhere]
  | cons c cs =>
    rw [splitWhere]
    split
    · simp
    · split <;> simp

theorem splitWhere_eq_singleton {cs : List Char} (h : ∀ c ∈ cs, p c = false) : splitWhere p cs = [cs] := by
  induction cs with
  | nil => rfl
  | cons c cs ih =>
    rw [splitWhere, h c (by simp), ih fun d hd => h d (by simp [hd])]
    simp

theorem splitWhere_append_cons {c : Char} (hc : p c = true) (front back : List Char) :
    splitWhere p (front ++ c :: back) = splitWhere p front ++ splitWhere p back := by
  induction front with
  | nil => simp [splitWhere, hc]
  | cons d front ih =>
    rw [List.cons_append, splitWhere, splitWhere, ih]
    by_cases hd : p d = true
    · simp [hd]
    · obtain ⟨piece, rest, hpieces⟩ := List.exists_cons_of_ne_nil (splitWhere_ne_nil (p := p) front)
      simp [hd, hpieces]

/-! ## Words -/

theorem words_eq_singleton {w : List Char} (hw : w ≠ []) (h : ∀ c ∈ w, isBlank c = false) : words w = [w] := by
  simp [words, splitWhere_eq_singleton h, hw]

theorem words_append_cons {c : Char} (hc : isBlank c = true) (front back : List Char) :
    words (front ++ c :: back) = words front ++ words back := by
  rw [words, splitWhere_append_cons hc, List.filter_append, words, words]

theorem words_append_blanks {gap : List Char} (hgap : ∀ c ∈ gap, isBlank c = true) (hne : gap ≠ [])
    (front back : List Char) : words (front ++ gap ++ back) = words front ++ words back := by
  induction gap generalizing front with
  | nil => exact absurd rfl hne
  | cons c gap ih =>
    have hc : isBlank c = true := hgap c (by simp)
    cases gap with
    | nil => rw [List.append_assoc, List.singleton_append, words_append_cons hc]
    | cons d gap =>
      have htail := ih (fun x hx => hgap x (by simp [hx])) (by simp) []
      have hempty : words [] = [] := rfl
      rw [List.append_assoc, List.cons_append, words_append_cons hc]
      simpa [hempty] using htail

theorem words_surrounded {before after : List Char} (hbefore : ∀ c ∈ before, isBlank c = true)
    (hafter : ∀ c ∈ after, isBlank c = true) (cs : List Char) : words (before ++ cs ++ after) = words cs := by
  have hend : ∀ front : List Char, words (front ++ after) = words front := by
    intro front
    by_cases hne : after = []
    · rw [hne, List.append_nil]
    · simpa [words, splitWhere] using words_append_blanks hafter hne front []
  rw [hend]
  by_cases hne : before = []
  · rw [hne, List.nil_append]
  · simpa [words, splitWhere] using words_append_blanks hbefore hne [] cs

/-! ## Separating marks -/

theorem stripFront?_append (mark rest : List Char) : stripFront? mark (mark ++ rest) = some rest := by
  induction mark with
  | nil => rfl
  | cons m mark ih => simpa [stripFront?] using ih

theorem isPrefixOf_of_stripFront? {mark cs rest : List Char} (h : stripFront? mark cs = some rest) :
    mark.isPrefixOf cs = true := by
  induction mark generalizing cs with
  | nil => rfl
  | cons m mark ih =>
    cases cs with
    | nil => simp [stripFront?] at h
    | cons x cs =>
      rw [stripFront?] at h
      split at h
      · next hm => simpa [List.isPrefixOf, hm] using ih h
      · cases h

theorem stripFront?_length {mark cs rest : List Char} (h : stripFront? mark cs = some rest) :
    mark.length + rest.length = cs.length := by
  induction mark generalizing cs with
  | nil =>
    obtain rfl := Option.some.inj h
    simp
  | cons m mark ih =>
    cases cs with
    | nil => simp [stripFront?] at h
    | cons c cs =>
      rw [stripFront?] at h
      split at h
      · simp only [List.length_cons, ← ih h]
        omega
      · simp at h

/-- The bound on the steps does not matter once it exceeds the length of the text. -/
theorem splitMarkAux_fuel {mark : List Char} (hmark : mark ≠ []) {fuel fuel' : Nat} {piece cs : List Char}
    (h : cs.length < fuel) (h' : cs.length < fuel') :
    splitMarkAux mark fuel piece cs = splitMarkAux mark fuel' piece cs := by
  induction fuel generalizing fuel' piece cs with
  | zero => omega
  | succ fuel ih =>
    obtain ⟨fuel', rfl⟩ : ∃ k, fuel' = k + 1 := ⟨fuel' - 1, by omega⟩
    cases cs with
    | nil => rfl
    | cons c cs =>
      have hpos := List.length_pos_iff.mpr hmark
      rw [List.length_cons] at h h'
      rw [splitMarkAux, splitMarkAux]
      split
      · next rest hrest =>
        have hlength := stripFront?_length hrest
        rw [List.length_cons] at hlength
        exact congrArg (piece.reverse :: ·) (ih (by omega) (by omega))
      · exact ih (by omega) (by omega)

section mark

variable {m : Char} {mark : List Char}

theorem splitMarkAux_append {fuel : Nat} {piece front rest : List Char} (hfront : m ∉ front)
    (hfuel : (front ++ (m :: mark) ++ rest).length < fuel) :
    splitMarkAux (m :: mark) fuel piece (front ++ (m :: mark) ++ rest) =
      (piece.reverse ++ front) :: splitMark (m :: mark) rest := by
  induction front generalizing fuel piece with
  | nil =>
    obtain ⟨fuel, rfl⟩ : ∃ k, fuel = k + 1 := ⟨fuel - 1, by omega⟩
    have hstrip : stripFront? (m :: mark) (m :: (mark ++ rest)) = some rest := stripFront?_append (m :: mark) rest
    simp only [List.nil_append, List.cons_append, List.length_cons, List.length_append] at hfuel ⊢
    rw [splitMarkAux, hstrip, List.append_nil]
    dsimp only
    exact congrArg (piece.reverse :: ·) (splitMarkAux_fuel (by simp) (by omega) (by omega))
  | cons c front ih =>
    obtain ⟨fuel, rfl⟩ : ∃ k, fuel = k + 1 := ⟨fuel - 1, by omega⟩
    rw [List.mem_cons, not_or] at hfront
    have hstrip : stripFront? (m :: mark) (c :: (front ++ (m :: mark) ++ rest)) = none := by
      simp [stripFront?, hfront.1]
    simp only [List.cons_append, List.length_cons] at hfuel
    rw [List.cons_append, List.cons_append, splitMarkAux, hstrip]
    dsimp only
    rw [ih hfront.2 (by omega), List.reverse_cons, List.append_assoc]
    rfl

theorem splitMark_append {front : List Char} (hfront : m ∉ front) (rest : List Char) :
    splitMark (m :: mark) (front ++ (m :: mark) ++ rest) = front :: splitMark (m :: mark) rest := by
  rw [splitMark, splitMarkAux_append hfront (by omega)]
  rfl

theorem splitMark_eq_singleton {cs : List Char} (h : m ∉ cs) : splitMark (m :: mark) cs = [cs] := by
  suffices hpiece : ∀ fuel piece, cs.length < fuel → splitMarkAux (m :: mark) fuel piece cs = [piece.reverse ++ cs] from
    hpiece _ [] (by omega)
  induction cs with
  | nil =>
    intro fuel piece hfuel
    obtain ⟨fuel, rfl⟩ : ∃ k, fuel = k + 1 := ⟨fuel - 1, by omega⟩
    simp [splitMarkAux]
  | cons c cs ih =>
    intro fuel piece hfuel
    obtain ⟨fuel, rfl⟩ : ∃ k, fuel = k + 1 := ⟨fuel - 1, by omega⟩
    rw [List.mem_cons, not_or] at h
    have hstrip : stripFront? (m :: mark) (c :: cs) = none := by simp [stripFront?, h.1]
    rw [splitMarkAux, hstrip]
    dsimp only
    rw [ih h.2 _ _ (by simpa using hfuel)]
    simp

end mark

end ContractAudit.Text
