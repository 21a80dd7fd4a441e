import ContractAudit.Json.Repair
import Mathlib.Tactic.SplitIfs

/-!
# What a repair makes of a text

A repair writes the characters of a text, with raw newlines in strings escaped, and then what closes the state at its end
(`Scanner.repair_eq`). What was written for the characters is kept by a second repair and leads to the same state as the
text (`Scanner.passes_written`), so that all depends on the closing. It leads back to the start (`Scanner.passes_closing`),
except behind a backslash that was cut from its escape: there its quote does not end the string, and the brackets that
follow are characters of the string (`Scanner.passes_closing_escaped`).
-/

namespace ContractAudit.Json

namespace Scanner

/-! ## Running and writing -/

@[simp] theorem run_nil (s : Scanner) : s.run [] = s := rfl

@[simp] theorem run_cons (s : Scanner) (c : Char) (cs : List Char) : s.run (c :: cs) = (s.step c).run cs := rfl

theorem run_append (s : Scanner) (cs rest : List Char) : s.run (cs ++ rest) = (s.run cs).run rest := List.foldl_append

/-- What is written for the characters of a text, before it is closed. -/
def written (s : Scanner) : List Char → List Char
  | [] => []
  | c :: cs => s.emit c ++ (s.step c).written cs

@[simp] theorem written_nil (s : Scanner) : s.written [] = [] := rfl

@[simp] theorem written_cons (s : Scanner) (c : Char) (cs : List Char) :
    s.written (c :: cs) = s.emit c ++ (s.step c).written cs := rfl

theorem written_append (s : Scanner) (cs rest : List Char) :
    s.written (cs ++ rest) = s.written cs ++ (s.run cs).written rest := by
  induction cs generalizing s with
  | nil => rfl
  | cons c cs ih => rw [List.cons_append, written_cons, written_cons, ih, run_cons, List.append_assoc]

theorem repair_eq (s : Scanner) (cs : List Char) : s.repair cs = s.written cs ++ (s.run cs).closing := by
  induction cs generalizing s with
  | nil => rfl
  | cons c cs ih => rw [repair, ih, written_cons, run_cons, List.append_assoc]

/-! ## Texts that are kept -/

/-- From `s`, the text is written as it is and leads to `t`. -/
structure Passes (s : Scanner) (cs : List Char) (t : Scanner) : Prop where
  run_eq : s.run cs = t
  written_eq : s.written cs = cs

namespace Passes

variable {s t u : Scanner} {cs rest : List Char}

theorem nil (s : Scanner) : Passes s [] s := ⟨rfl, rfl⟩

theorem append (h : Passes s cs t) (hrest : Passes t rest u) : Passes s (cs ++ rest) u := by
  constructor
  · rw [run_append, h.run_eq, hrest.run_eq]
  · rw [written_append, h.run_eq, h.written_eq, hrest.written_eq]

theorem cons {c : Char} (h : s.emit c = [c]) (hrest : Passes (s.step c) rest u) : Passes s (c :: rest) u := by
  constructor
  · rw [run_cons, hrest.run_eq]
  · rw [written_cons, h, hrest.written_eq, List.singleton_append]

theorem char {c : Char} (h : s.emit c = [c]) : Passes s [c] (s.step c) := cons h (nil _)

theorem repair_eq (h : Passes s cs t) : s.repair cs = cs ++ t.closing := by
  rw [Scanner.repair_eq, h.written_eq, h.run_eq]

end Passes

/-! ## One character -/

theorem step_outside (closers : List Char) (c : Char) : step ⟨.outside, closers⟩ c =
    if c == '"' then ⟨.inside, closers⟩
    else if c == '\x7b' then ⟨.outside, '\x7d' :: closers⟩
    else if c == '[' then ⟨.outside, ']' :: closers⟩
    else if c == '\x7d' || c == ']' then ⟨.outside, close c closers⟩
    else ⟨.outside, closers⟩ := rfl

theorem step_inside (closers : List Char) (c : Char) : step ⟨.inside, closers⟩ c =
    if c == '\\' then ⟨.escaped, closers⟩ else if c == '"' then ⟨.outside, closers⟩ else ⟨.inside, closers⟩ := rfl

theorem mode_step_eq_escaped {s : Scanner} {c : Char} :
    (s.step c).mode = .escaped ↔ s.mode = .inside ∧ c = '\\' := by
  obtain ⟨mode, closers⟩ := s
  cases mode with
  | escaped => simp [step]
  | inside =>
    rw [step_inside]
    split_ifs <;> simp_all
  | outside =>
    rw [step_outside]
    split_ifs <;> simp

theorem emit_outside (closers : List Char) (c : Char) : emit ⟨.outside, closers⟩ c = [c] := rfl

theorem emit_escaped (closers : List Char) (c : Char) : emit ⟨.escaped, closers⟩ c = [c] := rfl

theorem emit_inside {c : Char} (hline : c ≠ '\n') (hreturn : c ≠ '\r') (closers : List Char) :
    emit ⟨.inside, closers⟩ c = [c] := by
  simp [emit, hline, hreturn]

theorem passes_emit (s : Scanner) (c : Char) : Passes s (s.emit c) (s.step c) := by
  obtain ⟨mode, closers⟩ := s
  cases mode with
  | outside => exact .char (emit_outside closers c)
  | escaped => exact .char (emit_escaped closers c)
  | inside =>
    by_cases hline : c = '\n'
    · subst hline
      exact ⟨rfl, rfl⟩
    · by_cases hreturn : c = '\r'
      · subst hreturn
        exact ⟨rfl, rfl⟩
      · have hemit := emit_inside hline hreturn closers
        rw [hemit]
        exact .char hemit

/-- A run: what is written for a text leads where the text leads, and is kept. -/
theorem passes_written (s : Scanner) (cs : List Char) : Passes s (s.written cs) (s.run cs) := by
  induction cs generalizing s with
  | nil => exact .nil s
  | cons c cs ih => exact (passes_emit s c).append (ih (s.step c))

/-! ## Brackets to be closed -/

/-- Only closing brackets are to be written for what is open. -/
def Sound (s : Scanner) : Prop := ∀ c ∈ s.closers, c = '\x7d' ∨ c = ']'

theorem Sound.step {s : Scanner} (h : s.Sound) (c : Char) : (s.step c).Sound := by
  obtain ⟨mode, closers⟩ := s
  have hclose : Sound ⟨.outside, close c closers⟩ := by
    intro d hd
    rw [close] at hd
    split at hd
    · exact h d (List.mem_of_mem_tail hd)
    · exact h d hd
  cases mode with
  | escaped => exact h
  | inside =>
    rw [step_inside]
    split_ifs <;> exact h
  | outside =>
    rw [step_outside]
    split_ifs
    · exact h
    · exact List.forall_mem_cons.mpr ⟨.inl rfl, h⟩
    · exact List.forall_mem_cons.mpr ⟨.inr rfl, h⟩
    · exact hclose
    · exact h

theorem Sound.run {s : Scanner} (h : s.Sound) (cs : List Char) : (s.run cs).Sound := by
  induction cs generalizing s with
  | nil => exact h
  | cons c cs ih => exact ih (h.step c)

theorem sound_start : start.Sound := List.forall_mem_nil _

theorem passes_closers {closers : List Char} (h : Sound ⟨.outside, closers⟩) :
    Passes ⟨.outside, closers⟩ closers start := by
  induction closers with
  | nil => exact .nil _
  | cons c closers ih =>
    obtain ⟨hc, hclosers⟩ := List.forall_mem_cons.mp h
    have hstep : Scanner.step ⟨.outside, c :: closers⟩ c = ⟨.outside, closers⟩ := by
      rcases hc with rfl | rfl <;> rfl
    refine .cons (emit_outside _ c) ?_
    rw [hstep]
    exact ih hclosers

theorem passes_closers_inside {s : Scanner} (h : s.Sound) (kept : List Char) :
    Passes ⟨.inside, kept⟩ s.closers ⟨.inside, kept⟩ := by
  obtain ⟨mode, closers⟩ := s
  induction closers with
  | nil => exact .nil _
  | cons c closers ih =>
    obtain ⟨hc, hclosers⟩ := List.forall_mem_cons.mp h
    have hemit : emit ⟨.inside, kept⟩ c = [c] := by
      rcases hc with rfl | rfl <;> rfl
    have hstep : Scanner.step ⟨.inside, kept⟩ c = ⟨.inside, kept⟩ := by
      rcases hc with rfl | rfl <;> rfl
    refine .cons hemit ?_
    rw [hstep]
    exact ih hclosers

theorem passes_closing {s : Scanner} (hsound : s.Sound) (hmode : s.mode ≠ .escaped) : Passes s s.closing start := by
  obtain ⟨mode, closers⟩ := s
  cases mode with
  | escaped => exact absurd rfl hmode
  | outside => exact passes_closers hsound
  | inside => exact .cons rfl (passes_closers hsound)

/-- The quote that closes an open escape is taken for the escaped character. -/
theorem passes_closing_escaped {s : Scanner} (hsound : s.Sound) (hmode : s.mode = .escaped) :
    Passes s s.closing ⟨.inside, s.closers⟩ := by
  obtain ⟨mode, closers⟩ := s
  subst hmode
  exact .cons rfl (passes_closers_inside hsound closers)

end Scanner

/-! ## Repairs -/

open Scanner

theorem toList_repair (text : String) :
    (repair text).toList = start.written text.toList ++ (start.run text.toList).closing := by
  rw [repair, String.toList_ofList, Scanner.repair_eq]

theorem toList_repair_of_passes {text : String} {t : Scanner} (h : Passes start text.toList t) :
    (repair text).toList = text.toList ++ t.closing := by
  rw [repair, String.toList_ofList, h.repair_eq]

theorem repair_of_passes {text : String} (h : Passes start text.toList start) : repair text = text := by
  apply String.toList_inj.mp
  rw [toList_repair_of_passes h]
  exact List.append_nil _

/-- The text ends with a backslash that begins an escape in a string. -/
def EndsInEscape (text : String) : Prop :=
  ∃ front, text.toList = front ++ ['\\'] ∧ (start.run front).mode = .inside

theorem endsInEscape_iff {text : String} : EndsInEscape text ↔ (start.run text.toList).mode = .escaped := by
  constructor
  · rintro ⟨front, htext, hfront⟩
    rw [htext, run_append]
    exact mode_step_eq_escaped.mpr ⟨hfront, rfl⟩
  · intro hmode
    rcases List.eq_nil_or_concat text.toList with htext | ⟨front, c, htext⟩
    · rw [htext] at hmode
      cases hmode
    · rw [List.concat_eq_append] at htext
      rw [htext, run_append] at hmode
      obtain ⟨hfront, rfl⟩ := mode_step_eq_escaped.mp hmode
      exact ⟨front, htext, hfront⟩

instance (text : String) : Decidable (EndsInEscape text) := decidable_of_iff' _ endsInEscape_iff

theorem passes_repair {text : String} (h : ¬ EndsInEscape text) : Passes start (repair text).toList start := by
  rw [endsInEscape_iff] at h
  rw [toList_repair]
  exact (passes_written _ _).append (passes_closing (sound_start.run _) h)

theorem passes_repair_of_endsInEscape {text : String} (h : EndsInEscape text) :
    Passes start (repair text).toList ⟨.inside, (start.run text.toList).closers⟩ := by
  rw [endsInEscape_iff] at h
  rw [toList_repair]
  exact (passes_written _ _).append (passes_closing_escaped (sound_start.run _) h)

/-- No repaired text ends in an escape, so that a second repair closes what the first one left open. -/
theorem not_endsInEscape_repair (text : String) : ¬ EndsInEscape (repair text) := by
  rw [endsInEscape_iff]
  by_cases h : EndsInEscape text
  · rw [(passes_repair_of_endsInEscape h).run_eq]
    exact ScanMode.noConfusion
  · rw [(passes_repair h).run_eq]
    exact ScanMode.noConfusion

theorem repair_repair_ne {text : String} (h : EndsInEscape text) : repair (repair text) ≠ repair text := by
  intro hsame
  have htext := congrArg String.toList hsame
  rw [toList_repair_of_passes (passes_repair_of_endsInEscape h), List.append_right_eq_self] at htext
  exact List.cons_ne_nil _ _ htext

/-- **A repair closes everything that it finds open, unless the text ends in an escape.** The state behind the repaired
text is the start, outside of strings and with no bracket open, if and only if the text does not end with a backslash
that begins an escape; and then, and only then, a second repair changes nothing. Otherwise the quote that should end the
string counts as the escaped character: the string and all brackets stay open, and the second repair closes them, so that
a third one changes nothing. -/
theorem repair_closes_iff (text : String) :
    (start.run (repair text).toList = start ↔ ¬ EndsInEscape text) ∧
    (repair (repair text) = repair text ↔ ¬ EndsInEscape text) ∧
    (EndsInEscape text → start.run (repair text).toList = ⟨.inside, (start.run text.toList).closers⟩) ∧
    start.run (repair (repair text)).toList = start ∧ repair (repair (repair text)) = repair (repair text) := by
  have hagain := passes_repair (not_endsInEscape_repair text)
  refine ⟨⟨?_, ?_⟩, ⟨?_, ?_⟩, ?_, hagain.run_eq, repair_of_passes hagain⟩
  · intro hrun h
    rw [(passes_repair_of_endsInEscape h).run_eq] at hrun
    cases hrun
  · exact fun h => (passes_repair h).run_eq
  · exact fun hsame h => repair_repair_ne h hsame
  · exact fun h => repair_of_passes (passes_repair h)
  · exact fun h => (passes_repair_of_endsInEscape h).run_eq

/-- A reply that was cut behind a backslash. -/
def cutReply : String := "\x7b\"executiveSummary\": \"ok\", \"note\": \"x\\"

/-- The string and the brace of the reply stay open behind its repair, and a second repair changes it once more. -/
theorem repair_leaves_open : EndsInEscape cutReply ∧
    start.run (repair cutReply).toList = ⟨.inside, ['\x7d']⟩ ∧ repair (repair cutReply) ≠ repair cutReply := by
  decide +kernel

end ContractAudit.Json
