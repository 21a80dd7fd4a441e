import ContractAudit.Proofs.Json.Grammar
import ContractAudit.Proofs.Json.Repair

/-!
# Documents need no repair

The scanner of a repair knows strings and brackets only, and not the grammar. Still it stays in step with it: a text that
is derived from a symbol leads back to the state in front of it and is kept (`Derives.transparent`), whatever brackets are
open around it. The brackets of a value close each other, and its strings end outside of an escape and have no raw newline.
-/

namespace ContractAudit.Json

open Scanner

/-! ## Transparent texts -/

/-- Outside of strings, the text is kept and leads back to where it began, whatever is open. -/
def Transparent (cs : List Char) : Prop := ∀ closers, Passes ⟨.outside, closers⟩ cs ⟨.outside, closers⟩

/-- A character that is neither a quote nor a bracket. -/
def IsPlain (c : Char) : Prop := c ≠ '"' ∧ c ≠ '\x7b' ∧ c ≠ '[' ∧ c ≠ '\x7d' ∧ c ≠ ']'

instance (c : Char) : Decidable (IsPlain c) := inferInstanceAs (Decidable (_ ∧ _))

theorem transparent_nil : Transparent [] := fun _ => .nil _

theorem Transparent.append {cs rest : List Char} (h : Transparent cs) (hrest : Transparent rest) :
    Transparent (cs ++ rest) :=
  fun closers => (h closers).append (hrest closers)

theorem Transparent.cons {c : Char} {cs : List Char} (hc : IsPlain c) (h : Transparent cs) : Transparent (c :: cs) := by
  intro closers
  have hstep : step ⟨.outside, closers⟩ c = ⟨.outside, closers⟩ := by
    obtain ⟨hquote, hbrace, hbracket, hbrace', hbracket'⟩ := hc
    simp [step_outside, hquote, hbrace, hbracket, hbrace', hbracket']
  refine .cons (emit_outside closers c) ?_
  rw [hstep]
  exact h closers

theorem transparent_of_plain {cs : List Char} (h : ∀ c ∈ cs, IsPlain c) : Transparent cs := by
  induction cs with
  | nil => exact transparent_nil
  | cons c cs ih =>
    rw [List.forall_mem_cons] at h
    exact .cons h.1 (ih h.2)

theorem Transparent.brackets {cs : List Char} (h : Transparent cs) : Transparent ('[' :: (cs ++ [']'])) := by
  intro closers
  exact .cons rfl ((h (']' :: closers)).append (.char rfl))

theorem Transparent.braces {cs : List Char} (h : Transparent cs) : Transparent ('\x7b' :: (cs ++ ['\x7d'])) := by
  intro closers
  exact .cons rfl ((h ('\x7d' :: closers)).append (.char rfl))

theorem transparent_blanks {cs : List Char} (h : Blanks cs) : Transparent cs := by
  apply transparent_of_plain
  intro c hc
  rcases h c hc with rfl | rfl | rfl | rfl <;> decide

theorem transparent_digits {cs : List Char} (h : Digits cs) : Transparent cs := by
  apply transparent_of_plain
  intro c hc
  have hdigit := h.2 c hc
  refine ⟨?_, ?_, ?_, ?_, ?_⟩ <;>
    · rintro rfl
      revert hdigit
      decide

theorem transparent_fraction {cs : List Char} (h : FractionText cs) : Transparent cs := by
  cases h with
  | absent => exact transparent_nil
  | present hdigits => exact .cons (by decide) (transparent_digits hdigits)

theorem transparent_exponent {cs : List Char} (h : ExponentText cs) : Transparent cs := by
  cases h with
  | absent => exact transparent_nil
  | @present mark sign ds hmark hsign hdigits =>
    have hplain : IsPlain mark := by
      rcases hmark with rfl | rfl <;> decide
    have hsign : Transparent sign := by
      apply transparent_of_plain
      rcases hsign with rfl | rfl | rfl <;> simp [IsPlain]
    exact .cons hplain (hsign.append (transparent_digits hdigits))

theorem transparent_number {cs : List Char} (h : NumberText cs) : Transparent cs := by
  obtain @⟨sign, whole, fraction, exponent, hsign, hwhole, -, hfraction, hexponent⟩ := h
  have hsign : Transparent sign := by
    apply transparent_of_plain
    rcases hsign with rfl | rfl <;> simp [IsPlain]
  exact hsign.append ((transparent_digits hwhole).append
    ((transparent_fraction hfraction).append (transparent_exponent hexponent)))

/-! ## Strings -/

theorem passes_plain {c : Char} (hcontrol : 0x20 ≤ c.toNat) (hquote : c ≠ '"') (hbackslash : c ≠ '\\')
    (closers : List Char) : Passes ⟨.inside, closers⟩ [c] ⟨.inside, closers⟩ := by
  have hline : c ≠ '\n' := by
    rintro rfl
    revert hcontrol
    decide
  have hreturn : c ≠ '\r' := by
    rintro rfl
    revert hcontrol
    decide
  have hstep : step ⟨.inside, closers⟩ c = ⟨.inside, closers⟩ := by
    simp [step_inside, hquote, hbackslash]
  have hchar := Passes.char (emit_inside hline hreturn closers)
  rwa [hstep] at hchar

theorem passes_hex {c : Char} (h : IsHex c) (closers : List Char) :
    Passes ⟨.inside, closers⟩ [c] ⟨.inside, closers⟩ := by
  have hcontrol : 0x20 ≤ c.toNat := by
    have hle : '0' ≤ c := by
      rcases h with h | h | h
      · exact h.1
      · exact Char.le_trans (by decide) h.1
      · exact Char.le_trans (by decide) h.1
    have hnat : '0'.toNat ≤ c.toNat := hle
    exact Nat.le_trans (by decide) hnat
  have hne : ∀ d, ¬ IsHex d → c ≠ d := fun d hd hcd => hd (hcd ▸ h)
  exact passes_plain hcontrol (hne _ (by simp [IsHex])) (hne _ (by simp [IsHex])) closers

theorem passes_charText {cs : List Char} (h : CharText cs) (closers : List Char) :
    Passes ⟨.inside, closers⟩ cs ⟨.inside, closers⟩ := by
  cases h with
  | plain hcontrol hquote hbackslash => exact passes_plain hcontrol hquote hbackslash closers
  | letter _ => exact .cons rfl (.char rfl)
  | number ha hb hc hd =>
    have hdigits := (passes_hex ha closers).append ((passes_hex hb closers).append
      ((passes_hex hc closers).append (passes_hex hd closers)))
    exact .cons rfl (.cons rfl hdigits)

theorem passes_charsText {cs : List Char} (h : CharsText cs) (closers : List Char) :
    Passes ⟨.inside, closers⟩ cs ⟨.inside, closers⟩ := by
  induction h with
  | nil => exact .nil _
  | cons hc _ ih => exact (passes_charText hc closers).append ih

theorem transparent_string {cs : List Char} (h : StringText cs) : Transparent cs := by
  obtain ⟨hbody⟩ := h
  intro closers
  exact .cons rfl ((passes_charsText hbody closers).append (.char rfl))

/-! ## Values -/

theorem Derives.transparent {symbol : Symbol} {cs : List Char} (h : Derives symbol cs) : Transparent cs := by
  induction h with
  | literal h =>
    apply transparent_of_plain
    simp only [List.mem_cons, List.not_mem_nil, or_false] at h
    rcases h with rfl | rfl | rfl <;> simp [IsPlain]
  | number h => exact transparent_number h
  | string h => exact transparent_string h
  | emptyArray h => exact (transparent_blanks h).brackets
  | array _ ih => exact ih.brackets
  | emptyObject h => exact (transparent_blanks h).braces
  | object _ ih => exact ih.braces
  | element hbefore _ hafter ih => exact (transparent_blanks hbefore).append (ih.append (transparent_blanks hafter))
  | lastElement _ ih => exact ih
  | moreElements _ _ ih ihrest => exact ih.append (.cons (by decide) ihrest)
  | member hbefore hname hafter _ ih =>
    have hvalue : Transparent (':' :: _) := .cons (by decide) ih
    exact (transparent_blanks hbefore).append ((transparent_string hname).append
      ((transparent_blanks hafter).append hvalue))
  | lastMember _ ih => exact ih
  | moreMembers _ _ ih ihrest => exact ih.append (.cons (by decide) ihrest)

/-- **Documents need no repair.** A text of the grammar of JSON is left as it is, whatever its blanks, its nesting and the
escapes in its strings. In particular this holds for every text that can be read, since each is of the grammar. -/
theorem repair_keeps_documents (text : String) :
    (IsDocument text → repair text = text) ∧ ((read? text).isSome → IsDocument text) :=
  ⟨fun h => repair_of_passes (h.transparent []), isDocument_of_read?⟩

/-- Brackets, quotes and backslashes in strings, escapes by number, and blanks of all kinds between tokens. -/
def trickyDocument : String :=
  "\n\x7b \"a\\\"[\\\\\": [1, -2.5e+3, \"\\u00e9\x7d\", \x7b\x7d, [ ]\t],\r\n\t\"b\" : null \x7d\r\n"

theorem repair_keeps_trickyDocument : (read? trickyDocument).isSome ∧ IsDocument trickyDocument ∧
    repair trickyDocument = trickyDocument := by
  have hread : (read? trickyDocument).isSome := by decide +kernel
  obtain ⟨hkept, hdocument⟩ := repair_keeps_documents trickyDocument
  exact ⟨hread, hdocument hread, hkept (hdocument hread)⟩

end ContractAudit.Json
