import ContractAudit.Proofs.Text.Blank
import ContractAudit.Review.Reply
import Mathlib.Data.List.TakeWhile

/-!
# What stands around the JSON of a reply

A reply may put its JSON between fences or among prose (`Wraps`). Whatever the JSON holds, fences and braces included,
exactly its text is read (`payload_of_wraps`). Each search stops at a visible character of the wrapping or of the JSON
itself:

* trimming goes no further than to a character that is not blank (`Text.trimChars_append`);
* the last occurrence of a mark is the one behind which no character of the mark occurs (`beforeLast?_append`).
-/

namespace ContractAudit.Review

open Text

/-! ## The last occurrence of a mark -/

theorem not_prefix_append {mark : List Char} (start : List Char) {back : List Char}
    (hback : ∀ x ∈ mark, back.head? ≠ some x) (hlength : start.length < mark.length) : ¬ mark <+: start ++ back := by
  rintro ⟨rest, hrest⟩
  have hat : (mark ++ rest)[start.length]? = some mark[start.length] := by
    rw [List.getElem?_append_left hlength, List.getElem?_eq_getElem hlength]
  rw [hrest, List.getElem?_append_right (Nat.le_refl _), Nat.sub_self, ← List.head?_eq_getElem?] at hat
  exact hback _ (List.getElem_mem hlength) hat

theorem beforeLast?_cons_of_none {mark cs : List Char} {c : Char} (hstarts : ¬ mark <+: c :: cs)
    (hnone : beforeLast? mark cs = none) : beforeLast? mark (c :: cs) = none := by
  rw [beforeLast?, hnone]
  simpa [List.isPrefixOf_iff_prefix] using hstarts

theorem beforeLast?_eq_none {mark start back : List Char} (hback : ∀ x ∈ mark, x ∉ back)
    (hlength : start.length < mark.length) : beforeLast? mark (start ++ back) = none := by
  have hhead : ∀ {cs : List Char}, (∀ x ∈ mark, x ∉ cs) → ∀ x ∈ mark, cs.head? ≠ some x :=
    fun h x hx heq => h x hx (List.mem_of_head? heq)
  induction start with
  | nil =>
    rw [List.nil_append]
    induction back with
    | nil => rfl
    | cons c back ih =>
      refine beforeLast?_cons_of_none (not_prefix_append [] (hhead hback) hlength) (ih fun x hx hmem => ?_)
      exact hback x hx (List.mem_cons_of_mem c hmem)
  | cons c start ih =>
    refine beforeLast?_cons_of_none (not_prefix_append _ (hhead hback) hlength) (ih ?_)
    rw [List.length_cons] at hlength
    omega

theorem beforeLast?_append {mark : List Char} (hmark : mark ≠ []) (front : List Char) {back : List Char}
    (hback : ∀ x ∈ mark, x ∉ back) : beforeLast? mark (front ++ (mark ++ back)) = some front := by
  induction front with
  | nil =>
    obtain ⟨m, rest, rfl⟩ := List.exists_cons_of_ne_nil hmark
    have hlater : beforeLast? (m :: rest) (rest ++ back) = none := beforeLast?_eq_none hback (by simp)
    rw [List.nil_append, List.cons_append, beforeLast?, hlater]
    simp
  | cons c front ih => rw [List.cons_append, beforeLast?, ih]

/-! ## Wrapped texts -/

/-- The text starts with an opening brace and ends with a closing one. -/
structure Embraced (body : List Char) : Prop where
  opens : body.head? = some '\x7b'
  closes : body.getLast? = some '\x7d'

/-- `Wraps body raw`: the reply `raw` is `body` with something around it. -/
inductive Wraps (body : List Char) : List Char → Prop
  /-- Between fences, the first of which may name the format. -/
  | fences {lead gap tag indent room tail : List Char} (hlead : ∀ x ∈ lead, isBlank x = true)
    (hgap : ∀ x ∈ gap, isAsciiBlank x = true) (htag : tag = [] ∨ tag = "json".toList)
    (hindent : ∀ x ∈ indent, isAsciiBlank x = true) (hroom : ∀ x ∈ room, isBlank x = true)
    (htail : Char.ofNat 0x60 ∉ tail) :
    Wraps body (lead ++ fence ++ gap ++ tag ++ indent ++ body ++ room ++ fence ++ tail)
  /-- Among prose. -/
  | prose {before after : List Char} (hbefore : '\x7b' ∉ before) (hfence : ¬ fence <+: trimChars before)
    (hafter : '\x7d' ∉ after) : Wraps body (before ++ body ++ after)

theorem Embraced.exists_inner {body : List Char} (h : Embraced body) :
    ∃ inner, body = '\x7b' :: (inner ++ ['\x7d']) := by
  obtain ⟨hopen, hclose⟩ := h
  cases body with
  | nil => cases hopen
  | cons c rest =>
    obtain rfl := Option.some.inj hopen
    rcases List.eq_nil_or_concat' rest with rfl | ⟨inner, d, rfl⟩
    · exact absurd hclose (by decide)
    · rw [← List.cons_append, List.getLast?_concat] at hclose
      obtain rfl := Option.some.inj hclose
      exact ⟨inner, rfl⟩

theorem fence_eq : fence = Char.ofNat 0x60 :: ([Char.ofNat 0x60] ++ [Char.ofNat 0x60]) := rfl

theorem isBlank_backquote : isBlank (Char.ofNat 0x60) = false := by decide

theorem isBlank_openingBrace : isBlank '\x7b' = false := by decide

theorem isBlank_closingBrace : isBlank '\x7d' = false := by decide

theorem mem_fence {x : Char} : x ∈ fence ↔ x = Char.ofNat 0x60 := by
  rw [fence, List.mem_replicate]
  simp

theorem dropAsciiBlanks_append {gap cs : List Char} (hgap : ∀ x ∈ gap, isAsciiBlank x = true)
    (hcs : ∀ x, cs.head? = some x → isAsciiBlank x = false) : dropAsciiBlanks (gap ++ cs) = cs := by
  rw [dropAsciiBlanks, List.dropWhile_append_of_pos hgap]
  cases cs with
  | nil => rfl
  | cons c cs => rw [List.dropWhile_cons, hcs c rfl]; rfl

/-! ## Fences -/

theorem drop_tag {gap tag indent : List Char} (inner rest : List Char) (hgap : ∀ x ∈ gap, isAsciiBlank x = true)
    (htag : tag = [] ∨ tag = "json".toList) (hindent : ∀ x ∈ indent, isAsciiBlank x = true) :
    let named := dropAsciiBlanks (gap ++ (tag ++ (indent ++ '\x7b' :: (inner ++ rest))))
    dropAsciiBlanks ((stripFront? "json".toList named).getD named) = '\x7b' :: (inner ++ rest) := by
  have hbrace : ∀ x, ('\x7b' :: (inner ++ rest)).head? = some x → isAsciiBlank x = false := by
    rintro x ⟨rfl⟩
    decide
  rcases htag with rfl | rfl
  · have hblanks : ∀ x ∈ gap ++ indent, isAsciiBlank x = true := fun x hx =>
      (List.mem_append.mp hx).elim (hgap x) (hindent x)
    have hnone : stripFront? "json".toList ('\x7b' :: (inner ++ rest)) = none := by
      simp [stripFront?]
    rw [List.nil_append, ← List.append_assoc, dropAsciiBlanks_append hblanks hbrace]
    dsimp only
    rw [hnone]
    show dropAsciiBlanks ([] ++ '\x7b' :: (inner ++ rest)) = _
    exact dropAsciiBlanks_append (List.forall_mem_nil _) hbrace
  · rw [dropAsciiBlanks_append hgap (by rintro x ⟨rfl⟩; decide)]
    dsimp only
    rw [stripFront?_append]
    exact dropAsciiBlanks_append hindent hbrace

theorem fenced?_of_fences {lead gap tag indent inner room tail : List Char} (hlead : ∀ x ∈ lead, isBlank x = true)
    (hgap : ∀ x ∈ gap, isAsciiBlank x = true) (htag : tag = [] ∨ tag = "json".toList)
    (hindent : ∀ x ∈ indent, isAsciiBlank x = true) (hroom : ∀ x ∈ room, isBlank x = true)
    (htail : Char.ofNat 0x60 ∉ tail) :
    fenced? (lead ++ fence ++ gap ++ tag ++ indent ++ '\x7b' :: (inner ++ ['\x7d']) ++ room ++ fence ++ tail) =
      some ('\x7b' :: (inner ++ ['\x7d'])) := by
  set body := '\x7b' :: (inner ++ ['\x7d']) with hbody
  -- the text from the first backquote to the last one
  have htrim : trimChars (lead ++ fence ++ gap ++ tag ++ indent ++ body ++ room ++ fence ++ tail) =
      fence ++ (gap ++ (tag ++ (indent ++ (body ++ (room ++ (fence ++ trimEndChars tail)))))) := by
    have hspan := trimChars_append lead isBlank_backquote ([Char.ofNat 0x60] ++ [Char.ofNat 0x60] ++ gap ++ tag ++
      indent ++ body ++ room ++ [Char.ofNat 0x60] ++ [Char.ofNat 0x60]) isBlank_backquote tail
    rw [trimStartChars_of_blank hlead] at hspan
    simpa [fence_eq] using hspan
  have hdrop := drop_tag inner (['\x7d'] ++ (room ++ (fence ++ trimEndChars tail))) hgap htag hindent
  have hlast : beforeLast? fence (body ++ (room ++ (fence ++ trimEndChars tail))) = some (body ++ room) := by
    rw [← List.append_assoc]
    refine beforeLast?_append (by decide) _ fun x hx hmem => htail ?_
    rw [mem_fence] at hx
    exact hx ▸ mem_of_mem_trimEndChars hmem
  have hroomless : trimChars (body ++ room) = body := by
    have hspan := trimChars_append [] isBlank_openingBrace inner isBlank_closingBrace room
    rw [trimEndChars_of_blank hroom] at hspan
    simpa [hbody, trimStartChars] using hspan
  have hjoin : '\x7b' :: (inner ++ (['\x7d'] ++ (room ++ (fence ++ trimEndChars tail)))) =
      body ++ (room ++ (fence ++ trimEndChars tail)) := by
    simp [hbody]
  rw [hjoin] at hdrop
  simp only [fenced?, htrim, stripFront?_append, Option.map_some, hdrop, hlast, Option.getD_some, hroomless]

/-! ## Prose -/

theorem fence_prefix_trimChars {cs : List Char} (h : fence <+: trimStartChars cs) : fence <+: trimChars cs := by
  obtain ⟨rest, hrest⟩ := h
  have hend := trimEndChars_append_cons [Char.ofNat 0x60, Char.ofNat 0x60] isBlank_backquote rest
  rw [trimChars, ← hrest]
  exact ⟨trimEndChars rest, hend.symm⟩

theorem trimChars_braces (before inner after : List Char) : trimChars (before ++ '\x7b' :: (inner ++ ['\x7d']) ++ after) =
    trimStartChars before ++ '\x7b' :: (inner ++ '\x7d' :: trimEndChars after) := by
  rw [← trimChars_append before isBlank_openingBrace inner isBlank_closingBrace after]
  simp

theorem fenced?_of_prose {before inner after : List Char} (hfence : ¬ fence <+: trimChars before) :
    fenced? (before ++ '\x7b' :: (inner ++ ['\x7d']) ++ after) = none := by
  have hnone : stripFront? fence (trimStartChars before ++ '\x7b' :: (inner ++ '\x7d' :: trimEndChars after)) = none := by
    rw [Option.eq_none_iff_forall_ne_some]
    intro rest hrest
    have hstarts := List.isPrefixOf_iff_prefix.mp (isPrefixOf_of_stripFront? hrest)
    -- the brace is no backquote, so all of the fence would stand in front of it
    have hlength : fence.length ≤ (trimStartChars before).length := by
      by_contra hshort
      refine not_prefix_append _ (fun x hx => ?_) (Nat.lt_of_not_le hshort) hstarts
      rw [mem_fence.mp hx, List.head?_cons]
      decide
    exact hfence (fence_prefix_trimChars (List.prefix_of_prefix_length_le hstarts (List.prefix_append _ _) hlength))
  rw [fenced?, trimChars_braces, hnone, Option.map_none]

theorem braced_of_prose {before inner after : List Char} (hbefore : '\x7b' ∉ before) (hafter : '\x7d' ∉ after) :
    braced (before ++ '\x7b' :: (inner ++ ['\x7d']) ++ after) = '\x7b' :: (inner ++ ['\x7d']) := by
  have hdrop : (trimStartChars before ++ '\x7b' :: (inner ++ '\x7d' :: trimEndChars after)).dropWhile (· != '\x7b') =
      '\x7b' :: (inner ++ '\x7d' :: trimEndChars after) := by
    rw [List.dropWhile_append_of_pos]
    · simp
    · intro x hx
      have hne : x ≠ '\x7b' := fun heq => hbefore (heq ▸ mem_of_mem_trimStartChars hx)
      simpa using hne
  have hlast : beforeLast? ['\x7d'] ('\x7b' :: (inner ++ '\x7d' :: trimEndChars after)) = some ('\x7b' :: inner) := by
    refine beforeLast?_append (by simp) ('\x7b' :: inner) fun x hx hmem => hafter ?_
    exact List.mem_singleton.mp hx ▸ mem_of_mem_trimEndChars hmem
  simp only [braced, trimChars_braces, hdrop, hlast, Option.map_some, Option.getD_some, List.cons_append]

/-! ## Replies -/

/-- **Exactly the embraced text is read**, whatever stands around it. -/
theorem payload_of_wraps {body raw : List Char} (hbody : Embraced body) (hwraps : Wraps body raw) :
    payload raw = body := by
  obtain ⟨inner, rfl⟩ := hbody.exists_inner
  cases hwraps with
  | fences hlead hgap htag hindent hroom htail =>
    rw [payload, fenced?_of_fences hlead hgap htag hindent hroom htail, Option.getD_some]
  | prose hbefore hfence hafter =>
    rw [payload, fenced?_of_prose hfence, braced_of_prose hbefore hafter, Option.getD_none]

theorem wraps_self (body : List Char) : Wraps body body := by
  have hempty : Wraps body ([] ++ body ++ []) := .prose (by simp) (by decide) (by simp)
  simpa using hempty

/-- **What stands around a reply does not change it.** A text from an opening brace to a closing one is read in the same
way alone, between fences and among prose: its own characters are decoded and nothing else. -/
theorem wrapping_never_matters (body raw file : String) (model : Option String) (hbody : Embraced body.toList)
    (hwraps : Wraps body.toList raw.toList) :
    readReply raw file model = readReply body file model ∧
      readReply raw file model = readPayload (decodeAnalysis file model) body := by
  have hpayload : ∀ text : String, Wraps body.toList text.toList →
      readReply text file model = readPayload (decodeAnalysis file model) body := by
    intro text htext
    rw [readReply, payload_of_wraps hbody htext, String.ofList_toList]
  refine ⟨?_, hpayload raw hwraps⟩
  rw [hpayload raw hwraps, hpayload body (wraps_self body.toList)]

/-! ## A reply about fences -/

/-- A text whose strings hold a brace and a fence. -/
def fenceAdvice : String := "\x7b\"executiveSummary\": \"Close with \x7d and ```.\"\x7d"

/-- The text between fences, with a remark behind them. -/
def fencedAdvice : String := "\n```json\n" ++ fenceAdvice ++ "\u2003``` Done \x7d"

/-- The text among prose that itself has fences. -/
def chattyAdvice : String := "Here, without ```:\n" ++ fenceAdvice ++ "\n```"

/-- Both replies are read as the text alone. -/
theorem wrapping_never_matters_advice : Embraced fenceAdvice.toList ∧
    Wraps fenceAdvice.toList fencedAdvice.toList ∧ Wraps fenceAdvice.toList chattyAdvice.toList ∧
    readReply fencedAdvice defaultFile none = readReply fenceAdvice defaultFile none ∧
    readReply chattyAdvice defaultFile none = readReply fenceAdvice defaultFile none ∧
    (readReply fenceAdvice defaultFile none).toOption.map (·.summary) = some "Close with \x7d and ```." := by
  have hbody : Embraced fenceAdvice.toList := ⟨by decide, by decide⟩
  have hfenced : Wraps fenceAdvice.toList fencedAdvice.toList := by
    have hraw : fencedAdvice.toList = ['\n'] ++ fence ++ [] ++ "json".toList ++ ['\n'] ++ fenceAdvice.toList ++
        ['\u2003'] ++ fence ++ " Done \x7d".toList := by decide +kernel
    rw [hraw]
    exact .fences (by simp [isBlank]) (by simp) (.inr rfl) (by simp [isAsciiBlank]) (by simp [isBlank]) (by decide)
  have hchatty : Wraps fenceAdvice.toList chattyAdvice.toList := by
    have hraw : chattyAdvice.toList = "Here, without ```:\n".toList ++ fenceAdvice.toList ++ "\n```".toList := by
      decide +kernel
    rw [hraw]
    exact .prose (by decide) (by decide) (by decide)
  exact ⟨hbody, hfenced, hchatty, (wrapping_never_matters _ _ _ _ hbody hfenced).1,
    (wrapping_never_matters _ _ _ _ hbody hchatty).1, by decide +kernel⟩

end ContractAudit.Review
