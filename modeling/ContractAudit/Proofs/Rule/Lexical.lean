import ContractAudit.Proofs.Pattern.Search
import ContractAudit.Proofs.Text.Lines
import ContractAudit.Rule.Scan
import ContractAudit.Tree.Node
import Mathlib.Data.List.Forall2

/-!
# Where a rule by pattern finds something

The findings of matches belong one by one to those that are not empty (`Scan.forall₂_lexicalFindings`). Each tells the
coordinate of the byte where its match starts, the first contract around that byte, and the line; since matches from left
to right are ordered (`Pattern.LeftToRight.pairwise_occurrences`) and later bytes have later coordinates
(`Text.precedes_positionAt`), so are the findings. This is so for any such matches, and those that a rule by pattern
finds are such (`Pattern.Program.leftToRight_findAll`).
-/

namespace ContractAudit

open Pattern (LeftToRight Match occurrences)
open Solidity (ContractDef SourceUnit)
open Text (LineIndex LineStart LineStop Position byteSize newline positionAt slice? utf8)

/-- The bytes of a contract contain an offset. -/
def Solidity.ContractDef.Spans (c : ContractDef) (offset : Nat) : Prop := c.start ≤ offset ∧ offset < c.stop

/-- The contract to which an offset is put down: the first one that contains it, if there is one and it has a name. -/
inductive Solidity.SourceUnit.Encloses (unit : SourceUnit) (offset : Nat) : Option String → Prop
  | first (before after : List ContractDef) (c : ContractDef) (hunit : unit.contracts = before ++ c :: after)
    (hbefore : ∀ b ∈ before, ¬ b.Spans offset) (hc : c.Spans offset) : Encloses unit offset c.name
  | outside (hnone : ∀ c ∈ unit.contracts, ¬ c.Spans offset) : Encloses unit offset none

theorem Solidity.SourceUnit.encloses_contractAt? (unit : SourceUnit) (offset : Nat) :
    unit.Encloses offset (unit.contractAt? offset) := by
  rw [contractAt?]
  cases hfind : unit.contracts.find? fun c => c.start ≤ offset && offset < c.stop with
  | none =>
    refine .outside fun c hc hspans => ?_
    have hno := List.find?_eq_none.mp hfind c hc
    simp [hspans.1, hspans.2] at hno
  | some c =>
    obtain ⟨hc, before, after, hunit, hbefore⟩ := List.find?_eq_some_iff_append.mp hfind
    refine .first before after c hunit (fun b hb hspans => ?_) (by simpa [ContractDef.Spans] using hc)
    have hno := hbefore b hb
    simp [hspans.1, hspans.2] at hno

/-- The coordinate of a place in a file. -/
def Location.position (l : Location) : Position := ⟨l.line, l.column⟩

namespace Scan

variable (scan : Scan)

/-- A finding reports a match: it gives the coordinate of its start and the contract around it, and it shows the line. -/
structure Reports (m : Match) (f : Finding) : Prop where
  file : f.location.file = scan.file
  position : f.location.position = positionAt scan.source m.start
  contract : scan.unit.Encloses m.start f.location.contract
  snippet : ∃ start stop line, LineStart (utf8 scan.source) m.start start ∧ LineStop (utf8 scan.source) m.start stop ∧
    slice? scan.source start stop = some line ∧ f.snippet = Text.truncate 240 (Text.trimChars line)

theorem reports_lexicalFinding (info : RuleInfo) {m : Match} (h : m.start ≤ byteSize scan.source) :
    scan.Reports m (scan.lexicalFinding (LineIndex.ofChars scan.source) info m) := by
  obtain ⟨-, -, -, -, hposition⟩ := LineIndex.position_spec h
  obtain ⟨start, stop, hstart, hstop, hslice⟩ := LineIndex.lineText_spec h
  exact ⟨rfl, hposition, scan.unit.encloses_contractAt? m.start, start, stop, _, hstart, hstop, hslice, rfl⟩

theorem forall₂_lexicalFindings (info : RuleInfo) {found : List Match} (h : LeftToRight scan.source found) :
    List.Forall₂ scan.Reports (occurrences found) (scan.lexicalFindings info found) := by
  rw [lexicalFindings, List.forall₂_map_right_iff, ← occurrences, List.forall₂_same]
  exact fun m hm => scan.reports_lexicalFinding info (Nat.le_of_lt (h.start_lt hm))

theorem pairwise_lexicalFindings (info : RuleInfo) {found : List Match} (h : LeftToRight scan.source found) :
    (scan.lexicalFindings info found).Pairwise fun f g => f.location.position.Precedes g.location.position := by
  rw [lexicalFindings, List.pairwise_map, ← occurrences]
  refine h.pairwise_occurrences.imp_of_mem fun {m n} hm hn hlt => ?_
  have hm := Nat.le_of_lt (h.start_lt hm)
  have hn := Nat.le_of_lt (h.start_lt hn)
  rw [(scan.reports_lexicalFinding info hm).position, (scan.reports_lexicalFinding info hn).position]
  exact Text.precedes_positionAt hlt hn

/-- **The places of lexical findings are exact.** For every offset of a source the index gives the line, counted by the
newlines before it, and the distance to the start of that line, which is not behind the offset; a binary search answers
that line and no other; a node that starts there has the same coordinate; and the text of the line is the slice up to
behind the next newline. Later offsets have later coordinates. So the findings of matches that lie in the source from left
to right, one for every match that is not empty, come in the order of their coordinates; and a rule by pattern reports
such matches. -/
theorem lexical_locations_exact :
    (∀ offset ≤ byteSize scan.source, ∃ start stop,
      LineStart (utf8 scan.source) offset start ∧ LineStop (utf8 scan.source) offset stop ∧
      (LineIndex.ofChars scan.source).position offset =
        ⟨1 + ((utf8 scan.source).take offset).count newline, offset - start⟩ ∧
      (∀ i, LineIndex.Search (LineIndex.ofChars scan.source).starts offset i ↔
        i + 1 = ((LineIndex.ofChars scan.source).position offset).line) ∧
      (LineIndex.ofChars scan.source).starts[((LineIndex.ofChars scan.source).position offset).line - 1]? = some start ∧
      (∀ head : Tree.Head, head.start = offset →
        head.pos scan.source = (LineIndex.ofChars scan.source).position offset) ∧
      slice? scan.source start stop = some ((LineIndex.ofChars scan.source).lineText scan.source
        ((LineIndex.ofChars scan.source).position offset).line)) ∧
    (∀ offset later, offset < later → later ≤ byteSize scan.source →
      ((LineIndex.ofChars scan.source).position offset).Precedes ((LineIndex.ofChars scan.source).position later)) ∧
    (∀ (info : RuleInfo) (found : List Match),
      (∀ m ∈ found, m.start ≤ m.stop ∧ m.stop ≤ byteSize scan.source) →
      found.Pairwise (fun m n => m.stop ≤ n.start) →
      List.Forall₂ scan.Reports (found.filter fun m => m.start < m.stop) (scan.lexicalFindings info found) ∧
      (scan.lexicalFindings info found).Pairwise fun f g => f.location.position.Precedes g.location.position) ∧
    ∀ (info : RuleInfo) (pattern : Pattern),
      (∀ m ∈ pattern.program.findAll scan.source, m.start ≤ m.stop ∧ m.stop ≤ byteSize scan.source) ∧
      (pattern.program.findAll scan.source).Pairwise (fun m n => m.stop ≤ n.start) ∧
      scan.ruleFindings { info with matcher := .lexical pattern } =
        scan.lexicalFindings info (pattern.program.findAll scan.source) := by
  refine ⟨fun offset h => ?_, fun offset later hlt hle => ?_, fun info found hwithin hdisjoint => ?_,
    fun info pattern => ?_⟩
  · obtain ⟨start, hstart, hposition, hentry, hpos⟩ := LineIndex.position_spec h
    obtain ⟨start', stop, hstart', hstop, hslice⟩ := LineIndex.lineText_spec h
    obtain rfl := hstart.unique hstart'
    refine ⟨start, stop, hstart, hstop, ?_, fun i => ?_, ?_, ?_, hslice⟩
    · rw [hposition, Nat.add_comm]
    · rw [LineIndex.search_iff h, hposition, Nat.add_right_cancel_iff]
    · rw [hposition]
      exact hentry
    · rintro head rfl
      exact hpos.symm
  · obtain ⟨-, -, -, -, hposition⟩ := LineIndex.position_spec (show offset ≤ byteSize scan.source by omega)
    obtain ⟨-, -, -, -, hposition'⟩ := LineIndex.position_spec hle
    rw [hposition, hposition']
    exact Text.precedes_positionAt hlt hle
  · have hfound : LeftToRight scan.source found := ⟨hwithin, hdisjoint⟩
    exact ⟨scan.forall₂_lexicalFindings info hfound, scan.pairwise_lexicalFindings info hfound⟩
  · obtain ⟨hwithin, hdisjoint⟩ := pattern.program.leftToRight_findAll scan.source
    exact ⟨hwithin, hdisjoint, rfl⟩

end Scan

end ContractAudit
