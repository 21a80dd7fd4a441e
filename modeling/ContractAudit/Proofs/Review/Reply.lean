import ContractAudit.Proofs.Partial
import ContractAudit.Review.Reply

/-!
# Places in a reply

A reply gives lines only, and reading it attaches the file to each of them: however the payload is read, all places of
the analysis are in that file (`Review.inFile_of_readReply`).
-/

namespace ContractAudit

namespace Json

theorem Record.decoded_of_mem {α : Type} {r : Record} {i : Nat} {item : Decoder α} {as : List α}
    (h : r.withDefault? i (decodeList item) [] = some as) {a : α} (ha : a ∈ as) : ∃ bound j, item bound j = some a := by
  unfold withDefault? at h
  cases hvalue : r.value? i with
  | none =>
    rw [hvalue] at h
    cases h
    cases ha
  | some j =>
    rw [hvalue] at h
    cases j with
    | array items =>
      obtain ⟨inner, -, hitems⟩ := Option.bind_eq_some_iff.mp h
      obtain ⟨j, -, hj⟩ := mem_of_mapM_eq_some hitems ha
      exact ⟨inner, j, hj⟩
    | _ => cases h

end Json

namespace Review

open Json (Decoder)

/-! ## Parts -/

theorem file_of_decodeProposal {file : String} {bound : Nat} {j : Json} {p : Proposal}
    (h : decodeProposal file bound j = some p) : p.location.file = file := by
  simp only [decodeProposal, Option.bind_eq_bind, Option.bind_eq_some_iff] at h
  obtain ⟨r, -, description, -, severity, -, line, -, recommendation, -, hp⟩ := h
  cases hp
  rfl

theorem file_of_decodeGas {file : String} {bound : Nat} {j : Json} {g : GasOptimization}
    (h : decodeGas file bound j = some g) : g.location.file = file := by
  simp only [decodeGas, Option.bind_eq_bind, Option.bind_eq_some_iff] at h
  obtain ⟨r, -, description, -, line, -, savings, -, difficulty, -, hg⟩ := h
  cases hg
  rfl

theorem file_of_decodePractice {file : String} {bound : Nat} {j : Json} {p : BestPractice}
    (h : decodePractice file bound j = some p) : p.location.file = file := by
  simp only [decodePractice, Option.bind_eq_bind, Option.bind_eq_some_iff] at h
  obtain ⟨r, -, description, -, line, -, category, -, hp⟩ := h
  cases hp
  rfl

/-! ## Analyses -/

/-- All places that the analysis names are in the file. -/
structure Analysis.InFile (analysis : Analysis) (file : String) : Prop where
  proposals : ∀ p ∈ analysis.proposals, p.location.file = file
  gas : ∀ g ∈ analysis.gas, g.location.file = file
  practices : ∀ p ∈ analysis.practices, p.location.file = file

theorem inFile_of_decodeAnalysis {file : String} {model : Option String} {bound : Nat} {j : Json} {analysis : Analysis}
    (h : decodeAnalysis file model bound j = some analysis) : analysis.InFile file := by
  simp only [decodeAnalysis, Option.bind_eq_bind, Option.bind_eq_some_iff] at h
  obtain ⟨r, -, score, -, summary, -, proposals, hproposals, confirmed, -, dismissed, -, gas, hgas, practices, hpractices,
    hanalysis⟩ := h
  cases hanalysis
  refine ⟨fun p hp => ?_, fun g hg => ?_, fun p hp => ?_⟩
  · obtain ⟨_, _, hdecoded⟩ := Json.Record.decoded_of_mem hproposals hp
    exact file_of_decodeProposal hdecoded
  · obtain ⟨_, _, hdecoded⟩ := Json.Record.decoded_of_mem hgas hg
    exact file_of_decodeGas hdecoded
  · obtain ⟨_, _, hdecoded⟩ := Json.Record.decoded_of_mem hpractices hp
    exact file_of_decodePractice hdecoded

theorem decoded_of_strict? {α : Type} {decoder : Decoder α} {text : String} {a : α} (h : strict? decoder text = some a) :
    ∃ bound j, decoder bound j = some a := by
  obtain ⟨j, -, hj⟩ := Option.bind_eq_some_iff.mp h
  exact ⟨_, j, hj⟩

theorem decoded_of_readPayload {α : Type} {decoder : Decoder α} {text : String} {a : α}
    (h : readPayload decoder text = .ok a) : ∃ bound j, decoder bound j = some a := by
  unfold readPayload at h
  split at h
  · next hstrict =>
    cases h
    exact decoded_of_strict? hstrict
  · dsimp only at h
    split at h
    · next hrepaired =>
      cases h
      exact decoded_of_strict? hrepaired
    · split at h
      · cases h
      · split at h
        · cases h
        · next hrelaxed =>
          cases h
          exact ⟨_, _, hrelaxed⟩

/-- **All places of a reply are in the file that it is read for.** -/
theorem inFile_of_readReply {raw file : String} {model : Option String} {analysis : Analysis}
    (h : readReply raw file model = .ok analysis) : analysis.InFile file := by
  obtain ⟨bound, j, hdecoded⟩ := decoded_of_readPayload h
  exact inFile_of_decodeAnalysis hdecoded

end Review

end ContractAudit
