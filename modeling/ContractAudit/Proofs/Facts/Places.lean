import ContractAudit.Facts.Contract
import Mathlib.Data.List.Basic
import Mathlib.Tactic.Tauto

/-!
# The places that facts name

Whatever the facts of a contract say about functions, variables, events, modifiers and calls, they say it of a place in
the file that was read (`file_of_mem_places`).
-/

namespace ContractAudit.Facts

open Solidity

/-- The places of functions, variables, events, modifiers and calls. -/
def MemberFacts.places (facts : MemberFacts) : List Location :=
  facts.functions.map (·.location) ++ facts.stateVariables.map (·.location) ++ facts.events.map (·.location) ++
    facts.modifiers.map (·.location) ++ facts.calls.map (·.location)

/-- The places that the facts of a contract name, its own first. -/
def ContractFacts.places (c : ContractFacts) : List Location :=
  c.location :: (c.functions.map (·.location) ++ c.stateVariables.map (·.location) ++ c.events.map (·.location) ++
    c.modifiers.map (·.location) ++ c.calls.map (·.location))

namespace ContractFacts

variable {c : ContractFacts}

theorem location_mem_places : c.location ∈ c.places := List.mem_cons_self

theorem mem_places_of_function {f : FunctionFacts} (h : f ∈ c.functions) : f.location ∈ c.places := by
  have hmem := List.mem_map_of_mem (f := FunctionFacts.location) h
  simp [places, hmem]

theorem mem_places_of_variable {v : VariableFacts} (h : v ∈ c.stateVariables) : v.location ∈ c.places := by
  have hmem := List.mem_map_of_mem (f := VariableFacts.location) h
  simp [places, hmem]

theorem mem_places_of_call {call : ExternalCall} (h : call ∈ c.calls) : call.location ∈ c.places := by
  have hmem := List.mem_map_of_mem (f := ExternalCall.location) h
  simp [places, hmem]

end ContractFacts

/-! ## Members one after the other -/

theorem MemberFacts.mem_places_append {a b : MemberFacts} {l : Location} :
    l ∈ (a.append b).places ↔ l ∈ a.places ∨ l ∈ b.places := by
  simp only [places, append, List.map_append, List.mem_append]
  tauto

theorem MemberFacts.mem_places_foldr {all : List MemberFacts} {l : Location} :
    l ∈ (all.foldr append {}).places ↔ ∃ facts ∈ all, l ∈ facts.places := by
  induction all with
  | nil => simp [places]
  | cons facts all ih => simp [mem_places_append, ih]

@[simp] theorem Scope.file_location (scope : Scope) (pos : Text.Position) : (scope.location pos).file = scope.file := rfl

theorem Scope.file_of_variable (scope : Scope) (v : VariableDef) {l : Location} (h : l ∈ (scope.variable v).places) :
    l.file = scope.file := by
  unfold Scope.variable at h
  cases hname : v.name with
  | none => simp [hname, MemberFacts.places] at h
  | some name =>
    have hl : l = scope.location v.pos := by simpa [hname, MemberFacts.places] using h
    rw [hl, file_location]

theorem Scope.file_of_bodyCalls (scope : Scope) (function : String) (body : Option Block) {call : ExternalCall}
    (h : call ∈ scope.bodyCalls function body) : call.location.file = scope.file := by
  cases body with
  | none => cases h
  | some b =>
    obtain ⟨site, -, rfl⟩ := List.mem_map.mp h
    rfl

theorem Scope.file_of_member (scope : Scope) (m : Member) {l : Location} (h : l ∈ (scope.member m).places) :
    l.file = scope.file := by
  cases m with
  | function f =>
    unfold Scope.member at h
    cases hname : functionName? f with
    | none => simp [hname, MemberFacts.places] at h
    | some name =>
      simp only [hname, MemberFacts.places, List.map_nil, List.append_nil, List.map_cons, List.cons_append,
        List.nil_append, List.mem_cons, List.mem_map] at h
      rcases h with rfl | ⟨call, hcall, rfl⟩
      · rfl
      · exact scope.file_of_bodyCalls name f.body hcall
  | state pos declared =>
    obtain ⟨facts, hfacts, hl⟩ := MemberFacts.mem_places_foldr.mp h
    obtain ⟨v, -, rfl⟩ := List.mem_map.mp hfacts
    exact scope.file_of_variable v hl
  | event e =>
    unfold Scope.member at h
    cases hname : e.name with
    | none => simp [hname, MemberFacts.places] at h
    | some name =>
      have hl : l = scope.location e.pos := by simpa [hname, MemberFacts.places] using h
      rw [hl, file_location]
  | modifier m =>
    unfold Scope.member at h
    cases hname : m.name with
    | none => simp [hname, MemberFacts.places] at h
    | some name =>
      have hl : l = scope.location m.pos := by simpa [hname, MemberFacts.places] using h
      rw [hl, file_location]
  | unrecognized node => simp [Scope.member, MemberFacts.places] at h

/-! ## Contracts -/

theorem file_of_mem_places {file : String} {unit : SourceUnit} {c : ContractFacts} (hc : c ∈ ofUnit file unit)
    {l : Location} (hl : l ∈ c.places) : l.file = file := by
  obtain ⟨decl, -, hfacts⟩ := List.mem_filterMap.mp hc
  obtain ⟨name, -, rfl⟩ := Option.map_eq_some_iff.mp hfacts
  rcases List.mem_cons.mp hl with rfl | hl
  · rfl
  · obtain ⟨facts, hfacts, hl⟩ := MemberFacts.mem_places_foldr.mp hl
    obtain ⟨m, -, rfl⟩ := List.mem_map.mp hfacts
    exact Scope.file_of_member ⟨file, name⟩ m hl

end ContractAudit.Facts
