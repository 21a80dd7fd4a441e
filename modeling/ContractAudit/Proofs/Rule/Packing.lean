import ContractAudit.Rule.Catalogue.Storage
import Mathlib.Algebra.GroupWithZero.Nat
import Mathlib.Data.List.Perm.Basic
import Mathlib.Data.List.Sort
import Mathlib.Data.Nat.PSub

/-!
# The advice on storage slots can be followed

Two ways to fill slots are compared. Variables in their declared order only go into the last slot (`slotsFrom`), whereas
sizes from the greatest to the least go into the first slot that has room (`place`). The second way is a count without
an order of variables. To get an order from it, the contents of its slots are recovered (`exists_slots`) and written one
slot after the other; filling the last slot only is then no worse (`slotsFrom_flatten_le`).
-/

namespace ContractAudit.Catalogue

open Facts (ContractFacts VariableFacts)

/-! ## Sizes -/

theorem of_sizedType? {type front : String} {divisor size : Nat} (h : sizedType? type front divisor = some size) :
    1 ≤ size ∧ size ≤ slotBytes := by
  obtain ⟨n, -, hsize⟩ := Option.bind_eq_some_iff.mp h
  split at hsize
  · next hfits =>
    cases hsize
    simpa using hfits
  · cases hsize

theorem storageSize_between (type : String) : 1 ≤ storageSize type ∧ storageSize type ≤ slotBytes := by
  unfold storageSize
  split
  · decide
  · decide
  · decide
  · cases hsize : (sizedType? type "uint" 8).or ((sizedType? type "int" 8).or (sizedType? type "bytes" 1)) with
    | none => decide
    | some size =>
      rcases Option.or_eq_some_iff.mp hsize with hsize | ⟨-, hsize⟩
      · exact of_sizedType? hsize
      · rcases Option.or_eq_some_iff.mp hsize with hsize | ⟨-, hsize⟩
        · exact of_sizedType? hsize
        · exact of_sizedType? hsize

/-- The variables that take storage. -/
def stored (vs : List VariableFacts) : List VariableFacts := vs.filter fun v => !v.constant

/-- The sizes of some variables. -/
def sizesOf (vs : List VariableFacts) : List Nat := vs.map fun v => storageSize v.type

theorem storageSizes_eq (c : ContractFacts) : storageSizes c = sizesOf (stored c.stateVariables) := rfl

theorem le_of_mem_sizesOf {vs : List VariableFacts} : ∀ size ∈ sizesOf vs, size ≤ slotBytes := by
  intro size hsize
  obtain ⟨v, -, rfl⟩ := List.mem_map.mp hsize
  exact (storageSize_between v.type).2

/-! ## Subtractions -/

/-- As `slotsFrom`, with `none` if more bytes are taken than are left. -/
def slotsFrom? (free : Nat) : List Nat → Option Nat
  | [] => some 0
  | size :: sizes =>
    if free < size then (Nat.psub slotBytes size).bind fun left => (slotsFrom? left sizes).map (1 + ·)
    else (Nat.psub free size).bind fun left => slotsFrom? left sizes

/-- As `place`, with `none` if more bytes are taken than are left. -/
def place? (size : Nat) : List Nat → Option (List Nat)
  | [] => (Nat.psub slotBytes size).map ([·])
  | free :: rest =>
    if size ≤ free then (Nat.psub free size).map (· :: rest) else (place? size rest).map (free :: ·)

/-- As `slotsPacked`, with `none` if more bytes are taken than are left. -/
def slotsPacked? (sizes : List Nat) : Option Nat :=
  ((sizes.mergeSort fun a b => b ≤ a).foldlM (fun free size => place? size free) []).map List.length

theorem slotsFrom?_eq {sizes : List Nat} (h : ∀ size ∈ sizes, size ≤ slotBytes) (free : Nat) :
    slotsFrom? free sizes = some (slotsFrom free sizes) := by
  induction sizes generalizing free with
  | nil => rfl
  | cons size sizes ih =>
    rw [List.forall_mem_cons] at h
    obtain ⟨hsize, hsizes⟩ := h
    rw [slotsFrom?, slotsFrom]
    by_cases hfree : free < size
    · rw [if_pos hfree, if_pos hfree, Nat.psub_eq_sub hsize, Option.bind_some, ih hsizes, Option.map_some]
    · rw [if_neg hfree, if_neg hfree, Nat.psub_eq_sub (Nat.le_of_not_lt hfree), Option.bind_some, ih hsizes]

theorem place?_eq {size : Nat} (h : size ≤ slotBytes) (free : List Nat) : place? size free = some (place size free) := by
  induction free with
  | nil => rw [place?, place, Nat.psub_eq_sub h, Option.map_some]
  | cons left free ih =>
    rw [place?, place]
    by_cases hfits : size ≤ left
    · rw [if_pos hfits, if_pos hfits, Nat.psub_eq_sub hfits, Option.map_some]
    · rw [if_neg hfits, if_neg hfits, ih, Option.map_some]

theorem foldlM_place? {sizes : List Nat} (h : ∀ size ∈ sizes, size ≤ slotBytes) (free : List Nat) :
    sizes.foldlM (fun free size => place? size free) free =
      some (sizes.foldl (fun free size => place size free) free) := by
  induction sizes generalizing free with
  | nil => rfl
  | cons size sizes ih =>
    rw [List.forall_mem_cons] at h
    rw [List.foldlM_cons, place?_eq h.1, List.foldl_cons]
    exact ih h.2 (place size free)

theorem slotsPacked?_eq {sizes : List Nat} (h : ∀ size ∈ sizes, size ≤ slotBytes) :
    slotsPacked? sizes = some (slotsPacked sizes) := by
  rw [slotsPacked?, foldlM_place? fun size hsize => h size (List.mem_mergeSort.mp hsize)]
  rfl

/-! ## Slots in order -/

/-- More room in the current slot saves at most one slot, and costs none. -/
theorem slotsFrom_close {a b : Nat} (hab : a ≤ b) (hb : b ≤ slotBytes) (sizes : List Nat) :
    slotsFrom b sizes ≤ slotsFrom a sizes ∧ slotsFrom a sizes ≤ slotsFrom b sizes + 1 := by
  -- The two bounds are proved together: where one side opens a slot, each follows from the other one for the rest.
  induction sizes generalizing a b with
  | nil => simp [slotsFrom]
  | cons size sizes ih =>
    rw [slotsFrom, slotsFrom]
    by_cases hsb : b < size
    · rw [if_pos hsb, if_pos (by omega)]
      omega
    · by_cases hsa : a < size
      · -- Only the fuller slot is left, and the new one has at least as much room as the other.
        have hnew := ih (a := b - size) (b := slotBytes - size) (by omega) (by omega)
        rw [if_neg hsb, if_pos hsa]
        omega
      · have hboth := ih (a := a - size) (b := b - size) (by omega) (by omega)
        rw [if_neg hsb, if_neg hsa]
        exact hboth

theorem slotsFrom_append {free : Nat} {slot : List Nat} (hfits : slot.sum ≤ free) (rest : List Nat) :
    slotsFrom free (slot ++ rest) = slotsFrom (free - slot.sum) rest := by
  induction slot generalizing free with
  | nil => rfl
  | cons size slot ih =>
    rw [List.sum_cons] at hfits
    rw [List.cons_append, slotsFrom, if_neg (by omega), ih (by omega), List.sum_cons, Nat.sub_add_eq]

theorem slotsFrom_flatten_le {slots : List (List Nat)} (hslots : ∀ slot ∈ slots, slot.sum ≤ slotBytes) {free : Nat}
    (hfree : free ≤ slotBytes) : slotsFrom free slots.flatten ≤ slots.length := by
  induction slots generalizing free with
  | nil => exact Nat.le_refl 0
  | cons slot slots ih =>
    rw [List.forall_mem_cons] at hslots
    obtain ⟨hslot, hrest⟩ := hslots
    calc slotsFrom free (slot ++ slots.flatten)
        ≤ slotsFrom slotBytes (slot ++ slots.flatten) + 1 := (slotsFrom_close hfree (Nat.le_refl _) _).2
      _ = slotsFrom (slotBytes - slot.sum) slots.flatten + 1 := by rw [slotsFrom_append hslot]
      _ ≤ slots.length + 1 := Nat.succ_le_succ (ih hrest (Nat.sub_le _ _))

/-! ## Packed slots -/

/-- What is left of a slot and its contents make up a slot. -/
def Fills (free : Nat) (slot : List Nat) : Prop := free + slot.sum = slotBytes

theorem exists_slots_place {free : List Nat} {slots : List (List Nat)} (h : List.Forall₂ Fills free slots) {size : Nat}
    (hsize : size ≤ slotBytes) :
    ∃ next, List.Forall₂ Fills (place size free) next ∧ next.flatten.Perm (size :: slots.flatten) := by
  induction h with
  | nil =>
    have hfills : Fills (slotBytes - size) [size] := by
      rw [Fills, List.sum_singleton]
      omega
    exact ⟨[[size]], .cons hfills .nil, .refl _⟩
  | @cons left slot free slots hfills hrest ih =>
    rw [place]
    split
    · have hjoined : Fills (left - size) (size :: slot) := by
        rw [Fills, List.sum_cons]
        rw [Fills] at hfills
        omega
      exact ⟨(size :: slot) :: slots, .cons hjoined hrest, .refl _⟩
    · obtain ⟨next, hnext, hperm⟩ := ih
      refine ⟨slot :: next, .cons hfills hnext, ?_⟩
      exact (hperm.append_left slot).trans List.perm_middle

theorem exists_slots_foldl {sizes : List Nat} (hsizes : ∀ size ∈ sizes, size ≤ slotBytes) {free : List Nat}
    {slots : List (List Nat)} (h : List.Forall₂ Fills free slots) :
    ∃ final, List.Forall₂ Fills (sizes.foldl (fun free size => place size free) free) final ∧
      final.flatten.Perm (sizes ++ slots.flatten) := by
  induction sizes generalizing free slots with
  | nil => exact ⟨slots, h, .refl _⟩
  | cons size sizes ih =>
    rw [List.forall_mem_cons] at hsizes
    obtain ⟨next, hnext, hplaced⟩ := exists_slots_place h hsizes.1
    obtain ⟨final, hfinal, hperm⟩ := ih hsizes.2 hnext
    refine ⟨final, hfinal, hperm.trans ?_⟩
    exact (hplaced.append_left sizes).trans List.perm_middle

theorem sum_le_of_fills {free : List Nat} {slots : List (List Nat)} (h : List.Forall₂ Fills free slots) :
    ∀ slot ∈ slots, slot.sum ≤ slotBytes := by
  induction h with
  | nil => exact List.forall_mem_nil _
  | cons hfills _ ih =>
    refine List.forall_mem_cons.mpr ⟨?_, ih⟩
    rw [Fills] at hfills
    omega

theorem exists_slots (sizes : List Nat) (hsizes : ∀ size ∈ sizes, size ≤ slotBytes) :
    ∃ slots : List (List Nat), slots.length = slotsPacked sizes ∧ (∀ slot ∈ slots, slot.sum ≤ slotBytes) ∧
      slots.flatten.Perm sizes := by
  obtain ⟨slots, hfills, hperm⟩ := exists_slots_foldl (fun size h => hsizes size (List.mem_mergeSort.mp h)) .nil
  rw [List.flatten_nil, List.append_nil] at hperm
  exact ⟨slots, hfills.length_eq.symm, sum_le_of_fills hfills, hperm.trans (List.mergeSort_perm _ _)⟩

/-- The sizes are sorted first, so that their order does not matter. -/
theorem slotsPacked_perm {sizes sizes' : List Nat} (h : sizes.Perm sizes') : slotsPacked sizes = slotsPacked sizes' := by
  have hsorted : (sizes.mergeSort fun a b => b ≤ a) = sizes'.mergeSort fun a b => b ≤ a := by
    apply List.Perm.eq_of_pairwise' (List.pairwise_mergeSort' (· ≥ ·) sizes) (List.pairwise_mergeSort' (· ≥ ·) sizes')
    exact (List.mergeSort_perm _ _).trans (h.trans (List.mergeSort_perm _ _).symm)
  rw [slotsPacked, slotsPacked, hsorted]

/-! ## The advice -/

/-- The finding of the rule on a contract that takes `declared` slots and could take `packed`. -/
def packingFinding (c : ContractFacts) (declared packed : Nat) : Finding :=
  packingTemplate.finding
    ("Contract \"" ++ c.name ++ "\" uses " ++ toString declared ++
      " storage slots; reordering state variables could use " ++ toString packed) c.location

/-- Some order of the variables takes no more slots than the packed ones. -/
theorem exists_order (vs : List VariableFacts) :
    ∃ order : List VariableFacts, order.Perm vs ∧ slotsInOrder (sizesOf order) ≤ slotsPacked (sizesOf vs) := by
  obtain ⟨slots, hlength, hfit, hperm⟩ := exists_slots (sizesOf vs) le_of_mem_sizesOf
  -- The contents are sizes; a permutation of the sizes comes from one of the variables.
  have hlift := congrFun₂ (List.eq_map_comp_perm fun v : VariableFacts => storageSize v.type) slots.flatten vs
  obtain ⟨order, horder, hvs⟩ := hlift.mpr hperm
  refine ⟨order, hvs, ?_⟩
  rw [sizesOf, ← horder, ← hlength]
  exact slotsFrom_flatten_le hfit (Nat.zero_le _)

theorem packing_eq_nil_iff {unit : Solidity.SourceUnit} {c : ContractFacts} :
    packing unit c = .ok [] ↔ slotsInOrder (storageSizes c) ≤ slotsPacked (storageSizes c) := by
  simp only [packing]
  split
  · next hle => simp [hle]
  · next hlt => simp [hlt]

/-- **The advice on storage slots can be followed.** Every type takes at least one byte and at most a slot, so that no
more bytes are taken from a slot than it has left. The packed slots do not depend on the order of the sizes. If the rule
reports a contract as taking `declared` slots where `packed` would do, then the variables that take storage have an order
that takes at most `packed` slots, fewer than `declared`; with this order the rule is silent, wherever the constants
stand. -/
theorem packing_achievable :
    (∀ type, 1 ≤ storageSize type ∧ storageSize type ≤ slotBytes) ∧
    (∀ c : ContractFacts, slotsFrom? 0 (storageSizes c) = some (slotsInOrder (storageSizes c)) ∧
      slotsPacked? (storageSizes c) = some (slotsPacked (storageSizes c))) ∧
    (∀ sizes sizes' : List Nat, sizes.Perm sizes' → slotsPacked sizes = slotsPacked sizes') ∧
    ∀ unit c findings, packing unit c = .ok findings → findings ≠ [] → ∃ declared packed,
      findings = [packingFinding c declared packed] ∧
      declared = slotsInOrder (storageSizes c) ∧ packed = slotsPacked (storageSizes c) ∧
      ∃ order, order.Perm (stored c.stateVariables) ∧
        slotsInOrder (sizesOf order) ≤ packed ∧ packed < declared ∧
        ∀ vs, stored vs = order → packing unit { c with stateVariables := vs } = .ok [] := by
  refine ⟨storageSize_between, fun c => ⟨?_, ?_⟩, fun _ _ => slotsPacked_perm, ?_⟩
  · exact slotsFrom?_eq le_of_mem_sizesOf 0
  · exact slotsPacked?_eq le_of_mem_sizesOf
  · intro unit c findings hfindings hfound
    have hlt : slotsPacked (storageSizes c) < slotsInOrder (storageSizes c) := by
      by_contra hle
      rw [packing_eq_nil_iff.mpr (Nat.le_of_not_lt hle)] at hfindings
      cases hfindings
      exact hfound rfl
    obtain ⟨order, hperm, hle⟩ := exists_order (stored c.stateVariables)
    refine ⟨_, _, ?_, rfl, rfl, order, hperm, hle, hlt, ?_⟩
    · simp only [packing, if_neg (Nat.not_le_of_lt hlt)] at hfindings
      cases hfindings
      rfl
    · rintro vs rfl
      have hsame : slotsPacked (sizesOf (stored vs)) = slotsPacked (sizesOf (stored c.stateVariables)) :=
        slotsPacked_perm (hperm.map _)
      rw [packing_eq_nil_iff, storageSizes_eq, hsame]
      exact hle

/-- A variable of the type at a line. -/
def variableAt (line : Nat) (name type : String) (constant : Bool) : VariableFacts :=
  ⟨name, type, "internal", constant, constant, ⟨"contract.sol", line, 4, none, some "Layout"⟩⟩

/-- A full slot and a constant between two halves of a slot. -/
def wastefulContract : ContractFacts where
  name := "Layout"
  kind := .contract
  bases := []
  location := ⟨"contract.sol", 1, 0, none, some "Layout"⟩
  functions := []
  stateVariables := [variableAt 2 "a" "uint128" false, variableAt 3 "LIMIT" "uint256" true,
    variableAt 4 "b" "uint256" false, variableAt 5 "c" "int128" false]
  events := []
  modifiers := []
  calls := []
  identifiers := []
  calledNames := []

/-- The contract takes three slots, and some order of its variables takes two. -/
theorem packing_achievable_wasteful : ∃ order,
    packing ⟨[]⟩ wastefulContract = .ok [packingFinding wastefulContract 3 2] ∧
    order.Perm (stored wastefulContract.stateVariables) ∧ slotsInOrder (sizesOf order) ≤ 2 ∧
    ∀ vs, stored vs = order → packing ⟨[]⟩ { wastefulContract with stateVariables := vs } = .ok [] := by
  have hdeclared : slotsInOrder (storageSizes wastefulContract) = 3 := rfl
  have hsizes : storageSizes wastefulContract = [16, 32, 16] := rfl
  have hpacked : slotsPacked (storageSizes wastefulContract) = 2 := by
    rw [hsizes]
    simp [slotsPacked, List.mergeSort, List.MergeSort.Internal.splitInTwo, List.splitAt, List.splitAt.go, place,
      slotBytes]
  have hfindings : packing ⟨[]⟩ wastefulContract = .ok [packingFinding wastefulContract 3 2] := by
    simp only [packing, hdeclared, hpacked]
    rfl
  obtain ⟨-, -, -, hadvice⟩ := packing_achievable
  obtain ⟨declared, packed, -, -, hcount, order, hperm, hle, -, hsilent⟩ :=
    hadvice ⟨[]⟩ wastefulContract _ hfindings (List.cons_ne_nil _ _)
  rw [hcount, hpacked] at hle
  exact ⟨order, hfindings, hperm, hle, hsilent⟩

end ContractAudit.Catalogue
