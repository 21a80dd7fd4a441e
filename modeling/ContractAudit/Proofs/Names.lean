import ContractAudit.Facts.Contract
import ContractAudit.Report.Basic
import Mathlib.Algebra.GroupWithZero.Nat
import Mathlib.Data.String.Basic

/-!
# Names in increasing order

Names are collected by inserting one after the other into an increasing list, as a set (`Facts.nameSet`) or with the
number of times that each of them occurs. `Tallies` is what the counts say, and `Tallies.step` that one more name keeps
it.
-/

namespace ContractAudit

/-! ## Sets of names -/

namespace Facts

theorem mem_insertName {name n : String} {names : List String} : n ∈ insertName name names ↔ n = name ∨ n ∈ names := by
  induction names with
  | nil => simp [insertName]
  | cons first names ih =>
    rw [insertName]
    split
    · exact List.mem_cons
    · split
      · next heq =>
        subst heq
        simp
      · rw [List.mem_cons, ih, List.mem_cons, or_left_comm]

theorem mem_nameSet {n : String} {names : List String} : n ∈ nameSet names ↔ n ∈ names := by
  induction names with
  | nil => rfl
  | cons name names ih =>
    have hstep : nameSet (name :: names) = insertName name (nameSet names) := rfl
    rw [hstep, mem_insertName, ih, List.mem_cons]

theorem increasing_insertName (name : String) {names : List String} (h : names.Pairwise (· < ·)) :
    (insertName name names).Pairwise (· < ·) := by
  induction names with
  | nil => exact List.pairwise_singleton _ _
  | cons first names ih =>
    obtain ⟨hfirst, hrest⟩ := List.pairwise_cons.mp h
    rw [insertName]
    by_cases hlt : name < first
    · rw [if_pos hlt]
      apply List.pairwise_cons.mpr
      refine ⟨?_, h⟩
      intro n hn
      rcases List.mem_cons.mp hn with rfl | hn
      · exact hlt
      · exact String.lt_trans hlt (hfirst n hn)
    · rw [if_neg hlt]
      by_cases heq : name = first
      · rw [if_pos heq]
        exact h
      · rw [if_neg heq]
        apply List.pairwise_cons.mpr
        refine ⟨?_, ih hrest⟩
        intro n hn
        rcases mem_insertName.mp hn with rfl | hn
        · exact lt_of_le_of_ne (not_lt.mp hlt) (Ne.symm heq)
        · exact hfirst n hn

theorem increasing_nameSet (names : List String) : (nameSet names).Pairwise (· < ·) := by
  induction names with
  | nil => exact .nil
  | cons name names ih => exact increasing_insertName name ih

end Facts

/-! ## Counts of names -/

/-- The counts say how often each of the names occurs, by increasing name. -/
structure Tallies (names : List String) (counts : List (String × Nat)) : Prop where
  increasing : (counts.map Prod.fst).Pairwise (· < ·)
  mem_iff : ∀ name n, (name, n) ∈ counts ↔ name ∈ names ∧ n = names.count name
  total : (counts.map Prod.snd).sum = names.length

theorem mem_countName_of_ne {name other : String} (hne : other ≠ name) (n : Nat) (counts : List (String × Nat)) :
    (other, n) ∈ countName name counts ↔ (other, n) ∈ counts := by
  induction counts with
  | nil => simp [countName, hne]
  | cons c counts ih =>
    obtain ⟨first, k⟩ := c
    rw [countName]
    split
    · simp [hne]
    · split
      · next hfirst => simp [← hfirst, hne]
      · rw [List.mem_cons, ih, List.mem_cons]

theorem mem_countName_of_not_mem {name : String} {counts : List (String × Nat)} (h : name ∉ counts.map Prod.fst)
    (n : Nat) : (name, n) ∈ countName name counts ↔ n = 1 := by
  induction counts with
  | nil => simp [countName]
  | cons c counts ih =>
    obtain ⟨first, k⟩ := c
    simp only [List.map_cons, List.mem_cons, not_or] at h
    obtain ⟨hne, hrest⟩ := h
    have hnone : (name, n) ∉ counts := fun hc => hrest (List.mem_map.mpr ⟨_, hc, rfl⟩)
    rw [countName]
    by_cases hlt : name < first
    · rw [if_pos hlt]
      simp [hne, hnone]
    · rw [if_neg hlt, if_neg hne, List.mem_cons, ih hrest]
      simp [hne]

theorem mem_countName_of_mem {name : String} {counts : List (String × Nat)}
    (hincreasing : (counts.map Prod.fst).Pairwise (· < ·)) {before : Nat} (h : (name, before) ∈ counts) (n : Nat) :
    (name, n) ∈ countName name counts ↔ n = before + 1 := by
  induction counts with
  | nil => cases h
  | cons c counts ih =>
    obtain ⟨first, k⟩ := c
    rw [List.map_cons, List.pairwise_cons] at hincreasing
    obtain ⟨hfirst, hrest⟩ := hincreasing
    have hlater : ∀ m, (name, m) ∈ counts → first < name := fun m hm => hfirst name (List.mem_map.mpr ⟨_, hm, rfl⟩)
    rw [countName]
    rcases List.mem_cons.mp h with heq | hc
    · obtain ⟨rfl, rfl⟩ := Prod.mk.inj heq
      have hnone : (name, n) ∉ counts := fun hn => String.lt_irrefl _ (hlater n hn)
      rw [if_neg (String.lt_irrefl _), if_pos rfl]
      simp [hnone]
    · have hlt := hlater before hc
      rw [if_neg (String.lt_asymm hlt), if_neg (ne_of_gt hlt), List.mem_cons, ih hrest hc]
      simp [ne_of_gt hlt]

theorem sum_countName (name : String) (counts : List (String × Nat)) :
    ((countName name counts).map Prod.snd).sum = (counts.map Prod.snd).sum + 1 := by
  induction counts with
  | nil => rfl
  | cons c counts ih =>
    obtain ⟨first, k⟩ := c
    rw [countName]
    split
    · simp only [List.map_cons, List.sum_cons]
      omega
    · split
      · simp only [List.map_cons, List.sum_cons]
        omega
      · simp only [List.map_cons, List.sum_cons, ih]
        omega

theorem map_fst_countName (name : String) (counts : List (String × Nat)) :
    (countName name counts).map Prod.fst = Facts.insertName name (counts.map Prod.fst) := by
  induction counts with
  | nil => rfl
  | cons c counts ih =>
    obtain ⟨first, k⟩ := c
    rw [countName, List.map_cons, Facts.insertName]
    split
    · rfl
    · split
      · rfl
      · rw [List.map_cons, ih]

theorem Tallies.step {names : List String} {counts : List (String × Nat)} (h : Tallies names counts) (name : String) :
    Tallies (names ++ [name]) (countName name counts) := by
  refine ⟨?_, ?_, ?_⟩
  · rw [map_fst_countName]
    exact Facts.increasing_insertName name h.increasing
  · intro key n
    by_cases hkey : key = name
    · subst hkey
      have hcount : (names ++ [key]).count key = names.count key + 1 := by simp
      have hmem : key ∈ names ++ [key] := by simp
      simp only [hcount, hmem, true_and]
      by_cases hold : key ∈ names
      · exact mem_countName_of_mem h.increasing ((h.mem_iff key _).mpr ⟨hold, rfl⟩) n
      · have hnew : key ∉ counts.map Prod.fst := by
          intro hc
          obtain ⟨⟨_, m⟩, hm, rfl⟩ := List.mem_map.mp hc
          exact hold ((h.mem_iff _ m).mp hm).1
        rw [mem_countName_of_not_mem hnew, List.count_eq_zero_of_not_mem hold]
    · rw [mem_countName_of_ne hkey, h.mem_iff]
      simp [hkey, List.count_append, Ne.symm hkey]
  · rw [sum_countName, h.total, List.length_append, List.length_singleton]

end ContractAudit
