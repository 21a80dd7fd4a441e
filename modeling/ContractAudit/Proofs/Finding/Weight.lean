import ContractAudit.Finding.Risk
import ContractAudit.Proofs.Numeric.Exactness
import Mathlib.Algebra.BigOperators.Group.List.Lemmas
import Mathlib.Algebra.GroupWithZero.Nat

/-!
# The score of some findings as a number

The score adds up the weights of the findings with floating-point numbers and rounds after every operation. `exactScore`
computes with rational numbers instead, and `tenths` with whole numbers. All agree (`exactScore_eq`, `score_eq`): below
the highest score every value up to the last division is a whole number of quarters, which the format has
(`tracks_total`), and beyond it rounding cannot bring a sum back below (`Rounds.reaches`).
-/

namespace ContractAudit.Risk

open Numeric (Binary binary64)

/-! ## Whole numbers -/

/-- Halves of all weights together. -/
def totalHalves (severities : List Severity) : Nat := (severities.map Severity.halves).foldr (· + ·) 0

/-- One plus half the total weight, at most ten, in quarters. -/
def quarters (severities : List Severity) : Nat := min (4 + totalHalves severities) 40

/-- The score in tenths, a half rounded up; 1 without findings. -/
def tenths (severities : List Severity) : Nat :=
  if severities.isEmpty then 10 else Numeric.roundDivUp (10 * quarters severities) 4

theorem totalHalves_cons (s : Severity) (ss : List Severity) : totalHalves (s :: ss) = s.halves + totalHalves ss := rfl

theorem tenths_eq (ss : List Severity) : tenths ss = min 100 (10 + (5 * totalHalves ss + 1) / 2) := by
  cases ss with
  | nil => rfl
  | cons s ss =>
    simp only [tenths, List.isEmpty_cons, Bool.false_eq_true, if_false, quarters, Numeric.roundDivUp]
    omega

/-! ## Weights -/

/-- Halves that some findings weigh, by how many of them have each severity. -/
def halvesByCount (findings : List Finding) : Nat :=
  8 * findings.countP (·.severity = .critical) + 6 * findings.countP (·.severity = .high) +
    4 * findings.countP (·.severity = .medium) + 2 * findings.countP (·.severity = .low) +
    findings.countP (·.severity = .info)

theorem totalHalves_eq (findings : List Finding) : totalHalves (findings.map (·.severity)) = halvesByCount findings := by
  induction findings with
  | nil => rfl
  | cons f findings ih =>
    rw [List.map_cons, totalHalves_cons, ih]
    cases hseverity : f.severity <;> simp [halvesByCount, Severity.halves, hseverity] <;> omega

theorem toRat?_of_quarters {r : ℚ} {x : Binary} (h : binary64.Rounds r x) (n : Nat) (hr : r = n / 4) (hn : n ≤ 512) :
    x.toRat? = some r := by
  have hn' : (n : ℚ) ≤ 512 := by exact_mod_cast hn
  refine h.exact 2 n 128 ?_ ?_ (by decide) (by decide) (by decide)
  · rw [hr]
    ring
  · rw [hr]
    push_cast
    linarith

theorem toRat?_ofNat {n : Nat} (hn : n ≤ 128) : (binary64.ofNat n).toRat? = some (n : ℚ) :=
  toRat?_of_quarters (binary64.rounds_ofNat n) (4 * n) (by push_cast; ring) (by omega)

theorem toRat?_weight (s : Severity) : s.weight.toRat? = some ((s.halves : ℚ) / 2) := by
  have hround : binary64.Rounds (s.halves / 2) s.weight := ⟨false, s.halves, 2, by decide, rfl, by simp, by simp⟩
  have hle : s.halves ≤ 8 := by cases s <;> decide
  exact toRat?_of_quarters hround (2 * s.halves) (by push_cast; ring) (by omega)

/-! ## Exact arithmetic -/

/-- The weight of a finding as a rational number. -/
def exactWeight (f : Finding) : ℚ := f.severity.weight.toRat?.getD 0

/-- The score in exact arithmetic: one plus half the total weight, at most ten, rounded to tenths, a half up; 1 without
findings. -/
def exactScore (findings : List Finding) : ℚ :=
  if findings.isEmpty then 1 else (⌊10 * min (1 + (findings.map exactWeight).sum / 2) 10 + 1 / 2⌋₊ : ℚ) / 10

theorem sum_exactWeight (findings : List Finding) :
    (findings.map exactWeight).sum = (totalHalves (findings.map (·.severity)) : ℚ) / 2 := by
  induction findings with
  | nil => simp [totalHalves]
  | cons f findings ih =>
    rw [List.map_cons, List.sum_cons, ih, List.map_cons, totalHalves_cons, exactWeight, toRat?_weight, Option.getD_some]
    push_cast
    ring

theorem exactQuarters_eq (findings : List Finding) :
    min (1 + (findings.map exactWeight).sum / 2) 10 = (quarters (findings.map (·.severity)) : ℚ) / 4 := by
  rw [sum_exactWeight, quarters, Nat.cast_min, ← min_div_div_right (by norm_num : (0 : ℚ) ≤ 4)]
  push_cast
  congr 1
  · ring
  · norm_num

theorem exactScore_eq (findings : List Finding) :
    exactScore findings = (tenths (findings.map (·.severity)) : ℚ) / 10 := by
  cases findings with
  | nil => norm_num [exactScore, tenths]
  | cons f findings =>
    have htenfold : (10 * quarters ((f :: findings).map (·.severity)) : ℚ) / 4 =
        ((10 * quarters ((f :: findings).map (·.severity)) : Nat) : ℚ) / (4 : Nat) := by
      push_cast
      ring
    rw [exactScore, exactQuarters_eq, tenths]
    simp only [List.isEmpty_cons, List.map_cons, Bool.false_eq_true, if_false]
    rw [Numeric.roundDivUp_eq_floor _ (by decide), ← List.map_cons, ← htenfold]
    ring_nf

/-! ## Floating-point arithmetic -/

/-- The number is exact up to 36 halves, from which on the score is ten. -/
def Tracks (halves : Nat) (x : Binary) : Prop :=
  if halves ≤ 36 then x.toRat? = some ((halves : ℚ) / 2) else x.Reaches ((18 : Nat) : ℚ)

theorem Tracks.add {halves : Nat} {x : Binary} (h : Tracks halves x) (s : Severity) :
    Tracks (halves + s.halves) (binary64.add x s.weight) := by
  have hweight := toRat?_weight s
  have hle : s.halves ≤ 8 := by cases s <;> decide
  have hnonneg : (0 : ℚ) ≤ s.halves / 2 := by positivity
  unfold Tracks at h
  split at h
  · next hsmall =>
    have hsum : (binary64.add x s.weight).toRat? = some ((halves : ℚ) / 2 + s.halves / 2) :=
      toRat?_of_quarters (Numeric.Format.rounds_add h hweight (by positivity) hnonneg) (2 * (halves + s.halves))
        (by push_cast; ring) (by omega)
    have hhalves : (halves : ℚ) / 2 + s.halves / 2 = ((halves + s.halves : Nat) : ℚ) / 2 := by
      push_cast
      ring
    rw [hhalves] at hsum
    unfold Tracks
    split
    · exact hsum
    · next hlarge =>
      refine .inr ⟨_, hsum, ?_⟩
      have hcast : ((36 : Nat) : ℚ) ≤ ((halves + s.halves : Nat) : ℚ) := by exact_mod_cast (by omega)
      push_cast at hcast ⊢
      linarith
  · next hlarge =>
    rw [Tracks, if_neg (by omega)]
    rcases h with rfl | ⟨q, hq, hreached⟩
    · obtain ⟨t, n, g, hfinite⟩ := Numeric.Binary.exists_finite hweight
      rw [hfinite]
      exact .inl rfl
    · have hq0 : (0 : ℚ) ≤ q := le_trans (Nat.cast_nonneg 18) hreached
      exact (Numeric.Format.rounds_add hq hweight hq0 hnonneg).reaches 18 (by decide)
        (le_add_of_le_of_nonneg hreached hnonneg) (by decide) (by decide) (by decide)

/-- **The sum of the weights is exact until the score is ten**, whatever the number of findings. -/
theorem tracks_total (findings : List Finding) :
    Tracks (totalHalves (findings.map (·.severity))) (total findings) := by
  suffices h : ∀ (findings : List Finding) (halves : Nat) (x : Binary), Tracks halves x →
      Tracks (halves + totalHalves (findings.map (·.severity)))
        (findings.foldl (fun total f => binary64.add total f.severity.weight) x) by
    have hzero : Tracks 0 binary64.zero := by simp [Tracks, Numeric.Format.zero, Binary.toRat?]
    simpa [Risk.total] using h findings 0 _ hzero
  intro findings
  induction findings with
  | nil =>
    intro halves x hx
    simpa [totalHalves] using hx
  | cons f findings ih =>
    intro halves x hx
    rw [List.map_cons, totalHalves_cons, ← Nat.add_assoc]
    exact ih _ _ (hx.add f.severity)

theorem toRat?_raise {halves : Nat} {total : Binary} (h : Tracks halves total) (hsmall : halves ≤ 36) :
    (raise total).toRat? = some (((4 + halves : Nat) : ℚ) / 4) := by
  rw [Tracks, if_pos hsmall] at h
  have hhalf : (binary64.div total (binary64.ofNat 2)).toRat? = some ((halves : ℚ) / 2 / (2 : Nat)) :=
    toRat?_of_quarters (Numeric.Format.rounds_div h (toRat?_ofNat (by decide)) (by positivity) (by norm_num)) halves
      (by push_cast; ring) (by omega)
  have hsum := toRat?_of_quarters (Numeric.Format.rounds_add (toRat?_ofNat (by decide : 1 ≤ 128)) hhalf (by norm_num)
    (by positivity)) (4 + halves) (by push_cast; ring) (by omega)
  rw [raise, hsum]
  push_cast
  ring_nf

theorem reaches_raise {halves : Nat} {total : Binary} (h : Tracks halves total) (hlarge : 36 < halves) :
    (raise total).Reaches ((10 : Nat) : ℚ) := by
  rw [Tracks, if_neg (by omega)] at h
  have hhalf : (binary64.div total (binary64.ofNat 2)).Reaches ((9 : Nat) : ℚ) := by
    rcases h with rfl | ⟨q, hq, hreached⟩
    · exact .inl (by decide)
    · have hround := Numeric.Format.rounds_div (f := binary64) hq (toRat?_ofNat (by decide : 2 ≤ 128))
        (le_trans (Nat.cast_nonneg 18) hreached) (by norm_num)
      refine hround.reaches 9 (by decide) ?_ (by decide) (by decide) (by decide)
      push_cast at hreached ⊢
      linarith
  rcases hhalf with hhalf | ⟨q, hq, hreached⟩
  · rw [raise, hhalf]
    exact .inl (by decide)
  · have hround := Numeric.Format.rounds_add (f := binary64) (toRat?_ofNat (by decide : 1 ≤ 128)) hq (by norm_num)
      (le_trans (Nat.cast_nonneg 9) hreached)
    refine hround.reaches 10 (by decide) ?_ (by decide) (by decide) (by decide)
    push_cast at hreached ⊢
    linarith

theorem toRat?_cap (findings : List Finding) :
    (cap (raise (total findings))).toRat? = some ((quarters (findings.map (·.severity)) : ℚ) / 4) := by
  have htracks := tracks_total findings
  have hten : (binary64.ofNat 10).toRat? = some ((10 : Nat) : ℚ) := toRat?_ofNat (by decide)
  by_cases hsmall : totalHalves (findings.map (·.severity)) ≤ 36
  · have hraised := toRat?_raise htracks hsmall
    have hle : (raise (total findings)).le (binary64.ofNat 10) = true := by
      rw [Binary.le_iff hraised hten, div_le_iff₀ (by norm_num)]
      exact_mod_cast (by omega)
    rw [cap, if_pos hle, hraised, quarters, min_eq_left (by omega)]
  · have hforty : quarters (findings.map (·.severity)) = 40 := by
      rw [quarters]
      omega
    have hvalue : ((40 : Nat) : ℚ) / 4 = (10 : Nat) := by norm_num
    rw [hforty, hvalue, cap]
    split
    · next hle =>
      rcases reaches_raise htracks (by omega) with hinfinite | ⟨q, hq, hreached⟩
      · rw [hinfinite] at hle
        exact absurd hle (by decide)
      · have hq10 : q = ((10 : Nat) : ℚ) := le_antisymm ((Binary.le_iff hq hten).mp hle) hreached
        rw [hq, hq10]
    · exact hten

theorem of_all_tenths {p : Nat → Bool} (h : ((List.range 101).all fun n => n < 10 || p n) = true) {n : Nat}
    (hlow : 10 ≤ n) (hhigh : n ≤ 100) : p n = true := by
  have hn := List.all_eq_true.mp h n (List.mem_range.mpr (by omega))
  rw [Bool.or_eq_true, decide_eq_true_eq] at hn
  exact hn.resolve_left (by omega)

theorem div_ten : ((List.range 101).all fun n => n < 10 ||
    binary64.div (binary64.ofNat n) (binary64.ofNat 10) == ofTenths n) = true := by
  decide +kernel

theorem roundTenths_eq_ofTenths {x : Binary} {m : Nat} {e : Int}
    (hmul : binary64.mul x (binary64.ofNat 10) = .finite false m e) (hlow : 10 ≤ Binary.nearest m e)
    (hhigh : Binary.nearest m e ≤ 100) : roundTenths x = ofTenths (Binary.nearest m e) := by
  rw [roundTenths, hmul]
  exact eq_of_beq (of_all_tenths div_ten hlow hhigh)

theorem roundTenths_quarters {x : Binary} {k : Nat} (hlow : 4 ≤ k) (hhigh : k ≤ 40)
    (hx : x.toRat? = some ((k : ℚ) / 4)) : roundTenths x = ofTenths (Numeric.roundDivUp (10 * k) 4) := by
  have htenfold : (binary64.mul x (binary64.ofNat 10)).toRat? = some ((k : ℚ) / 4 * (10 : Nat)) :=
    toRat?_of_quarters (Numeric.Format.rounds_mul hx (toRat?_ofNat (by decide)) (by positivity) (by norm_num)) (10 * k)
      (by push_cast; ring) (by omega)
  have hpos : (0 : ℚ) < (k : ℚ) / 4 * (10 : Nat) := by
    have hk : (0 : ℚ) < k := by exact_mod_cast (by omega)
    positivity
  obtain ⟨negative, m, e, hfinite⟩ := Numeric.Binary.exists_finite htenfold
  rw [hfinite] at htenfold
  obtain rfl := Numeric.Binary.sign_of_pos htenfold hpos
  have hnearest : Binary.nearest m e = Numeric.roundDivUp (10 * k) 4 := by
    rw [Numeric.Binary.nearest_eq_floor, Numeric.Binary.magnitude_eq htenfold hpos.le,
      Numeric.roundDivUp_eq_floor _ (by decide)]
    congr 1
    push_cast
    ring
  have hbounds : 10 ≤ Numeric.roundDivUp (10 * k) 4 ∧ Numeric.roundDivUp (10 * k) 4 ≤ 100 :=
    Numeric.roundDivUp_between (by decide) (by omega) (by omega)
  rw [← hnearest] at hbounds ⊢
  exact roundTenths_eq_ofTenths hfinite hbounds.1 hbounds.2

/-- **The score is what whole numbers give.** -/
theorem score_eq (findings : List Finding) : score findings = ofTenths (tenths (findings.map (·.severity))) := by
  unfold score
  split
  · next hempty =>
    obtain rfl := List.isEmpty_iff.mp hempty
    decide
  · next hne =>
    have hquarters : 4 ≤ quarters (findings.map (·.severity)) ∧ quarters (findings.map (·.severity)) ≤ 40 := by
      rw [quarters]
      omega
    rw [roundTenths_quarters hquarters.1 hquarters.2 (toRat?_cap findings), tenths, if_neg (by simpa using hne)]

end ContractAudit.Risk
