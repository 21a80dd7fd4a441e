import ContractAudit.Proofs.Names
import ContractAudit.Proofs.Report.Ranking
import Mathlib.Data.List.Induction
import Mathlib.Data.List.TakeWhile

/-!
# The summary of a report

A report counts its findings before it ranks them: by severity, by category, and for the names of the first blocking
ones. `Report.Summarizes` says what all of these counts are about the list that is reported. The categories are tallied
by inserting one name after the other into an ordered list; `Tallies` is what this keeps.
-/

namespace ContractAudit

/-! ## Categories -/

/-- The id is the category, or goes on with a dash behind it; a category has no dash. -/
def Finding.InCategory (f : Finding) (category : String) : Prop :=
  '-' ∉ category.toList ∧ (f.id = category ∨ ∃ rest, f.id = category ++ "-" ++ rest)

theorem Finding.inCategory_category (f : Finding) : f.InCategory f.category := by
  have hsplit : f.id.toList.takeWhile (· != '-') ++ f.id.toList.dropWhile (· != '-') = f.id.toList :=
    List.takeWhile_append_dropWhile
  have hhead := List.head?_dropWhile_not (· != '-') f.id.toList
  refine ⟨?_, ?_⟩
  · rw [Finding.category, String.toList_ofList]
    intro hdash
    have hne := List.mem_takeWhile_imp hdash
    simp at hne
  · rw [Finding.category]
    cases hrest : f.id.toList.dropWhile (· != '-') with
    | nil =>
      left
      rw [hrest, List.append_nil] at hsplit
      rw [hsplit, String.ofList_toList]
    | cons c rest =>
      right
      rw [hrest] at hhead hsplit
      obtain rfl : c = '-' := by simpa using hhead
      refine ⟨String.ofList rest, ?_⟩
      rw [← String.toList_inj, String.toList_append, String.toList_append, List.append_assoc]
      simpa using hsplit.symm

theorem Finding.category_eq_of_inCategory {f : Finding} {category : String} (h : f.InCategory category) :
    f.category = category := by
  obtain ⟨hdash, hid⟩ := h
  have hkept : ∀ c ∈ category.toList, (c != '-') = true := by
    intro c hc
    rw [bne_iff_ne]
    rintro rfl
    exact hdash hc
  rw [Finding.category]
  rcases hid with hid | ⟨rest, hid⟩
  · rw [hid, List.takeWhile_eq_self_iff.mpr hkept, String.ofList_toList]
  · have hlist : f.id.toList = category.toList ++ '-' :: rest.toList := by simp [hid]
    rw [hlist, List.takeWhile_append_of_pos hkept, List.takeWhile_cons_of_neg (by simp), List.append_nil,
      String.ofList_toList]

theorem Finding.category_eq_iff {f : Finding} {category : String} : f.category = category ↔ f.InCategory category := by
  constructor
  · rintro rfl
    exact f.inCategory_category
  · exact Finding.category_eq_of_inCategory

instance (f : Finding) (category : String) : Decidable (f.InCategory category) :=
  decidable_of_iff (f.category = category) Finding.category_eq_iff

theorem tallies_categoryCounts (findings : List Finding) :
    Tallies (findings.map Finding.category) (categoryCounts findings) := by
  induction findings using List.reverseRecOn with
  | nil => exact ⟨.nil, by simp [categoryCounts], rfl⟩
  | append_singleton findings f ih =>
    have hstep := ih.step f.category
    rw [List.map_append]
    rwa [categoryCounts, List.foldl_append]

/-! ## Severities -/

/-- The number that a summary gives for a severity. -/
def Summary.count (s : Summary) : Severity → Nat
  | .critical => s.critical
  | .high => s.high
  | .medium => s.medium
  | .low => s.low
  | .info => s.info

theorem Draft.count_summary (d : Draft) (s : Severity) : d.summary.count s = countOf s d.findings := by
  cases s <;> rfl

theorem length_eq_countOf (findings : List Finding) : findings.length =
    countOf .critical findings + countOf .high findings + countOf .medium findings + countOf .low findings +
      countOf .info findings := by
  induction findings with
  | nil => rfl
  | cons f findings ih =>
    simp only [countOf, List.length_cons, List.countP_cons] at ih ⊢
    cases f.severity <;> simp <;> omega

theorem Severity.isBlocking_eq (s : Severity) : s.isBlocking = (s == .critical || s == .high) := by
  cases s <;> rfl

theorem countP_isBlocking (findings : List Finding) : findings.countP (·.severity.isBlocking) =
    countOf .critical findings + countOf .high findings := by
  induction findings with
  | nil => rfl
  | cons f findings ih =>
    simp only [countOf, List.countP_cons, Severity.isBlocking_eq] at ih ⊢
    cases f.severity <;> simp <;> omega

theorem countOf_pos {s : Severity} {findings : List Finding} {f : Finding} (hf : f ∈ findings) (hs : f.severity = s) :
    0 < countOf s findings :=
  List.countP_pos_iff.mpr ⟨f, hf, beq_iff_eq.mpr hs⟩

/-! ## Concerns -/

theorem length_topConcerns (findings : List Finding) :
    (topConcerns findings).length = min 3 (countOf .critical findings + countOf .high findings) := by
  rw [topConcerns, List.length_map, List.length_take, ← List.countP_eq_length_filter, countP_isBlocking]

theorem topConcerns_getElem? {front : List Finding} {f : Finding} (hf : f.severity.isBlocking = true)
    (hfew : front.countP (·.severity.isBlocking) < 3) (rest : List Finding) :
    (topConcerns (front ++ f :: rest))[front.countP (·.severity.isBlocking)]? = some f.name := by
  have hfilter : (front ++ f :: rest).filter (·.severity.isBlocking) =
      front.filter (·.severity.isBlocking) ++ f :: rest.filter (·.severity.isBlocking) := by
    simp [hf]
  rw [List.countP_eq_length_filter] at hfew ⊢
  rw [topConcerns, hfilter, List.getElem?_map, List.getElem?_take_of_lt hfew,
    List.getElem?_append_right (Nat.le_refl _), Nat.sub_self]
  rfl

/-! ## Recommendations -/

theorem Draft.recommendation_of_critical (d : Draft) (h : 0 < countOf .critical d.findings) :
    d.summary.recommendation = .doNotDeploy := by
  have hblocked : (decide (0 < countOf .critical d.findings) || (Risk.ofTenths 80).le d.score) = true := by
    rw [decide_eq_true h, Bool.true_or]
  exact if_pos hblocked

theorem Draft.recommendation_ne_safe (d : Draft) (h : 0 < countOf .critical d.findings ∨ 0 < countOf .high d.findings) :
    d.summary.recommendation ≠ .safe := by
  rcases h with hcritical | hhigh
  · rw [d.recommendation_of_critical hcritical]
    decide
  · show Risk.recommend (decide (0 < countOf .critical d.findings)) (decide (0 < countOf .high d.findings)) d.score ≠ .safe
    rw [decide_eq_true hhigh, Risk.recommend, Bool.true_or, if_pos rfl]
    split <;> decide

/-! ## Reports -/

/-- What a report says in summary is said of the findings that it lists; `input` are the same findings in the order in
which they came. -/
structure Report.Summarizes (r : Report) (input : List Finding) : Prop where
  listed : r.findings.Perm input
  total : r.summary.total = r.findings.length
  total_severities : r.summary.total =
    r.summary.critical + r.summary.high + r.summary.medium + r.summary.low + r.summary.info
  severities : ∀ s, r.summary.count s = r.findings.countP (·.severity = s)
  /-- There is an entry for a category exactly if a finding is in it. -/
  categories : ∀ k, k ∈ r.assessment.categories.map Prod.fst ↔ ∃ f ∈ r.findings, f.InCategory k
  category_counts : ∀ k n, (k, n) ∈ r.assessment.categories → n = r.findings.countP (·.InCategory k)
  /-- No category has two entries. -/
  categories_distinct : (r.assessment.categories.map Prod.fst).Nodup
  total_categories : (r.assessment.categories.map Prod.snd).sum = r.summary.total
  critical_blocks : ∀ f ∈ r.findings, f.severity = .critical → r.summary.recommendation = .doNotDeploy
  high_never_safe : ∀ f ∈ r.findings, f.severity = .critical ∨ f.severity = .high → r.summary.recommendation ≠ .safe
  concerns_length : r.summary.topConcerns.length = min 3 (r.summary.critical + r.summary.high)
  /-- The blocking finding that has `i` blocking findings before it is the concern with the index `i`. -/
  concerns : ∀ front f rest, input = front ++ f :: rest → f.severity.isBlocking = true →
    front.countP (·.severity.isBlocking) < 3 →
      r.summary.topConcerns[front.countP (·.severity.isBlocking)]? = some f.name

/-- **The summary of a report agrees with the findings that it lists**, whatever their ids and severities and whatever
the score. -/
theorem summary_agrees (d : Draft) (id : String) (now : Time.Timestamp) : (d.report id now).Summarizes d.findings := by
  have hperm : (d.report id now).findings.Perm d.findings := sortBySeverity_perm d.findings
  have htallies := tallies_categoryCounts d.findings
  have hcategory : ∀ k, (d.findings.map Finding.category).count k = d.findings.countP (·.InCategory k) := by
    intro k
    rw [List.count, List.countP_map]
    apply List.countP_congr
    intro f _
    simp [Finding.category_eq_iff]
  constructor
  case listed => exact hperm
  case total => exact hperm.length_eq.symm
  case total_severities => exact length_eq_countOf d.findings
  case severities =>
    intro s
    rw [hperm.countP_eq]
    exact d.count_summary s
  case categories =>
    intro k
    have hkey : k ∈ (categoryCounts d.findings).map Prod.fst ↔ k ∈ d.findings.map Finding.category := by
      constructor
      · intro hk
        obtain ⟨⟨_, n⟩, hn, rfl⟩ := List.mem_map.mp hk
        exact ((htallies.mem_iff _ n).mp hn).1
      · intro hk
        exact List.mem_map.mpr ⟨_, (htallies.mem_iff k _).mpr ⟨hk, rfl⟩, rfl⟩
    rw [show (d.report id now).assessment.categories = categoryCounts d.findings from rfl, hkey, List.mem_map]
    simp only [hperm.mem_iff, Finding.category_eq_iff]
  case category_counts =>
    intro k n hk
    rw [hperm.countP_eq, ← hcategory]
    exact ((htallies.mem_iff k n).mp hk).2
  case categories_distinct => exact htallies.increasing.imp fun hlt => ne_of_lt hlt
  case total_categories => exact htallies.total.trans (List.length_map _)
  case critical_blocks =>
    intro f hf hcritical
    exact d.recommendation_of_critical (countOf_pos (hperm.mem_iff.mp hf) hcritical)
  case high_never_safe =>
    intro f hf hblocking
    have hpos := hblocking.imp (countOf_pos (hperm.mem_iff.mp hf)) (countOf_pos (hperm.mem_iff.mp hf))
    exact d.recommendation_ne_safe hpos
  case concerns_length => exact length_topConcerns d.findings
  case concerns =>
    intro front f rest hinput hblocking hfew
    have hget := topConcerns_getElem? hblocking hfew rest
    rwa [← hinput] at hget

/-- Ids with several dashes, without one, with nothing in front of the first one, and without any character. -/
example : categoryCounts (["A-B-C", "A", "-x", ""].map fun id => { (default : Finding) with id }) =
    [("", 2), ("A", 2)] := by decide +kernel

end ContractAudit
