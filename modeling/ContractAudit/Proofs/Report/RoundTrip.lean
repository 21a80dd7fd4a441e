import ContractAudit.Proofs.Json.Decoding
import ContractAudit.Report.Json

/-!
# Reports that are written and read

Each part of a report is decoded from what is read of its JSON form: as it was, or as nothing if it holds a number that
is not finite, which JSON has no form for (`decode_reread`). So a report comes back from its text exactly if all its
numbers are finite (`json_restores_report`), given that the texts of its numbers and of its instant do.
-/

namespace ContractAudit

open Json (Decoder nat text? reread present)
open Numeric (Binary maxU64)

/-! ## Locations -/

def Location.counters (l : Location) : List Nat := [l.line, l.column]

/-- What is written for every field; nothing for a name that is not known. -/
def Location.entries (l : Location) : List (String × Option Json) :=
  [("file", some (.string l.file)), ("line", some (nat l.line)), ("column", some (nat l.column)),
    ("function_name", l.function.map Json.string), ("contract_name", l.contract.map Json.string)]

theorem Location.toJson_eq (l : Location) : l.toJson = .object (present l.entries) := by
  obtain ⟨file, line, column, function, contract⟩ := l
  cases function <;> cases contract <;> rfl

theorem Location.decode_reread {l : Location} (hfits : ∀ n ∈ l.counters, n ≤ maxU64) {bound : Nat}
    (hbound : 1 < bound) : Location.decode bound l.toJson.reread = some l := by
  have hrecord := Json.record?_present l.entries (by simp [Location.entries]) hbound
  rw [← Location.toJson_eq] at hrecord
  obtain ⟨file, line, column, function, contract⟩ := l
  have hline := Json.decodeNat_reread (hfits line (by simp [counters])) (bound - 1)
  have hcolumn := Json.decodeNat_reread (hfits column (by simp [counters])) (bound - 1)
  simp only [entries, List.map_cons, List.map_nil] at hrecord
  cases function <;> cases contract <;> simp [Location.decode, hrecord, hline, hcolumn]

theorem Location.readable {l : Location} (hfits : ∀ n ∈ l.counters, n ≤ maxU64) : l.toJson.Readable := by
  obtain ⟨file, line, column, function, contract⟩ := l
  have hline := Json.readable_nat (hfits line (by simp [counters]))
  have hcolumn := Json.readable_nat (hfits column (by simp [counters]))
  cases function <;> cases contract <;> simp [toJson, hline, hcolumn]

/-! ## Findings and suggestions -/

theorem readable_strings (ss : List String) : (strings ss).Readable := by
  simp [strings]

theorem decode_strings (ss : List String) {bound : Nat} (hbound : 1 < bound) :
    Json.decodeList Json.decodeString bound (strings ss).reread = some ss :=
  Json.decodeList_restored hbound fun s _ => Json.decodeString_reread (bound - 1) s

theorem Severity.decode_label (s : Severity) (bound : Nat) :
    Json.decodeName Severity.ofLabel? bound (Json.string s.label).reread = some s := by
  cases s <;> rfl

theorem Finding.decode_reread {f : Finding} (hfits : ∀ n ∈ f.location.counters, n ≤ maxU64)
    (hconfidence : f.confidence.isFinite = true → Json.Recovers Json.decodeSingle .single f.confidence) {bound : Nat}
    (hbound : 2 < bound) :
    Finding.decode bound f.toJson.reread = if f.confidence.isFinite then some f else none := by
  have hrecord : Json.record? _ bound f.toJson.reread = some _ := Json.record?_fields _ (by simp) (by omega)
  have hlocation : Location.decode (bound - 1) f.location.toJson.reread = some f.location :=
    Location.decode_reread hfits (by omega)
  have hreferences : Json.decodeList Json.decodeString (bound - 1) (strings f.references).reread = some f.references :=
    decode_strings f.references (by omega)
  have hnumber := Json.decodeSingle_reread hconfidence (bound - 1)
  have hfields : Finding.decode bound f.toJson.reread = (do
      let severity ← Json.decodeName Severity.ofLabel? (bound - 1) (Json.string f.severity.label).reread
      let location ← Location.decode (bound - 1) f.location.toJson.reread
      let references ← Json.decodeList Json.decodeString (bound - 1) (strings f.references).reread
      let confidence ← Json.decodeSingle (bound - 1) (Json.number (.single f.confidence)).reread
      return { f with severity, location, references, confidence }) := congrArg (Option.bind · _) hrecord
  rw [hfields, Severity.decode_label, hlocation, hreferences, hnumber]
  cases f.confidence.isFinite <;> rfl

theorem Finding.readable {f : Finding} (hfits : ∀ n ∈ f.location.counters, n ≤ maxU64)
    (hconfidence : f.confidence.isFinite = true → Json.Recovers Json.decodeSingle .single f.confidence) :
    f.toJson.Readable := by
  simp [toJson, Location.readable hfits, readable_strings, Json.readable_single hconfidence]

theorem Difficulty.decode_label (d : Difficulty) (bound : Nat) :
    Json.decodeName Difficulty.ofLabel? bound (Json.string d.label).reread = some d := by
  cases d <;> rfl

theorem GasOptimization.decode_reread {g : GasOptimization} (hfits : ∀ n ∈ g.location.counters, n ≤ maxU64)
    {bound : Nat} (hbound : 2 < bound) : GasOptimization.decode bound g.toJson.reread = some g := by
  have hrecord : Json.record? _ bound g.toJson.reread = some _ := Json.record?_fields _ (by simp) (by omega)
  have hlocation : Location.decode (bound - 1) g.location.toJson.reread = some g.location :=
    Location.decode_reread hfits (by omega)
  simp only [List.map_cons, List.map_nil] at hrecord
  simp [GasOptimization.decode, hrecord, hlocation, Difficulty.decode_label]

theorem BestPractice.decode_reread {b : BestPractice} (hfits : ∀ n ∈ b.location.counters, n ≤ maxU64)
    {bound : Nat} (hbound : 2 < bound) : BestPractice.decode bound b.toJson.reread = some b := by
  have hrecord : Json.record? _ bound b.toJson.reread = some _ := Json.record?_fields _ (by simp) (by omega)
  have hlocation : Location.decode (bound - 1) b.location.toJson.reread = some b.location :=
    Location.decode_reread hfits (by omega)
  simp only [List.map_cons, List.map_nil] at hrecord
  simp [BestPractice.decode, hrecord, hlocation]

/-! ## Summary, assessment and provenance -/

theorem Risk.Recommendation.decode_label (r : Risk.Recommendation) (bound : Nat) :
    Json.decodeName Risk.Recommendation.ofLabel? bound (Json.string r.label).reread = some r := by
  cases r <;> rfl

def Summary.counters (s : Summary) : List Nat := [s.total, s.critical, s.high, s.medium, s.low, s.info]

theorem Summary.decode_reread {s : Summary} (hfits : ∀ n ∈ s.counters, n ≤ maxU64)
    (hscore : s.score.isFinite = true → Json.Recovers Json.decodeDouble .double s.score) {bound : Nat}
    (hbound : 2 < bound) : Summary.decode bound s.toJson.reread = if s.score.isFinite then some s else none := by
  have hrecord : Json.record? _ bound s.toJson.reread = some _ := Json.record?_fields _ (by simp) (by omega)
  have hcounter : ∀ n ∈ s.counters, Json.decodeNat (bound - 1) (nat n).reread = some n :=
    fun n hn => Json.decodeNat_reread (hfits n hn) (bound - 1)
  have hconcerns : Json.decodeList Json.decodeString (bound - 1) (strings s.topConcerns).reread = some s.topConcerns :=
    decode_strings s.topConcerns (by omega)
  have hnumber := Json.decodeDouble_reread hscore (bound - 1)
  simp only [List.map_cons, List.map_nil] at hrecord
  simp only [counters, List.forall_mem_cons] at hcounter
  cases hfinite : s.score.isFinite <;> simp only [hfinite] at hnumber <;>
    simp [Summary.decode, hrecord, hcounter, hconcerns, hnumber, Risk.Recommendation.decode_label]

theorem setCount_append {name : String} {counts : List (String × Nat)} (h : ∀ c ∈ counts, c.1 < name) (count : Nat) :
    setCount name count counts = counts ++ [(name, count)] := by
  induction counts with
  | nil => rfl
  | cons c counts ih =>
    obtain ⟨hc, hrest⟩ := List.forall_mem_cons.mp h
    have hne : name ≠ c.1 := by
      rintro rfl
      exact String.lt_irrefl _ hc
    rw [setCount, if_neg (String.lt_asymm hc), if_neg hne, ih hrest, List.cons_append]

theorem foldl_setCount (done counts : List (String × Nat)) (h : ((done ++ counts).map Prod.fst).Pairwise (· < ·)) :
    counts.foldl (fun acc (name, count) => setCount name count acc) done = done ++ counts := by
  induction counts generalizing done with
  | nil => simp
  | cons c counts ih =>
    obtain ⟨name, count⟩ := c
    have hlast : ∀ d ∈ done, d.1 < name := by
      intro d hd
      rw [List.map_append, List.pairwise_append] at h
      exact h.2.2 d.1 (List.mem_map_of_mem hd) name (by simp)
    have hrest := ih (done ++ [(name, count)]) (by simpa using h)
    rw [List.append_assoc, List.singleton_append] at hrest
    rw [List.foldl_cons, ← hrest, ← setCount_append hlast]

theorem Assessment.decode_reread {a : Assessment} (hfits : ∀ c ∈ a.categories, c.2 ≤ maxU64)
    (hnames : (a.categories.map Prod.fst).Pairwise (· < ·))
    (hscore : a.score.isFinite = true → Json.Recovers Json.decodeDouble .double a.score) {bound : Nat}
    (hbound : 2 < bound) : Assessment.decode bound a.toJson.reread = if a.score.isFinite then some a else none := by
  have hrecord : Json.record? _ bound a.toJson.reread = some _ := Json.record?_fields _ (by simp) (by omega)
  have hcounts := Json.decodeMap_reread (show 1 < bound - 1 by omega)
    fun c hc => Json.decodeNat_reread (hfits c hc) (bound - 1 - 1)
  have hfold := foldl_setCount [] a.categories hnames
  have hnumber := Json.decodeDouble_reread hscore (bound - 1)
  simp only [List.map_cons, List.map_nil] at hrecord
  cases hfinite : a.score.isFinite <;> simp only [hfinite] at hnumber <;>
    simp [Assessment.decode, hrecord, hcounts, hfold, hnumber]

theorem Provenance.decode_reread {p : Provenance} (hfits : p.milliseconds ≤ maxU64) {bound : Nat}
    (hbound : 1 < bound) : Provenance.decode bound p.toJson.reread = some p := by
  have hrecord : Json.record? _ bound p.toJson.reread = some _ := Json.record?_fields _ (by simp) hbound
  simp only [List.map_cons, List.map_nil] at hrecord
  simp [Provenance.decode, hrecord, Json.decodeNat_reread hfits]

/-! ## Reports -/

theorem decodeTimestamp_reread (bound : Nat) (text : String) :
    decodeTimestamp bound (Json.string text).reread = Time.Timestamp.read? text := rfl

namespace Report

def locations (r : Report) : List Location :=
  r.findings.map Finding.location ++ r.gas.map GasOptimization.location ++ r.practices.map BestPractice.location

/-- What the representation of a report ensures: counters have 64 bits, and categories have increasing names. -/
structure Fits (r : Report) : Prop where
  summary : ∀ n ∈ r.summary.counters, n ≤ maxU64
  locations : ∀ l ∈ r.locations, ∀ n ∈ l.counters, n ≤ maxU64
  categories : ∀ c ∈ r.assessment.categories, c.2 ≤ maxU64
  milliseconds : r.provenance.milliseconds ≤ maxU64
  increasing : (r.assessment.categories.map Prod.fst).Pairwise (· < ·)

/-- The numbers that are kept in double precision. -/
def doubles (r : Report) : List Binary := [r.summary.score, r.assessment.score]

/-- The numbers that are kept in single precision. -/
def singles (r : Report) : List Binary := r.findings.map Finding.confidence

def isFinite (r : Report) : Bool := (r.doubles ++ r.singles).all Binary.isFinite

/-- The texts of the instant and of the finite numbers of a report, each alone, read back as what they stand for. -/
structure Recoverable (r : Report) : Prop where
  instant : Time.Timestamp.read? (r.timestamp.text "Z") = some r.timestamp
  doubles : ∀ x ∈ r.doubles, x.isFinite = true → Json.Recovers Json.decodeDouble .double x
  singles : ∀ x ∈ r.singles, x.isFinite = true → Json.Recovers Json.decodeSingle .single x

variable {r : Report}

theorem Fits.finding (h : r.Fits) {f : Finding} (hf : f ∈ r.findings) : ∀ n ∈ f.location.counters, n ≤ maxU64 :=
  h.locations f.location (List.mem_append_left _ (List.mem_append_left _ (List.mem_map_of_mem hf)))

theorem Fits.gas (h : r.Fits) {g : GasOptimization} (hg : g ∈ r.gas) : ∀ n ∈ g.location.counters, n ≤ maxU64 :=
  h.locations g.location (List.mem_append_left _ (List.mem_append_right _ (List.mem_map_of_mem hg)))

theorem Fits.practice (h : r.Fits) {b : BestPractice} (hb : b ∈ r.practices) :
    ∀ n ∈ b.location.counters, n ≤ maxU64 :=
  h.locations b.location (List.mem_append_right _ (List.mem_map_of_mem hb))

theorem isFinite_eq (r : Report) : r.isFinite =
    (r.summary.score.isFinite && r.assessment.score.isFinite && r.findings.all (·.confidence.isFinite)) := by
  simp [isFinite, doubles, singles, Function.comp_def, Bool.and_assoc]

theorem readable (hfits : r.Fits) (hrecover : r.Recoverable) : r.toJson.Readable := by
  have hsummary : r.summary.toJson.Readable := by
    have hcounter := fun n hn => Json.readable_nat (hfits.summary n hn)
    simp only [Summary.counters, List.forall_mem_cons] at hcounter
    have hscore := Json.readable_double (hrecover.doubles r.summary.score (by simp [doubles]))
    simp [Summary.toJson, hcounter, hscore, readable_strings]
  have hassessment : r.assessment.toJson.Readable := by
    have hscore := Json.readable_double (hrecover.doubles r.assessment.score (by simp [doubles]))
    have hcounts : (Json.object (r.assessment.categories.map fun (name, count) => (name, nat count))).Readable := by
      refine .object fun f hf => ?_
      obtain ⟨c, hc, rfl⟩ := List.mem_map.mp hf
      exact Json.readable_nat (hfits.categories c hc)
    rw [Assessment.toJson, Json.readable_object]
    simp only [List.forall_mem_cons]
    exact ⟨hscore, hcounts, .string _, by simp⟩
  have hfindings : ∀ f ∈ r.findings, f.toJson.Readable := fun f hf =>
    Finding.readable (hfits.finding hf) (hrecover.singles f.confidence (List.mem_map_of_mem hf))
  have hgas : ∀ g ∈ r.gas, g.toJson.Readable := fun g hg => by
    simp [GasOptimization.toJson, Location.readable (hfits.gas hg)]
  have hpractices : ∀ b ∈ r.practices, b.toJson.Readable := fun b hb => by
    simp [BestPractice.toJson, Location.readable (hfits.practice hb)]
  have hprovenance : r.provenance.toJson.Readable := by
    simp [Provenance.toJson, Json.readable_nat hfits.milliseconds]
  simp +contextual [toJson, hsummary, hfindings, hgas, hpractices, hassessment, hprovenance]

theorem decode_reread (hfits : r.Fits) (hrecover : r.Recoverable) {bound : Nat} (hbound : 4 < bound) :
    Report.decode bound r.toJson.reread = if r.isFinite then some r else none := by
  have hrecord : Json.record? _ bound r.toJson.reread = some _ := Json.record?_fields _ (by simp) (by omega)
  have hinstant := decodeTimestamp_reread (bound - 1) (r.timestamp.text "Z")
  rw [hrecover.instant] at hinstant
  have hsummary : Summary.decode (bound - 1) r.summary.toJson.reread = _ :=
    Summary.decode_reread hfits.summary (hrecover.doubles r.summary.score (by simp [doubles])) (by omega)
  have hfindings := Json.decodeList_reread (show 1 < bound - 1 by omega) fun f (hf : f ∈ r.findings) =>
    Finding.decode_reread (hfits.finding hf) (hrecover.singles f.confidence (List.mem_map_of_mem hf))
      (show 2 < bound - 1 - 1 by omega)
  have hgas := Json.decodeList_restored (show 1 < bound - 1 by omega) fun g (hg : g ∈ r.gas) =>
    GasOptimization.decode_reread (hfits.gas hg) (show 2 < bound - 1 - 1 by omega)
  have hpractices := Json.decodeList_restored (show 1 < bound - 1 by omega) fun b (hb : b ∈ r.practices) =>
    BestPractice.decode_reread (hfits.practice hb) (show 2 < bound - 1 - 1 by omega)
  have hassessment : Assessment.decode (bound - 1) r.assessment.toJson.reread = _ :=
    Assessment.decode_reread hfits.categories hfits.increasing
      (hrecover.doubles r.assessment.score (by simp [doubles])) (by omega)
  have hprovenance : Provenance.decode (bound - 1) r.provenance.toJson.reread = _ :=
    Provenance.decode_reread hfits.milliseconds (by omega)
  have hfields : Report.decode bound r.toJson.reread = (do
      let timestamp ← decodeTimestamp (bound - 1) (Json.string (r.timestamp.text "Z")).reread
      let summary ← Summary.decode (bound - 1) r.summary.toJson.reread
      let findings ← Json.decodeList Finding.decode (bound - 1) (Json.array (r.findings.map Finding.toJson)).reread
      let gas ← Json.decodeList GasOptimization.decode (bound - 1) (Json.array (r.gas.map GasOptimization.toJson)).reread
      let practices ←
        Json.decodeList BestPractice.decode (bound - 1) (Json.array (r.practices.map BestPractice.toJson)).reread
      let assessment ← Assessment.decode (bound - 1) r.assessment.toJson.reread
      let provenance ← Provenance.decode (bound - 1) r.provenance.toJson.reread
      return { r with timestamp, summary, findings, gas, practices, assessment, provenance }) := by
    simp only [List.map_cons, List.map_nil] at hrecord
    simp [Report.decode, hrecord]
  rw [hfields, hinstant, hsummary, hfindings, hgas, hpractices, hassessment, hprovenance, isFinite_eq]
  -- Each of the three parts with numbers is there or not; the others always are.
  cases r.summary.score.isFinite <;> cases r.assessment.score.isFinite <;>
    cases r.findings.all (·.confidence.isFinite) <;> rfl

end Report

/-- **A report is read back from its JSON text as it was**, exactly if all its numbers are finite. -/
theorem json_restores_report (r : Report) (hfits : r.Fits) (hrecover : r.Recoverable) :
    Report.ofJson? r.json = if r.isFinite then some r else none := by
  rw [Report.ofJson?, Report.json, Json.read?_pretty (Report.readable hfits hrecover), Option.bind_some]
  exact Report.decode_reread hfits hrecover (by decide)

/-- A report with quotes, backslashes, controls and characters of every width in its texts. -/
def annotatedReport : Report where
  id := "audit \"7\""
  timestamp := ⟨20000, 3661, 500000000⟩
  contractName := "Vault\\v2"
  source := "contract Vault\r\n\tis Øwned, 合约 \x7f\x00"
  summary := ⟨1, 0, 1, 0, 0, 0, Numeric.binary64.ofDecimal false 65 (-1), .review, ["Reentrancy 🔁"]⟩
  findings := [{
    id := "RE-01", name := "Reentrancy 🔁", severity := .high, description := "\x08 /\"\\/ \x0c\x1f",
    location := ⟨"src/Vault.sol", 7, 12, some "withdraw", none⟩, explanation := "", scenario := "null",
    recommendation := "[\"check\", \"effect\"]", snippet := "\u2028", references := ["SWC-107", ""],
    confidence := Numeric.binary32.ofDecimal false 8 (-1) }]
  gas := [⟨"Pack", ⟨"", 0, maxU64, none, some "Vault"⟩, "~2000", .low⟩]
  practices := []
  assessment := ⟨Numeric.binary64.ofDecimal false 65 (-1), [("", 0), ("Reentrancy", 1), ("é", maxU64)], "\n"⟩
  provenance := ⟨analysisVersion, rulesVersion, none, maxU64⟩

/-- Here every text, name and counter comes back, and so does the model that is not there. -/
theorem annotatedReport_restored : annotatedReport.Fits ∧ annotatedReport.Recoverable ∧
    Report.ofJson? annotatedReport.json = some annotatedReport := by
  have hfits : annotatedReport.Fits :=
    ⟨by decide, by decide, by decide, by decide, by decide +kernel⟩
  have hrecover : annotatedReport.Recoverable :=
    ⟨by decide +kernel, by decide +kernel, by decide +kernel⟩
  exact ⟨hfits, hrecover, json_restores_report annotatedReport hfits hrecover⟩

end ContractAudit
