import ContractAudit.Finding.Basic

/-!
# Risk scores

A score is a whole number of tenths between 1 and 10. Without a reviewer it follows from the severities of the
findings; a score that a reviewer gives is brought into range and rounded.
-/

namespace ContractAudit.Risk

open Numeric (Binary binary64)

/-- Tenths as a floating-point number. -/
def ofTenths (tenths : Nat) : Binary := binary64.round false tenths 10

/-- Rounded to tenths, a half away from zero. -/
def roundTenths (value : Binary) : Binary :=
  binary64.div (binary64.whole (binary64.mul value (binary64.ofNat 10))) (binary64.ofNat 10)

/-! ## Scores of findings -/

/-- The weights, added one after the other. -/
def total (findings : List Finding) : Binary :=
  findings.foldl (fun total f => binary64.add total f.severity.weight) binary64.zero

/-- One plus half a total. -/
def raise (total : Binary) : Binary := binary64.add (binary64.ofNat 1) (binary64.div total (binary64.ofNat 2))

/-- At most ten. -/
def cap (value : Binary) : Binary := if value.le (binary64.ofNat 10) then value else binary64.ofNat 10

/-- The score of some findings; 1 without findings. -/
def score (findings : List Finding) : Binary :=
  if findings.isEmpty then binary64.ofNat 1 else roundTenths (cap (raise (total findings)))

/-! ## Scores from outside -/

/-- The score if a reviewer gives none that can be used. -/
def neutral : Binary := ofTenths 50

/-- A score from outside: kept between 1 and 10 and rounded to tenths. What is not finite becomes the neutral score. -/
def clamp (value : Binary) : Binary :=
  match value with
  | .nan | .infinite _ => neutral
  | .finite .. =>
    let low := ofTenths 10
    let high := ofTenths 100
    roundTenths (if value.le low then low else if high.le value then high else value)

/-! ## Recommendation -/

inductive Recommendation where
  | safe
  | review
  | doNotDeploy
deriving DecidableEq, Repr

def Recommendation.label : Recommendation → String
  | safe => "SAFE"
  | review => "REVIEW"
  | doNotDeploy => "DO_NOT_DEPLOY"

/-- A critical finding or a score from 8 on blocks; a high finding or a score from 5 on asks for a review. -/
def recommend (hasCritical hasHigh : Bool) (score : Binary) : Recommendation :=
  if hasCritical || (ofTenths 80).le score then .doNotDeploy
  else if hasHigh || (ofTenths 50).le score then .review
  else .safe

end ContractAudit.Risk
