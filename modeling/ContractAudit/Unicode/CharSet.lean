/-!
# Sets of characters

A set is a list of ranges of code points in increasing order that neither meet nor touch.
-/

namespace ContractAudit.Unicode

structure CharSet where
  ranges : List (Nat × Nat)
deriving DecidableEq, Repr, Inhabited

namespace CharSet

/-- Joins ranges that meet or touch; the ranges are ordered by their first code points. -/
def join : List (Nat × Nat) → List (Nat × Nat)
  | [] => []
  | r :: rs =>
    match join rs with
    | [] => [r]
    | s :: ss => if s.1 ≤ r.2 + 1 then (r.1, max r.2 s.2) :: ss else r :: s :: ss

/-- Merges ranges that are ordered by their first code points. -/
def merge : List (Nat × Nat) → List (Nat × Nat) → List (Nat × Nat)
  | [] => id
  | a :: as => insert a as (merge as)
where
  /-- Puts `a` behind the ranges that start before it; `rest` merges `as` with the others. -/
  insert (a : Nat × Nat) (as : List (Nat × Nat)) (rest : List (Nat × Nat) → List (Nat × Nat)) :
      List (Nat × Nat) → List (Nat × Nat)
    | [] => a :: as
    | b :: bs => if b.1 < a.1 then b :: insert a as rest bs else a :: rest (b :: bs)

/-- Any ranges, in any order. -/
def ofRanges (rs : List (Nat × Nat)) : CharSet := ⟨join (rs.foldr (fun r => merge [r]) [])⟩

def singleton (n : Nat) : CharSet := ⟨[(n, n)]⟩

def empty : CharSet := ⟨[]⟩

/-- Membership by code point. The ranges are ordered, so the search ends at the first one behind it. -/
def hasIn (n : Nat) : List (Nat × Nat) → Bool
  | [] => false
  | (low, high) :: rs => if n < low then false else if n ≤ high then true else hasIn n rs

def has (s : CharSet) (n : Nat) : Bool := hasIn n s.ranges

def contains (s : CharSet) (c : Char) : Bool := s.has c.toNat

def union (s t : CharSet) : CharSet := ⟨join (merge s.ranges t.ranges)⟩

def unions (sets : List CharSet) : CharSet := sets.foldr union empty

/-- The gaps between `low` and `high`. -/
def gaps (high : Nat) : Nat → List (Nat × Nat) → List (Nat × Nat)
  | low, [] => if low ≤ high then [(low, high)] else []
  | low, (a, b) :: rs =>
    if low < a then (low, min (a - 1) high) :: gaps high (b + 1) rs else gaps high (max low (b + 1)) rs

/-- The code points of characters; surrogates are none. -/
def all : CharSet := ⟨[(0, 0xD7FF), (0xE000, 0x10FFFF)]⟩

def inter (s t : CharSet) : CharSet :=
  ofRanges (s.ranges.flatMap fun a => t.ranges.filterMap fun b =>
    let low := max a.1 b.1
    let high := min a.2 b.2
    if low ≤ high then some (low, high) else none)

/-- All characters that are not in the set. -/
def complement (s : CharSet) : CharSet := inter all ⟨gaps 0x10FFFF 0 s.ranges⟩

def diff (s t : CharSet) : CharSet := s.inter t.complement

def symmDiff (s t : CharSet) : CharSet := (s.union t).diff (s.inter t)

/-! ## Tables -/

/-- Ranges from pairs of numbers: the distance from the end of the last range, and the length behind the first one. -/
def readRuns (last : Nat) : List Nat → List (Nat × Nat)
  | gap :: size :: rest => (last + gap, last + gap + size) :: readRuns (last + gap + size) rest
  | _ => []

/-- A set written as runs. -/
def ofRuns (runs : List Nat) : CharSet := ⟨join (readRuns 0 runs)⟩

end CharSet

end ContractAudit.Unicode
