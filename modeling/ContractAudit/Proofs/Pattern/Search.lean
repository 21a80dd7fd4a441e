import ContractAudit.Pattern.Search
import ContractAudit.Text.Lines

/-!
# Where matches are found

A search never leaves the text, and it goes on behind what it has found. A thread keeps the place where it began
(`starts_settle`, `starts_cut`, `starts_advance`), so that a match starts where the search did or later
(`within_run`), and each match is behind the one before (`pairwise_findAll`).
-/

namespace ContractAudit.Pattern

open Text (byteSize)

/-- Every thread began at one of the places in `P`. -/
def Starts (P : Nat → Prop) (ts : List Thread) : Prop := ∀ t ∈ ts, P t.start

variable {P : Nat → Prop}

theorem Starts.cons {t : Thread} {ts : List Thread} (ht : P t.start) (hts : Starts P ts) : Starts P (t :: ts) :=
  List.forall_mem_cons.mpr ⟨ht, hts⟩

theorem Starts.append {ts us : List Thread} (hts : Starts P ts) (hus : Starts P us) : Starts P (ts ++ us) :=
  List.forall_mem_append.mpr ⟨hts, hus⟩

theorem Starts.ite {c : Prop} [Decidable c] {ts us : List Thread} (hts : Starts P ts) (hus : Starts P us) :
    Starts P (if c then ts else us) := by
  split
  · exact hts
  · exact hus

theorem Starts.mono {Q : Nat → Prop} {ts : List Thread} (h : Starts P ts) (himp : ∀ n, P n → Q n) : Starts Q ts :=
  fun t ht => himp _ (h t ht)

theorem starts_settle (code : Code) (before after : Option Char) (fuel : Nat) (stack : List Thread) (seen : Array Bool)
    (ready : List Thread) (hstack : Starts P stack) (hready : Starts P ready) :
    Starts P (settle code before after fuel stack seen ready) := by
  have hdone : ∀ {ready : List Thread}, Starts P ready → Starts P ready.reverse :=
    fun h t ht => h t (List.mem_reverse.mp ht)
  fun_induction settle code before after fuel stack seen ready with
  | case1 => exact hdone hready
  | case2 => exact hdone hready
  | case3 _ t stack seen ready _ ih => exact ih (List.forall_mem_cons.mp hstack).2 hready
  | case4 _ t stack seen ready _ _ a b _ ih =>
    obtain ⟨ht, hrest⟩ := List.forall_mem_cons.mp hstack
    exact ih (.cons ht (.cons ht hrest)) hready
  | case5 _ t stack seen ready _ _ l next _ _ ih =>
    obtain ⟨ht, hrest⟩ := List.forall_mem_cons.mp hstack
    exact ih (.ite (.cons ht hrest) hrest) hready
  | case6 _ t stack seen ready _ _ _ _ _ _ ih =>
    obtain ⟨ht, hrest⟩ := List.forall_mem_cons.mp hstack
    exact ih hrest (.cons ht hready)
  | case7 _ t stack seen ready _ _ _ ih => exact ih (List.forall_mem_cons.mp hstack).2 hready

namespace Program

variable (p : Program)

theorem starts_threads (before after : Option Char) {stack : List Thread} (h : Starts P stack) :
    Starts P (p.threads before after stack) :=
  starts_settle _ _ _ _ _ _ _ h fun _ ht => absurd ht List.not_mem_nil

theorem starts_cut {ts : List Thread} (h : Starts P ts) :
    Starts P (p.cut ts).1 ∧ ∀ start, (p.cut ts).2 = some start → P start := by
  induction ts with
  | nil => exact ⟨h, fun _ hfound => absurd hfound (by simp [cut])⟩
  | cons t ts ih =>
    obtain ⟨ht, hts⟩ := List.forall_mem_cons.mp h
    rw [cut]
    split
    · exact ⟨fun _ ht => absurd ht List.not_mem_nil, fun start hfound => Option.some.inj hfound ▸ ht⟩
    · exact ⟨.cons ht (ih hts).1, (ih hts).2⟩

theorem starts_advance (c : Char) {ts : List Thread} (h : Starts P ts) : Starts P (p.advance c ts) := by
  intro u hu
  obtain ⟨t, ht, hstep⟩ := List.mem_filterMap.mp hu
  split at hstep
  · split at hstep
    · exact Option.some.inj hstep ▸ h t ht
    · cases hstep
  · cases hstep

end Program

/-! ## One match -/

/-- A match lies between two offsets. -/
structure Match.Within (low high : Nat) (m : Match) : Prop where
  low_le : low ≤ m.start
  start_le : m.start ≤ m.stop
  le_high : m.stop ≤ high

theorem Match.Within.mono {low low' high high' : Nat} {m : Match} (h : m.Within low high) (hlow : low' ≤ low)
    (hhigh : high ≤ high') : m.Within low' high' :=
  ⟨Nat.le_trans hlow h.low_le, h.start_le, Nat.le_trans h.le_high hhigh⟩

namespace Program

variable (p : Program)

/-- What a run knows at a place: the threads, to which a new one is added as long as nothing was found, that are
preferred to the first one that accepts, and the start of that one. -/
def place (best : Option Match) (stack : List Thread) (before after : Option Char) (offset : Nat) :
    List Thread × Option Nat :=
  p.cut (p.threads before after (if best.isNone then stack ++ [⟨p.entry, offset⟩] else stack))

theorem starts_place {low offset : Nat} {stack : List Thread} (best : Option Match) (before after : Option Char)
    (hlow : low ≤ offset) (h : Starts (fun n => low ≤ n ∧ n ≤ offset) stack) :
    Starts (fun n => low ≤ n ∧ n ≤ offset) (p.place best stack before after offset).1 ∧
      ∀ start, (p.place best stack before after offset).2 = some start → low ≤ start ∧ start ≤ offset := by
  have hentry : Starts (fun n => low ≤ n ∧ n ≤ offset) [⟨p.entry, offset⟩] :=
    List.forall_mem_singleton.mpr ⟨hlow, Nat.le_refl _⟩
  refine starts_cut p (starts_threads p before after ?_)
  exact .ite (.append h hentry) h

/-- The match that is known behind a place: a thread that accepts there is preferred to what was found before. -/
def better (best : Option Match) (found : Option Nat) (offset : Nat) : Option Match :=
  (found.map fun start => ⟨start, offset⟩).or best

theorem run_nil (best : Option Match) (stack : List Thread) (before : Option Char) (offset : Nat) :
    p.run best stack before offset [] = better best (p.place best stack before none offset).2 offset := by
  rw [run, better, ← place]
  cases (p.place best stack before none offset).2 <;> rfl

theorem run_cons (best : Option Match) (stack : List Thread) (before : Option Char) (offset : Nat) (c : Char)
    (cs : List Char) : p.run best stack before offset (c :: cs) =
      let (kept, found) := p.place best stack before (some c) offset
      if (better best found offset).isSome && kept.isEmpty then better best found offset
      else p.run (better best found offset) (p.advance c kept) (some c) (offset + c.utf8Size) cs := by
  rw [run]
  dsimp only
  rw [← place]
  cases (p.place best stack before (some c) offset).2 <;> rfl

theorem within_better {low offset : Nat} {best : Option Match} {found : Option Nat}
    (hbest : ∀ m, best = some m → m.Within low offset)
    (hfound : ∀ start, found = some start → low ≤ start ∧ start ≤ offset) {m : Match}
    (h : better best found offset = some m) : m.Within low offset := by
  cases found with
  | none => exact hbest m h
  | some start =>
    obtain ⟨hge, hle⟩ := hfound start rfl
    exact Option.some.inj h ▸ ⟨hge, hle, Nat.le_refl _⟩

/-- A run from threads that began behind `low` finds a match behind `low`, which does not leave the text. -/
theorem within_run {low : Nat} {best : Option Match} {stack : List Thread} {before : Option Char} {offset : Nat}
    {cs : List Char} (hlow : low ≤ offset) (hstack : Starts (fun n => low ≤ n ∧ n ≤ offset) stack)
    (hbest : ∀ m, best = some m → m.Within low offset) {m : Match} (h : p.run best stack before offset cs = some m) :
    m.Within low (offset + byteSize cs) := by
  induction cs generalizing best stack before offset with
  | nil =>
    obtain ⟨-, hfound⟩ := starts_place p best before none hlow hstack
    rw [run_nil] at h
    exact within_better hbest hfound h
  | cons c cs ih =>
    obtain ⟨hkept, hfound⟩ := starts_place p best before (some c) hlow hstack
    rw [run_cons] at h
    dsimp only at h
    rw [byteSize, ← Nat.add_assoc]
    split at h
    · exact (within_better hbest hfound h).mono (Nat.le_refl _) (by omega)
    · refine ih (by omega) (starts_advance p c (hkept.mono fun n hn => ⟨hn.1, by omega⟩)) (fun n hn => ?_) h
      exact (within_better hbest hfound hn).mono (Nat.le_refl _) (Nat.le_add_right _ _)

/-! ## All matches -/

end Program

/-- The offset behind the text of a cursor. -/
def Cursor.stop (c : Cursor) : Nat := c.offset + byteSize c.rest

theorem Cursor.next?_spec {c d : Cursor} (h : c.next? = some d) : c.offset ≤ d.offset ∧ d.stop = c.stop := by
  obtain ⟨before, offset, rest⟩ := c
  cases rest with
  | nil => cases h
  | cons e rest =>
    cases h
    exact ⟨Nat.le_add_right _ _, by simp only [stop, byteSize]; omega⟩

/-- Going on to an offset in the text arrives there, or behind the character around it. -/
theorem Cursor.seek_spec (before : Option Char) (offset target : Nat) (cs : List Char)
    (h : target ≤ offset + byteSize cs) :
    offset ≤ (seek before offset target cs).offset ∧ target ≤ (seek before offset target cs).offset ∧
      (seek before offset target cs).stop = offset + byteSize cs := by
  induction cs generalizing before offset with
  | nil => exact ⟨Nat.le_refl _, h, rfl⟩
  | cons c cs ih =>
    rw [seek]
    rw [byteSize] at h
    split
    · next hle => exact ⟨Nat.le_refl _, hle, rfl⟩
    · obtain ⟨hge, htarget, hstop⟩ := ih (some c) (offset + c.utf8Size) (by omega)
      exact ⟨by omega, htarget, by rw [hstop, byteSize]; omega⟩

namespace Program

variable (p : Program)

theorem within_find? {c : Cursor} {m : Match} (h : p.find? c = some m) : m.Within c.offset c.stop :=
  within_run p (Nat.le_refl _) (fun _ ht => absurd ht List.not_mem_nil) (fun _ hnone => absurd hnone (by simp)) h

theorem within_next? {c : Cursor} {last : Option Nat} {m : Match} (h : p.next? c last = some m) :
    m.Within c.offset c.stop := by
  obtain ⟨first, hfirst, hnext⟩ := Option.bind_eq_some_iff.mp h
  split at hnext
  · obtain ⟨d, hd, hfind⟩ := Option.bind_eq_some_iff.mp hnext
    obtain ⟨hoffset, hstop⟩ := Cursor.next?_spec hd
    exact (within_find? p hfind).mono hoffset (Nat.le_of_eq hstop)
  · exact Option.some.inj hnext ▸ within_find? p hfirst

theorem pairwise_matchesFrom (fuel : Nat) (c : Cursor) (last : Option Nat) :
    (∀ m ∈ p.matchesFrom fuel c last, m.Within c.offset c.stop) ∧
      (p.matchesFrom fuel c last).Pairwise fun m n => m.stop ≤ n.start := by
  induction fuel generalizing c last with
  | zero => exact ⟨fun _ hm => absurd hm List.not_mem_nil, .nil⟩
  | succ fuel ih =>
    rw [matchesFrom]
    split
    · exact ⟨fun _ hm => absurd hm List.not_mem_nil, .nil⟩
    · next m hnext =>
      have hm := within_next? p hnext
      obtain ⟨hoffset, htarget, hstop⟩ := Cursor.seek_spec c.before c.offset m.stop c.rest hm.le_high
      obtain ⟨hrest, hordered⟩ := ih (Cursor.seek c.before c.offset m.stop c.rest) (some m.stop)
      refine ⟨List.forall_mem_cons.mpr ⟨hm, fun n hn => ?_⟩, .cons (fun n hn => ?_) hordered⟩
      · exact (hrest n hn).mono hoffset (Nat.le_of_eq hstop)
      · exact Nat.le_trans htarget (hrest n hn).low_le

end Program

/-- Matches in a text in the order of the text: each lies in the text, and behind the one before. -/
structure LeftToRight (cs : List Char) (found : List Match) : Prop where
  within : ∀ m ∈ found, m.start ≤ m.stop ∧ m.stop ≤ byteSize cs
  disjoint : found.Pairwise fun m n => m.stop ≤ n.start

theorem Program.leftToRight_findAll (p : Program) (cs : List Char) : LeftToRight cs (p.findAll cs) := by
  have hstop : (Cursor.ofChars cs).stop = byteSize cs := Nat.zero_add _
  obtain ⟨hwithin, hordered⟩ := p.pairwise_matchesFrom (cs.length + 1) (.ofChars cs) none
  exact ⟨fun m hm => ⟨(hwithin m hm).start_le, hstop ▸ (hwithin m hm).le_high⟩, hordered⟩

/-- The matches that are not empty. -/
def occurrences (found : List Match) : List Match := found.filter fun m => m.start < m.stop

namespace LeftToRight

variable {cs : List Char} {found : List Match} (h : LeftToRight cs found)
include h

theorem start_lt {m : Match} (hm : m ∈ occurrences found) : m.start < byteSize cs := by
  obtain ⟨hfound, hpos⟩ := List.mem_filter.mp hm
  exact Nat.lt_of_lt_of_le (of_decide_eq_true hpos) (h.within m hfound).2

theorem pairwise_occurrences : (occurrences found).Pairwise fun m n => m.start < n.start := by
  refine List.Pairwise.imp_of_mem (fun hm _ hle => ?_) (h.disjoint.filter _)
  exact Nat.lt_of_lt_of_le (of_decide_eq_true (List.mem_filter.mp hm).2) hle

end LeftToRight

end ContractAudit.Pattern
