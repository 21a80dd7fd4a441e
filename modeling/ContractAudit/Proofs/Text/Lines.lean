import ContractAudit.Text.Lines
import Mathlib.Data.List.Induction

/-!
# Coordinates of byte offsets

The bytes of a text decide its lines: a newline is one byte, and that byte is part of no other character
(`newline_not_mem`). So the index of the starts of lines and the coordinate of an offset are functions of the bytes
(`startsAfter_eq`, `positionAt_eq`), and one byte after the other is read:

* `stepByte` is one step, which goes to a later place (`precedes_stepByte`), hence so does every run
  (`precedes_runBytes`);
* the coordinate behind some bytes is the number of newlines among them and the distance to the last one
  (`exists_lineStart`), which is what the index finds (`LineIndex.position_spec`), also by a binary search
  (`LineIndex.search_iff`);
* the text of a line is a slice between two boundaries (`LineIndex.lineText_spec`).
-/

namespace ContractAudit.Text

/-- The bytes of the UTF-8 form. -/
def utf8 (cs : List Char) : List UInt8 := cs.flatMap String.utf8EncodeChar

/-- The byte of a newline. -/
def newline : UInt8 := 10

theorem utf8_cons (c : Char) (cs : List Char) : utf8 (c :: cs) = String.utf8EncodeChar c ++ utf8 cs := rfl

theorem utf8_append (cs ds : List Char) : utf8 (cs ++ ds) = utf8 cs ++ utf8 ds := List.flatMap_append

theorem byteSize_cons (c : Char) (cs : List Char) : byteSize (c :: cs) = c.utf8Size + byteSize cs := rfl

theorem length_utf8 (cs : List Char) : (utf8 cs).length = byteSize cs := by
  induction cs with
  | nil => rfl
  | cons c cs ih => rw [utf8_cons, List.length_append, String.length_utf8EncodeChar, ih, byteSize_cons]

theorem utf8EncodeChar_newline : String.utf8EncodeChar '\n' = [newline] := by decide

theorem newline_not_mem {c : Char} (hc : c ≠ '\n') : newline ∉ String.utf8EncodeChar c := by
  have hcode : c.val.toNat ≠ 10 := fun h => hc (Char.ext (UInt32.toNat_inj.mp h))
  unfold String.utf8EncodeChar newline
  generalize c.val.toNat = v at hcode
  dsimp only
  split
  · simp [← UInt8.toNat_inj]
    omega
  · split
    · simp [← UInt8.toNat_inj]
      omega
    · split
      · simp [← UInt8.toNat_inj]
        omega
      · simp [← UInt8.toNat_inj]
        omega

/-! ## Reading bytes -/

/-- The place behind one more byte. -/
def stepByte (pos : Position) (b : UInt8) : Position :=
  if b = newline then ⟨pos.line + 1, 0⟩ else ⟨pos.line, pos.column + 1⟩

/-- The place behind some bytes. -/
def runBytes (pos : Position) (bs : List UInt8) : Position := bs.foldl stepByte pos

/-- The offsets just behind the newlines, for bytes that start at `offset`. -/
def byteStarts (offset : Nat) : List UInt8 → List Nat
  | [] => []
  | b :: bs => if b = newline then (offset + 1) :: byteStarts (offset + 1) bs else byteStarts (offset + 1) bs

@[simp] theorem byteStarts_nil (offset : Nat) : byteStarts offset [] = [] := rfl

theorem byteStarts_cons (offset : Nat) (b : UInt8) (bs : List UInt8) : byteStarts offset (b :: bs) =
    if b = newline then (offset + 1) :: byteStarts (offset + 1) bs else byteStarts (offset + 1) bs := rfl

theorem runBytes_append (pos : Position) (bs ds : List UInt8) :
    runBytes pos (bs ++ ds) = runBytes (runBytes pos bs) ds := List.foldl_append

theorem runBytes_of_clear (pos : Position) {bs : List UInt8} (h : newline ∉ bs) :
    runBytes pos bs = ⟨pos.line, pos.column + bs.length⟩ := by
  induction bs generalizing pos with
  | nil => rfl
  | cons b bs ih =>
    rw [List.mem_cons, not_or] at h
    have hstep : runBytes pos (b :: bs) = runBytes (stepByte pos b) bs := rfl
    rw [hstep, ih _ h.2, stepByte, if_neg (Ne.symm h.1), List.length_cons]
    dsimp only
    rw [Nat.add_assoc, Nat.add_comm 1]

theorem byteStarts_append (offset : Nat) (bs ds : List UInt8) :
    byteStarts offset (bs ++ ds) = byteStarts offset bs ++ byteStarts (offset + bs.length) ds := by
  induction bs generalizing offset with
  | nil => rfl
  | cons b bs ih =>
    have hlength : offset + 1 + bs.length = offset + (b :: bs).length := by
      rw [List.length_cons]
      omega
    rw [List.cons_append, byteStarts_cons, byteStarts_cons, ih, hlength]
    split <;> rfl

theorem byteStarts_of_clear (offset : Nat) {bs : List UInt8} (h : newline ∉ bs) : byteStarts offset bs = [] := by
  induction bs generalizing offset with
  | nil => rfl
  | cons b bs ih =>
    rw [List.mem_cons, not_or] at h
    rw [byteStarts_cons, if_neg (Ne.symm h.1), ih _ h.2]

theorem startsAfter_eq (offset : Nat) (cs : List Char) : startsAfter offset cs = byteStarts offset (utf8 cs) := by
  induction cs generalizing offset with
  | nil => rfl
  | cons c cs ih =>
    rw [startsAfter, utf8_cons, byteStarts_append, String.length_utf8EncodeChar, ih]
    by_cases hc : c = '\n'
    · subst hc
      rw [utf8EncodeChar_newline]
      rfl
    · rw [byteStarts_of_clear _ (newline_not_mem hc), List.nil_append]
      simp [hc]

theorem positionAt_eq {cs : List Char} {offset : Nat} (h : offset ≤ byteSize cs) :
    positionAt cs offset = runBytes ⟨1, 0⟩ ((utf8 cs).take offset) := by
  suffices hrun : ∀ pos : Position, advance pos offset cs = runBytes pos ((utf8 cs).take offset) from hrun ⟨1, 0⟩
  induction cs generalizing offset with
  | nil =>
    intro pos
    obtain rfl : offset = 0 := Nat.le_zero.mp h
    rfl
  | cons c cs ih =>
    intro pos
    cases offset with
    | zero => rfl
    | succ n =>
      rw [byteSize_cons] at h
      rw [advance, utf8_cons, List.take_append, String.length_utf8EncodeChar]
      split
      · next hinside =>
        -- the offset lies inside of the character, which is then no newline
        have hc : c ≠ '\n' := by
          rintro rfl
          have hsize : '\n'.utf8Size = 1 := rfl
          omega
        have hclear : newline ∉ (String.utf8EncodeChar c).take (n + 1) :=
          fun hmem => newline_not_mem hc (List.mem_of_mem_take hmem)
        have hlength : ((String.utf8EncodeChar c).take (n + 1)).length = n + 1 := by
          rw [List.length_take, String.length_utf8EncodeChar]
          omega
        rw [Nat.sub_eq_zero_of_le (Nat.le_of_lt hinside), List.take_zero, List.append_nil, runBytes_of_clear _ hclear,
          hlength]
      · next hpast =>
        have hall : (String.utf8EncodeChar c).take (n + 1) = String.utf8EncodeChar c :=
          List.take_of_length_le (by rw [String.length_utf8EncodeChar]; omega)
        rw [hall, runBytes_append, ← ih (by omega)]
        by_cases hc : c = '\n'
        · subst hc
          rw [utf8EncodeChar_newline]
          rfl
        · rw [runBytes_of_clear _ (newline_not_mem hc), String.length_utf8EncodeChar]
          simp [hc]

/-! ## The order of places -/

/-- One place comes before another: on an earlier line, or on the same line and further to the left. -/
def Position.Precedes (p q : Position) : Prop := p.line < q.line ∨ (p.line = q.line ∧ p.column < q.column)

theorem Position.Precedes.trans {p q r : Position} (hpq : p.Precedes q) (hqr : q.Precedes r) : p.Precedes r := by
  unfold Precedes at *
  omega

theorem precedes_stepByte (pos : Position) (b : UInt8) : pos.Precedes (stepByte pos b) := by
  unfold stepByte
  split
  · exact .inl (Nat.lt_succ_self _)
  · exact .inr ⟨rfl, Nat.lt_succ_self _⟩

theorem precedes_runBytes (pos : Position) {bs : List UInt8} (hne : bs ≠ []) : pos.Precedes (runBytes pos bs) := by
  induction bs generalizing pos with
  | nil => exact absurd rfl hne
  | cons b bs ih =>
    have hstep := precedes_stepByte pos b
    by_cases hlast : bs = []
    · rw [hlast]
      exact hstep
    · exact hstep.trans (ih _ hlast)

/-- **A later offset has a later coordinate.** -/
theorem precedes_positionAt {cs : List Char} {offset later : Nat} (hlt : offset < later) (hle : later ≤ byteSize cs) :
    (positionAt cs offset).Precedes (positionAt cs later) := by
  rw [positionAt_eq (by omega), positionAt_eq hle]
  have hsplit : (utf8 cs).take later = (utf8 cs).take offset ++ ((utf8 cs).drop offset).take (later - offset) := by
    rw [← List.take_add, Nat.add_sub_cancel' (Nat.le_of_lt hlt)]
  rw [hsplit, runBytes_append]
  refine precedes_runBytes _ fun hnil => ?_
  have hlength := congrArg List.length hnil
  rw [List.length_take, List.length_drop, length_utf8, List.length_nil] at hlength
  omega

/-! ## Lines -/

/-- The line of an offset starts at `start`: just behind a newline or with the text, and no newline follows up to the
offset. -/
structure LineStart (bytes : List UInt8) (offset start : Nat) : Prop where
  le : start ≤ offset
  behind : start = 0 ∨ (0 < start ∧ bytes[start - 1]? = some newline)
  clear : ∀ i, start ≤ i → i < offset → bytes[i]? ≠ some newline

theorem LineStart.unique {bytes : List UInt8} {offset start start' : Nat} (h : LineStart bytes offset start)
    (h' : LineStart bytes offset start') : start = start' := by
  -- a later one of two starts would be behind a newline that the earlier one rules out
  have hge : ∀ {s t : Nat}, LineStart bytes offset s → LineStart bytes offset t → t ≤ s := by
    intro s t hs ht
    by_contra hlt
    rcases ht.behind with rfl | ⟨hpos, hat⟩
    · omega
    · exact hs.clear (t - 1) (by omega) (by have := ht.le; omega) hat
  exact Nat.le_antisymm (hge h' h) (hge h h')

/-- The line of an offset stops at `stop`: just behind the next newline, or with the text if there is none. -/
structure LineStop (bytes : List UInt8) (offset stop : Nat) : Prop where
  le : offset ≤ stop
  clear : ∀ i, offset ≤ i → i + 1 < stop → bytes[i]? ≠ some newline
  behind : (offset < stop ∧ bytes[stop - 1]? = some newline) ∨
    (stop = bytes.length ∧ ∀ i, offset ≤ i → bytes[i]? ≠ some newline)

theorem length_byteStarts (offset : Nat) (bs : List UInt8) : (byteStarts offset bs).length = bs.count newline := by
  induction bs generalizing offset with
  | nil => rfl
  | cons b bs ih =>
    rw [byteStarts_cons, List.count_cons]
    split
    · next hb => simp [hb, ih]
    · next hb => simp [hb, ih]

theorem exists_lineStart (bs : List UInt8) : ∃ start, (0 :: byteStarts 0 bs).getLast? = some start ∧
    LineStart bs bs.length start ∧ runBytes ⟨1, 0⟩ bs = ⟨bs.count newline + 1, bs.length - start⟩ := by
  induction bs using List.reverseRecOn with
  | nil => exact ⟨0, rfl, ⟨Nat.le_refl _, .inl rfl, fun i _ hi => absurd hi (Nat.not_lt_zero i)⟩, rfl⟩
  | append_singleton bs b ih =>
    obtain ⟨start, hlast, hstart, hrun⟩ := ih
    have hstep : runBytes ⟨1, 0⟩ (bs ++ [b]) = stepByte ⟨bs.count newline + 1, bs.length - start⟩ b := by
      rw [runBytes_append, hrun]
      rfl
    have hlength : (bs ++ [b]).length = bs.length + 1 := List.length_append
    rw [hstep, byteStarts_append, hlength, List.count_append, stepByte]
    by_cases hb : b = newline
    · subst hb
      refine ⟨bs.length + 1, ?_, ⟨Nat.le_refl _, .inr ⟨Nat.succ_pos _, by simp⟩, fun i hi hlt => ?_⟩, by simp⟩
      · have hnew : byteStarts (0 + bs.length) [newline] = [bs.length + 1] := by simp [byteStarts_cons]
        rw [hnew, ← List.cons_append, List.getLast?_concat]
      · omega
    · refine ⟨start, by simpa [byteStarts_cons, hb] using hlast, ⟨by have := hstart.le; omega, ?_, ?_⟩, ?_⟩
      · rcases hstart.behind with rfl | ⟨hpos, hat⟩
        · exact .inl rfl
        · exact .inr ⟨hpos, by rw [List.getElem?_append_left (by have := hstart.le; omega)]; exact hat⟩
      · intro i hi hlt
        by_cases hend : i = bs.length
        · simpa [hend] using hb
        · rw [List.getElem?_append_left (by omega)]
          exact hstart.clear i hi (by omega)
      · have hle := hstart.le
        simp [hb]
        omega

theorem exists_lineStop (offset : Nat) (bs : List UInt8) : ∃ n,
    (byteStarts offset bs).head?.getD (offset + bs.length) = offset + n ∧ LineStop bs 0 n := by
  induction bs generalizing offset with
  | nil => exact ⟨0, rfl, ⟨Nat.le_refl _, fun i _ hi => absurd hi (by omega), .inr ⟨rfl, by simp⟩⟩⟩
  | cons b bs ih =>
    rw [byteStarts_cons]
    by_cases hb : b = newline
    · subst hb
      refine ⟨1, by simp, ⟨Nat.zero_le _, fun i _ hi => absurd hi (by omega), .inl ⟨Nat.one_pos, rfl⟩⟩⟩
    · obtain ⟨n, hhead, hstop⟩ := ih (offset + 1)
      have hfirst : (b :: bs)[0]? ≠ some newline := by simpa using hb
      refine ⟨n + 1, ?_, Nat.zero_le _, ?_, ?_⟩
      · rw [if_neg hb, List.length_cons]
        rw [Nat.add_assoc, Nat.add_comm 1] at hhead
        rw [hhead]
        omega
      · intro i _ hi
        cases i with
        | zero => exact hfirst
        | succ i => exact hstop.clear i (Nat.zero_le _) (by omega)
      · rcases hstop.behind with ⟨hpos, hat⟩ | ⟨hend, hclear⟩
        · refine .inl ⟨Nat.succ_pos _, ?_⟩
          obtain ⟨k, rfl⟩ := Nat.exists_eq_add_one.mpr hpos
          exact hat
        · refine .inr ⟨by rw [hend, List.length_cons], fun i _ => ?_⟩
          cases i with
          | zero => exact hfirst
          | succ i => exact hclear i (Nat.zero_le _)

/-! ## The index -/

namespace LineIndex

variable {cs : List Char} {offset : Nat}

theorem starts_ofChars (cs : List Char) : (ofChars cs).starts = 0 :: byteStarts 0 (utf8 cs) := by
  rw [ofChars, startsAfter_eq]

theorem lt_of_mem_byteStarts {bs : List UInt8} {s : Nat} (h : s ∈ byteStarts offset bs) : offset < s := by
  induction bs generalizing offset with
  | nil => cases h
  | cons b bs ih =>
    rw [byteStarts_cons] at h
    split at h
    · rcases List.mem_cons.mp h with rfl | h
      · exact Nat.lt_succ_self _
      · exact Nat.lt_of_succ_lt (ih h)
    · exact Nat.lt_of_succ_lt (ih h)

theorem takeWhile_byteStarts (offset n : Nat) (bs : List UInt8) :
    (byteStarts offset bs).takeWhile (· ≤ offset + n) = byteStarts offset (bs.take n) := by
  induction bs generalizing offset n with
  | nil => simp
  | cons b bs ih =>
    cases n with
    | zero =>
      rw [List.take_zero, byteStarts_nil]
      cases hstarts : byteStarts offset (b :: bs) with
      | nil => rfl
      | cons s starts =>
        have hs : offset < s := lt_of_mem_byteStarts (hstarts ▸ List.mem_cons_self)
        rw [List.takeWhile_cons, if_neg (by simpa using hs)]
    | succ n =>
      have htail := ih (offset + 1) n
      rw [Nat.add_assoc, Nat.add_comm 1] at htail
      rw [List.take_succ_cons, byteStarts_cons, byteStarts_cons]
      split
      · rw [List.takeWhile_cons, if_pos (by simp), htail]
      · exact htail

theorem upTo_ofChars (cs : List Char) (offset : Nat) :
    (ofChars cs).upTo offset = 0 :: byteStarts 0 ((utf8 cs).take offset) := by
  have htail := takeWhile_byteStarts 0 offset (utf8 cs)
  rw [Nat.zero_add] at htail
  rw [upTo, starts_ofChars, List.takeWhile_cons, if_pos (by simp), htail]

theorem length_upTo (cs : List Char) (offset : Nat) :
    ((ofChars cs).upTo offset).length = ((utf8 cs).take offset).count newline + 1 := by
  rw [upTo_ofChars, List.length_cons, length_byteStarts]

theorem starts_split (h : offset ≤ byteSize cs) :
    (ofChars cs).starts = (ofChars cs).upTo offset ++ byteStarts offset ((utf8 cs).drop offset) := by
  have hlength : ((utf8 cs).take offset).length = offset := by
    rw [List.length_take, length_utf8]
    omega
  rw [starts_ofChars, upTo_ofChars, List.cons_append]
  nth_rewrite 1 [← List.take_append_drop offset (utf8 cs)]
  rw [byteStarts_append, hlength, Nat.zero_add]

/-- **The index gives the coordinate of every offset**: the line is counted by the newlines before it, and the column is
the distance to the start of that line, which is the entry of the index for the line. -/
theorem position_spec (h : offset ≤ byteSize cs) : ∃ start, LineStart (utf8 cs) offset start ∧
    (ofChars cs).position offset = ⟨((utf8 cs).take offset).count newline + 1, offset - start⟩ ∧
    (ofChars cs).starts[((utf8 cs).take offset).count newline]? = some start ∧
    (ofChars cs).position offset = positionAt cs offset := by
  obtain ⟨start, hlast, hstart, hrun⟩ := exists_lineStart ((utf8 cs).take offset)
  have hlength : ((utf8 cs).take offset).length = offset := by
    rw [List.length_take, length_utf8]
    omega
  rw [hlength] at hstart hrun
  have hposition : (ofChars cs).position offset = ⟨((utf8 cs).take offset).count newline + 1, offset - start⟩ := by
    rw [position, length_upTo, upTo_ofChars, hlast]
    simp
  have hentry : (ofChars cs).starts[((utf8 cs).take offset).count newline]? = some start := by
    rw [← upTo_ofChars, List.getLast?_eq_getElem?, length_upTo, Nat.add_sub_cancel] at hlast
    rw [starts_split h, List.getElem?_append_left (by rw [length_upTo]; omega), hlast]
  refine ⟨start, ⟨hstart.le, ?_, fun i hi hlt => ?_⟩, hposition, hentry, ?_⟩
  · rcases hstart.behind with rfl | ⟨hpos, hat⟩
    · exact .inl rfl
    · rw [List.getElem?_take_of_lt (by have := hstart.le; omega)] at hat
      exact .inr ⟨hpos, hat⟩
  · have hclear := hstart.clear i hi hlt
    rwa [List.getElem?_take_of_lt hlt] at hclear
  · rw [hposition, positionAt_eq h, hrun]

theorem stop_spec (h : offset ≤ byteSize cs) : ∃ stop, LineStop (utf8 cs) offset stop ∧ stop ≤ byteSize cs ∧
    (ofChars cs).starts[((utf8 cs).take offset).count newline + 1]?.getD (byteSize cs) = stop := by
  have hsize : offset + ((utf8 cs).drop offset).length = byteSize cs := by
    rw [List.length_drop, length_utf8]
    omega
  have hat : ∀ i, ((utf8 cs).drop offset)[i]? = (utf8 cs)[offset + i]? := fun i => List.getElem?_drop
  obtain ⟨n, hhead, hstop⟩ := exists_lineStop offset ((utf8 cs).drop offset)
  have hn : n ≤ ((utf8 cs).drop offset).length := by
    rcases hstop.behind with ⟨hpos, hlast⟩ | ⟨hend, -⟩
    · have hlt := (List.getElem?_eq_some_iff.mp hlast).1
      omega
    · exact Nat.le_of_eq hend
  refine ⟨offset + n, ⟨Nat.le_add_right _ _, fun i hi hlt => ?_, ?_⟩, by omega, ?_⟩
  · have hclear := hstop.clear (i - offset) (Nat.zero_le _) (by omega)
    rwa [hat, Nat.add_sub_cancel' hi] at hclear
  · rcases hstop.behind with ⟨hpos, hlast⟩ | ⟨hend, hclear⟩
    · rw [hat] at hlast
      exact .inl ⟨by omega, by rw [Nat.add_sub_assoc hpos]; exact hlast⟩
    · refine .inr ⟨by rw [hend, hsize, length_utf8], fun i hi => ?_⟩
      have hlater := hclear (i - offset) (Nat.zero_le _)
      rwa [hat, Nat.add_sub_cancel' hi] at hlater
  · rw [starts_split h, ← length_upTo, List.getElem?_append_right (Nat.le_refl _), Nat.sub_self,
      ← List.head?_eq_getElem?, ← hsize, hhead]

/-! ## Looking up an offset -/

/-- What a binary search for an offset may answer, as the index of the line: that of the offset itself, or the one before
the place where the offset would have to be put in. -/
inductive Search (starts : List Nat) (offset : Nat) : Nat → Prop
  | found {i : Nat} (h : starts[i]? = some offset) : Search starts offset i
  | missing {i : Nat} (hi : i ≤ starts.length) (hfront : ∀ s ∈ starts.take i, s < offset)
    (hback : ∀ s ∈ starts.drop i, offset < s) : Search starts offset (i - 1)

theorem pairwise_byteStarts (offset : Nat) (bs : List UInt8) : (byteStarts offset bs).Pairwise (· < ·) := by
  induction bs generalizing offset with
  | nil => exact .nil
  | cons b bs ih =>
    rw [byteStarts_cons]
    split
    · exact .cons (fun s hs => lt_of_mem_byteStarts hs) (ih _)
    · exact ih _

theorem pairwise_starts (cs : List Char) : (ofChars cs).starts.Pairwise (· < ·) := by
  rw [starts_ofChars]
  exact .cons (fun s hs => lt_of_mem_byteStarts hs) (pairwise_byteStarts 0 _)

theorem starts_around {i start : Nat} (h : (ofChars cs).starts[i]? = some start) :
    (∀ s ∈ (ofChars cs).starts.take (i + 1), s ≤ start) ∧ ∀ s ∈ (ofChars cs).starts.drop (i + 1), start < s := by
  obtain ⟨hi, hget⟩ := List.getElem?_eq_some_iff.mp h
  have hsorted : ((ofChars cs).starts.take i ++ start :: (ofChars cs).starts.drop (i + 1)).Pairwise (· < ·) := by
    rw [← hget, ← List.drop_eq_getElem_cons hi, List.take_append_drop]
    exact pairwise_starts cs
  obtain ⟨-, hbehind, hbefore⟩ := List.pairwise_append.mp hsorted
  refine ⟨fun s hs => ?_, (List.pairwise_cons.mp hbehind).1⟩
  rw [List.take_add_one, h, Option.toList_some, List.mem_append, List.mem_singleton] at hs
  rcases hs with hs | rfl
  · exact Nat.le_of_lt (hbefore s hs start List.mem_cons_self)
  · exact Nat.le_refl _

theorem upTo_of_split {k : Nat} (hfront : ∀ s ∈ (ofChars cs).starts.take k, s ≤ offset)
    (hback : ∀ s ∈ (ofChars cs).starts.drop k, offset < s) :
    (ofChars cs).upTo offset = (ofChars cs).starts.take k := by
  rw [upTo]
  nth_rewrite 1 [← List.take_append_drop k (ofChars cs).starts]
  rw [List.takeWhile_append_of_pos fun s hs => by simpa using hfront s hs]
  cases hdrop : (ofChars cs).starts.drop k with
  | nil => simp
  | cons s rest =>
    have hs : offset < s := hback s (hdrop ▸ List.mem_cons_self)
    rw [List.takeWhile_cons, if_neg (by simpa using hs), List.append_nil]

/-- **A binary search for an offset answers the line of the offset, and nothing else.** -/
theorem search_iff (h : offset ≤ byteSize cs) {i : Nat} :
    Search (ofChars cs).starts offset i ↔ i = ((utf8 cs).take offset).count newline := by
  constructor
  · intro hsearch
    cases hsearch with
    | found hat =>
      obtain ⟨hfront, hback⟩ := starts_around hat
      obtain ⟨hi, -⟩ := List.getElem?_eq_some_iff.mp hat
      have hlength := congrArg List.length (upTo_of_split hfront hback)
      rw [length_upTo, List.length_take] at hlength
      omega
    | @missing k hk hfront hback =>
      have hlength := congrArg List.length (upTo_of_split (fun s hs => Nat.le_of_lt (hfront s hs)) hback)
      rw [length_upTo, List.length_take] at hlength
      omega
  · rintro rfl
    obtain ⟨start, hstart, -, hentry, -⟩ := position_spec h
    obtain ⟨hfront, -⟩ := starts_around hentry
    have hi : ((utf8 cs).take offset).count newline + 1 ≤ (ofChars cs).starts.length :=
      (List.getElem?_eq_some_iff.mp hentry).1
    by_cases hexact : start = offset
    · exact .found (hexact ▸ hentry)
    · have hlt : start < offset := Nat.lt_of_le_of_ne hstart.le hexact
      refine .missing hi (fun s hs => Nat.lt_of_le_of_lt (hfront s hs) hlt) fun s hs => ?_
      rw [starts_split h, ← length_upTo, List.drop_left] at hs
      exact lt_of_mem_byteStarts hs

end LineIndex

/-! ## Texts of lines -/

/-- The offset lies between two characters, or at an end of the text. -/
def IsBoundary (cs : List Char) (offset : Nat) : Prop := ∃ before after, cs = before ++ after ∧ byteSize before = offset

theorem byteSize_append (cs ds : List Char) : byteSize (cs ++ ds) = byteSize cs + byteSize ds := by
  rw [← length_utf8, ← length_utf8, ← length_utf8, utf8_append, List.length_append]

theorem splitBytes?_append (before after : List Char) :
    splitBytes? (byteSize before) (before ++ after) = some (before, after) := by
  induction before with
  | nil => rw [byteSize, List.nil_append, splitBytes?]
  | cons c before ih =>
    have hpos : 0 < c.utf8Size := c.utf8Size_pos
    obtain ⟨n, hn⟩ : ∃ n, byteSize (c :: before) = n + 1 := ⟨byteSize (c :: before) - 1, by rw [byteSize_cons]; omega⟩
    have hrest : n + 1 - c.utf8Size = byteSize before := by
      rw [← hn, byteSize_cons]
      omega
    have hfits : c.utf8Size ≤ n + 1 := by
      rw [← hn, byteSize_cons]
      omega
    rw [hn, List.cons_append, splitBytes?, if_pos hfits, hrest, ih]
    rfl

theorem slice?_append (before text after : List Char) :
    slice? (before ++ (text ++ after)) (byteSize before) (byteSize before + byteSize text) = some text := by
  rw [slice?, if_pos (Nat.le_add_right _ _), splitBytes?_append]
  dsimp only
  rw [Nat.add_sub_cancel_left, splitBytes?_append]
  rfl

theorem exists_slice {cs : List Char} {start stop : Nat} (hstart : IsBoundary cs start) (hstop : IsBoundary cs stop)
    (hle : start ≤ stop) : ∃ before text after, cs = before ++ (text ++ after) ∧ byteSize before = start ∧
      start + byteSize text = stop := by
  obtain ⟨before, rest, rfl, rfl⟩ := hstart
  obtain ⟨front, after, hsplit, rfl⟩ := hstop
  rcases List.append_eq_append_iff.mp hsplit with ⟨text, rfl, rfl⟩ | ⟨extra, rfl, rfl⟩
  · exact ⟨before, text, after, rfl, rfl, (byteSize_append before text).symm⟩
  · rw [byteSize_append] at hle
    exact ⟨front ++ extra, [], rest, by simp, rfl, by rw [byteSize_append]; exact Nat.le_antisymm hle (Nat.le_add_right _ _)⟩

theorem isBoundary_of_mem_startsAfter {cs : List Char} {offset s : Nat} (h : s ∈ startsAfter offset cs) :
    ∃ before after, cs = before ++ after ∧ offset + byteSize before = s := by
  induction cs generalizing offset with
  | nil => cases h
  | cons c cs ih =>
    have htail : s ∈ startsAfter (offset + c.utf8Size) cs → ∃ before after, c :: cs = before ++ after ∧
        offset + byteSize before = s := by
      intro hs
      obtain ⟨before, after, rfl, rfl⟩ := ih hs
      exact ⟨c :: before, after, rfl, by rw [byteSize_cons]; omega⟩
    rw [startsAfter] at h
    split at h
    · rcases List.mem_cons.mp h with rfl | h
      · exact ⟨[c], cs, rfl, rfl⟩
      · exact htail h
    · exact htail h

namespace LineIndex

variable {cs : List Char} {offset : Nat}

theorem isBoundary_of_mem_starts {s : Nat} (h : s ∈ (ofChars cs).starts) : IsBoundary cs s := by
  rcases List.mem_cons.mp h with rfl | h
  · exact ⟨[], cs, rfl, rfl⟩
  · obtain ⟨before, after, hsplit, hsize⟩ := isBoundary_of_mem_startsAfter h
    exact ⟨before, after, hsplit, by omega⟩

/-- **The text of the line of an offset** goes from the start of the line to its stop, and it is a slice of the text. -/
theorem lineText_spec (h : offset ≤ byteSize cs) : ∃ start stop, LineStart (utf8 cs) offset start ∧
    LineStop (utf8 cs) offset stop ∧
    slice? cs start stop = some ((ofChars cs).lineText cs ((ofChars cs).position offset).line) := by
  obtain ⟨start, hstart, hposition, hentry, -⟩ := position_spec h
  obtain ⟨stop, hstop, hsize, hnext⟩ := stop_spec h
  have hboundary : IsBoundary cs stop := by
    cases hfound : (ofChars cs).starts[((utf8 cs).take offset).count newline + 1]? with
    | none =>
      rw [hfound, Option.getD_none] at hnext
      exact ⟨cs, [], by simp, hnext⟩
    | some s =>
      rw [hfound, Option.getD_some] at hnext
      exact hnext ▸ isBoundary_of_mem_starts (List.mem_of_getElem? hfound)
  have hle : start ≤ stop := Nat.le_trans hstart.le hstop.le
  obtain ⟨before, text, after, hcs, rfl, rfl⟩ :=
    exists_slice (isBoundary_of_mem_starts (List.mem_of_getElem? hentry)) hboundary hle
  have hslice : slice? cs (byteSize before) (byteSize before + byteSize text) = some text := by
    rw [hcs]
    exact slice?_append before text after
  refine ⟨_, _, hstart, hstop, ?_⟩
  rw [hposition, lineText]
  dsimp only
  rw [Nat.add_sub_cancel, hentry, hnext, Option.getD_some, Nat.min_eq_left hsize, slice, hslice, Option.getD_some]

end LineIndex

end ContractAudit.Text
