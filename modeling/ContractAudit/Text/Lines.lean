/-!
# Offsets, lines and columns

A source is a list of characters; offsets count the bytes of its UTF-8 form, and a slice exists only if both of its ends
fall between two characters. Lines are counted from one, columns from zero in bytes. `positionAt` reads the coordinate of
an offset off the text; `LineIndex` computes it from the offsets at which lines start.
-/

namespace ContractAudit.Text

/-! ## Slices -/

/-- Bytes of the UTF-8 form. -/
def byteSize : List Char → Nat
  | [] => 0
  | c :: cs => c.utf8Size + byteSize cs

/-- Splits off exactly `n` bytes; `none` if that point lies inside a character or behind the end. -/
def splitBytes? : Nat → List Char → Option (List Char × List Char)
  | 0, cs => some ([], cs)
  | _ + 1, [] => none
  | n + 1, c :: cs =>
    if c.utf8Size ≤ n + 1 then
      (splitBytes? (n + 1 - c.utf8Size) cs).map fun (front, rest) => (c :: front, rest)
    else none

/-- The characters between two byte offsets. -/
def slice? (cs : List Char) (start stop : Nat) : Option (List Char) :=
  if start ≤ stop then
    match splitBytes? start cs with
    | some (_, rest) => (splitBytes? (stop - start) rest).map Prod.fst
    | none => none
  else none

/-- The characters between two byte offsets, empty if there is no such slice. -/
def slice (cs : List Char) (start stop : Nat) : List Char := (slice? cs start stop).getD []

/-! ## Coordinates -/

/-- A place in a source. Line zero means that the place is unknown. -/
structure Position where
  line : Nat
  column : Nat
deriving DecidableEq, Repr, Inhabited

/-- Counts on from `pos` over the first `n` bytes. -/
def advance (pos : Position) : Nat → List Char → Position
  | 0, _ => pos
  | n + 1, [] => ⟨pos.line, pos.column + (n + 1)⟩
  | n + 1, c :: cs =>
    if n + 1 < c.utf8Size then ⟨pos.line, pos.column + (n + 1)⟩
    else
      let next : Position := if c == '\n' then ⟨pos.line + 1, 0⟩ else ⟨pos.line, pos.column + c.utf8Size⟩
      advance next (n + 1 - c.utf8Size) cs

/-- The coordinate of a byte offset. -/
def positionAt (cs : List Char) (offset : Nat) : Position := advance ⟨1, 0⟩ offset cs

/-- The offsets just behind the newlines, for a text that starts at `offset`. -/
def startsAfter (offset : Nat) : List Char → List Nat
  | [] => []
  | c :: cs =>
    let next := offset + c.utf8Size
    if c == '\n' then next :: startsAfter next cs else startsAfter next cs

/-- The offsets at which the lines of a text start, in increasing order. -/
structure LineIndex where
  starts : List Nat
deriving DecidableEq, Repr

def LineIndex.ofChars (cs : List Char) : LineIndex := ⟨0 :: startsAfter 0 cs⟩

/-- The starts that are not behind `offset`. -/
def LineIndex.upTo (index : LineIndex) (offset : Nat) : List Nat := index.starts.takeWhile (· ≤ offset)

/-- The line is the number of starts up to the offset, the column the distance to the last of them. -/
def LineIndex.position (index : LineIndex) (offset : Nat) : Position :=
  let passed := index.upTo offset
  ⟨max passed.length 1, offset - passed.getLast?.getD 0⟩

/-- The text of a line with its newline; the last line ends with the text. -/
def LineIndex.lineText (index : LineIndex) (cs : List Char) (line : Nat) : List Char :=
  let size := byteSize cs
  let start := index.starts[line - 1]?.getD 0
  let stop := min (index.starts[line]?.getD size) size
  slice cs start stop

end ContractAudit.Text
