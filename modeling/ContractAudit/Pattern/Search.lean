import ContractAudit.Pattern.Parser
import ContractAudit.Pattern.Program

/-!
# Searching

A program is run on all its threads at once, in the order of preference, one character at a time. The match that is
found starts as far to the left as possible, and among those it is the one that the expression prefers. A pattern is a
text that denotes an expression, together with the program that searches for it.
-/

namespace ContractAudit

namespace Pattern

/-- A place in the program, and the offset where its match began. -/
structure Thread where
  pc : Nat
  start : Nat
deriving Repr

/-- Follows the instructions that read nothing. `seen` marks the ones that were reached before by a preferred thread;
`ready` collects, last first, the threads that read a character or accept. -/
def settle (code : Code) (before after : Option Char) : Nat → List Thread → Array Bool → List Thread → List Thread
  | 0, _, _, ready => ready.reverse
  | _ + 1, [], _, ready => ready.reverse
  | fuel + 1, t :: stack, seen, ready =>
    if seen.getD t.pc true then settle code before after fuel stack seen ready
    else
      let seen := seen.setIfInBounds t.pc true
      match code[t.pc]? with
      | some (.split a b) => settle code before after fuel (⟨a, t.start⟩ :: ⟨b, t.start⟩ :: stack) seen ready
      | some (.look l next) =>
        let stack := if l.holds before after then ⟨next, t.start⟩ :: stack else stack
        settle code before after fuel stack seen ready
      | some _ => settle code before after fuel stack seen (t :: ready)
      | none => settle code before after fuel stack seen ready

/-- The threads at a place between two characters. -/
def Program.threads (p : Program) (before after : Option Char) (stack : List Thread) : List Thread :=
  settle p.code before after (stack.length + 2 * p.code.size + 1) stack (Array.replicate p.code.size false) []

/-- The threads that are preferred to the first one that accepts, and the start of that one. -/
def Program.cut (p : Program) : List Thread → List Thread × Option Nat
  | [] => ([], none)
  | t :: ts =>
    match p.code[t.pc]? with
    | some .accept => ([], some t.start)
    | _ =>
      let (kept, found) := p.cut ts
      (t :: kept, found)

/-- The threads behind a character. -/
def Program.advance (p : Program) (c : Char) (ts : List Thread) : List Thread :=
  ts.filterMap fun (t : Thread) =>
    match p.code[t.pc]? with
    | some (.char set next) => if set.contains c then some ⟨next, t.start⟩ else none
    | _ => none

/-- Byte offsets of a match. -/
structure Match where
  start : Nat
  stop : Nat
deriving DecidableEq, Repr

/-- Runs on from the threads `stack` at `offset`. As long as nothing was found, a new thread starts at every place. -/
def Program.run (p : Program) (best : Option Match) (stack : List Thread) (before : Option Char) (offset : Nat) :
    List Char → Option Match
  | [] =>
    let stack := if best.isNone then stack ++ [⟨p.entry, offset⟩] else stack
    match (p.cut (p.threads before none stack)).2 with
    | some start => some ⟨start, offset⟩
    | none => best
  | c :: cs =>
    let stack := if best.isNone then stack ++ [⟨p.entry, offset⟩] else stack
    let (kept, found) := p.cut (p.threads before (some c) stack)
    let best := match found with
      | some start => some ⟨start, offset⟩
      | none => best
    if best.isSome && kept.isEmpty then best
    else p.run best (p.advance c kept) (some c) (offset + c.utf8Size) cs

/-! ## All matches -/

/-- A place in a text: the character before it, its offset, and the text behind it. -/
structure Cursor where
  before : Option Char
  offset : Nat
  rest : List Char

def Cursor.ofChars (cs : List Char) : Cursor := ⟨none, 0, cs⟩

def Cursor.next? (c : Cursor) : Option Cursor :=
  match c.rest with
  | [] => none
  | d :: rest => some ⟨some d, c.offset + d.utf8Size, rest⟩

/-- Goes on to an offset. -/
def Cursor.seek (before : Option Char) (offset target : Nat) : List Char → Cursor
  | [] => ⟨before, offset, []⟩
  | c :: cs => if target ≤ offset then ⟨before, offset, c :: cs⟩ else seek (some c) (offset + c.utf8Size) target cs

def Program.find? (p : Program) (c : Cursor) : Option Match := p.run none [] c.before c.offset c.rest

/-- The next match; one that is empty and ends where the last match ended is passed over. -/
def Program.next? (p : Program) (c : Cursor) (lastStop : Option Nat) : Option Match :=
  (p.find? c).bind fun m =>
    if m.start == m.stop && lastStop == some m.stop then c.next?.bind p.find? else some m

/-- The matches from left to right, each behind the one before. -/
def Program.matchesFrom (p : Program) : Nat → Cursor → Option Nat → List Match
  | 0, _, _ => []
  | fuel + 1, c, lastStop =>
    match p.next? c lastStop with
    | none => []
    | some m => m :: p.matchesFrom fuel (Cursor.seek c.before c.offset m.stop c.rest) (some m.stop)

/-- All matches in a text. Their ends increase, so there are at most as many as places between characters. -/
def Program.findAll (p : Program) (cs : List Char) : List Match := p.matchesFrom (cs.length + 1) (.ofChars cs) none

end Pattern

/-! ## Patterns -/

structure Pattern where
  text : String
  program : Pattern.Program

namespace Pattern

/-- What makes programs of texts, and none of a text that it does not take for a pattern. -/
abbrev Compiler := String → Option Program

/-- The compiler of regular expressions. -/
def compile : Compiler := fun text => (Regex.read? text).map Regex.program

end Pattern

end ContractAudit
