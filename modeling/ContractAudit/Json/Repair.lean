import ContractAudit.Text.Blank

/-!
# Repairing JSON

A text that was cut off, or that has raw newlines in its strings, is made readable: such newlines are escaped, an open
string is ended, and open brackets are closed, the innermost first.
-/

namespace ContractAudit.Json

/-- Where a scanner stands: outside of strings, inside one, or behind a backslash inside one. -/
inductive ScanMode where
  | outside
  | inside
  | escaped
deriving DecidableEq, Repr

/-- What a scanner knows: where it stands, and the brackets that would close what is open, the innermost first. -/
structure Scanner where
  mode : ScanMode
  closers : List Char
deriving DecidableEq, Repr

namespace Scanner

def start : Scanner := ⟨.outside, []⟩

/-- A closing bracket counts only if it closes the innermost open one. -/
def close (c : Char) (closers : List Char) : List Char := if closers.head? == some c then closers.tail else closers

def step (s : Scanner) (c : Char) : Scanner :=
  match s.mode with
  | .escaped => { s with mode := .inside }
  | .inside => if c == '\\' then { s with mode := .escaped } else if c == '"' then { s with mode := .outside } else s
  | .outside =>
    if c == '"' then { s with mode := .inside }
    else if c == '\x7b' then { s with closers := '\x7d' :: s.closers }
    else if c == '[' then { s with closers := ']' :: s.closers }
    else if c == '\x7d' || c == ']' then { s with closers := close c s.closers }
    else s

/-- The state behind a text. -/
def run (s : Scanner) (cs : List Char) : Scanner := cs.foldl step s

/-- What is written for a character. -/
def emit (s : Scanner) (c : Char) : List Char :=
  if s.mode = .inside && c == '\n' then ['\\', 'n']
  else if s.mode = .inside && c == '\r' then ['\\', 'r']
  else [c]

/-- What is written behind the last character. -/
def closing (s : Scanner) : List Char := (if s.mode = .outside then [] else ['"']) ++ s.closers

/-- Repairs a text from a state on. -/
def repair (s : Scanner) : List Char → List Char
  | [] => s.closing
  | c :: cs => s.emit c ++ (s.step c).repair cs

end Scanner

def repair (text : String) : String := String.ofList (Scanner.start.repair text.toList)

end ContractAudit.Json
