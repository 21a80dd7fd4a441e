import ContractAudit.Unicode.Category

/-!
# Texts in messages

A quoted text stands between double quotes, with escapes for quotes, backslashes and every character that cannot be seen
by itself: controls, separators other than the space, characters without an assignment, and marks that join the one
before. A trace is an error together with the steps that it passed through on its way out.
-/

namespace ContractAudit.Text

/-! ## Quoted texts -/

open Unicode (CharSet)

/-- Marks that extend the character before them. -/
def joining : CharSet :=
  .unions [Unicode.Category.nonspacingMark, Unicode.Category.enclosingMark, .ofRanges [(0x9BE, 0x9BE), (0x9D7, 0x9D7),
    (0xB3E, 0xB3E), (0xB57, 0xB57), (0xBBE, 0xBBE), (0xBD7, 0xBD7), (0xCC2, 0xCC2), (0xCD5, 0xCD6), (0xD3E, 0xD3E),
    (0xD57, 0xD57), (0xDCF, 0xDCF), (0xDDF, 0xDDF), (0x1B35, 0x1B35), (0x200C, 0x200C), (0x302E, 0x302F),
    (0xFF9E, 0xFF9F), (0x1133E, 0x1133E), (0x11357, 0x11357), (0x114B0, 0x114B0), (0x114BD, 0x114BD),
    (0x115AF, 0x115AF), (0x11930, 0x11930), (0x1D165, 0x1D165), (0x1D16E, 0x1D172), (0xE0020, 0xE007F)]]

/-- Characters that are written by their numbers. -/
def hidden : CharSet := .unions [joining, Unicode.Category.other, Unicode.Category.separator.diff (.singleton 0x20)]

def quoteChar (c : Char) : List Char :=
  if c == '\x00' then ['\\', '0']
  else if c == '\t' then ['\\', 't']
  else if c == '\r' then ['\\', 'r']
  else if c == '\n' then ['\\', 'n']
  else if c == '"' then ['\\', '"']
  else if c == '\\' then ['\\', '\\']
  else if 0x20 ≤ c.toNat && c.toNat < 0x7F then [c]
  else if hidden.contains c then "\\u\x7b".toList ++ Nat.toDigits 16 c.toNat ++ ['\x7d']
  else [c]

def quote (s : String) : String := "\"" ++ String.ofList (s.toList.flatMap quoteChar) ++ "\""

/-! ## Traces -/

/-- The texts of an error and of the steps around it, the outermost first. -/
abbrev Trace := List String

namespace Trace

/-- The error itself. -/
def ofRoot (text : String) : Trace := [text]

/-- Puts one more step around. -/
def wrap (step : String) (trace : Trace) : Trace := step :: trace

/-- The texts in one line. -/
def text (trace : Trace) : String := String.intercalate ": " trace

end Trace

end ContractAudit.Text
