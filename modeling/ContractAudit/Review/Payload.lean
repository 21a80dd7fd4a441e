import ContractAudit.Text.Blank

/-!
# The payload of a reply

A reply may put its JSON between fences of three backquotes, or among prose. `payload` is the text to be read.
-/

namespace ContractAudit.Review

def fence : List Char := List.replicate 3 (Char.ofNat 0x60)

/-- What stands before the last occurrence of a mark; `none` if there is none. -/
def beforeLast? (mark : List Char) : List Char → Option (List Char)
  | [] => none
  | c :: cs =>
    match beforeLast? mark cs with
    | some front => some (c :: front)
    | none => if mark.isPrefixOf (c :: cs) then some [] else none

def dropAsciiBlanks (cs : List Char) : List Char := cs.dropWhile Text.isAsciiBlank

/-- The text between the fence that the reply starts with, which may name the format, and the last one. -/
def fenced? (cs : List Char) : Option (List Char) :=
  (Text.stripFront? fence (Text.trimChars cs)).map fun rest =>
    let rest := dropAsciiBlanks rest
    let body := dropAsciiBlanks ((Text.stripFront? "json".toList rest).getD rest)
    Text.trimChars ((beforeLast? fence body).getD body)

/-- The text from the first opening brace to the last closing brace, or to the end if none closes behind it. -/
def braced (cs : List Char) : List Char :=
  let cs := Text.trimChars cs
  match cs.dropWhile (· != '\x7b') with
  | [] => cs
  | body => ((beforeLast? ['\x7d'] body).map (· ++ ['\x7d'])).getD body

def payload (cs : List Char) : List Char := (fenced? cs).getD (braced cs)

end ContractAudit.Review
