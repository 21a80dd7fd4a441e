import ContractAudit.Text.Blank

/-!
# Directories of texts

A snapshot of text files by their paths, which are made of names with slashes between them.
-/

namespace ContractAudit.Text

/-- Texts by path. -/
structure Files where
  contents : List (String × String)
deriving DecidableEq, Repr

/-- What is found at a path. -/
inductive FileEntry where
  | file (text : String)
  | directory
deriving DecidableEq, Repr

/-- The names on a path, up to those that change nothing. -/
def pathNames (path : String) : List String :=
  let names := (splitWhere (· == '/') path.toList).map String.ofList
  let step := fun (acc : List String) (name : String) =>
    if name.isEmpty || name == "." then acc else if name == ".." then acc.tail else name :: acc
  (if path.startsWith "/" then ["/"] else []) ++ (names.foldl step []).reverse

/-- The path of a name in a directory. -/
def joinPath (directory name : String) : String :=
  if directory.isEmpty || directory.endsWith "/" then directory ++ name else directory ++ "/" ++ name

/-- What stands behind the last dot of the last name on a path, unless the name begins with it. -/
def extension (path : String) : String :=
  let name := ((pathNames path).getLast?.getD "").toList
  match name.reverse.span (· != '.') with
  | (tail, '.' :: front) => if front.isEmpty then "" else String.ofList tail.reverse
  | _ => ""

namespace Files

def entry? (files : Files) (path : String) : Option FileEntry :=
  let names := pathNames path
  match files.contents.find? fun f => pathNames f.1 == names with
  | some (_, text) => some (.file text)
  | none =>
    if files.contents.any fun f => names.isPrefixOf (pathNames f.1) then some .directory else none

def exists? (files : Files) (path : String) : Bool := (files.entry? path).isSome

/-- Takes a file out. -/
def remove (files : Files) (path : String) : Files :=
  ⟨files.contents.filter fun f => pathNames f.1 != pathNames path⟩

/-- Puts a text in the place of a file. -/
def write (files : Files) (path text : String) : Files := ⟨(files.remove path).contents ++ [(path, text)]⟩

end Files

end ContractAudit.Text
