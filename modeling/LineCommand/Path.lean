import LineCommand.Text.Lines

/-!
Paths of files, and what lies at a path. Empty and single-dot parts of a path do not count; two
slashes in front are kept apart from one.
-/
namespace LineCommand

/-- A path. `root` is empty where the path is relative. -/
structure Path where
  root : String
  parts : List String
  deriving DecidableEq, Repr, Inhabited

namespace Path

def ofText (s : String) : Path :=
  let slashes := (s.toList.takeWhile (· == '/')).length
  let root := if slashes = 0 then "" else if slashes = 2 then "//" else "/"
  ⟨root, (Text.splitAt "/" s).filter fun part => !part.isEmpty && part != "."⟩

def text (p : Path) : String :=
  if p.root.isEmpty && p.parts.isEmpty then "." else p.root ++ Text.joined "/" p.parts

def name (p : Path) : String := p.parts.getLast?.getD ""

end Path

inductive Entry
  | absent
  | directory
  | file (text : String)
  deriving DecidableEq, Repr

def Entry.isThere : Entry → Bool
  | .absent => false
  | _ => true

abbrev Folder := List (Path × String)

namespace Folder

/-- What lies at relative parts without steps upwards. The directories above files are there. -/
def entryAt (f : Folder) (parts : List String) : Entry :=
  match f.find? fun (p, _) => p.parts == parts with
  | some (_, text) => .file text
  | none =>
    if parts.isEmpty || f.any fun (p, _) => parts.isPrefixOf p.parts then .directory else .absent

/-- What lies at relative parts, from a directory on. A step is made only from what is a directory;
`above` counts the steps beyond the top directory. -/
def walk (f : Folder) (here : List String) (above : Nat) : List String → Entry
  | [] => if above = 0 then f.entryAt here else .directory
  | part :: rest =>
    if above = 0 && f.entryAt here != .directory then .absent
    else if part = ".." then
      if here.isEmpty then walk f [] (above + 1) rest else walk f here.dropLast above rest
    else if above = 0 then walk f (here ++ [part]) 0 rest
    else .absent

/-- What lies at a path. Of absolute paths only the root is known. -/
def look (f : Folder) (p : Path) : Entry :=
  if p.root.isEmpty then f.walk [] 0 p.parts
  else if p.parts.isEmpty then .directory
  else .absent

def write (f : Folder) (p : Path) (text : String) : Folder :=
  (f.filter fun (q, _) => q != p) ++ [(p, text)]

def remove (f : Folder) (p : Path) : Folder := f.filter fun (q, _) => q != p

end Folder
end LineCommand
