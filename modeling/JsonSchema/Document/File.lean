/-!
Files by their names: paths, what is found under them, and directory trees.

A path is kept without empty parts and without parts that stand for the place itself. Parts that
go up are kept, since the place that they leave has to be a directory.
-/

namespace JsonSchema

/-! ### Paths -/

structure FilePath where
  /-- One slash or two, if the path starts at the root. -/
  root : String
  parts : List String
  deriving DecidableEq, Repr

namespace FilePath

def ofText (s : String) : FilePath :=
  let root := match (s.toList.takeWhile (· == '/')).length with
    | 0 => ""
    | 2 => "//"
    | _ => "/"
  ⟨root, (s.splitOn "/").filter fun p => p != "" && p != "."⟩

def text (p : FilePath) : String :=
  let t := p.root ++ "/".intercalate p.parts
  if t.isEmpty then "." else t

/-- What follows the last point of a name, with the point; a point at either end does not count. -/
def suffixOf (name : List Char) : List Char :=
  let behind := name.reverse.takeWhile (· != '.')
  if behind.isEmpty || name.length ≤ behind.length + 1 then [] else '.' :: behind.reverse

def suffix (p : FilePath) : String :=
  String.ofList (suffixOf ((p.parts.getLast?.getD "").toList))

end FilePath

/-! ### Files -/

inductive ReadDefect where
  | missing
  | notADirectory
  | isADirectory
  | nameTooLong
  | other (cause : String)
  deriving DecidableEq, Repr

def ReadDefect.message : ReadDefect → String
  | missing => "No such file or directory"
  | notADirectory => "Not a directory"
  | isADirectory => "Is a directory"
  | nameTooLong => "File name too long"
  | other cause => cause

abbrev Files := FilePath → Except ReadDefect (List UInt8)

/-! ### Trees -/

inductive FileTree where
  | file (bytes : List UInt8)
  | directory (entries : List (String × FileTree))
  deriving Repr

namespace FileTree

def empty : FileTree := .directory []

/-- Puts a tree at a place, and makes the directories on the way. -/
def put (t : FileTree) (parts : List String) (leaf : FileTree) : FileTree :=
  match parts with
  | [] => leaf
  | name :: rest =>
    let entries := match t with
      | .directory entries => entries
      | _ => []
    let inner := ((entries.find? fun e => e.1 == name).map (·.2)).getD empty
    .directory ((entries.filter fun e => e.1 != name) ++ [(name, inner.put rest leaf)])

/-- The longest name in a directory, in bytes. -/
def longestName : Nat := 255

/-- The longest path, in bytes. -/
def longestPath : Nat := 4095

/-- Goes one part on from a place, given the directories above it. Nothing is known of what lies
above the start. -/
def step (above : List FileTree) (here : FileTree) (name : String) :
    Except ReadDefect (List FileTree × FileTree) :=
  match here with
  | .file _ => .error .notADirectory
  | .directory entries =>
    if name == ".." then
      match above with
      | t :: rest => .ok (rest, t)
      | [] => .ok ([], empty)
    else if longestName < name.utf8ByteSize then .error .nameTooLong
    else match entries.find? fun e => e.1 == name with
      | some e => .ok (here :: above, e.2)
      | none => .error .missing

def walk (above : List FileTree) (here : FileTree) : List String → Except ReadDefect FileTree
  | [] => .ok here
  | name :: rest => do
    let (above, here) ← step above here name
    walk above here rest

/-- The files of a tree. A path that starts at the root finds nothing there. -/
def read (t : FileTree) : Files := fun p =>
  if longestPath < p.text.utf8ByteSize then .error .nameTooLong
  else do
    match ← walk [] (if p.root.isEmpty then t else empty) p.parts with
    | .file bytes => return bytes
    | .directory _ => throw .isADirectory

end FileTree

end JsonSchema
