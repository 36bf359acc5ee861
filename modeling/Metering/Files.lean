import Metering.Text.Pieces

/-!
# Files

The files and directories at and below the directory in which the service
works, by their paths.

* `Path.read?`: the path that a text names;
* `Files.find`: what is at a path, or why there is nothing;
* `Files.content`, `textOfBytes`: what a file holds, and the text that it is;
* `Files.makeDirectories?`, `Files.put`: more directories, another file.
-/

namespace Metering

/-- A path. -/
structure Path where
  /-- The path leads out of the working directory. Nothing but directories above
      is known there. -/
  isOutside : Bool
  /-- The names on the way. -/
  names : List String
  /-- The path can only lead to a directory, since it ends in a slash. -/
  isDirectory : Bool
deriving Repr, DecidableEq

namespace Path

/-- The path one name further. -/
def enter (p : Path) (name : List Char) : Path :=
  if name = [] ∨ name = ['.'] then { p with isDirectory := true }
  else if name = ['.', '.'] then
    match p.names with
    | [] => ⟨true, [], true⟩
    | names => { p with names := names.dropLast, isDirectory := true }
  else { p with names := p.names ++ [String.ofList name], isDirectory := false }

/-- The path that a text names. The empty text names none. -/
def read? (s : String) : Option Path :=
  match s.toList with
  | [] => none
  | c :: s => some ((Text.pieces '/' (c :: s)).foldl enter ⟨c = '/', [], false⟩)

end Path

/-- What is at a path. Files hold contents of type `α`. -/
inductive Entry (α : Type) where
  /-- A file. -/
  | file (content : α)
  /-- A directory. -/
  | directory
deriving Repr, DecidableEq

/-- The entries of a working directory by the names on the way, the latest first.
    The working directory itself always exists. -/
abbrev Files (α : Type) := List (List String × Entry α)

/-- Why a file cannot be read. -/
inductive AccessError where
  /-- There is nothing at the path. -/
  | notFound
  /-- A file is on the way. -/
  | notADirectory
  /-- There is a directory at the path. -/
  | isADirectory
  /-- The file does not hold a text. -/
  | notText
deriving Repr, DecidableEq

namespace Files

variable {α : Type}

/-- What is at the end of some names. -/
def entry? (fs : Files α) : List String → Option (Entry α)
  | [] => some .directory
  | names => fs.lookup names

/-- There is a file at the end of some names. -/
def isFile (fs : Files α) (names : List String) : Bool :=
  match fs.entry? names with
  | some (.file _) => true
  | _ => false

/-- The beginnings of some names, the empty one first. -/
def beginnings (names : List String) : List (List String) :=
  (List.range (names.length + 1)).map names.take

/-- What is at a path, or why there is nothing. -/
def find (fs : Files α) (p : Path) : Except AccessError (Entry α) :=
  if p.isOutside then if p.names = [] then .ok .directory else .error .notFound
  else
    match fs.entry? p.names with
    | some (.file content) => if p.isDirectory then .error .notADirectory else .ok (.file content)
    | some .directory => .ok .directory
    | none => .error (if (beginnings p.names).any fs.isFile then .notADirectory else .notFound)

/-- What the file holds that a text names. -/
def content (fs : Files α) (name : String) : Except AccessError α :=
  match Path.read? name with
  | none => .error .notFound
  | some p =>
    match fs.find p with
    | .ok (.file content) => .ok content
    | .ok .directory => .error .isADirectory
    | .error e => .error e

/-- A file, or another content of one. -/
def put (fs : Files α) (names : List String) (content : α) : Files α := (names, .file content) :: fs

/-- Makes all directories on a way, unless a file is on it. -/
def makeDirectories? (fs : Files α) (names : List String) : Option (Files α) :=
  let steps := beginnings names
  if steps.any fs.isFile then none else some (steps.map (·, .directory) ++ fs)

end Files

/-- The text that the bytes of a file are. -/
def textOfBytes (bytes : ByteArray) : Except AccessError String :=
  match String.fromUTF8? bytes with
  | some s => .ok s
  | none => .error .notText

end Metering
