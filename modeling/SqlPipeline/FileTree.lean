/-
  SqlPipeline/FileTree.lean
  =========================
  **A tree of directories and files, as a value.**

  Nodes are kept by their full list of parts.  A tree also knows the directory that
  relative paths start from.  Reading and writing follow a path part by part, so two
  dots lead to the parent only where the parts before them are a directory.
-/
import SqlPipeline.Path
import SqlPipeline.Text.Utf8
import SqlPipeline.Text.Lines

namespace SqlPipeline

open Text

/-- What stands at a place of the tree. -/
inductive FileNode where
  | directory
  | file (bytes : List UInt8)
deriving Repr, DecidableEq

/-- Directories and files below the root, and the working directory. -/
structure FileTree where
  nodes : List (List String × FileNode)
  home : List String
deriving Repr

inductive FileError where
  | missing (path : String)
  | exists_ (path : String)
  | notADirectory (path : String)
  | isADirectory (path : String)
  | nameTooLong (path : String)
  | nullCharacter
  | notUtf8 (failure : Utf8Failure)
deriving Repr

def FileError.message : FileError → String
  | .missing path => "[Errno 2] No such file or directory: " ++ quoted path
  | .exists_ path => "[Errno 17] File exists: " ++ quoted path
  | .notADirectory path => "[Errno 20] Not a directory: " ++ quoted path
  | .isADirectory path => "[Errno 21] Is a directory: " ++ quoted path
  | .nameTooLong path => "[Errno 36] File name too long: " ++ quoted path
  | .nullCharacter => "embedded null byte"
  | .notUtf8 failure => failure.message

/-- Whether the failure is one of the file system, and not of the text in a file. -/
def FileError.isSystem : FileError → Bool
  | .nullCharacter | .notUtf8 _ => false
  | _ => true

namespace FileTree

/-- The node with these parts; the root and the ancestors of the working directory are
    directories. -/
def node? (t : FileTree) (parts : List String) : Option FileNode :=
  match t.nodes.lookup parts with
  | some n => some n
  | none => if parts.isPrefixOf t.home then some .directory else none

/-- Follows parts from a directory; what is reached need not exist, but everything before
    the last part has to be a directory. -/
def follow (t : FileTree) (path : String) : (at_ : List String) → List String →
    Except FileError (List String)
  | here, [] => .ok here
  | here, part :: rest =>
      if part.utf8ByteSize > 255 then .error (.nameTooLong path)
      else
        match t.node? here with
        | some .directory => follow t path (if part == ".." then here.dropLast else here ++ [part]) rest
        | some (.file _) => .error (.notADirectory path)
        | none => .error (.missing path)

def longestPath : Nat := 4095

def locate (t : FileTree) (p : Path) : Except FileError (List String) :=
  if p.parts.any (·.contains '\x00') then .error .nullCharacter
  else if p.text.utf8ByteSize > longestPath then .error (.nameTooLong p.text)
  else t.follow p.text (if p.isAbsolute then [] else t.home) p.parts

def lookup (t : FileTree) (p : Path) : Except FileError FileNode := do
  let parts ← t.locate p
  match t.node? parts with
  | some n => .ok n
  | none => .error (.missing p.text)

/-- What a path leads to, if anything; a name that is too long cannot even be looked for. -/
def find? (t : FileTree) (p : Path) : Except FileError (Option FileNode) :=
  match t.lookup p with
  | .ok n => .ok (some n)
  | .error (.nameTooLong path) => .error (.nameTooLong path)
  | .error _ => .ok none

def contains (t : FileTree) (p : Path) : Except FileError Bool :=
  return (← t.find? p).isSome

/-! ### Reading -/

def readBytes (t : FileTree) (p : Path) : Except FileError (List UInt8) := do
  match ← t.lookup p with
  | .file bytes => .ok bytes
  | .directory => .error (.isADirectory p.text)

def readText (t : FileTree) (p : Path) : Except FileError String := do
  let bytes ← t.readBytes p
  match decodeUtf8 0 bytes with
  | .ok cs => .ok (.ofList (unifyNewlines cs))
  | .error failure => .error (.notUtf8 failure)

/-- The text of a file, stretches that are no text being replaced. -/
def readTextLossy (t : FileTree) (p : Path) : Except FileError String := do
  let bytes ← t.readBytes p
  .ok (.ofList (unifyNewlines (decodeUtf8Lossy bytes)))

def entryNames (t : FileTree) (parts : List String) : List String :=
  let below := t.nodes.filterMap fun (q, _) =>
    if q.length == parts.length + 1 && parts.isPrefixOf q then q.getLast? else none
  if parts.isPrefixOf t.home then
    match (t.home.drop parts.length).head? with
    | some name => if below.contains name then below else name :: below
    | none => below
  else below

def list (t : FileTree) (p : Path) : Except FileError (List String) := do
  let parts ← t.locate p
  match t.node? parts with
  | some .directory => .ok (t.entryNames parts)
  | some (.file _) => .error (.notADirectory p.text)
  | none => .error (.missing p.text)

def nodesBelow (t : FileTree) (parts : List String) : List (List String × FileNode) :=
  t.nodes.filterMap fun (q, n) =>
    if q.length > parts.length && parts.isPrefixOf q then some (q.drop parts.length, n) else none

/-! ### Writing -/

def put (t : FileTree) (parts : List String) (n : FileNode) : FileTree :=
  if (t.nodes.lookup parts).isSome then
    { t with nodes := t.nodes.map fun (q, old) => (q, if q = parts then n else old) }
  else { t with nodes := t.nodes ++ [(parts, n)] }

/-- Makes one directory; its parent has to be one. -/
def makeDirectory (t : FileTree) (p : Path) : Except FileError FileTree := do
  let parts ← t.locate p
  match t.node? parts with
  | some _ => .error (.exists_ p.text)
  | none =>
      match t.node? parts.dropLast with
      | some .directory => .ok (t.put parts .directory)
      | some (.file _) => .error (.notADirectory p.text)
      | none => .error (.missing p.text)

/-- Makes a directory and the ones above it that are missing; `fuel` bounds the number of
    levels. -/
def ensureDirectoryWithin (t : FileTree) : (fuel : Nat) → Path → Except FileError FileTree
  | 0, p => .error (.missing p.text)
  | fuel + 1, p =>
      match t.makeDirectory p with
      | .ok t' => .ok t'
      | .error (.missing path) =>
          if p.parts.isEmpty then .error (.missing path)
          else
            match ensureDirectoryWithin t fuel p.parent with
            | .ok above =>
                match above.makeDirectory p with
                | .ok t' => .ok t'
                | .error e => if (above.lookup p).toOption == some .directory then .ok above else .error e
            | .error e => .error e
      | .error e => if (t.lookup p).toOption == some .directory then .ok t else .error e

def ensureDirectory (t : FileTree) (p : Path) : Except FileError FileTree :=
  t.ensureDirectoryWithin (p.parts.length + 1) p

def writeBytes (t : FileTree) (p : Path) (bytes : List UInt8) : Except FileError FileTree := do
  let parts ← t.locate p
  match t.node? parts with
  | some .directory => .error (.isADirectory p.text)
  | some (.file _) => .ok (t.put parts (.file bytes))
  | none =>
      match t.node? parts.dropLast with
      | some .directory => .ok (t.put parts (.file bytes))
      | some (.file _) => .error (.notADirectory p.text)
      | none => .error (.missing p.text)

def writeText (t : FileTree) (p : Path) (s : String) : Except FileError FileTree :=
  t.writeBytes p s.toUTF8.toList

/-! ### Places -/

def homePath (t : FileTree) : Path :=
  ⟨"/", t.home⟩

/-- The parts of a path without dots that lead up; at the root they lead nowhere. -/
def withoutDots (parts : List String) : List String :=
  parts.foldl (fun acc part => if part == ".." then acc.dropLast else acc ++ [part]) []

def resolve (t : FileTree) (p : Path) : Path :=
  ⟨"/", withoutDots (t.homePath.join p).parts⟩

end FileTree

/-! ### Changes one after the other -/

inductive FileStep where
  | directory (path : Path)                    -- with the ones above it, unless it is there
  | file (path : Path) (text : String)         -- in place of what it held
  | newFile (path : Path) (text : String)      -- only where nothing is
deriving Repr, DecidableEq

def FileStep.take (t : FileTree) : FileStep → Except FileError FileTree
  | .directory path => t.ensureDirectory path
  | .file path text => t.writeText path text
  | .newFile path text => do
      if ← t.contains path then return t
      else t.writeText path text

/-- Takes steps up to the first that fails; gives its error, if one does. -/
def FileTree.take (t : FileTree) : List FileStep → FileTree × Option FileError
  | [] => (t, none)
  | step :: rest =>
      match step.take t with
      | .ok t => t.take rest
      | .error e => (t, some e)

end SqlPipeline
