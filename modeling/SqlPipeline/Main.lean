/-
  SqlPipeline/Main.lean
  =====================
  **The program: the command line, the files and the console of the machine.**

  What a command may need is read beforehand, the command is carried out as a pure
  function, and what it has changed is written afterwards.  No database is linked: every
  statement is taken to succeed and to find nothing, and goes to the error output.
-/
import SqlPipeline.Command.Perform
import SqlPipeline.Storage.Script

namespace SqlPipeline.Main

open Storage

/-! ### Reading -/

def partsOf (text : String) : List String :=
  (Path.ofText text).parts

def textOf (parts : List String) : String :=
  "/" ++ "/".intercalate parts

def isRead (name : String) : Bool :=
  [Model.suffix, Seed.suffix, Project.fileName, ".env"].any fun ending => FileTree.hasSuffix ending name

/-- Reads the node with these parts, and if `deep` all below it; files that no command reads
    count as empty. -/
partial def readNode (deep : Bool) (t : FileTree) (parts : List String) : IO FileTree := do
  let place := (← IO.currentDir) / textOf parts
  if ← place.isDir then
    let t := t.put parts .directory
    if deep then (← place.readDir).foldlM (fun t entry => readNode deep t (parts ++ [entry.fileName])) t
    else return t
  else if ← place.pathExists then
    if isRead (parts.getLastD "") then return t.put parts (.file (← IO.FS.readBinFile place).toList)
    else return t.put parts (.file [])
  else return t

def readAbove (t : FileTree) (parts : List String) : IO FileTree :=
  (List.range parts.length).foldlM (fun t n => readNode false t (parts.take (n + 1))) t

def readPlace (t : FileTree) (p : Path) : IO FileTree := do
  let parts := (t.resolve p).parts
  readNode true (← readAbove t parts) parts

def placesOf (words : List String) : List Path :=
  match Command.Line.read words with
  | .error _ => []
  | .ok line =>
      match Command.read line.options line.meaning line.words with
      | .error _ => []
      | .ok (.init name none _ _) => [.ofText name]
      | .ok command => command.paths

/-- Reads the files that a command may need: those of the places that it names, and those of
    the project that the working directory belongs to. -/
def readFiles (words : List String) : IO FileTree := do
  let home := partsOf (← IO.currentDir).toString
  let t ← readAbove ⟨[], home⟩ home
  let t ← (List.range (home.length + 1)).foldlM
    (fun t n => readNode false t (home.take n ++ [Project.fileName])) t
  let t ← (placesOf words).foldlM readPlace t
  match Project.directoryFrom? t t.homePath with
  | .ok (some directory) => readPlace t directory
  | _ => return t

/-- The variables of the machine; none where it does not tell them. -/
def readEnvironment : IO Environment := do
  try
    let bytes ← IO.FS.readBinFile "/proc/self/environ"
    let texts := Text.splitAt '\x00' (Text.decodeUtf8Lossy bytes.toList)
    return (texts.filter (·.contains '=')).map fun cs =>
      (.ofList (cs.takeWhile (· != '=')), .ofList ((cs.dropWhile (· != '=')).drop 1))
  catch _ => return []

/-! ### Writing -/

def writeChanges (before after : FileTree) : IO Unit :=
  (after.nodes.filter fun (parts, node) => before.node? parts != some node).forM fun (parts, node) =>
    match node with
    | .directory => IO.FS.createDirAll (textOf parts)
    | .file bytes => IO.FS.writeBinFile (textOf parts) ⟨bytes.toArray⟩

def writeNotes (desk : Desk Script.State) : IO Unit := do
  (Log.atLeast desk.logging.threshold desk.log).forM fun entry => IO.eprintln entry.line
  desk.connection.driver.calls.forM fun
    | .execute sql _ => IO.eprintln sql
    | _ => pure ()

def writeStop : Stop → IO Unit
  | .exit _ => pure ()
  | .usage .help => IO.println Usage.help.message
  | .usage notice => IO.eprintln notice.message
  | .raised problem => IO.eprintln problem.message

end SqlPipeline.Main

open SqlPipeline SqlPipeline.Main in
def main (words : List String) : IO UInt32 := do
  let files ← readFiles words
  let desk : Desk Storage.Script.State :=
    { files := files, environment := ← readEnvironment, connection := { driver := {} } }
  let (stop, desk) := Command.runOn Storage.Script.driver words desk
  desk.printed.forM fun text => IO.println text
  writeChanges files desk.files
  writeNotes desk
  match stop with
  | none => return 0
  | some stop =>
      writeStop stop
      return stop.code.toUInt32
