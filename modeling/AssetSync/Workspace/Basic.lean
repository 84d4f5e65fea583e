import AssetSync.Store.Image
import AssetSync.Store.Server
import AssetSync.Workspace.Path

/-!
The files that a syncer sees, and the database server that may run beside them. A file has a number of
its own, so that who has it open still sees it when its path is gone.
-/

namespace AssetSync

inductive Content where
  | text (content : String)
  | bytes (content : ByteArray)
  | database (db : Embedded)

namespace Content

def ofBytes (octets : ByteArray) : Content :=
  match String.fromUTF8? octets with
  | some string => .text string
  | none => .bytes octets

def append (content : Content) (more : String) : Content :=
  match content with
  | .text string => .text (string ++ more)
  | .bytes octets => .ofBytes (octets ++ more.toUTF8)
  | .database db => .database db

def database? : Content → Except ImageFault Embedded
  | .text string => Embedded.ofImage string.toUTF8
  | .bytes octets => Embedded.ofImage octets
  | .database db => .ok db

end Content

abbrev FileId := Nat

inductive Entry where
  | file (id : FileId)
  | directory
  | null
  deriving DecidableEq

inductive FileError where
  | notFound
  | isDirectory
  | notDirectory
  | exists
  | nameTooLong
  | notText
  | nulInName
  deriving DecidableEq

def FileError.message : FileError → String
  | .notFound => "No such file or directory (os error 2)"
  | .isDirectory => "Is a directory (os error 21)"
  | .notDirectory => "Not a directory (os error 20)"
  | .exists => "File exists (os error 17)"
  | .nameTooLong => "File name too long (os error 36)"
  | .notText => "stream did not contain valid UTF-8"
  | .nulInName => "file name contained an unexpected NUL byte"

structure SharedDatabase where
  name : String
  openings : Nat
  db : Embedded

structure Workspace where
  directory : Path
  entries : List (Path × Entry)
  contents : List (FileId × Content)
  shared : List SharedDatabase
  server : Option Server

abbrev FileCall (α : Type) := ExceptT FileError (StateM Workspace) α

namespace Workspace

def commonDirectories : List Path :=
  ["bin", "dev", "etc", "home", "proc", "root", "sys", "tmp", "usr", "var"].map ([·])

def new (directory : String) : Workspace where
  directory := Path.names directory
  entries :=
    let path : Path := Path.names directory
    (["dev", "null"], .null) ::
      (commonDirectories ++ Path.ancestors path ++ [path]).map (·, .directory)
  contents := []
  shared := []
  server := none

def entry? (w : Workspace) (path : Path) : Option Entry :=
  if path.isEmpty then some .directory else w.entries.lookup path

def isDirectory (w : Workspace) (path : Path) : Bool :=
  w.entry? path == some .directory

def put (w : Workspace) (path : Path) (entry : Entry) : Workspace :=
  { w with entries := (path, entry) :: w.entries.filter (·.1 ≠ path) }

def remove (w : Workspace) (path : Path) : Workspace :=
  { w with entries := w.entries.filter (!path.isPrefixOf ·.1) }

def content? (w : Workspace) (id : FileId) : Option Content :=
  w.contents.lookup id

def setContent (w : Workspace) (id : FileId) (content : Content) : Workspace :=
  { w with contents := (id, content) :: w.contents.filter (·.1 ≠ id) }

def create (w : Workspace) (path : Path) (content : Content) : FileId × Workspace :=
  let id := (w.contents.map (·.1 + 1)).foldl max 0
  (id, (w.setContent id content).put path (.file id))

def nameSizeLimit : Nat := 255

def textSizeLimit : Nat := 4095

def step (w : Workspace) (path : Path) (name : String) : Except FileError Path :=
  if !w.isDirectory path then .error .notDirectory
  else if name == "." then .ok path
  else if name == ".." then .ok path.dropLast
  else if nameSizeLimit < name.utf8ByteSize then .error .nameTooLong
  else if (w.entry? (path ++ [name])).isNone then .error .notFound
  else .ok (path ++ [name])

def start (w : Workspace) (text : String) : Path :=
  if text.startsWith "/" then [] else w.directory

def checkText (text : String) : Except FileError Unit :=
  if text.contains '\x00' then .error .nulInName
  else if text.isEmpty then .error .notFound
  else if textSizeLimit < text.utf8ByteSize then .error .nameTooLong
  else .ok ()

def walk (w : Workspace) (text : String) : Except FileError Path := do
  checkText text
  (Path.names text).foldlM w.step (w.start text)

def newPath (w : Workspace) (text : String) : Except FileError Path := do
  checkText text
  match ((text.splitOn "/").filter (!·.isEmpty)).reverse with
  | [] => .error .exists
  | name :: above =>
    let parent ← above.reverse.foldlM w.step (w.start text)
    match w.step parent name with
    | .ok _ => .error .exists
    | .error .notFound => .ok (parent ++ [name])
    | .error e => .error e

def isDirectoryText (w : Workspace) (text : String) : Bool :=
  match w.walk text with
  | .ok path => w.isDirectory path
  | .error _ => false

def readText (w : Workspace) (text : String) : Except FileError String := do
  match w.entry? (← w.walk text) with
  | some .directory => .error .isDirectory
  | some (.file id) =>
    match w.content? id with
    | some (.text content) => .ok content
    | _ => .error .notText
  | _ => .ok ""

def makeDirectory (text : String) : FileCall Unit := do
  let w ← get
  match w.newPath text with
  | .ok path => set (w.put path .directory)
  | .error e => if w.isDirectoryText text then pure () else throw e

def makeDirectories (depth : Nat) (text : String) : FileCall Unit := do
  if text.isEmpty then return
  match depth with
  | 0 => makeDirectory text
  | depth + 1 =>
    tryCatch (makeDirectory text) fun e =>
      match e, Path.parentText? text with
      | .notFound, some parent => do
        makeDirectories depth parent
        makeDirectory text
      | e, _ => throw e

def write (text : String) (content : Content) : FileCall Unit := do
  let w ← get
  match w.walk text with
  | .ok path =>
    match w.entry? path with
    | some .directory => throw .isDirectory
    | some (.file id) => set (w.setContent id content)
    | _ => pure ()
  | .error .notFound =>
    match w.newPath text with
    | .ok path => if text.endsWith "/" then throw .isDirectory else set (w.create path content).2
    | .error e => throw e
  | .error e => throw e

def append (text more : String) : FileCall Unit := do
  let w ← get
  match (w.walk text).toOption.bind w.entry? with
  | some (.file id) =>
    set (w.setContent id (((w.content? id).getD (.text "")).append more))
  | _ => write text (.text more)

end Workspace

end AssetSync
