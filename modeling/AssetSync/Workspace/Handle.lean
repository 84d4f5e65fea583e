import AssetSync.Config.Basic
import AssetSync.Config.Environment
import AssetSync.Store.Connection
import AssetSync.Workspace.Address
import AssetSync.Workspace.Basic

namespace AssetSync

structure OpenFile where
  id : FileId
  path : Path
  isReadOnly : Bool
  deriving DecidableEq

inductive StoreHandle where
  | file (file : OpenFile)
  | unnamed (db : Embedded)
  | shared (name : String)
  | server
  deriving DecidableEq

inductive DatabaseError where
  | files (e : FileError)
  | nulInName (position : Nat)
  | address (e : AddressError)
  | cannotOpen (name : String)
  | cannotRead
  | cannotWrite
  | readOnly
  | image (fault : ImageFault)
  deriving DecidableEq

namespace DatabaseError

def readOnlyText : String := "attempt to write a readonly database"

def text : DatabaseError → String
  | .files e => e.message
  | .nulInName position => "nul byte found in provided data at position: " ++ toString position
  | .address e => e.text
  | .cannotOpen name => "unable to open database file: " ++ name
  | .cannotRead => "disk I/O error"
  | .cannotWrite => "unable to open database file"
  | .readOnly => readOnlyText
  | .image fault => fault.text

def code? : DatabaseError → Option String
  | .files _ => none
  | .nulInName position => some (text (.nulInName position))
  | .address (.modeNotAllowed _ _) => some "Error code 3: Access permission denied"
  | .address _ => some "Error code 1: SQL error or missing database"
  | .cannotOpen _ => some "Error code 14: Unable to open the database file"
  | .cannotRead => some "Error code 10: Some kind of disk I/O error occurred"
  | .cannotWrite => some "Error code 14: Unable to open the database file"
  | .readOnly => some "Error code 8: Attempt to write a readonly database"
  | .image .malformed => some "Error code 11: The database disk image is malformed"
  | .image .notDatabase => some "Error code 26: File opened that is not a database file"

def asStoreError : DatabaseError → StoreError
  | .files e => .io e.message
  | e => .backend e.text

def chain (e : DatabaseError) : List String :=
  e.asStoreError.message :: e.text :: e.code?.toList

end DatabaseError

inductive OpenError where
  | configured (cause : DatabaseError)
  | standard (cause : DatabaseError)
  | server (cause : ConnectError)
  deriving DecidableEq

namespace OpenError

def message : OpenError → String
  | .configured _ => "Failed to open tracking DB"
  | .standard _ => "Failed to open default tracking DB"
  | .server cause =>
    "failed to open Postgres tracking store: " ++ (StoreError.backend cause.message).message

def causes : OpenError → List String
  | .configured cause => cause.chain
  | .standard cause => cause.chain
  | .server _ => []

end OpenError

abbrev Opening (ε α : Type) := ExceptT ε (StateM Workspace) α

namespace Workspace

/-- The longest path of a database, with what is put behind it for its journal. -/
def databasePathLimit : Nat := 512

def journalSuffix : String := "-journal"

def pathSize (path : Path) : Nat :=
  path.foldl (fun n name => n + name.utf8ByteSize + 1) 0

/-- Follows one more name on the way to a database. Two dots take back the name before them, which need
not be a directory. -/
def databaseStep (w : Workspace) (path : Path) (name : String) : Option Path :=
  if name == "." then some path
  else if name == ".." then some path.dropLast
  else if databasePathLimit < pathSize path + name.utf8ByteSize + 2 then none
  else
    match path.ancestors.find? (!w.isDirectory ·), w.entry? path with
    | none, some .directory =>
      if nameSizeLimit < name.utf8ByteSize then none else some (path ++ [name])
    | none, some _ => none
    | some above, _ => if (w.entry? above).isSome then none else some (path ++ [name])
    | none, none => some (path ++ [name])

def databasePath? (w : Workspace) (name : String) : Option Path := do
  let names := (name.splitOn "/").filter (!·.isEmpty)
  let path ← names.foldlM w.databaseStep (w.start name)
  if path.isEmpty || databasePathLimit < pathSize path + journalSuffix.utf8ByteSize then none
  else some path

def openPath (name : String) (a : DatabaseAddress) : Opening DatabaseError OpenFile := do
  let w ← get
  let some path := w.databasePath? a.path | throw (.cannotOpen name)
  match w.entry? path with
  | some (.file id) => return ⟨id, path, a.isReadOnly⟩
  | some entry =>
    if a.mode != .read then throw (.cannotOpen name)
    else if entry = .directory then throw .cannotRead
    else throw .readOnly
  | none =>
    if a.mode == .create && w.isDirectory path.dropLast then
      let (id, w) := w.create path (.text "")
      set w
      return ⟨id, path, a.isReadOnly⟩
    else throw (.cannotOpen name)

def completeTables (file : OpenFile) : Opening DatabaseError Unit := do
  let w ← get
  match ((w.content? file.id).getD (.text "")).database? with
  | .error fault => throw (.image fault)
  | .ok db =>
    if !db.missing.isEmpty then
      if file.isReadOnly then throw .readOnly
      if file.path.getLast?.any fun name => nameSizeLimit < (name ++ journalSuffix).utf8ByteSize then
        throw .cannotWrite
      set (w.setContent file.id (.database db.reopen))

def openShared (w : Workspace) (name : String) : Workspace :=
  match w.shared.find? (·.name == name) with
  | some found =>
    let more := { found with openings := found.openings + 1, db := found.db.reopen }
    { w with shared := more :: w.shared.filter (·.name != name) }
  | none => { w with shared := ⟨name, 1, .empty⟩ :: w.shared }

def openDatabase (name : String) : Opening DatabaseError StoreHandle := do
  match Path.parentText? name with
  | some parent => ExceptT.adapt .files (makeDirectories parent.length parent)
  | none => pure ()
  if name.contains '\x00' then
    throw (.nulInName (String.ofList (name.toList.takeWhile (· != '\x00'))).utf8ByteSize)
  match DatabaseAddress.parse name with
  | .error e => throw (.address e)
  | .ok a =>
    match a.place with
    | .unnamed => if a.isReadOnly then throw .readOnly else return .unnamed .empty
    | .shared shared =>
      if a.isReadOnly then throw .readOnly
      modify (·.openShared shared)
      return .shared shared
    | .file =>
      let file ← openPath name a
      completeTables file
      return .file file

def standardFile (env : Environment) : String :=
  let home := (env.lookup "HOME").getD "/tmp"
  let slash := if home.isEmpty || home.endsWith "/" then "" else "/"
  home ++ slash ++ ".tracksync/state.db"

def socketText (directory : String) (port : Nat) : String :=
  directory ++ (if directory.endsWith "/" then "" else "/") ++ ".s.PGSQL." ++ toString port

/-- Whether the server listens in a directory, which it does at its standard port. The name of a socket
has at most 107 octets. -/
def listens (w : Workspace) (directory : String) (port : Nat) : Bool :=
  w.server.isSome && port == 5432 && (socketText directory port).utf8ByteSize ≤ 107 &&
    match w.walk directory with
    | .ok path => path == w.directory
    | .error _ => false

def openServer (connection : String) : Opening OpenError StoreHandle := do
  match Connection.connect connection (← get).listens with
  | .ok () => return .server
  | .error e => throw (.server e)

def openStore (env : Environment) (state : StateSection) : Opening OpenError StoreHandle :=
  match state.backend, state.connection with
  | .sqlite, some name => ExceptT.adapt .configured (openDatabase name)
  | .sqlite, none => ExceptT.adapt .standard (openDatabase (standardFile env))
  | .postgres, connection => openServer (connection.getD "host=localhost dbname=tracksync")

def close (w : Workspace) : StoreHandle → Workspace
  | .shared name =>
    { w with shared := (w.shared.map fun s =>
        if s.name == name then { s with openings := s.openings - 1 } else s).filter (0 < ·.openings) }
  | _ => w

end Workspace

structure OpenStore where
  workspace : Workspace
  handle : StoreHandle

namespace OpenStore

/-- The service of an open database file. A file that lost its path may only be read. -/
def fileService (w : Workspace) (file : OpenFile) (now : String) : TrackingService Embedded :=
  if file.isReadOnly || w.entry? file.path != some (.file file.id) then
    Embedded.readOnly DatabaseError.readOnlyText now
  else Embedded.service now

def call {α : Type} (now : Timestamp.Fields) (writes : Bool)
    (embedded : TrackingService Embedded → StoreCall Embedded α)
    (server : TrackingService Server → StoreCall Server α) : StoreCall OpenStore α := fun s =>
  let w := s.workspace
  match s.handle with
  | .unnamed db =>
    let (answer, db) := embedded (Embedded.service now.spaced) db
    (answer, { s with handle := .unnamed db })
  | .shared name =>
    match w.shared.find? (·.name == name) with
    | some found =>
      let (answer, db) := embedded (Embedded.service now.spaced) found.db
      let shared := { found with db } :: w.shared.filter (·.name != name)
      (answer, { s with workspace := { w with shared } })
    | none => ((embedded (Embedded.unusable "connection closed") .empty).1, s)
  | .file file =>
    match ((w.content? file.id).getD (.text "")).database? with
    | .error fault => ((embedded (Embedded.unusable fault.text) .empty).1, s)
    | .ok db =>
      match embedded (fileService w file now.spaced) db with
      | (.ok answer, db) =>
        if writes then (.ok answer, { s with workspace := w.setContent file.id (.database db) })
        else (.ok answer, s)
      | (.error e, _) => (.error e, s)
  | .server =>
    match w.server with
    | some running =>
      let (answer, running) := server (Server.service now.offset) running
      (answer, { s with workspace := { w with server := some running } })
    | none => (.error (.backend "connection closed"), s)

def service (now : Timestamp.Fields) : TrackingService OpenStore where
  loadCheckpoint key := call now false (·.loadCheckpoint key) (·.loadCheckpoint key)
  loadActive key := call now false (·.loadActive key) (·.loadActive key)
  savePayload key data := call now true (·.savePayload key data) (·.savePayload key data)
  saveStates key assets := call now true (·.saveStates key assets) (·.saveStates key assets)
  saveCursor key label cursor :=
    call now true (·.saveCursor key label cursor) (·.saveCursor key label cursor)
  recordCycle key record := call now true (·.recordCycle key record) (·.recordCycle key record)
  assetStates key withFinished :=
    call now false (·.assetStates key withFinished) (·.assetStates key withFinished)
  payloads key limit := call now false (·.payloads key limit) (·.payloads key limit)
  recentCycles key limit := call now false (·.recentCycles key limit) (·.recentCycles key limit)

end OpenStore

end AssetSync
