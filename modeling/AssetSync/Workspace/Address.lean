import AssetSync.Text.Octets

/-!
The names of embedded databases. A name is a path, or an address: the word `file`, a colon, a path and
options behind a question mark, with octets spelled by percent signs.
-/

namespace AssetSync

/-- What an opening may do; the later ones may do what the earlier ones may. -/
inductive AccessMode where
  | read
  | write
  | create
  | memory
  deriving DecidableEq

def AccessMode.names : List (String × AccessMode) :=
  [("ro", .read), ("rw", .write), ("rwc", .create), ("memory", .memory)]

def AccessMode.allows : AccessMode → AccessMode → Bool
  | .memory, _ => true
  | _, .memory => true
  | .create, _ => true
  | .write, mode => mode != .create
  | .read, mode => mode == .read

inductive AddressError where
  | authority (name : String)
  | unknownMode (option value : String)
  | modeNotAllowed (option value : String)
  | unknownSystem (name : String)
  deriving DecidableEq

def AddressError.text : AddressError → String
  | .authority name => "invalid uri authority: " ++ name
  | .unknownMode option value => "no such " ++ option ++ " mode: " ++ value
  | .modeNotAllowed option value => option ++ " mode not allowed: " ++ value
  | .unknownSystem name => "no such vfs: " ++ name

structure DatabaseAddress where
  path : String
  mode : AccessMode
  isShared : Bool
  system : String
  isFixed : Bool
  deriving DecidableEq

namespace DatabaseAddress

def ofPath (path : String) : DatabaseAddress :=
  ⟨path, .create, false, "unix", false⟩

def systems : List String :=
  ["unix", "unix-none", "unix-dotfile", "unix-excl", "memdb"]

/-- Whether the value of an option means yes: one of three words, or a number whose lowest octet is not
zero. A number of more than 31 bits counts as zero. -/
def isYes (value : String) : Bool :=
  let digits := value.toList.takeWhile Char.isDigit
  if digits.isEmpty then ["on", "yes", "true"].contains value.toLower
  else
    let n := digits.foldl (fun n d => n * 10 + (d.toNat - '0'.toNat)) 0
    n < 1 <<< 31 && n % 256 != 0

def set (a : DatabaseAddress) (name value : String) : Except AddressError DatabaseAddress :=
  match name with
  | "vfs" => .ok { a with system := value }
  | "cache" =>
    match [("shared", true), ("private", false)].lookup value with
    | some isShared => .ok { a with isShared }
    | none => .error (.unknownMode "cache" value)
  | "mode" =>
    match AccessMode.names.lookup value with
    | some mode =>
      if a.mode.allows mode then .ok { a with mode } else .error (.modeNotAllowed "access" value)
    | none => .error (.unknownMode "access" value)
  | _ => .ok a

def part (text : List Char) : String :=
  (Text.percentDecoded text).beforeZero.name

def option (text : String) : String × String :=
  let (name, value) := text.toList.span (· != '=')
  (part name, part (value.drop 1))

def options (text : List Char) : List (String × String) :=
  (((String.ofList text).splitOn "&").map option).filter (!·.1.isEmpty)

def ofParts (text : List Char) : Except AddressError DatabaseAddress := do
  let (path, rest) := (text.takeWhile (· != '#')).span (· != '?')
  let options := options (rest.drop 1)
  let a ← options.foldlM (fun a (name, value) => a.set name value) (ofPath (part path))
  if systems.contains a.system then
    return { a with isFixed := (options.lookup "immutable").any isYes }
  else .error (.unknownSystem a.system)

def parse (name : String) : Except AddressError DatabaseAddress :=
  if !name.startsWith "file:" then .ok (ofPath name)
  else
    match name.toList.drop 5 with
    | '/' :: '/' :: rest =>
      let (authority, rest) := rest.span (· != '/')
      let authority := String.ofList authority
      if authority.isEmpty || authority == "localhost" then ofParts rest
      else .error (.authority authority)
    | rest => ofParts rest

inductive Place where
  | file
  | unnamed
  | shared (name : String)

def isInMemory (a : DatabaseAddress) : Bool :=
  a.path.isEmpty || a.mode == .memory || a.path == ":memory:"

def place (a : DatabaseAddress) : Place :=
  if a.isInMemory then
    if a.isShared && !a.path.isEmpty then .shared a.path else .unnamed
  else if a.system == "memdb" then
    if (a.path.startsWith "/" || a.path.startsWith "\\") && a.path.length > 1 then
      .shared ("memdb:" ++ a.path)
    else .unnamed
  else .file

def isReadOnly (a : DatabaseAddress) : Bool :=
  a.mode == .read || a.isFixed && !a.isInMemory

end DatabaseAddress

end AssetSync
