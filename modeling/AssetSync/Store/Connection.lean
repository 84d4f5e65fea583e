import AssetSync.Config.SocketAddress
import AssetSync.Text.Blank
import AssetSync.Text.Octets

namespace AssetSync

inductive ServerHost where
  | directory (name? : Option String)
  | network (name : String)
  deriving DecidableEq

inductive TlsMode where
  | disable
  | prefer
  | require
  deriving DecidableEq

inductive SessionKind where
  | any
  | readWrite
  | readOnly
  deriving DecidableEq

structure Connection where
  hosts : List ServerHost
  addresses : List String
  ports : List Nat
  tls : TlsMode
  bindsChannel : Bool
  session : SessionKind
  greeting : List (String × String)
  deriving DecidableEq

namespace Connection

def empty : Connection :=
  ⟨[], [], [], .prefer, false, .any, []⟩

def digits? (text : List Char) : Option Nat :=
  if text.isEmpty || !text.all Char.isDigit then none
  else some (text.foldl (fun n d => n * 10 + (d.toNat - '0'.toNat)) 0)

def natural? (limit : Nat) (text : String) : Option Nat :=
  (match text.toList with
    | '+' :: rest => digits? rest
    | digits => digits? digits).filter (· < limit)

def isSigned (text : String) : Bool :=
  match text.toList with
  | '-' :: rest => (digits? rest).any (· ≤ 0x8000000000000000)
  | _ => (natural? 0x8000000000000000 text).isSome

def isNetworkAddress (text : String) : Bool :=
  let input := text.toList
  SocketAddress.ipv4 input == some [] || SocketAddress.ipv6 input == some []

def port? (text : String) : Option Nat :=
  if text.isEmpty then some 5432 else natural? UInt16.size text

def host (name : String) : ServerHost :=
  if name.startsWith "/" then .directory (some name) else .network name

def greetingNames : List String :=
  ["user", "dbname", "options", "application_name"]

def wordSettings : List (String × List String) :=
  [("sslnegotiation", ["postgres", "direct"]), ("load_balance_hosts", ["disable", "random"])]

def signedSettings : List String :=
  ["connect_timeout", "tcp_user_timeout", "keepalives_idle", "keepalives_interval"]

def naturalSettings : List (String × Nat) :=
  [("keepalives", UInt64.size), ("keepalives_retries", UInt32.size)]

def keep (c : Connection) (allowed : Bool) : Option Connection :=
  if allowed then some c else none

def set (c : Connection) (name value : String) : Option Connection :=
  match name with
  | "password" => some c
  | "host" => some { c with hosts := c.hosts ++ (value.splitOn ",").map host }
  | "hostaddr" =>
    let addresses := value.splitOn ","
    if addresses.all isNetworkAddress then some { c with addresses := c.addresses ++ addresses }
    else none
  | "port" => ((value.splitOn ",").mapM port?).map fun ports => { c with ports := c.ports ++ ports }
  | "sslmode" =>
    ([("disable", TlsMode.disable), ("prefer", .prefer), ("require", .require)].lookup value).map
      fun tls => { c with tls }
  | "channel_binding" =>
    ([("disable", false), ("prefer", false), ("require", true)].lookup value).map
      fun bindsChannel => { c with bindsChannel }
  | "target_session_attrs" =>
    ([("any", SessionKind.any), ("read-write", .readWrite), ("read-only", .readOnly)].lookup
      value).map fun session => { c with session }
  | _ =>
    if greetingNames.contains name then
      some { c with greeting := (name, value) :: c.greeting.filter (·.1 ≠ name) }
    else if signedSettings.contains name then c.keep (isSigned value)
    else match wordSettings.lookup name, naturalSettings.lookup name with
      | some words, _ => c.keep (words.contains value)
      | none, some limit => c.keep (natural? limit value).isSome
      | none, none => none

def value (ends : Char → Bool) : List Char → List Char × List Char
  | [] => ([], [])
  | ['\\'] => ([], [])
  | '\\' :: c :: rest =>
    let (more, left) := value ends rest
    (c :: more, left)
  | c :: rest =>
    if ends c then ([], c :: rest)
    else
      let (more, left) := value ends rest
      (c :: more, left)

def settingValue : List Char → Option (String × List Char)
  | '\'' :: rest =>
    match value (· == '\'') rest with
    | (text, _ :: left) => some (String.ofList text, left)
    | (_, []) => none
  | input =>
    let (text, left) := value Text.isBlank input
    if text.isEmpty then none else some (String.ofList text, left)

def settings : Nat → Connection → List Char → Option Connection
  | 0, _, _ => none
  | fuel + 1, c, input => do
    let (name, rest) := (Text.trimLeft input).span fun d => !Text.isBlank d && d != '='
    if name.isEmpty then return c
    match Text.trimLeft rest with
    | '=' :: rest =>
      let (value, rest) ← settingValue (Text.trimLeft rest)
      settings fuel (← c.set (String.ofList name) value) rest
    | _ => none

def decoded? (text : List Char) : Option String :=
  (Text.percentDecoded text).text?

def addressHost? (text : List Char) : Option ServerHost :=
  let octets := Text.percentDecoded text
  if octets.head? == some '/'.toUInt8 then some (.directory octets.text?)
  else octets.text?.map host

def hostAndPort? (text : List Char) : Option (List Char × Option (List Char)) :=
  match text with
  | '[' :: rest =>
    match rest.span (· != ']') with
    | (host, [_]) => some (host, none)
    | (host, _ :: ':' :: port) => some (host, some port)
    | _ => none
  | _ =>
    match text.span (· != ':') with
    | (host, _ :: port) => some (host, some port)
    | (host, []) => some (host, none)

def addHost (c : Connection) (text : List Char) : Option Connection := do
  return { c with hosts := c.hosts ++ [← addressHost? text] }

def addressHosts (c : Connection) (text : List Char) : Option Connection :=
  if text.isEmpty then some c
  else ((String.ofList text).splitOn ",").foldlM (fun c part => do
    let (host, port) ← hostAndPort? part.toList
    (← c.addHost host).set "port" (← decoded? (port.getD "5432".toList))) c

def addressSettings : Nat → Connection → List Char → Option Connection
  | _, c, [] => some c
  | 0, _, _ => none
  | fuel + 1, c, input => do
    match input.span (· != '=') with
    | (_, []) => none
    | (name, _ :: rest) =>
      let (value, rest) := rest.span (· != '&')
      let name ← decoded? name
      let c ← if name == "host" then c.addHost value else c.set name (← decoded? value)
      addressSettings fuel c (rest.drop 1)

def ofAddress? (input : List Char) : Option Connection := do
  let (user, rest) := input.span (· != '@')
  let (c, rest) ← match rest with
    | _ :: rest => (decoded? (user.takeWhile (· != ':'))).bind fun user =>
        (empty.set "user" user).map (·, rest)
    | [] => some (empty, input)
  let (hosts, rest) := rest.span fun d => d != '/' && d != '?'
  let c ← c.addressHosts hosts
  let (c, rest) ← match rest with
    | '/' :: rest =>
      let (name, rest) := rest.span (· != '?')
      if name.isEmpty then some (c, rest)
      else (decoded? name).bind fun name => (c.set "dbname" name).map (·, rest)
    | rest => some (c, rest)
  addressSettings rest.length c (rest.drop 1)

def schemes : List String :=
  ["postgres://", "postgresql://"]

def parse? (text : String) : Option Connection :=
  match schemes.find? fun scheme => text.startsWith scheme with
  | some scheme => ofAddress? (text.toList.drop scheme.length)
  | none => settings (text.length + 1) empty text.toList

end Connection

inductive ConnectError where
  | badText
  | badSettings
  | unreachable
  | noTls
  | unspeakable
  | notBound
  | unexpectedAnswer
  deriving DecidableEq

def ConnectError.message : ConnectError → String
  | .badText => "invalid connection string"
  | .badSettings => "invalid configuration"
  | .unreachable => "error connecting to server"
  | .noTls => "error performing TLS handshake"
  | .unspeakable => "error encoding message to server"
  | .notBound => "authentication error"
  | .unexpectedAnswer => "unexpected message from server"

namespace Connection

def isComplete (c : Connection) : Bool :=
  let count := max c.hosts.length c.addresses.length
  0 < count && (c.hosts.isEmpty || c.addresses.isEmpty || c.hosts.length == c.addresses.length) &&
    (c.ports.length ≤ 1 || c.ports.length == count)

def places (c : Connection) : List (Option (String × Nat)) :=
  (List.range (max c.hosts.length c.addresses.length)).map fun i =>
    let host? : Option ServerHost := if c.addresses.isEmpty then c.hosts[i]? else none
    match host? with
    | some (.directory (some name)) => some (name, (c.ports[i]?.or c.ports.head?).getD 5432)
    | _ => none

/-- Talks to a server that needs no password, encrypts nothing and does not say whether it may be
written. -/
def talk (c : Connection) : Except ConnectError Unit :=
  if c.tls = .require then .error .noTls
  else if c.greeting.any (·.2.contains '\x00') then .error .unspeakable
  else if c.bindsChannel then .error .notBound
  else if c.session ≠ .any then .error .unexpectedAnswer
  else .ok ()

def tryPlaces (c : Connection) (listens : String → Nat → Bool) (last : ConnectError) :
    List (Option (String × Nat)) → Except ConnectError Unit
  | [] => .error last
  | place :: rest =>
    let found := place.any fun (name, port) => listens name port
    match if found then c.talk else .error .unreachable with
    | .ok () => .ok ()
    | .error e => tryPlaces c listens e rest

def connect (text : String) (listens : String → Nat → Bool) : Except ConnectError Unit :=
  match parse? text with
  | none => .error .badText
  | some c => if c.isComplete then c.tryPlaces listens .unreachable c.places else .error .badSettings

end Connection

end AssetSync
