import NodeDiscovery.Config
import NodeDiscovery.Toml.Document

/-!
# Configuration files

A configuration file is a TOML document with a section `node`, which says who the peer is, and
perhaps a section `discovery`, whose keys change the standard settings.  Other keys are ignored.

## Main definitions

* `ConfigFile` — what a file says, before it is judged.
* `ConfigError` — why a file makes no configuration.
* `Config.ofToml`, `Config.load` — the configuration of a text and of a file.
-/

namespace NodeDiscovery

/-! ### Values of settings -/

namespace Toml.Value

/-- The text that a value is. -/
def asText? : Value → Option String
  | .text content => some content
  | _ => none

/-- The truth value that a value is. -/
def asBool? : Value → Option Bool
  | .boolean b => some b
  | _ => none

/-- The natural number that a value is. -/
def asNat? : Value → Option Nat
  | .integer n => if 0 ≤ n then some n.toNat else none
  | _ => none

/-- The port number that a value is. -/
def asPort? (v : Value) : Option UInt16 :=
  match v.asNat? with
  | some n => if n < 65536 then some (UInt16.ofNat n) else none
  | none => none

/-- The network number that a value is. -/
def asNetwork? (v : Value) : Option UInt32 :=
  match v.asNat? with
  | some n => if n < 4294967296 then some (UInt32.ofNat n) else none
  | none => none

/-- The list of texts that a value is. -/
def asTexts? : Value → Option (List String)
  | .array items => items.mapM asText?
  | _ => none

/-- The keys that a section gives values to.  A section is a table, or a list of the values of
all its keys in the order `names`; a moment gives no key a value. -/
def section? (names : List String) : Value → Option Entries
  | .table _ entries => some entries
  | .inline entries => some entries
  | .array items => if names.length ≤ items.length then some (names.zip items) else none
  | .moment => some []
  | _ => none

end Toml.Value

namespace Toml.Entries

/-- The value of a key that has to be there. -/
def required? {α : Type} (entries : Entries) (name : String) (read? : Value → Option α) :
    Option α :=
  (find? name entries).bind read?

/-- The value of a key that may be missing. -/
def optional? {α : Type} (entries : Entries) (name : String) (read? : Value → Option α) :
    Option (Option α) :=
  match find? name entries with
  | none => some none
  | some v => (read? v).map some

end Toml.Entries

/-! ### What a file says -/

/-- What a configuration file says, before it is judged.  Settings that it leaves out are
`none`. -/
structure ConfigFile where
  /-- The identifier of the peer, as a text. -/
  id : String
  /-- The host of the peer. -/
  host : String
  /-- The port of the peer. -/
  port : UInt16
  /-- The network that the peer belongs to. -/
  networkId : Option UInt32
  /-- The endpoints to contact first. -/
  bootstrapNodes : Option (List String)
  /-- How long a request waits for its answer. -/
  requestTimeout : Option Nat
  /-- The time between two rounds of asking for more nodes. -/
  refreshPeriod : Option Nat
  /-- The time between two rounds of expiring requests. -/
  cleanPeriod : Option Nat
  /-- Whether several peers may be established at one endpoint. -/
  allowMultiple : Option Bool
  /-- How many addresses are remembered. -/
  addressCacheSize : Option Nat
  /-- How many nodes a bucket has room for. -/
  bucketSize : Option Nat
  deriving DecidableEq

namespace ConfigFile

/-- The keys of the section `node`, in order. -/
def nodeKeys : List String :=
  ["id", "host", "port"]

/-- The keys of the section `discovery`, in order. -/
def discoveryKeys : List String :=
  ["network_id", "bootstrap_nodes", "request_timeout_ms", "refresh_period_ms", "clean_period_ms",
   "allow_multiple_connections_per_host_port", "address_cache_size", "bucket_size"]

/-- What a document says; `none` if a key that has to be there is missing or a value is not of
its kind. -/
def ofEntries? (document : Toml.Entries) : Option ConfigFile := do
  let node ← document.required? "node" (Toml.Value.section? nodeKeys)
  let id ← node.required? "id" Toml.Value.asText?
  let host ← node.required? "host" Toml.Value.asText?
  let port ← node.required? "port" Toml.Value.asPort?
  let discovery ← document.optional? "discovery" (Toml.Value.section? discoveryKeys)
  let settings := discovery.getD []
  let networkId ← settings.optional? "network_id" Toml.Value.asNetwork?
  let bootstrapNodes ← settings.optional? "bootstrap_nodes" Toml.Value.asTexts?
  let requestTimeout ← settings.optional? "request_timeout_ms" Toml.Value.asNat?
  let refreshPeriod ← settings.optional? "refresh_period_ms" Toml.Value.asNat?
  let cleanPeriod ← settings.optional? "clean_period_ms" Toml.Value.asNat?
  let allowMultiple ←
    settings.optional? "allow_multiple_connections_per_host_port" Toml.Value.asBool?
  let addressCacheSize ← settings.optional? "address_cache_size" Toml.Value.asNat?
  let bucketSize ← settings.optional? "bucket_size" Toml.Value.asNat?
  return { id, host, port, networkId, bootstrapNodes, requestTimeout, refreshPeriod, cleanPeriod,
           allowMultiple, addressCacheSize, bucketSize }

/-- What a text says. -/
def parse? (text : String) : Option ConfigFile :=
  (Toml.parse? text).bind ofEntries?

/-- The settings of a file for a peer with a given identifier. -/
def settings (file : ConfigFile) (id : NodeId) : Config :=
  let standard := Config.standard ⟨id, ⟨file.host, file.port⟩⟩
  { standard with
    bootstrapNodes := file.bootstrapNodes.getD standard.bootstrapNodes
    networkId := file.networkId.getD standard.networkId
    requestTimeout := file.requestTimeout.getD standard.requestTimeout
    refreshPeriod := file.refreshPeriod.getD standard.refreshPeriod
    cleanPeriod := file.cleanPeriod.getD standard.cleanPeriod
    allowMultiple := file.allowMultiple.getD standard.allowMultiple
    addressCacheSize := file.addressCacheSize.getD standard.addressCacheSize
    bucketSize := file.bucketSize.getD standard.bucketSize }

end ConfigFile

/-! ### Judging it -/

/-- Why a file makes no configuration. -/
inductive ConfigError where
  /-- The file cannot be read. -/
  | unreadable (path reason : String)
  /-- The text is no document, or not one with the right keys and values. -/
  | malformed
  /-- The identifier of the peer is none. -/
  | invalidId (e : InvalidNodeId)
  /-- A setting that has to be positive is zero. -/
  | notPositive (key : String)
  deriving DecidableEq, Repr

namespace ConfigError

/-- The report of a refusal. -/
def message : ConfigError → String
  | .unreadable path reason => "failed to read config file " ++ path ++ ": " ++ reason
  | .malformed => "failed to parse config"
  | .invalidId e => "invalid config: " ++ e.message
  | .notPositive key => "invalid config: " ++ key ++ " must be positive"

end ConfigError

namespace Config

/-- The settings that have to be positive, under their keys, in the order in which they are
checked. -/
def positiveSettings (c : Config) : List (String × Nat) :=
  [("request_timeout_ms", c.requestTimeout), ("refresh_period_ms", c.refreshPeriod),
   ("clean_period_ms", c.cleanPeriod), ("address_cache_size", c.addressCacheSize),
   ("bucket_size", c.bucketSize)]

/-- The configuration itself, if all the settings that have to be positive are. -/
def validate (c : Config) : Except ConfigError Config :=
  match c.positiveSettings.find? fun setting => setting.2 = 0 with
  | some (key, _) => .error (.notPositive key)
  | none => .ok c

/-- The configuration that a text stands for. -/
def ofToml (text : String) : Except ConfigError Config :=
  match ConfigFile.parse? text with
  | none => .error .malformed
  | some file =>
    match NodeId.ofHex file.id with
    | .error e => .error (.invalidId e)
    | .ok id => (file.settings id).validate

/-- What reading a missing file reports. -/
def missingFile : String :=
  "No such file or directory (os error 2)"

/-- The configuration of a file.  `read` gives the text of a file or says why there is none. -/
def load (read : String → Except String String) (path : String) : Except ConfigError Config :=
  match read path with
  | .ok text => ofToml text
  | .error reason => .error (.unreadable path reason)

end Config
end NodeDiscovery
