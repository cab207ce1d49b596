import EntitlementClient.Duration
import EntitlementClient.Settings.Value

/-!
# `EntitlementClient.Settings.Basic`: connection settings

`Settings` says where and how to connect. Every setting has a default, so a source need
not give all of them. `Settings.assign?` sets one of them from a value of a configuration
source; the value has to have the type of the setting, nothing is converted.
`Settings.ofLayers?` takes each setting from the last source that assigns it, so a value
that is overridden may have any type.

`Settings.toJson` writes all settings, in the order of `Setting.all`, and
`Settings.ofJson?` reads any of them.
-/

set_option autoImplicit false

namespace EntitlementClient

/-- Where and how to connect. -/
structure Settings where
  /-- The name or address of the server. -/
  host : String
  /-- The port of the server. -/
  port : UInt16
  /-- The path below which the server answers. -/
  basePath : String
  /-- Whether to connect over TLS. -/
  useTls : Bool
  /-- Whether any certificate of the server is accepted. -/
  skipVerification : Bool
  /-- The file of further authorities to trust. -/
  trustedAuthorities : Option String
  /-- How long to wait for a connection. -/
  timeout : Duration
  /-- What the client calls itself. -/
  userAgent : String
  /-- How many bytes the body of a reply may have. -/
  maxBodySize : UInt64
deriving DecidableEq, Repr

/-- The defaults. -/
def Settings.default : Settings :=
  { host := "localhost"
    port := 8443
    basePath := "/candlepin"
    useTls := true
    skipVerification := true
    trustedAuthorities := none
    timeout := .ofSeconds 3
    userAgent := "candlepin-http/0.1.0"
    maxBodySize := 10485760 }

instance : Inhabited Settings := ⟨Settings.default⟩

/-! ### Names -/

/-- The settings, one by one. -/
inductive Setting where
  | host
  | port
  | basePath
  | useTls
  | skipVerification
  | trustedAuthorities
  | timeout
  | userAgent
  | maxBodySize
deriving DecidableEq, Repr, Inhabited

namespace Setting

/-- The name of the setting in configuration sources. -/
def name : Setting → String
  | host => "host"
  | port => "port"
  | basePath => "base_path"
  | useTls => "use_tls"
  | skipVerification => "skip_cert_verification"
  | trustedAuthorities => "trusted_ca_path"
  | timeout => "timeout"
  | userAgent => "user_agent"
  | maxBodySize => "max_body_size"

/-- All settings, in the order in which they are written. -/
def all : List Setting :=
  [host, port, basePath, useTls, skipVerification, trustedAuthorities, timeout, userAgent,
    maxBodySize]

end Setting

namespace Settings

/-! ### Assigning -/

/-- An integer below a bound. -/
def natBelow? (bound : Nat) : ConfigValue → Option Nat
  | .integer n => if 0 ≤ n && n < bound then some n.toNat else none
  | _ => none

/-- A boolean. -/
def bool? : ConfigValue → Option Bool
  | .bool b => some b
  | _ => none

/-- A text. -/
def text? : ConfigValue → Option String
  | .text s => some s
  | _ => none

/-- A text, or no value. -/
def optionalText? : ConfigValue → Option (Option String)
  | .null => some none
  | .text s => some (some s)
  | _ => none

/-- The settings with one of them set, if the value has its type. -/
def assign? (s : Settings) (v : ConfigValue) : Setting → Option Settings
  | .host => (text? v).map fun x => { s with host := x }
  | .port => (natBelow? (Nat.pow 2 16) v).map fun x => { s with port := .ofNat x }
  | .basePath => (text? v).map fun x => { s with basePath := x }
  | .useTls => (bool? v).map fun x => { s with useTls := x }
  | .skipVerification => (bool? v).map fun x => { s with skipVerification := x }
  | .trustedAuthorities => (optionalText? v).map fun x => { s with trustedAuthorities := x }
  | .timeout => ((text? v).bind Duration.ofText?).map fun x => { s with timeout := x }
  | .userAgent => (text? v).map fun x => { s with userAgent := x }
  | .maxBodySize => (natBelow? (Nat.pow 2 64) v).map fun x => { s with maxBodySize := .ofNat x }

/-! ### From configuration sources -/

/-- The value of a setting in the last of the layers that has one. -/
def winner? (layers : List Layer) (setting : Setting) : Option ConfigValue :=
  layers.reverse.findSome? fun layer => layer.get? setting.name

/-- The settings with those assigned that the layers have a value for. -/
def assignFrom? (layers : List Layer) : List Setting → Settings → Option Settings
  | [], s => some s
  | setting :: rest, s =>
    match winner? layers setting with
    | none => assignFrom? layers rest s
    | some v => (s.assign? v setting).bind (assignFrom? layers rest)

/-- The defaults with the layers over them, later layers over earlier ones. -/
def ofLayers? (layers : List Layer) : Option Settings :=
  assignFrom? layers Setting.all .default

/-! ### As JSON -/

/-- The value of a setting. -/
def get (s : Settings) : Setting → Json
  | .host => .string s.host
  | .port => .ofNat s.port.toNat
  | .basePath => .string s.basePath
  | .useTls => .bool s.useTls
  | .skipVerification => .bool s.skipVerification
  | .trustedAuthorities => (s.trustedAuthorities.map Json.string).getD .null
  | .timeout => .string s.timeout.text
  | .userAgent => .string s.userAgent
  | .maxBodySize => .ofNat s.maxBodySize.toNat

/-- The settings as an object. -/
def toJson (s : Settings) : Json :=
  .object (Setting.all.map fun setting => (setting.name, s.get setting))

/-- The layer of an object's members, or of a list of values in the order of the settings. -/
def layer? : Json → Option Layer
  | .object members => some (.ofList (members.map fun (name, v) => (name, .ofJson v)))
  | .array items =>
    if items.length ≤ Setting.all.length then
      some (.ofList ((Setting.all.map Setting.name).zip (items.map .ofJson)))
    else none
  | _ => none

/-- The settings that a JSON value gives over the defaults. -/
def ofJson? (v : Json) : Option Settings := (layer? v).bind fun layer => ofLayers? [layer]

/-! ### The address of the server -/

/-- A path that begins with a slash. -/
def withSlash (path : String) : String :=
  if path.toList.head? = some '/' then path else "/" ++ path

/-- The base path as it is sent. -/
def normalizedBasePath (s : Settings) : String := withSlash s.basePath

/-- Changes the base path, with a slash before it. -/
def withBasePath (s : Settings) (path : String) : Settings := { s with basePath := withSlash path }

/-- The scheme of the server's URL. -/
def scheme (s : Settings) : String := if s.useTls then "https" else "http"

/-- The host as it stands in a URL: an address with colons is put in brackets. -/
def urlHost (s : Settings) : String :=
  let cs := s.host.toList
  if cs.contains ':' && cs.head? ≠ some '[' then "[" ++ s.host ++ "]" else s.host

/-- The URL below which requests go. -/
def baseUrl (s : Settings) : String :=
  s.scheme ++ "://" ++ s.urlHost ++ ":" ++ toString s.port.toNat ++ s.normalizedBasePath

end Settings

end EntitlementClient
