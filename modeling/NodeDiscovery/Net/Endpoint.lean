import NodeDiscovery.Codec.WhiteSpace
import NodeDiscovery.Net.SocketAddress

/-!
# Endpoints

A host as people write it, a name or the text of an IP address, together with a port.  The text
of an endpoint is `host:port`; since a port has no colon, the text determines both parts.

## Main definitions

* `Endpoint` — the host and the port.
* `Endpoint.key` — the text `host:port`.
* `Endpoint.parse` — the reading of such a text, with or without brackets around the host.
* `AddressError` — why an endpoint has no address.
-/

namespace NodeDiscovery

/-- Why an endpoint has no address. -/
inductive AddressError where
  /-- The text names no endpoint, or the system finds no address for it. -/
  | unresolvable (text : String)
  /-- The host is a name, and names are looked up for bootstrap entries only. -/
  | unresolvedHostname (key : String)
  deriving DecidableEq, Repr

/-- The report of the failure. -/
def AddressError.message : AddressError → String
  | unresolvable text => "cannot resolve address " ++ text
  | unresolvedHostname key => "hostname " ++ key ++ " is not resolved outside bootstrap"

/-- A host, a name or the text of an IP address, and a port. -/
structure Endpoint where
  /-- The name or the text of the IP address, as it was given. -/
  host : String
  /-- The port. -/
  port : UInt16
  deriving DecidableEq, Repr, Inhabited

namespace Endpoint

/-- The characters of the text `host:port`. -/
def render (e : Endpoint) : List Char :=
  e.host.toList ++ ':' :: Numeral.decimal e.port.toNat

/-- The text `host:port`. -/
def key (e : Endpoint) : String :=
  String.ofList e.render

/-- The host and port of an observed address, without its scope. -/
def ofAddress (a : SocketAddress) : Endpoint :=
  ⟨a.ip.text, a.port⟩

/-- The host without opening brackets before it and closing brackets after it. -/
def unbracket (host : List Char) : List Char :=
  dropTrailing (· == ']') (host.dropWhile (· == '['))

/-- Splits a text at its last colon into a host that is not empty and a port. -/
def split? (text : List Char) : Option Endpoint :=
  match SocketAddress.cutAtLast ':' text with
  | none => none
  | some (host, port) =>
    match Numeral.readPort? port with
    | none => none
    | some port =>
      if unbracket host = [] then none else some ⟨String.ofList (unbracket host), port⟩

/-- Reads `host:port` or `[host]:port`, with any white space around it. -/
def parse (text : String) : Except AddressError Endpoint :=
  match split? (trimWhiteSpace text.toList) with
  | some e => .ok e
  | none => .error (.unresolvable text)

end Endpoint
end NodeDiscovery
