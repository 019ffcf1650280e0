import StreamedInference.Json.Value
import StreamedInference.Log
import StreamedInference.Net.Address

/-!
# Registrations

Under what identity an instance of the service announces itself, and what the registry's agent is
told about it.

## Main definitions

* `Registration`: an identity.
* `Registration.payload`: what the agent is told.
-/

namespace StreamedInference

/-- The identity of an instance. -/
structure Registration where
  id : String
  name : String
  address : IPAddress
  port : UInt16
  tags : List String
deriving DecidableEq, Repr

namespace Registration

/-- The id of an instance: name, address and port with dashes between them. -/
def idOf (name : String) (address : IPAddress) (port : UInt16) : String :=
  name ++ "-" ++ address.toText ++ "-" ++ String.ofList (decimal port.toNat)

/-- An instance whose only tag is its name. -/
def of (name : String) (address : IPAddress) (port : UInt16) : Registration :=
  ⟨idOf name address port, name, address, port, [name]⟩

/-- The instance with other tags. -/
def withTags (r : Registration) (tags : List String) : Registration :=
  { r with tags := tags }

/-- Where the agent checks the health of an instance. -/
def checkTarget (r : Registration) : String :=
  r.address.toText ++ ":" ++ String.ofList (decimal r.port.toNat)

/-- What the agent is told. -/
def payload (r : Registration) : Json :=
  .record [
    ("ID", .text r.id),
    ("Name", .text r.name),
    ("Tags", .array (r.tags.map .text)),
    ("Address", .text r.address.toText),
    ("Port", .natural r.port.toNat),
    ("Check", .record [
      ("GRPC", .text r.checkTarget),
      ("GRPCUseTLS", .bool false),
      ("Interval", .text "10s"),
      ("Timeout", .text "3s"),
      ("DeregisterCriticalServiceAfter", .text "1m")])]

end Registration

/-- The address under which others reach this host: the one that the route outwards begins with,
or the own host if there is no such route. -/
def reachableAddress (route : Option IPAddress) : IPAddress × List LogEvent :=
  let fallback := (IPAddress.loopback,
    [⟨.registry, .warn, "Could not detect an outbound address, advertising 127.0.0.1", []⟩])
  match route with
  | some address => if address.isUnspecified then fallback else (address, [])
  | none => fallback

end StreamedInference
