import StreamedInference.Failure
import StreamedInference.Net.Client
import StreamedInference.Registry.Registration

/-!
# Registries

An instance announces itself to the registry's agent when it starts and withdraws before it
stops. Both are done as well as they can be: whatever goes wrong is told and changes nothing else.

## Main definitions

* `Registry`, `RegistryCall`: registries and what they are asked.
* `Registry.ask`: what is sent to a registry, and what comes of it.
-/

namespace StreamedInference

/-- Where instances are announced. -/
inductive Registry where
  /-- Nowhere. -/
  | disabled
  /-- At the agent whose address begins with the given text. -/
  | agent (base : String)
deriving DecidableEq, Repr

/-- What is asked of a registry. -/
inductive RegistryCall where
  | register (registration : Registration)
  | deregister (id : String)
deriving DecidableEq, Repr

namespace RegistryCall

/-- The path at which an agent is asked. -/
def path : RegistryCall → String
  | .register _ => "/v1/agent/service/register"
  | .deregister id => "/v1/agent/service/deregister/" ++ id

/-- What an agent is told. -/
def body : RegistryCall → Option Json
  | .register registration => some registration.payload
  | .deregister _ => none

end RegistryCall

namespace Registry

/-- The beginning of an agent's address: no slash ends it, and it names the scheme. -/
def agentBase (address : String) : String :=
  let trimmed := String.ofList (address.toList.reverse.dropWhile (· == '/')).reverse
  if address.startsWith "http://" || address.startsWith "https://" then trimmed
  else "http://" ++ trimmed

/-- The registry that the settings choose. -/
def of (enabled : Bool) (address : String) : Registry :=
  if enabled then .agent (agentBase address) else .disabled

/-- Asks a registry after `sent` requests reached servers of the network: which requests reach
one now, with what result, and what is noted. -/
def ask (net : Network) (sent : Nat) (registry : Registry) (call : RegistryCall) :
    List HttpRequest × Except Failure Unit × List LogEvent :=
  match registry, call with
  | .disabled, .register r =>
    ([], .ok (), [⟨.registry, .debug, "Registry disabled, not registering " ++ r.id, []⟩])
  | .disabled, .deregister _ => ([], .ok (), [])
  | .agent base, call =>
    let address := base ++ call.path
    let (requests, result) := net.put sent address call.body
    (requests,
      result.mapError fun f => .registry ("PUT " ++ address ++ ": " ++ f.message), [])

end Registry

end StreamedInference
