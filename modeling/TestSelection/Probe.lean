import TestSelection.Address
import TestSelection.Duration
import TestSelection.Log

/-!
# Network probes

The local network is there when two ports can be bound, both on every interface of version 4 or both
on every interface of version 6. The internet is there when one of some addresses accepts a
connection; they are tried one after another. A failure of a socket is only a missing network.
-/
namespace TestSelection

/-- What the probes try. -/
structure ProbeSettings where
  localPorts : UInt16 × UInt16
  externalAddresses : List Address
  externalPort : UInt16
  connectTimeout : Duration
  deriving DecidableEq

namespace ProbeSettings

def standardPorts : UInt16 × UInt16 := (18000, 18001)

def standardAddresses : List Address :=
  [198, 199, 200, 201, 206, 192, 193, 194, 195, 196, 197].map (.v4 173 194 41)

def standardPort : UInt16 := 80

def standardTimeout : UInt64 := 250

/-- The settings that hold when a manifest gives none. -/
def standard : ProbeSettings where
  localPorts := standardPorts
  externalAddresses := standardAddresses
  externalPort := standardPort
  connectTimeout := .ofMillis standardTimeout

/-- How long the external probe can take: the timeout once for each address. Addresses beyond the
greatest number of 32 bits are not counted. -/
def worstCase (s : ProbeSettings) : Duration :=
  s.connectTimeout.saturatingMul (min s.externalAddresses.length (UInt32.size - 1))

end ProbeSettings

/-- The socket operations of the probes; a failure carries the text of its cause. -/
structure Sockets (m : Type → Type) where
  bind : Endpoint → m (Except String Unit)
  connect : Endpoint → Duration → m (Except String Unit)

namespace Probe

variable {m : Type → Type} [Monad m]

/-- Whether both ports can be bound on an address; the second is tried after the first. -/
def bindPair (sockets : Sockets m) (log : LogEvent → m Unit) (address : Address)
    (ports : UInt16 × UInt16) : m Bool := do
  let bound ← match ← sockets.bind ⟨address, ports.1⟩ with
    | .error e => pure (.error e)
    | .ok () => sockets.bind ⟨address, ports.2⟩
  match bound with
  | .ok () => return true
  | .error e =>
    log ⟨.debug, "local bind probe failed", [("ip", .shown address.text), ("error", .shown e)]⟩
    return false

/-- Two ports as a list. -/
def portsText (ports : UInt16 × UInt16) : String :=
  "[" ++ toString ports.1.toNat ++ ", " ++ toString ports.2.toNat ++ "]"

/-- Whether there is a local network. -/
def localNetwork (sockets : Sockets m) (log : LogEvent → m Unit) (s : ProbeSettings) : m Bool := do
  let available ←
    if ← bindPair sockets log .unspecified4 s.localPorts then pure true
    else bindPair sockets log .unspecified6 s.localPorts
  log ⟨.info, "local network probe",
    [("available", .flag available), ("ports", .shown (portsText s.localPorts))]⟩
  return available

/-- The first of some endpoints that accepts a connection. -/
def firstReachable (sockets : Sockets m) (log : LogEvent → m Unit) (timeout : Duration) :
    List Endpoint → m (Option Endpoint)
  | [] => return none
  | e :: rest => do
    match ← sockets.connect e timeout with
    | .ok () =>
      log ⟨.info, "external probe connected", [("addr", .shown e.text)]⟩
      return some e
    | .error cause =>
      log ⟨.debug, "external probe failed", [("addr", .shown e.text), ("error", .shown cause)]⟩
      firstReachable sockets log timeout rest

/-- The first external address that accepts a connection. -/
def externalNetwork (sockets : Sockets m) (log : LogEvent → m Unit) (s : ProbeSettings) :
    m (Option Endpoint) := do
  let endpoints := s.externalAddresses.map fun a => (⟨a, s.externalPort⟩ : Endpoint)
  let reached ← firstReachable sockets log s.connectTimeout endpoints
  if reached.isNone then
    log ⟨.info, "no external address was reachable",
      [("attempts", .number s.externalAddresses.length)]⟩
  return reached

end Probe

end TestSelection
