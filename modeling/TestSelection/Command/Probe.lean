import TestSelection.Command.Classify
import TestSelection.Json.Printer
import TestSelection.Table

/-!
# Probing the network

Runs both probes, the local one first, and reports what they found.
-/
namespace TestSelection.Command

variable {m : Type → Type} [Monad m]

/-- What the probes found. -/
structure ProbeReport where
  settings : ProbeSettings
  localNetwork : Bool
  /-- The address that accepted a connection. -/
  externalAddress : Option Endpoint
  deriving DecidableEq

namespace ProbeReport

def toJson (r : ProbeReport) : Json :=
  .object [
    ("local_network", .bool r.localNetwork),
    ("local_ports", .list
      [.ofNat r.settings.localPorts.1.toNat, .ofNat r.settings.localPorts.2.toNat]),
    ("external_network", .bool r.externalAddress.isSome),
    ("external_address", .ofText? (r.externalAddress.map Endpoint.text))]

def statusText (available : Bool) : String :=
  if available then "available" else "unavailable"

def localDetail (r : ProbeReport) : String :=
  "bind ports " ++ toString r.settings.localPorts.1.toNat ++ " and " ++
    toString r.settings.localPorts.2.toNat

def externalDetail (r : ProbeReport) : String :=
  match r.externalAddress with
  | some e => "connected to " ++ e.text
  | none =>
    toString r.settings.externalAddresses.length ++ " addresses tried, up to " ++
      r.settings.worstCase.text

def table (r : ProbeReport) : Table where
  header := ["PROBE", "STATUS", "DETAIL"]
  rows := [
    ["local", statusText r.localNetwork, r.localDetail],
    ["external", statusText r.externalAddress.isSome, r.externalDetail]]

def lines (r : ProbeReport) : Format → List String
  | .json => [r.toJson.pretty]
  | .table => r.table.lines

end ProbeReport

/-- Runs the probes with some settings. -/
def runProbes (machine : Machine m) (settings : ProbeSettings) : m ProbeReport := do
  let localNetwork ← Probe.localNetwork machine.sockets machine.log settings
  let externalAddress ← Probe.externalNetwork machine.sockets machine.log settings
  return { settings, localNetwork, externalAddress }

/-- Probes the network by the manifest at a path. -/
def probe (machine : Machine m) (manifest : String) (format : String) : m Outcome := do
  match Format.parse? format with
  | none => return { failure := some (Format.unknown format) }
  | some format =>
    match ← readOptionalManifest machine manifest with
    | .error failure => return { failure := some failure }
    | .ok content =>
      match ProbeSettings.ofNetwork (content.bind (·.settings.network)) with
      | .error e =>
        return { failure := some (.ofManifest "Invalid network settings" (.invalid e)) }
      | .ok settings => return { lines := (← runProbes machine settings).lines format }

end TestSelection.Command
