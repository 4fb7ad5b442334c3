/-
# Discovering gateways

A search goes to one gateway or to all of them, round by round until a round is answered.
Asking one gateway ends with its first answer; asking all of them goes on until the window of
the round is over.
-/
import UpnpGateway.Config.Basic
import UpnpGateway.Discovery.Collector
import UpnpGateway.Discovery.Schedule
import UpnpGateway.Net.Network

namespace UpnpGateway.Discovery

open UpnpGateway.Http UpnpGateway.Net UpnpGateway.Text

/-- The most bytes of a datagram that are read. -/
def maxDatagram : Nat := 2048

/-- The advertisement in a datagram. -/
def readDatagram? (sender : Endpoint) (bytes : Bytes) : Option Advertisement :=
  Advertisement.parse? (String.ofList (decodeUtf8 (bytes.take maxDatagram))) sender

/-- The collector after some datagrams have come, up to the first answer of the gateway if one
is asked. -/
def Collector.listen (c : Collector) : List (Endpoint × Bytes) → Collector
  | [] => c
  | (sender, bytes) :: rest =>
    match readDatagram? sender bytes with
    | none => c.listen rest
    | some a =>
      if c.accepts a && c.filter.isSome then c.offer a else (c.offer a).listen rest

/-- The search that is sent in a round. -/
def searchOfRound (config : Config) (round : Nat) : Search :=
  ⟨config.searchTarget, roundMx (firstMx config.mx) round, config.searchHeaders⟩

/-- Sends the search of a round and waits for answers. -/
def searchRound (config : Config) (target : Endpoint) (filter : Option Ip) (round : Nat) :
    Exchange Error (List Advertisement) := do
  let search := searchOfRound config round
  let answers ← (Exchange.search config.localIp target search.datagram).mapError .socket
  match responseWindow? config.responseWindow (firstMx config.mx) search.mx with
  | none => .fail .windowOverflow
  | some window =>
    let now ← Exchange.clock
    if clockLimit ≤ now + window.nanos then .fail .clockOverflow
    else return ((Collector.empty filter).listen (answers window)).found

/-- The failure of a search without an answer. -/
def unanswered (config : Config) : Option Ip → Error
  | some gateway => .gatewaySilent gateway
  | none => .discoveryTimeout (attempts config.retries)

/-- Searches in up to `left` rounds from `round` on. -/
def searchFrom (config : Config) (target : Endpoint) (filter : Option Ip) :
    Nat → Nat → Exchange Error (List Advertisement)
  | 0, _ => .fail (unanswered config filter)
  | left + 1, round => do
    let found ← searchRound config target filter round
    if found.isEmpty then searchFrom config target filter left (round + 1) else return found

/-- Searches at an endpoint; with a filter only answers from that address count. -/
def searchAt (config : Config) (target : Endpoint) (filter : Option Ip) :
    Exchange Error (List Advertisement) :=
  searchFrom config target filter (attempts config.retries).toNat 0

/-- Searches as configured. -/
def discover (config : Config) : Exchange Error (List Advertisement) :=
  match config.gatewayIp with
  | some gateway => searchAt config ⟨gateway, config.searchPort⟩ (some gateway)
  | none => searchAt config ⟨.v4 multicastIp, config.searchPort⟩ none

end UpnpGateway.Discovery
