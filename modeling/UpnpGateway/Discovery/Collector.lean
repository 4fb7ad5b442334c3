/-
# Collecting advertisements

During a search answers arrive from anywhere, some of them more than once.  A collector keeps
the first answer of each gateway, and if one gateway is asked only answers that come from its
address.
-/
import UpnpGateway.Discovery.Advertisement

namespace UpnpGateway.Discovery

open UpnpGateway.Net

/-- The answers that have been kept so far. -/
structure Collector where
  /-- The address that answers have to come from, if there is one. -/
  filter : Option Ip
  /-- The names of the gateways that have answered. -/
  seen : List String
  /-- The answers in the order in which they came. -/
  found : List Advertisement
deriving DecidableEq, Repr

namespace Collector

/-- A collector that has kept nothing yet. -/
def empty (filter : Option Ip) : Collector := ⟨filter, [], []⟩

/-- Whether an answer would be kept. -/
def accepts (c : Collector) (a : Advertisement) : Bool :=
  (c.filter.all fun ip => a.sender.ip == ip) && !c.seen.contains a.usn

/-- The collector after an answer has come. -/
def offer (c : Collector) (a : Advertisement) : Collector :=
  if c.accepts a then { c with seen := a.usn :: c.seen, found := c.found ++ [a] } else c

end Collector

end UpnpGateway.Discovery
