/-
# Reading a configuration

A configuration is written as a record whose fields may be left out; fields that are not
known do not matter.  A list counts as a record whose fields are given in order.  A field
that is there has to have the right kind of value, and only an address or window that may be
missing can be written as nothing.
-/
import UpnpGateway.Config.Basic
import UpnpGateway.Config.Binary

namespace UpnpGateway

open UpnpGateway.Discovery UpnpGateway.Net

/-- A written value. -/
inductive Setting where
  /-- Nothing. -/
  | null
  /-- A truth value. -/
  | truth (b : Bool)
  /-- A number. -/
  | number (n : Numeral)
  /-- A text. -/
  | text (s : String)
  /-- A list. -/
  | list (items : List Setting)
  /-- A record. -/
  | record (fields : List (String × Setting))
deriving Inhabited

namespace Setting

/-- A text. -/
def text? : Setting → Option String
  | text s => some s
  | _ => none

/-- An address of four bytes. -/
def ipv4? (s : Setting) : Option Ipv4 := s.text?.bind Ipv4.parse?

/-- An address. -/
def ip? (s : Setting) : Option Ip := s.text?.bind Ip.parse?

/-- A whole number from zero to `max`. -/
def nat? (max : Nat) : Setting → Option Nat
  | number n => n.whole?.bind fun n => if 0 ≤ n ∧ n ≤ max then some n.toNat else none
  | _ => none

/-- A span of time in seconds, rounded to the nearest nanosecond. -/
def seconds? : Setting → Option Duration
  | number n =>
    n.value?.bind fun q =>
      if n.negative && q.num != 0 then none
      else Duration.ofNanos? (Fraction.nearest ⟨q.num * nanosPerSecond, q.den⟩)
  | _ => none

/-- A value that may be missing, and is read by `read` if it is there. -/
def optional? {α : Type} (read : Setting → Option α) : Setting → Option (Option α)
  | null => some none
  | s => (read s).map some

/-- A pair of texts. -/
def header? : Setting → Option (String × String)
  | list [a, b] => do return (← a.text?, ← b.text?)
  | _ => none

/-- A list of pairs of texts. -/
def headers? : Setting → Option Headers
  | list items => items.mapM header?
  | _ => none

end Setting

namespace Config

/-- The names of the fields in order. -/
def fieldNames : List String := [
  "local_addr", "gateway_addr", "lan_addr", "timeout", "mx", "discovery_retries",
  "response_window", "search_target", "msearch_headers", "ssdp_port", "enumeration_limit"]

/-- The configuration with one field set. -/
def setField? (c : Config) (name : String) (s : Setting) : Option Config :=
  match name with
  | "local_addr" => s.ipv4?.map fun x => { c with localIp := x }
  | "gateway_addr" => (s.optional? Setting.ip?).map fun x => { c with gatewayIp := x }
  | "lan_addr" => (s.optional? Setting.ip?).map fun x => { c with lanIp := x }
  | "timeout" => s.seconds?.map fun x => { c with timeout := x }
  | "mx" => (s.nat? 255).map fun x => { c with mx := .ofNat x }
  | "discovery_retries" => (s.nat? Text.maxWord).map fun x => { c with retries := .ofNat x }
  | "response_window" =>
    (s.optional? Setting.seconds?).map fun x => { c with responseWindow := x }
  | "search_target" => s.text?.map fun x => { c with searchTarget := x }
  | "msearch_headers" => s.headers?.map fun x => { c with searchHeaders := x }
  | "ssdp_port" => (s.nat? Text.maxPort).map fun x => { c with searchPort := .ofNat x }
  | "enumeration_limit" =>
    (s.nat? Text.maxWord).map fun x => { c with enumerationLimit := .ofNat x }
  | _ => some c

/-- The configuration with some fields set, one after the other. -/
def setFields? (c : Config) (fields : List (String × Setting)) : Option Config :=
  fields.foldlM (fun c field => c.setField? field.1 field.2) c

/-- Reads a configuration. -/
def ofSetting? : Setting → Option Config
  | .record fields => setFields? {} fields
  | .list items =>
    if items.length ≤ fieldNames.length then setFields? {} (fieldNames.zip items) else none
  | _ => none

end Config

end UpnpGateway
