/-
# Entities

Five characters have a name of their own in markup, and every character can be written by
its number.  Escaping names the five and leaves the rest alone; reading back fails on an
ampersand that begins no entity, and it is left to the reader of the document what becomes
of such a text.
-/
import UpnpGateway.Text.Numeral

namespace UpnpGateway.Xml

open UpnpGateway.Text

/-- The written form of one character. -/
def escapeChar (c : Char) : List Char :=
  match c with
  | '<' => "&lt;".toList
  | '>' => "&gt;".toList
  | '&' => "&amp;".toList
  | '\'' => "&apos;".toList
  | '"' => "&quot;".toList
  | _ => [c]

/-- The text with the five reserved characters written as entities. -/
def escape (s : List Char) : List Char := s.flatMap escapeChar

/-- The character that a number stands for; zero and the surrogates stand for none. -/
def charOfNumber? (n : Nat) : Option Char :=
  if n != 0 && (n < 0xD800 || (0xDFFF < n && n ≤ 0x10FFFF)) then some (Char.ofNat n) else none

/-- The character that an entity stands for, given what is written between the ampersand and
the semicolon.  A number has at most six hexadecimal or seven decimal digits. -/
def entity? (name : List Char) : Option Char :=
  match name with
  | '#' :: 'x' :: ds =>
    if ds.length ≤ 6 then (digits? 16 ds).bind charOfNumber? else none
  | '#' :: ds =>
    if ds.length ≤ 7 then (digits? 10 ds).bind charOfNumber? else none
  | _ =>
    if name == "lt".toList then some '<'
    else if name == "gt".toList then some '>'
    else if name == "amp".toList then some '&'
    else if name == "apos".toList then some '\''
    else if name == "quot".toList then some '"'
    else none

/-- The text that an escaped text stands for, if each of its ampersands begins an entity. -/
def unescape? (s : List Char) : Option (List Char) :=
  match h : cutFirst '&' s with
  | none => some s
  | some (plain, r) =>
    match h' : cutFirst ';' r with
    | none => none
    | some (name, rest) =>
      have : rest.length < s.length := by
        rw [(eq_of_cutFirst h).1, (eq_of_cutFirst h').1]
        simp only [List.length_append, List.length_cons]
        omega
      if name.contains '&' then none
      else (entity? name).bind fun c => (unescape? rest).map fun t => plain ++ c :: t
termination_by s.length

/-- The text that an escaped text stands for; a text with an ampersand that begins no entity
stands for itself. -/
def unescape (s : List Char) : List Char := (unescape? s).getD s

end UpnpGateway.Xml
