/-
# Tables of characters

Properties of characters come as tables: as ranges of code points that have a property, or as
blocks of consecutive code points that each have a value of their own.  This file sets up the
two lookups.
-/
namespace UpnpGateway.Text

/-- Whether a character is in one of some inclusive ranges of code points. -/
def inRanges (ranges : Array (Nat × Nat)) (c : Char) : Bool :=
  ranges.any fun r => r.1 ≤ c.toNat && c.toNat ≤ r.2

/-- The value of a character in a table of blocks; a block has the first code point and the
values of this and the following ones. -/
def rowOf? {α : Type} (blocks : Array (Nat × List α)) (c : Char) : Option α :=
  blocks.findSome? fun block =>
    if block.1 ≤ c.toNat then block.2[c.toNat - block.1]? else none

end UpnpGateway.Text
