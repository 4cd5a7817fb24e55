import DiagCheck.File.Portion
import DiagCheck.Yaml.Cursor

/-!
# Reading ahead

A YAML text is read in portions, the first two at once and each further one when a character of
it is needed. A portion can be at fault because its bytes encode no text or because a character
is not allowed. What stands in front of it may be found malformed before the fault is met.
-/

namespace DiagCheck.Yaml

def isAllowed (c : Char) : Bool :=
  c == '\t' || c == '\n' || c == '\r' || c == '\x85' || (0x20 ≤ c.toNat && c.toNat ≤ 0x7E) ||
    (0xA0 ≤ c.toNat && c.toNat ≤ 0xFFFD) || 0x10000 ≤ c.toNat

structure Input where
  /-- The text, up to the first portion that is at fault. -/
  text : Text
  /-- What is wrong with that portion. -/
  fault : Option Fault
  deriving DecidableEq, Repr

namespace Input

open Progress (portionSize)

/-- Where the reading begins that gives the character at `n`. -/
def start (n : Nat) : Nat := if n < 2 * portionSize then 0 else n / portionSize * portionSize

/-- A text that is followed by a fault. A character that is not allowed is a fault of its own. -/
def followedBy (fault : Option Fault) (t : Text) : Input :=
  match t.findIdx? (!isAllowed ·) with
  | some n => ⟨t.take (start n), some .malformed⟩
  | none => ⟨t, fault⟩

def ofText (t : Text) : Input := followedBy none t

/-- The text that the bytes encode, every carriage return being made a newline. -/
def ofBytes (bs : Bytes) : Input :=
  match Utf8.decode bs with
  | ⟨t, none⟩ => ofText t.unifyBreaks
  | ⟨t, some d⟩ =>
    let p := Progress.upTo t d bs.length
    let portions := p.handedOut t
    followedBy (some (.notEncoded (p.waiting t) d)) (portions.take (start portions.length))

end Input

end DiagCheck.Yaml
