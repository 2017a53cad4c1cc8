import NodeBalancer.Address
import NodeBalancer.Text.Numeral

/-!
# Reading addresses

The short form is four decimal numbers joined by dots.  The long form is groups of hexadecimal
digits joined by colons: eight of them, or fewer around one double colon, which stands for at least
one zero group.  In the long form the last two groups may be written as an address of the short
form, unless the double colon follows them.
-/

namespace NodeBalancer

/-- One to three digits, below 256, without a leading zero. -/
def octet? (cs : List Char) : Option UInt8 :=
  if cs.length ≤ 3 ∧ (cs.head? ≠ some '0' ∨ cs.length = 1) then
    match Text.natural? 10 cs with
    | some n => if n < 256 then some (UInt8.ofNat n) else none
    | none => none
  else none

def V4.parse? (cs : List Char) : Option V4 :=
  match (cs.splitOn '.').map octet? with
  | [some a, some b, some c, some d] => some ⟨a, b, c, d⟩
  | _ => none

/-- One to four hexadecimal digits. -/
def group? (cs : List Char) : Option UInt16 :=
  if cs.length ≤ 4 then (Text.natural? 16 cs).map UInt16.ofNat else none

/-- The groups written by pieces between single colons.  Where `dotted` allows it, the last piece
may be an address of the short form, worth two groups. -/
def groups? (dotted : Bool) : List (List Char) → Option (List UInt16)
  | [] => some []
  | piece :: pieces =>
    match group? piece with
    | some g => (groups? dotted pieces).map (g :: ·)
    | none =>
      if dotted && pieces.isEmpty then (V4.parse? piece).map V4.groups else none

/-- The groups on one side of a double colon, where there may be none at all. -/
def side? (dotted : Bool) (cs : List Char) : Option (List UInt16) :=
  if cs.isEmpty then some [] else groups? dotted (cs.splitOn ':')

/-- What stands before and after the first double colon. -/
def halves? : List Char → Option (List Char × List Char)
  | ':' :: ':' :: cs => some ([], cs)
  | c :: cs => (halves? cs).map fun (before, behind) => (c :: before, behind)
  | [] => none

def V6.parse? (cs : List Char) : Option V6 :=
  match halves? cs with
  | none => (groups? true (cs.splitOn ':')).bind V6.ofGroups?
  | some (before, behind) =>
    match side? false before, side? true behind with
    | some front, some back =>
      let missing := 8 - (front.length + back.length)
      if 0 < missing then V6.ofGroups? (front ++ List.replicate missing 0 ++ back) else none
    | _, _ => none

def Address.parse? (cs : List Char) : Option Address :=
  match V4.parse? cs with
  | some a => some (.v4 a)
  | none => (V6.parse? cs).map .v6

end NodeBalancer
