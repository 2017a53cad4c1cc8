import NodeBalancer.Address

/-!
# Writing addresses

The long form leaves out its longest run of zero groups, the first of them where several are equally
long, unless that run is a single group.  An embedded address of the short form is shown with dots.
-/

namespace NodeBalancer

def V4.digits (a : V4) : List Char :=
  List.intercalate ['.'] (a.octets.map fun octet => Nat.toDigits 10 octet.toNat)

def joinGroups (groups : List UInt16) : List Char :=
  List.intercalate [':'] (groups.map fun g => Nat.toDigits 16 g.toNat)

def leadingZeros : List UInt16 → Nat
  | [] => 0
  | g :: gs => if g = 0 then leadingZeros gs + 1 else 0

/-- Position and length of the first of the longest runs of zeros. -/
def longestZeroRun : List UInt16 → Nat × Nat
  | [] => (0, 0)
  | g :: gs =>
    let here := leadingZeros (g :: gs)
    let (start, length) := longestZeroRun gs
    if length ≤ here then (0, here) else (start + 1, length)

/-- The groups in hexadecimal, the longest run of zeros left out. -/
def V6.compressed (a : V6) : List Char :=
  let (start, length) := longestZeroRun a.groups
  if 1 < length then
    joinGroups (a.groups.take start) ++ [':', ':'] ++ joinGroups (a.groups.drop (start + length))
  else joinGroups a.groups

def V6.digits (a : V6) : List Char :=
  match a.mapped? with
  | some embedded => [':', ':', 'f', 'f', 'f', 'f', ':'] ++ embedded.digits
  | none => a.compressed

namespace Address

def digits : Address → List Char
  | .v4 a => a.digits
  | .v6 a => a.digits

def text (a : Address) : String :=
  String.ofList a.digits

/-- The way an address stands in front of a colon and a port. -/
def hostDigits : Address → List Char
  | .v4 a => a.digits
  | .v6 a => '[' :: a.digits ++ [']']

/-- The way an address stands in a resource locator, where dots are for the short form only. -/
def locatorDigits : Address → List Char
  | .v4 a => a.digits
  | .v6 a => '[' :: a.compressed ++ [']']

end Address

end NodeBalancer
