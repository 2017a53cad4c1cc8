/-!
# Addresses of nodes

An address has either four bytes or eight groups of sixteen bits.  Two addresses of different
families are different, even where one is embedded in the other.
-/

namespace NodeBalancer

structure V4 where
  first : UInt8
  second : UInt8
  third : UInt8
  fourth : UInt8
deriving DecidableEq

namespace V4

def octets (a : V4) : List UInt8 :=
  [a.first, a.second, a.third, a.fourth]

/-- The four bytes as two groups, the way they stand at the end of the longer form. -/
def groups (a : V4) : List UInt16 :=
  [UInt16.ofNat (a.first.toNat * 256 + a.second.toNat),
    UInt16.ofNat (a.third.toNat * 256 + a.fourth.toNat)]

def ofGroups (high low : UInt16) : V4 :=
  ⟨UInt8.ofNat (high.toNat / 256), UInt8.ofNat (high.toNat % 256),
    UInt8.ofNat (low.toNat / 256), UInt8.ofNat (low.toNat % 256)⟩

end V4

structure V6 where
  groups : List UInt16
  length_groups : groups.length = 8
deriving DecidableEq

namespace V6

def ofGroups? (groups : List UInt16) : Option V6 :=
  if h : groups.length = 8 then some ⟨groups, h⟩ else none

/-- The address embedded behind five zero groups and one of ones, if there is one. -/
def mapped? (a : V6) : Option V4 :=
  if a.groups.take 6 = [0, 0, 0, 0, 0, 0xffff] then
    match a.groups.drop 6 with
    | [high, low] => some (V4.ofGroups high low)
    | _ => none
  else none

end V6

inductive Address where
  | v4 (address : V4)
  | v6 (address : V6)
deriving DecidableEq

namespace Address

def isV6 : Address → Bool
  | .v4 _ => false
  | .v6 _ => true

end Address

end NodeBalancer
