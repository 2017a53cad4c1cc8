/-!
# Numbers as bytes

A number in base 256, with its first digit in front (big-endian) or behind (little-endian).
-/

namespace NodeBalancer.Identity

abbrev Bytes := List UInt8

def littleEndian : Bytes → Nat
  | [] => 0
  | b :: bs => b.toNat + 256 * littleEndian bs

def bigEndian (bytes : Bytes) : Nat :=
  littleEndian bytes.reverse

/-- The last `size` digits of a number, the last one in front. -/
def toLittleEndian : Nat → Nat → Bytes
  | 0, _ => []
  | size + 1, n => UInt8.ofNat (n % 256) :: toLittleEndian size (n / 256)

/-- The last `size` digits of a number, the last one behind. -/
def toBigEndian (size n : Nat) : Bytes :=
  (toLittleEndian size n).reverse

/-- How many bits it takes to write a number; none for zero. -/
def bitLength (n : Nat) : Nat :=
  if n = 0 then 0 else n.log2 + 1

end NodeBalancer.Identity
