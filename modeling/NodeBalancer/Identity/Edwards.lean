import NodeBalancer.Identity.Repeated
import NodeBalancer.Identity.Sha512
import NodeBalancer.Identity.Tagged

/-!
# Keys on the twisted curve

The points with y² - x² = 1 + d x² y² modulo 2²⁵⁵ - 19.  A private key is 32 bytes; a number is made
of its hash, and its public key is that multiple of the base point.
-/

namespace NodeBalancer.Identity.Edwards

def prime : Nat := 0x7fffffffffffffffffffffffffffffffffffffffffffffffffffffffffffffed

def d : Int := 0x52036cee2b6ffe738cc740797779e89800700a4d4141d8ab75eb4dca135978a3

/-- The point x/z, y/z. -/
structure Point where
  x : Int
  y : Int
  z : Int
deriving DecidableEq

def neutral : Point := ⟨0, 1, 1⟩

def base : Point where
  x := 0x216936d3cd6e53fec0a4e231fdd6dc5c692cc7609525a7b2c9562d608f25d51a
  y := 0x6666666666666666666666666666666666666666666666666666666666666658
  z := 1

/-- The sum of any two points; the formula has no exceptions, because `d` is not a square. -/
def add (p q : Point) : Point :=
  let zz := p.z * q.z % prime
  let xx := p.x * q.x
  let yy := p.y * q.y
  let cross := (p.x + p.y) * (q.x + q.y) - xx - yy
  let twist := d * (xx * yy % prime)
  let square := zz * zz
  let lower := (square - twist) % prime
  let upper := (square + twist) % prime
  ⟨zz * lower * cross % prime, zz * upper * (yy + xx) % prime, lower * upper % prime⟩

def multiple (n : Nat) : Point :=
  repeated add neutral base n

/-- Two to the power 255. -/
def signBit : Nat := 0x8000000000000000000000000000000000000000000000000000000000000000

/-- The bytes of `y`, the last one in its spare bit telling whether `x` is odd. -/
def encode (p : Point) : Bytes :=
  let inverse := inverseMod prime p.z
  let x := (p.x * inverse % prime).toNat
  let y := (p.y * inverse % prime).toNat
  toLittleEndian 32 (y + x % 2 * signBit)

/-- Two to the power 254. -/
def topBit : Nat := 0x4000000000000000000000000000000000000000000000000000000000000000

/-- The number of a private key: a multiple of eight, with the top bit set. -/
def scalar (secret : Bytes) : Nat :=
  let n := littleEndian ((Sha512.digest secret).take 32)
  topBit + n % topBit / 8 * 8

def publicKey? (secret : Bytes) : Option Bytes :=
  if secret.length = 32 then some (encode (multiple (scalar secret))) else none

def algorithm : Tagged :=
  .ofSequence [⟨Tagged.identifierTag, [0x2b, 0x65, 0x70]⟩]

end NodeBalancer.Identity.Edwards
