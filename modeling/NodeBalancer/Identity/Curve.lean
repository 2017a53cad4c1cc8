import NodeBalancer.Identity.Repeated
import NodeBalancer.Identity.Tagged

/-!
# Curves in short form

The points with y² = x³ + a x + b modulo a prime, together with one point at infinity.  A private
key is a number; its public key is that multiple of the base point.
-/

namespace NodeBalancer.Identity

structure Curve where
  /-- The object identifier. -/
  name : Bytes
  /-- The bytes of a coordinate and of a private key. -/
  size : Nat
  prime : Nat
  a : Int
  b : Int
  baseX : Int
  baseY : Int
  /-- The least multiple of the base point that is the point at infinity. -/
  order : Nat

namespace Curve

/-- The point x/z, y/z; the one at infinity has z = 0. -/
structure Point where
  x : Int
  y : Int
  z : Int
deriving DecidableEq

def infinity : Point := ⟨0, 1, 0⟩

def base (c : Curve) : Point := ⟨c.baseX, c.baseY, 1⟩

/-- The sum of any two points, equal or not, by one formula that has no exception where no point has
order two. -/
def add (c : Curve) (p q : Point) : Point :=
  let xx := p.x * q.x
  let yy := p.y * q.y
  let zz := p.z * q.z
  let xy := p.x * q.y + q.x * p.y
  let xz := p.x * q.z + q.x * p.z
  let yz := p.y * q.z + q.y * p.z
  let shift := c.a * xz + 3 * c.b * zz
  let lower := (yy - shift) % c.prime
  let upper := (yy + shift) % c.prime
  let slope := (3 * xx + c.a * zz) % c.prime
  let tail := (c.a * xx + 3 * c.b * xz - c.a * c.a * zz) % c.prime
  ⟨(xy * lower - yz * tail) % c.prime, (slope * tail + upper * lower) % c.prime,
    (yz * upper + xy * slope) % c.prime⟩

def multiple (c : Curve) (n : Nat) : Point :=
  repeated c.add infinity c.base n

/-- A four, and both coordinates. -/
def encode (c : Curve) (p : Point) : Bytes :=
  let inverse := inverseMod c.prime p.z
  let coordinate (v : Int) : Bytes := toBigEndian c.size (v * inverse % c.prime).toNat
  0x04 :: coordinate p.x ++ coordinate p.y

/-- The public key of a private one, which must be neither zero nor too large. -/
def publicKey? (c : Curve) (secret : Bytes) : Option Bytes :=
  let n := bigEndian secret
  if secret.length = c.size ∧ 0 < n ∧ n < c.order then some (c.encode (c.multiple n)) else none

def identifier (c : Curve) : Tagged :=
  ⟨Tagged.identifierTag, c.name⟩

/-- The identifier of the algorithm, with the curve for its parameters. -/
def algorithm (c : Curve) : Tagged :=
  .ofSequence
    [⟨Tagged.identifierTag, [0x2a, 0x86, 0x48, 0xce, 0x3d, 0x02, 0x01]⟩, c.identifier]

def p256 : Curve where
  name := [0x2a, 0x86, 0x48, 0xce, 0x3d, 0x03, 0x01, 0x07]
  size := 32
  prime := 0xffffffff00000001000000000000000000000000ffffffffffffffffffffffff
  a := -3
  b := 0x5ac635d8aa3a93e7b3ebbd55769886bc651d06b0cc53b0f63bce3c3e27d2604b
  baseX := 0x6b17d1f2e12c4247f8bce6e563a440f277037d812deb33a0f4a13945d898c296
  baseY := 0x4fe342e2fe1a7f9b8ee7eb4a7c0f9e162bce33576b315ececbb6406837bf51f5
  order := 0xffffffff00000000ffffffffffffffffbce6faada7179e84f3b9cac2fc632551

def p384 : Curve where
  name := [0x2b, 0x81, 0x04, 0x00, 0x22]
  size := 48
  prime :=
    0xfffffffffffffffffffffffffffffffffffffffffffffffffffffffffffffffeffffffff0000000000000000ffffffff
  a := -3
  b :=
    0xb3312fa7e23ee7e4988e056be3f82d19181d9c6efe8141120314088f5013875ac656398d8a2ed19d2a85c8edd3ec2aef
  baseX :=
    0xaa87ca22be8b05378eb1c71ef320ad746e1d3b628ba79b9859f741e082542a385502f25dbf55296c3a545e3872760ab7
  baseY :=
    0x3617de4a96262c6f5d9e98bf9292dc29f8f41dbd289a147ce9da3113b5f0b8c00a60b1ce1d7e819d7a431d7c90ea0e5f
  order :=
    0xffffffffffffffffffffffffffffffffffffffffffffffffc7634d81f4372ddf581a0db248b0a77aecec196accc52973

end Curve

/-- A private key for a curve.  It holds its public key and may name its curve. -/
structure CurveKey where
  secret : Bytes
  parameters : Option Tagged
  publicKey : Bytes
deriving DecidableEq

namespace CurveKey

def ofFields? (secret : Tagged) (parameters : Option Tagged) (publicKey : Tagged) :
    Option CurveKey := do
  return ⟨← secret.content? Tagged.octetStringTag, parameters, ← (← publicKey.field? 1).bits?⟩

/-- The fields of a key behind a one for the version. -/
def read? (bytes : Bytes) : Option CurveKey := do
  match ← Tagged.wholeSequence? bytes with
  | [version, secret, publicKey] =>
    if version = .ofNat 1 then ofFields? secret none publicKey else none
  | [version, secret, parameters, publicKey] =>
    if version = .ofNat 1 then ofFields? secret (some (← parameters.field? 0)) publicKey else none
  | _ => none

/-- Whether a key is one for the given curve, and the public key in it its own. -/
def isOn (c : Curve) (k : CurveKey) : Bool :=
  (k.parameters.all (· == c.identifier)) && c.publicKey? k.secret == some k.publicKey

end CurveKey

end NodeBalancer.Identity
