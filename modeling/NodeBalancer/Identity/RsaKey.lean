import NodeBalancer.Identity.Tagged

/-!
# Keys with two primes

A private key holds the modulus, both exponents, the primes, and what speeds up computing with the
primes apart.  It is used only if these agree as far as that can be told without factoring anything.
-/

namespace NodeBalancer.Identity

structure RsaKey where
  modulus : Nat
  publicExponent : Nat
  privateExponent : Nat
  prime₁ : Nat
  prime₂ : Nat
  /-- The private exponent for the first prime alone. -/
  exponent₁ : Nat
  exponent₂ : Nat
  /-- The inverse of the second prime modulo the first. -/
  coefficient : Nat
deriving DecidableEq

namespace RsaKey

/-- The identifier of the algorithm, with empty parameters. -/
def algorithm : Tagged :=
  .ofSequence
    [⟨Tagged.identifierTag, [0x2a, 0x86, 0x48, 0x86, 0xf7, 0x0d, 0x01, 0x01, 0x01]⟩, ⟨0x05, []⟩]

/-- The numbers of a key behind a zero for the version. -/
def read? (bytes : Bytes) : Option RsaKey :=
  match (Tagged.wholeSequence? bytes).bind (·.mapM Tagged.natural?) with
  | some [0, n, e, d, p, q, dp, dq, qi] => some ⟨n, e, d, p, q, dp, dq, qi⟩
  | _ => none

def isOdd (n : Nat) : Bool :=
  n % 2 == 1

/-- Half the bits of the modulus, rounded up. -/
def halfLength (k : RsaKey) : Nat :=
  (bitLength k.modulus + 1) / 2

/-- From 2048 bits on, counted in whole bytes, to 4096 bits. -/
def hasModulus (k : RsaKey) : Bool :=
  isOdd k.modulus && 2048 ≤ (bitLength k.modulus + 7) / 8 * 8 && bitLength k.modulus ≤ 4096

/-- From 65537 on to 33 bits. -/
def hasPublicExponent (k : RsaKey) : Bool :=
  isOdd k.publicExponent && 65537 ≤ k.publicExponent && bitLength k.publicExponent ≤ 33

def isPrimeSized (k : RsaKey) (p : Nat) : Bool :=
  isOdd p && bitLength p == k.halfLength && k.halfLength % 512 == 0

def hasPrimes (k : RsaKey) : Bool :=
  k.isPrimeSized k.prime₁ && k.isPrimeSized k.prime₂ && k.prime₁ * k.prime₂ % k.modulus == 0

def hasPrivateExponent (k : RsaKey) : Bool :=
  isOdd k.privateExponent && k.halfLength < bitLength k.privateExponent &&
    k.privateExponent < k.modulus

def isExponentBelow (p d : Nat) : Bool :=
  isOdd d && d < p

def hasPrimeExponents (k : RsaKey) : Bool :=
  isExponentBelow k.prime₁ k.exponent₁ && isExponentBelow k.prime₂ k.exponent₂

def hasCoefficient (k : RsaKey) : Bool :=
  k.coefficient < k.prime₁ && k.coefficient * k.prime₂ % k.prime₁ == 1

def isConsistent (k : RsaKey) : Bool :=
  k.hasModulus && k.hasPublicExponent && k.hasPrimes && k.hasPrivateExponent &&
    k.hasPrimeExponents && k.hasCoefficient

def publicKey (k : RsaKey) : Bytes :=
  (Tagged.ofSequence [.ofNat k.modulus, .ofNat k.publicExponent]).encode

end RsaKey

end NodeBalancer.Identity
