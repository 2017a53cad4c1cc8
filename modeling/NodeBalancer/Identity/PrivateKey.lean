import NodeBalancer.Identity.Curve
import NodeBalancer.Identity.Edwards
import NodeBalancer.Identity.Pem
import NodeBalancer.Identity.RsaKey

/-!
# Private keys

A private key is good for a public key: the one that a certificate must carry to belong to it.  It
is written the way a certificate holds it, as a sequence of the algorithm and the key.
-/

namespace NodeBalancer.Identity

/-- The way a certificate holds a public key. -/
def publicKeyInfo (algorithm : Tagged) (key : Bytes) : Tagged :=
  .ofSequence [algorithm, .ofBits key]

/-- A private key inside the wrapping that names its algorithm. -/
structure WrappedKey where
  version : Nat
  algorithm : Tagged
  content : Bytes
  /-- Fields behind the key, other than attributes. -/
  rest : List Tagged
deriving DecidableEq

namespace WrappedKey

/-- Attributes say nothing about the key itself. -/
def withoutAttributes : List Tagged → List Tagged
  | [] => []
  | t :: ts => if t.tag = Tagged.fieldTag 0 then ts else t :: ts

def read? (bytes : Bytes) : Option WrappedKey := do
  match ← Tagged.wholeSequence? bytes with
  | version :: algorithm :: key :: rest =>
    return ⟨← version.natural?, algorithm, ← key.content? Tagged.octetStringTag,
      withoutAttributes rest⟩
  | _ => none

/-- The public key behind a private one: bits under a tag of their own, or a numbered field. -/
def publicKey? (t : Tagged) : Option Bytes :=
  ((t.content? 0x81).bind Tagged.bytesOfBits?).or ((t.field? 1).bind Tagged.bits?)

end WrappedKey

def rsaPublicKey? (key : Bytes) : Option Tagged :=
  match RsaKey.read? key with
  | none => none
  | some k => if k.isConsistent then some (publicKeyInfo RsaKey.algorithm k.publicKey) else none

def curvePublicKey? (c : Curve) (key : Bytes) : Option Tagged :=
  match CurveKey.read? key with
  | none => none
  | some k => if k.isOn c then some (publicKeyInfo c.algorithm k.publicKey) else none

/-- A key on the twisted curve.  From version one on its public key goes with it. -/
def edwardsPublicKey? (key : WrappedKey) : Option Tagged := do
  let secret ← (← Tagged.only? key.content).content? Tagged.octetStringTag
  let publicKey ← Edwards.publicKey? secret
  let isComplete := match key.version, key.rest with
    | 0, [] => true
    | 1, [t] => WrappedKey.publicKey? t == some publicKey
    | _, _ => false
  if isComplete then some (publicKeyInfo Edwards.algorithm publicKey) else none

def curves : List Curve := [.p256, .p384]

/-- The public key for a key of the algorithm that the wrapping names. -/
def wrappedPublicKey? (bytes : Bytes) : Option Tagged := do
  let key ← WrappedKey.read? bytes
  if key.algorithm = Edwards.algorithm then edwardsPublicKey? key
  else if key.version = 0 ∧ key.rest = [] then
    if key.algorithm = RsaKey.algorithm then rsaPublicKey? key.content
    else
      match curves.find? (·.algorithm = key.algorithm) with
      | some c => curvePublicKey? c key.content
      | none => none
  else none

/-- The public key for a private one, if that is sound and of an algorithm that is supported. -/
def publicKey? (form : KeyForm) (key : Bytes) : Option Tagged :=
  match form with
  | .wrapped => wrappedPublicKey? key
  | .rsa => rsaPublicKey? key
  | .ellipticCurve => curves.findSome? (curvePublicKey? · key)

end NodeBalancer.Identity
