import NodeBalancer.Identity.Tagged

/-!
# Certificates

Of a certificate only the public key is used, but only when the whole can be understood: its
version, the order of its fields, and every extension that must not be passed over.
-/

namespace NodeBalancer.Identity

/-- What an extension is about is named by an object identifier. -/
structure Extension where
  name : Bytes
  critical : Bool
  value : Bytes
deriving DecidableEq

namespace Extension

def ofFields? (name : Tagged) (critical : Bool) (value : Tagged) : Option Extension := do
  return ⟨← name.content? Tagged.identifierTag, critical, ← value.content? Tagged.octetStringTag⟩

/-- A truth value that says whether an extension is critical. -/
def critical? (t : Tagged) : Option Bool :=
  if t = ⟨0x01, [0xff]⟩ then some true
  else if t = ⟨0x01, [0x00]⟩ then some false
  else none

def read? (t : Tagged) : Option Extension := do
  match ← t.sequence? with
  | [name, value] => ofFields? name false value
  | [name, critical, value] => ofFields? name (← critical? critical) value
  | _ => none

/-- What keys may be used for; the value is not a sequence but a string of bits. -/
def keyUsage : Bytes := [0x55, 0x1d, 15]

/-- The extensions that are understood and hold a sequence: other names of the subject, basic
constraints, constraints on names, where lists of revocations are, and the extended usage of the
key. -/
def sequences : List Bytes :=
  [17, 19, 30, 31, 37].map fun n => [0x55, 0x1d, n]

def isUnderstood (e : Extension) : Bool :=
  e.name == keyUsage || sequences.contains e.name

def isAcceptable (e : Extension) : Bool :=
  if sequences.contains e.name then
    (Tagged.only? e.value).any (·.tag == Tagged.sequenceTag)
  else e.name == keyUsage || !e.critical

/-- No extension that is understood may stand twice among others. -/
def areAcceptable (es : List Extension) : Bool :=
  es.all isAcceptable && decide ((es.filter isUnderstood).map name).Nodup

end Extension

structure Certificate where
  /-- The algorithm of the public key, and the key, as one sequence. -/
  publicKey : Tagged
deriving DecidableEq

namespace Certificate

/-- The version that has extensions, counted from zero. -/
def version : Tagged := .ofNat 2

def hasExtensions (fields : List Tagged) : Bool :=
  match fields with
  | [] => true
  | [t] =>
    (((t.field? 3).bind Tagged.sequence?).bind (·.mapM Extension.read?)).any
      Extension.areAcceptable
  | _ => false

def isSequence (t : Tagged) : Bool :=
  t.tag == Tagged.sequenceTag

/-- The certificate that is signed: version, serial number, algorithm of the signature, issuer,
period of validity, subject, public key, and extensions. -/
def ofFields? (algorithm : Tagged) : List Tagged → Option Certificate
  | version' :: serial :: algorithm' :: issuer :: validity :: subject :: publicKey :: rest =>
    if version'.field? 0 = some version ∧ serial.tag = Tagged.integerTag ∧ algorithm' = algorithm ∧
        [algorithm, issuer, validity, subject, publicKey].all isSequence ∧ hasExtensions rest then
      some ⟨publicKey⟩
    else none
  | _ => none

/-- The longest content of a certificate, in bytes. -/
def maxLength : Nat := 65534

/-- A certificate is the signed fields, the algorithm of the signature, and the signature.  The
signature is not checked. -/
def read? (bytes : Bytes) : Option Certificate := do
  let whole ← Tagged.only? bytes
  if maxLength < whole.content.length then none
  match ← whole.sequence? with
  | [signed, algorithm, signature] =>
    if signature.bits?.isNone then none
    ofFields? algorithm (← signed.sequence?)
  | _ => none

end Certificate

end NodeBalancer.Identity
