import NodeBalancer.Identity.Certificate
import NodeBalancer.Identity.PrivateKey

/-!
# Certificates with their keys

A client shows its certificate and proves that it has the private key; so both must be there, and
the public key in the certificate must be the one of the private key.
-/

namespace NodeBalancer.Identity

/-- Whether a certificate carries the public key of a private one. -/
def belongsTo (certificate : Bytes) (form : KeyForm) (key : Bytes) : Bool :=
  match Certificate.read? certificate, publicKey? form key with
  | some certificate, some publicKey => certificate.publicKey == publicKey
  | _, _ => false

def Section.certificate? (s : Section) : Option Bytes :=
  if s.kind = .certificate then some s.content else none

def Section.privateKey? (s : Section) : Option (KeyForm × Bytes) :=
  match s.kind with
  | .privateKey form => some (form, s.content)
  | _ => none

/-- Whether a text holds a certificate and the private key that belongs to it.  Of several
certificates the first one counts, of several private keys the last one. -/
def isUsable (text : List Char) : Bool :=
  match Pem.sections? text with
  | none => false
  | some sections =>
    if sections.any (·.kind = .foreign) then false
    else
      match (sections.filterMap Section.certificate?).head?,
          (sections.filterMap Section.privateKey?).getLast? with
      | some certificate, some (form, key) => belongsTo certificate form key
      | _, _ => false

end NodeBalancer.Identity
