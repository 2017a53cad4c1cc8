import NodeBalancer.Identity.Base64

/-!
# Armoured sections

Text files carry certificates and keys as sections between a begin line and an end line of one
label; the lines between them are Base64.  What stands outside of sections is passed over.
-/

namespace NodeBalancer.Identity

/-- A private key stands alone, in the form of its algorithm, or wrapped with the algorithm's
name. -/
inductive KeyForm where
  | wrapped
  | rsa
  | ellipticCurve
deriving DecidableEq

inductive SectionKind where
  | certificate
  | privateKey (form : KeyForm)
  /-- A meaning of its own that has nothing to do with identities. -/
  | foreign
deriving DecidableEq

structure Section where
  kind : SectionKind
  content : Bytes
deriving DecidableEq

namespace Pem

/-- The labels that have a meaning. -/
def labels : List (String × SectionKind) :=
  [("CERTIFICATE", .certificate),
    ("PRIVATE KEY", .privateKey .wrapped),
    ("RSA PRIVATE KEY", .privateKey .rsa),
    ("EC PRIVATE KEY", .privateKey .ellipticCurve),
    ("PUBLIC KEY", .foreign),
    ("X509 CRL", .foreign),
    ("CERTIFICATE REQUEST", .foreign),
    ("ECHCONFIG", .foreign)]

def kind? (label : List Char) : Option SectionKind :=
  labels.lookup (String.ofList label)

def beginMark : List Char := "-----BEGIN ".toList

def endMark : List Char := "-----END ".toList

def dashes : List Char := "-----".toList

def isBegin (line : List Char) : Bool :=
  beginMark.isPrefixOf line

def isEndOf (label line : List Char) : Bool :=
  (endMark ++ label ++ dashes).isPrefixOf line

/-- Takes dashes off a line that is read from its end; spaces among them do not count.  When the
given number is off, no other may follow. -/
def withoutDashes? : Nat → List Char → Option (List Char)
  | 0, line => if (line.dropWhile (· == ' ')).head? = some '-' then none else some line
  | n + 1, ' ' :: line => withoutDashes? (n + 1) line
  | n + 1, '-' :: line => withoutDashes? n line
  | _ + 1, _ => none

/-- The label of a begin line, if the line ends in as many dashes as it should. -/
def label? (line : List Char) : Option (List Char) :=
  (withoutDashes? dashes.length line.reverse).map fun rest => rest.reverse.drop beginMark.length

/-- A section that is not finished yet, with its lines so far, the last one first. -/
structure Unfinished where
  label : List Char
  body : List (List Char)

/-- The sections among lines; the first argument is the section that is open.  A begin line in a
section gives it a new label.  A section without a meaning is passed over when it ends; a begin line
that is not well formed, a section that is not Base64, and one that does not end are refused. -/
def scan? : Option Unfinished → List (List Char) → Option (List Section)
  | none, [] => some []
  | some _, [] => none
  | current, line :: lines =>
    if isBegin line then
      match label? line with
      | none => none
      | some label => scan? (some ⟨label, (current.map Unfinished.body).getD []⟩) lines
    else
      match current with
      | none => scan? none lines
      | some ⟨label, body⟩ =>
        if isEndOf label line then
          match kind? label with
          | none => scan? none lines
          | some kind =>
            match Base64.decode? body.reverse.flatten with
            | none => none
            | some content => (scan? none lines).map (⟨kind, content⟩ :: ·)
        else scan? (some ⟨label, line :: body⟩) lines

def isLineEnd (c : Char) : Bool :=
  c == '\n' || c == '\r'

def sections? (cs : List Char) : Option (List Section) :=
  scan? none (cs.splitOnP isLineEnd)

end Pem

end NodeBalancer.Identity
