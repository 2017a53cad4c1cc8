import NodeBalancer.Identity.Bytes

/-!
# Base64

Each character stands for six bits, so that four of them carry three bytes.  Blanks do not count.
Equals signs may fill up the last four characters; bits that do not make a whole byte are dropped.
-/

namespace NodeBalancer.Identity.Base64

def sextet? (c : Char) : Option Nat :=
  if 'A' ≤ c ∧ c ≤ 'Z' then some (c.toNat - 'A'.toNat)
  else if 'a' ≤ c ∧ c ≤ 'z' then some (c.toNat - 'a'.toNat + 26)
  else if '0' ≤ c ∧ c ≤ '9' then some (c.toNat - '0'.toNat + 52)
  else if c = '+' then some 62
  else if c = '/' then some 63
  else none

/-- The space and the controls from the tab to the carriage return. -/
def isBlank (c : Char) : Bool :=
  c == ' ' || ('\t' ≤ c && c ≤ '\r')

def isPad (c : Char) : Bool :=
  c == '='

def byte (n : Nat) : UInt8 :=
  UInt8.ofNat (n % 256)

/-- The bytes in sextets.  A single sextet at the end does not make one. -/
def bytes? : List Nat → Option Bytes
  | [] => some []
  | [_] => none
  | [a, b] => some [byte (a * 4 + b / 16)]
  | [a, b, c] => some [byte (a * 4 + b / 16), byte (b * 16 + c / 4)]
  | a :: b :: c :: d :: rest =>
    (bytes? rest).map fun bytes =>
      byte (a * 4 + b / 16) :: byte (b * 16 + c / 4) :: byte (c * 64 + d) :: bytes

/-- Padding may be left out; what is there must be complete and stand at the end. -/
def isPadding (dataLength : Nat) (cs : List Char) : Bool :=
  cs.all isPad && (cs.isEmpty || (cs.length ≤ 2 && (dataLength + cs.length) % 4 == 0))

def decode? (text : List Char) : Option Bytes :=
  let cs := text.filter (!isBlank ·)
  let characters := cs.takeWhile (!isPad ·)
  if isPadding characters.length (cs.dropWhile (!isPad ·)) then
    (characters.mapM sextet?).bind bytes?
  else none

end NodeBalancer.Identity.Base64
