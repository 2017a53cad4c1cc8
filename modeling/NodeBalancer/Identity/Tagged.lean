import NodeBalancer.Identity.Bytes

/-!
# Tagged data

Certificates and keys are nested sequences of tagged values: a tag byte, a length, and as many
bytes.  Each length has one way to be written, the shortest: in one byte below 128, else behind a
byte that says whether one or two bytes follow.
-/

namespace NodeBalancer.Identity

structure Tagged where
  tag : UInt8
  content : Bytes
deriving DecidableEq

namespace Tagged

def integerTag : UInt8 := 0x02

def bitStringTag : UInt8 := 0x03

def octetStringTag : UInt8 := 0x04

def identifierTag : UInt8 := 0x06

def sequenceTag : UInt8 := 0x30

/-- The tag of a field that is told from its neighbours by a number and holds a whole value. -/
def fieldTag (n : Nat) : UInt8 :=
  UInt8.ofNat (0xa0 + n)

/-! ## Writing -/

/-- The length of a value of at most 65535 bytes. -/
def encodeLength (n : Nat) : Bytes :=
  if n < 128 then toBigEndian 1 n
  else if n < 256 then 0x81 :: toBigEndian 1 n
  else 0x82 :: toBigEndian 2 n

def encode (t : Tagged) : Bytes :=
  t.tag :: encodeLength t.content.length ++ t.content

def encodeAll (ts : List Tagged) : Bytes :=
  ts.flatMap encode

/-- A number that is not negative, with room for a sign in its first bit. -/
def ofNat (n : Nat) : Tagged :=
  ⟨integerTag, toBigEndian (bitLength n / 8 + 1) n⟩

/-- A string of whole bytes as a bit string, whose first byte counts the bits that are not used. -/
def ofBits (bytes : Bytes) : Tagged :=
  ⟨bitStringTag, 0 :: bytes⟩

def ofSequence (ts : List Tagged) : Tagged :=
  ⟨sequenceTag, encodeAll ts⟩

/-! ## Reading -/

/-- A tag that goes on in the next byte; there is no use for those. -/
def isLongTag (tag : UInt8) : Bool :=
  tag.toNat % 32 == 31

/-- A length and the bytes behind it. -/
def length? : Bytes → Option (Nat × Bytes)
  | [] => none
  | first :: rest =>
    if first.toNat < 128 then some (first.toNat, rest)
    else
      let size := first.toNat - 128
      let length := bigEndian (rest.take size)
      if encodeLength length = first :: rest.take size then some (length, rest.drop size) else none

/-- The first value and the bytes behind it. -/
def read? : Bytes → Option (Tagged × Bytes)
  | [] => none
  | tag :: rest =>
    match length? rest with
    | none => none
    | some (length, rest) =>
      let content := rest.take length
      if isLongTag tag || content.length < length then none
      else some (⟨tag, content⟩, rest.drop length)

/-- All values, one behind the other; `fuel` bounds their number. -/
def readMany? : Nat → Bytes → Option (List Tagged)
  | _, [] => some []
  | 0, _ => none
  | fuel + 1, bytes =>
    match read? bytes with
    | none => none
    | some (value, rest) => (readMany? fuel rest).map (value :: ·)

def all? (bytes : Bytes) : Option (List Tagged) :=
  readMany? bytes.length bytes

/-- The only value that bytes hold. -/
def only? (bytes : Bytes) : Option Tagged :=
  match all? bytes with
  | some [t] => some t
  | _ => none

/-- The content of a value with the given tag. -/
def content? (tag : UInt8) (t : Tagged) : Option Bytes :=
  if t.tag = tag then some t.content else none

/-- The values in a sequence. -/
def sequence? (t : Tagged) : Option (List Tagged) :=
  (t.content? sequenceTag).bind all?

/-- The values in the only value that bytes hold, if it is a sequence. -/
def wholeSequence? (bytes : Bytes) : Option (List Tagged) :=
  (only? bytes).bind sequence?

/-- The only value in a numbered field. -/
def field? (n : Nat) (t : Tagged) : Option Tagged :=
  (t.content? (fieldTag n)).bind only?

/-- A number that is not negative, if it is written the shortest way. -/
def natural? (t : Tagged) : Option Nat :=
  let n := bigEndian t.content
  if t = ofNat n then some n else none

/-- The bytes of a string of bits that are all used; the tag is left to the caller. -/
def bytesOfBits? : Bytes → Option Bytes
  | 0 :: bytes => some bytes
  | _ => none

def bits? (t : Tagged) : Option Bytes :=
  (t.content? bitStringTag).bind bytesOfBits?

end Tagged

end NodeBalancer.Identity
