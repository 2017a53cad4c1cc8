/-!
# Form encoding

The encoding of `application/x-www-form-urlencoded`: of the bytes of a text, ASCII letters, digits
and `*-._` stand for themselves, a space becomes a plus sign, and every other byte becomes a percent
sign with two hexadecimal digits.
-/

namespace NodeBalancer.Text

def hexDigit (n : Nat) : Char :=
  if n < 10 then Char.ofNat (n + '0'.toNat) else Char.ofNat (n - 10 + 'A'.toNat)

def isFormLiteral (c : Char) : Bool :=
  c.isAlphanum || ['*', '-', '.', '_'].contains c

def formEncodeByte (b : UInt8) : List Char :=
  let c := Char.ofNat b.toNat
  if isFormLiteral c then [c]
  else if c = ' ' then ['+']
  else ['%', hexDigit (b.toNat / 16), hexDigit (b.toNat % 16)]

def formEncode (cs : List Char) : List Char :=
  (cs.flatMap String.utf8EncodeChar).flatMap formEncodeByte

def formPair (name value : String) : List Char :=
  formEncode name.toList ++ '=' :: formEncode value.toList

/-- Names and values, joined by equals signs and ampersands. -/
def formQuery (pairs : List (String × String)) : List Char :=
  List.intercalate ['&'] (pairs.map fun (name, value) => formPair name value)

end NodeBalancer.Text
