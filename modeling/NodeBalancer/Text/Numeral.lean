/-!
# Numerals

A numeral is a sequence of decimal digits, at least one, with an optional plus sign in front.
Leading zeros are allowed; a sign alone, a minus sign and anything between the digits are not.
-/

namespace NodeBalancer.Text

/-- The value of a digit in a base up to sixteen; letters count in either case. -/
def digitValue? (base : Nat) (c : Char) : Option Nat :=
  let value :=
    if '0' ≤ c ∧ c ≤ '9' then c.toNat - '0'.toNat
    else if 'a' ≤ c ∧ c ≤ 'f' then c.toNat - 'a'.toNat + 10
    else if 'A' ≤ c ∧ c ≤ 'F' then c.toNat - 'A'.toNat + 10
    else base
  if value < base then some value else none

/-- The number that a sequence of digits denotes, behind the digits already read into `acc`. -/
def digitsValue? (base : Nat) (acc : Nat) : List Char → Option Nat
  | [] => some acc
  | c :: cs =>
    match digitValue? base c with
    | none => none
    | some value => digitsValue? base (acc * base + value) cs

/-- The number denoted by a non-empty sequence of digits. -/
def natural? (base : Nat) (cs : List Char) : Option Nat :=
  if cs.isEmpty then none else digitsValue? base 0 cs

def withoutPlus : List Char → List Char
  | '+' :: cs => cs
  | cs => cs

/-- Reads a whole text as a numeral whose value is below `bound`. -/
def numeral? (bound : Nat) (cs : List Char) : Option Nat :=
  match natural? 10 (withoutPlus cs) with
  | none => none
  | some value => if value < bound then some value else none

end NodeBalancer.Text
