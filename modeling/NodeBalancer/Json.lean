/-!
# JSON values

A number keeps the digits it was written with: a sign, a whole number, and a power of ten.
-/

namespace NodeBalancer

/-- The number `significand * 10 ^ exponent`, or its opposite. -/
structure JsonNumber where
  negative : Bool
  significand : Nat
  exponent : Int
deriving DecidableEq

inductive Json where
  | null
  | bool (value : Bool)
  | number (value : JsonNumber)
  | string (text : String)
  | array (items : List Json)
  | object (members : List (String × Json))

def Json.text? : Json → Option String
  | .string text => some text
  | _ => none

namespace JsonNumber

/-- The least magnitude that does not round to a finite double-precision number. -/
def overflowBound : Nat := Nat.pow 2 1024 - Nat.pow 2 970

/-- Whether the magnitude is below the bound.  A number of at most 308 places before the point
always is, one of more than 309 never is, so that only those between are multiplied out. -/
def isFinite (n : JsonNumber) : Bool :=
  if n.significand = 0 then true
  else
    let places : Int := (Nat.toDigits 10 n.significand).length + n.exponent
    if places ≤ 308 then true
    else if 309 < places then false
    else
      decide
        (n.significand * Nat.pow 10 n.exponent.toNat
          < overflowBound * Nat.pow 10 (-n.exponent).toNat)

end JsonNumber

end NodeBalancer
