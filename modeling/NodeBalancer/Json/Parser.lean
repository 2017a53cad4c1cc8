import NodeBalancer.Json
import NodeBalancer.Text.Numeral

/-!
# Reading JSON

Each reader takes what it is for off the front of the characters and hands back the rest.  Blanks
may stand around every value; strings hold no control characters and no half of a surrogate pair;
numbers must be finite; arrays and objects are nested up to a limit.
-/

namespace NodeBalancer.Json

def isSpace (c : Char) : Bool :=
  c == ' ' || c == '\t' || c == '\n' || c == '\r'

def skipSpace (cs : List Char) : List Char :=
  cs.dropWhile isSpace

/-- The character that a backslash and a letter stand for. -/
def simpleEscape? (c : Char) : Option Char :=
  match c with
  | '"' => some '"'
  | '\\' => some '\\'
  | '/' => some '/'
  | 'b' => some '\x08'
  | 'f' => some '\x0c'
  | 'n' => some '\n'
  | 'r' => some '\r'
  | 't' => some '\t'
  | _ => none

def codeUnit? (a b c d : Char) : Option Nat :=
  Text.natural? 16 [a, b, c, d]

def isHighSurrogate (unit : Nat) : Bool :=
  0xd800 ≤ unit && unit < 0xdc00

def isLowSurrogate (unit : Nat) : Bool :=
  0xdc00 ≤ unit && unit < 0xe000

/-- The character encoded by a surrogate pair. -/
def ofSurrogates (high low : Nat) : Char :=
  Char.ofNat (0x10000 + (high - 0xd800) * 0x400 + (low - 0xdc00))

def consTo (c : Char) : Option (List Char × List Char) → Option (List Char × List Char)
  | none => none
  | some (text, rest) => some (c :: text, rest)

/-- The text of a string up to its closing quote. -/
def stringText : List Char → Option (List Char × List Char)
  | [] => none
  | '"' :: rest => some ([], rest)
  | '\\' :: 'u' :: a :: b :: c :: d :: rest =>
    match codeUnit? a b c d with
    | none => none
    | some unit =>
      if isHighSurrogate unit then
        match rest with
        | '\\' :: 'u' :: e :: f :: g :: h :: rest =>
          match codeUnit? e f g h with
          | none => none
          | some low =>
            if isLowSurrogate low then consTo (ofSurrogates unit low) (stringText rest) else none
        | _ => none
      else if isLowSurrogate unit then none
      else consTo (Char.ofNat unit) (stringText rest)
  | '\\' :: c :: rest =>
    match simpleEscape? c with
    | none => none
    | some c => consTo c (stringText rest)
  | c :: rest => if c.toNat < 0x20 then none else consTo c (stringText rest)

def string? : List Char → Option (String × List Char)
  | '"' :: rest => (stringText rest).map fun (text, rest) => (String.ofList text, rest)
  | _ => none

/-- The longest sequence of digits at the front, and what follows it. -/
def digits (cs : List Char) : List Char × List Char :=
  (cs.takeWhile Char.isDigit, cs.dropWhile Char.isDigit)

/-- The part before the point: a zero alone, or digits that begin with another. -/
def wholePart? (cs : List Char) : Option (List Char × List Char) :=
  match cs with
  | '0' :: rest => some (['0'], rest)
  | _ =>
    let (whole, rest) := digits cs
    if whole.isEmpty then none else some (whole, rest)

/-- The digits behind a point, if there is a point. -/
def fraction? (cs : List Char) : Option (List Char × List Char) :=
  match cs with
  | '.' :: rest =>
    let (fraction, rest) := digits rest
    if fraction.isEmpty then none else some (fraction, rest)
  | _ => some ([], cs)

def signed : List Char → Bool × List Char
  | '+' :: rest => (false, rest)
  | '-' :: rest => (true, rest)
  | rest => (false, rest)

def exponentValue (negative : Bool) (digits : List Char) : Int :=
  let magnitude := (Text.digitsValue? 10 0 digits).getD 0
  if negative then -(magnitude : Int) else magnitude

/-- The power of ten behind a letter e, if there is one. -/
def exponent? (cs : List Char) : Option (Int × List Char) :=
  match cs with
  | c :: rest =>
    if c = 'e' ∨ c = 'E' then
      let (negative, rest) := signed rest
      let (magnitude, rest) := digits rest
      if magnitude.isEmpty then none else some (exponentValue negative magnitude, rest)
    else some (0, cs)
  | [] => some (0, [])

def unsigned? (negative : Bool) (cs : List Char) : Option (Json × List Char) :=
  match wholePart? cs with
  | none => none
  | some (whole, rest) =>
    match fraction? rest with
    | none => none
    | some (fraction, rest) =>
      match exponent? rest with
      | none => none
      | some (exponent, rest) =>
        let significand := (Text.digitsValue? 10 0 (whole ++ fraction)).getD 0
        let number : JsonNumber := ⟨negative, significand, exponent - fraction.length⟩
        if number.isFinite then some (.number number, rest) else none

def scalar? : List Char → Option (Json × List Char)
  | 'n' :: 'u' :: 'l' :: 'l' :: rest => some (.null, rest)
  | 't' :: 'r' :: 'u' :: 'e' :: rest => some (.bool true, rest)
  | 'f' :: 'a' :: 'l' :: 's' :: 'e' :: rest => some (.bool false, rest)
  | '"' :: rest => (string? ('"' :: rest)).map fun (text, rest) => (.string text, rest)
  | '-' :: rest => unsigned? true rest
  | cs => unsigned? false cs

/-- Items between commas up to the closing character, at least one; `fuel` bounds their number. -/
def items? {α : Type} (close : Char) (item : List Char → Option (α × List Char)) :
    Nat → List Char → Option (List α × List Char)
  | 0, _ => none
  | fuel + 1, cs =>
    match item (skipSpace cs) with
    | none => none
    | some (value, rest) =>
      match skipSpace rest with
      | [] => none
      | c :: rest =>
        if c = ',' then
          (items? close item fuel rest).map fun (values, rest) => (value :: values, rest)
        else if c = close then some ([value], rest)
        else none

/-- The items of an array or an object whose opening character has been read. -/
def contents? {α : Type} (close : Char) (item : List Char → Option (α × List Char))
    (cs : List Char) : Option (List α × List Char) :=
  match skipSpace cs with
  | [] => none
  | c :: rest =>
    if c = close then some ([], rest) else items? close item (c :: rest).length (c :: rest)

/-- A name, a colon and a value. -/
def member? (item : List Char → Option (Json × List Char)) (cs : List Char) :
    Option ((String × Json) × List Char) :=
  match string? cs with
  | none => none
  | some (name, rest) =>
    match skipSpace rest with
    | ':' :: rest => (item (skipSpace rest)).map fun (value, rest) => ((name, value), rest)
    | _ => none

/-- A value in which arrays and objects are nested at most `depth` deep. -/
def value? : Nat → List Char → Option (Json × List Char)
  | depth + 1, '[' :: rest =>
    (contents? ']' (value? depth) rest).map fun (items, rest) => (.array items, rest)
  | depth + 1, '\x7b' :: rest =>
    (contents? '\x7d' (member? (value? depth)) rest).map fun (members, rest) =>
      (.object members, rest)
  | _, cs => scalar? cs

def maxDepth : Nat := 127

/-- A whole text that is one value, with blanks around it. -/
def parse? (cs : List Char) : Option Json :=
  match value? maxDepth (skipSpace cs) with
  | none => none
  | some (value, rest) => if (skipSpace rest).isEmpty then some value else none

end NodeBalancer.Json
