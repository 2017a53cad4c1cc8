import Mathlib.Data.Rat.Cast.Order
import NodeBalancer.Json
import NodeBalancer.Proofs.Text.Digits

/-!
# The grammar of JSON

Which texts are texts of a value, production by production: blanks around all tokens, short escapes,
code units and surrogate pairs for the characters of strings, numbers with or without a fraction and
an exponent, arrays and objects of any content.  One value has many texts.

* `Json.Written`: the texts of a value.
* `Json.Document`: the same with blanks around them.
* `Json.Within`: the values of bounded depth whose numbers are not too large.
-/

namespace NodeBalancer

namespace Json

/-- Blanks, of which there may be none. -/
def Blank (cs : List Char) : Prop :=
  ∀ c ∈ cs, c ∈ [' ', '\t', '\n', '\r']

instance (cs : List Char) : Decidable (Blank cs) :=
  List.decidableBAll (· ∈ [' ', '\t', '\n', '\r']) cs

/-! ## Strings -/

/-- A code unit: four hexadecimal digits. -/
structure UnitText (cs : List Char) (unit : Nat) : Prop where
  digits : Text.Digits 16 cs unit
  length_eq : cs.length = 4

/-- What may stand behind a backslash for one character, and that character. -/
def shortEscapes : List (Char × Char) :=
  [('"', '"'), ('\\', '\\'), ('/', '/'), ('b', '\x08'), ('f', '\x0c'), ('n', '\n'), ('r', '\r'),
    ('t', '\t')]

/-- One character of a string: itself, or escaped by a letter, a code unit or a surrogate pair. -/
inductive CharText : List Char → Char → Prop
  | plain {c : Char} (hcontrol : 0x20 ≤ c.toNat) (hquote : c ≠ '"') (hbackslash : c ≠ '\\') :
      CharText [c] c
  | short {letter c : Char} (h : (letter, c) ∈ shortEscapes) : CharText ['\\', letter] c
  | unit {cs : List Char} {c : Char} (h : UnitText cs c.toNat) : CharText ('\\' :: 'u' :: cs) c
  | pair {cs ds : List Char} {high low : Nat} {c : Char} (hhigh : UnitText cs high)
      (hlow : UnitText ds low) (hleads : 0xd800 ≤ high ∧ high < 0xdc00)
      (htrails : 0xdc00 ≤ low ∧ low < 0xe000)
      (hc : c.toNat = 0x10000 + (high - 0xd800) * 0x400 + (low - 0xdc00)) :
      CharText ('\\' :: 'u' :: (cs ++ '\\' :: 'u' :: ds)) c

inductive CharsText : List Char → List Char → Prop
  | nil : CharsText [] []
  | cons {cs : List Char} {c : Char} (h : CharText cs c) {rest text : List Char}
      (hrest : CharsText rest text) : CharsText (cs ++ rest) (c :: text)

/-- A text without escapes. -/
theorem CharsText.of_plain {text : List Char}
    (h : ∀ c ∈ text, 0x20 ≤ c.toNat ∧ c ≠ '"' ∧ c ≠ '\\') : CharsText text text := by
  induction text with
  | nil => exact .nil
  | cons c text ih =>
    obtain ⟨hcontrol, hquote, hbackslash⟩ := h c List.mem_cons_self
    exact .cons (.plain hcontrol hquote hbackslash) (ih fun d hd => h d (List.mem_cons_of_mem c hd))

inductive StringText : List Char → String → Prop
  | quoted {cs : List Char} {text : String} (h : CharsText cs text.toList) :
      StringText ('"' :: (cs ++ ['"'])) text

/-! ## Numbers -/

/-- What may stand behind the whole part of a number, and the digits behind the point. -/
inductive FractionText : List Char → List Char → Prop
  | absent : FractionText [] []
  | present {ds : List Char} {n : Nat} (h : Text.Digits 10 ds n) : FractionText ('.' :: ds) ds

/-- What may stand at the end of a number, and the power of ten that it denotes. -/
inductive ExponentText : List Char → Int → Prop
  | absent : ExponentText [] 0
  | unsigned {e : Char} (he : e = 'e' ∨ e = 'E') {ds : List Char} {n : Nat}
      (h : Text.Digits 10 ds n) : ExponentText (e :: ds) n
  | plus {e : Char} (he : e = 'e' ∨ e = 'E') {ds : List Char} {n : Nat}
      (h : Text.Digits 10 ds n) : ExponentText (e :: '+' :: ds) n
  | minus {e : Char} (he : e = 'e' ∨ e = 'E') {ds : List Char} {n : Nat}
      (h : Text.Digits 10 ds n) : ExponentText (e :: '-' :: ds) (-n)

/-- A whole part without a zero in front, and perhaps a fraction and an exponent. -/
inductive UnsignedText (negative : Bool) : List Char → JsonNumber → Prop
  | parts {whole fraction places power : List Char} {n significand : Nat} {exponent : Int}
      (hwhole : Text.Digits 10 whole n) (hlead : whole.head? = some '0' → whole = ['0'])
      (hfraction : FractionText fraction places) (hpower : ExponentText power exponent)
      (hsignificand : Text.Digits 10 (whole ++ places) significand) :
      UnsignedText negative (whole ++ (fraction ++ power))
        ⟨negative, significand, exponent - places.length⟩

inductive NumberText : List Char → JsonNumber → Prop
  | positive {cs : List Char} {n : JsonNumber} (h : UnsignedText false cs n) : NumberText cs n
  | negative {cs : List Char} {n : JsonNumber} (h : UnsignedText true cs n) :
      NumberText ('-' :: cs) n

/-! ## Values -/

section Layout

variable {α : Type} (W : List Char → α → Prop)

/-- A text with blanks around it. -/
inductive Padded : List Char → α → Prop
  | blanks {before cs behind : List Char} {a : α} (hbefore : Blank before) (h : W cs a)
      (hbehind : Blank behind) : Padded (before ++ (cs ++ behind)) a

/-- Texts with commas between them, at least one. -/
inductive Separated : List Char → List α → Prop
  | single {cs : List Char} {a : α} (h : W cs a) : Separated cs [a]
  | cons {cs : List Char} {a : α} (h : W cs a) {rest : List Char} {as : List α}
      (hrest : Separated rest as) : Separated (cs ++ ',' :: rest) (a :: as)

end Layout

/-- A name, a colon with blanks around it, and a value. -/
inductive MemberText (W : List Char → Json → Prop) : List Char → String × Json → Prop
  | named {name before behind cs : List Char} {text : String} {v : Json}
      (hname : StringText name text) (hbefore : Blank before) (hbehind : Blank behind)
      (h : W cs v) : MemberText W (name ++ (before ++ ':' :: (behind ++ cs))) (text, v)

/-- The texts of a value. -/
inductive Written : List Char → Json → Prop
  | null : Written ['n', 'u', 'l', 'l'] .null
  | true : Written ['t', 'r', 'u', 'e'] (.bool true)
  | false : Written ['f', 'a', 'l', 's', 'e'] (.bool false)
  | number {cs : List Char} {n : JsonNumber} (h : NumberText cs n) : Written cs (.number n)
  | string {cs : List Char} {text : String} (h : StringText cs text) : Written cs (.string text)
  | emptyArray {cs : List Char} (h : Blank cs) : Written ('[' :: (cs ++ [']'])) (.array [])
  | array {cs : List Char} {items : List Json} (h : Separated (Padded Written) cs items) :
      Written ('[' :: (cs ++ [']'])) (.array items)
  | emptyObject {cs : List Char} (h : Blank cs) :
      Written ('\x7b' :: (cs ++ ['\x7d'])) (.object [])
  | object {cs : List Char} {members : List (String × Json)}
      (h : Separated (Padded (MemberText Written)) cs members) :
      Written ('\x7b' :: (cs ++ ['\x7d'])) (.object members)

/-- A whole text of a value, with blanks around it. -/
def Document : List Char → Json → Prop := Padded Written

end Json

/-! ## Limits -/

/-- The magnitude of a number. -/
def JsonNumber.magnitude (n : JsonNumber) : ℚ := n.significand * (10 : ℚ) ^ n.exponent

/-- Values in which arrays and objects are nested at most so deep and no number exceeds the largest
power of ten that a double-precision number can hold. -/
inductive Json.Within : Nat → Json → Prop
  | null {depth : Nat} : Within depth .null
  | bool {depth : Nat} {b : Bool} : Within depth (.bool b)
  | number {depth : Nat} {n : JsonNumber} (h : n.magnitude ≤ 10 ^ 308) : Within depth (.number n)
  | string {depth : Nat} {text : String} : Within depth (.string text)
  | array {depth : Nat} {items : List Json} (h : ∀ v ∈ items, Within depth v) :
      Within (depth + 1) (.array items)
  | object {depth : Nat} {members : List (String × Json)}
      (h : ∀ m ∈ members, Within depth m.2) : Within (depth + 1) (.object members)

namespace Json.Within

theorem magnitude_le {depth : Nat} {n : JsonNumber} (h : Within depth (.number n)) :
    n.magnitude ≤ 10 ^ 308 := by
  cases h with
  | number h => exact h

theorem items {depth : Nat} {items : List Json} (h : Within depth (.array items)) :
    ∃ inner, depth = inner + 1 ∧ ∀ v ∈ items, Within inner v := by
  cases h with
  | array h => exact ⟨_, rfl, h⟩

theorem members {depth : Nat} {members : List (String × Json)}
    (h : Within depth (.object members)) :
    ∃ inner, depth = inner + 1 ∧ ∀ m ∈ members, Within inner m.2 := by
  cases h with
  | object h => exact ⟨_, rfl, h⟩

end Json.Within

end NodeBalancer
