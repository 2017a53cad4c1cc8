import NodeBalancer.Text.GraphemeExtend
import NodeBalancer.Text.Unprintable

/-!
# Quoted text

Diagnostics show text between double quotes, with everything that could be mistaken or not be seen
at all written as an escape.
-/

namespace NodeBalancer.Text

/-- The code point in lower-case hexadecimal between braces. -/
def codePointEscape (c : Char) : List Char :=
  ['\\', 'u', '\x7b'] ++ Nat.toDigits 16 c.toNat ++ ['\x7d']

def escape (c : Char) : List Char :=
  if c = '\x00' then ['\\', '0']
  else if c = '\t' then ['\\', 't']
  else if c = '\r' then ['\\', 'r']
  else if c = '\n' then ['\\', 'n']
  else if c = '"' then ['\\', '"']
  else if c = '\\' then ['\\', '\\']
  else if isGraphemeExtend c || isUnprintable c then codePointEscape c
  else [c]

def quote (text : String) : String :=
  String.ofList ('"' :: text.toList.flatMap escape ++ ['"'])

/-- An absent text is shown as a bare word, which no quoted text is. -/
def quoteOption : Option String → String
  | none => "None"
  | some text => "Some(" ++ quote text ++ ")"

end NodeBalancer.Text
