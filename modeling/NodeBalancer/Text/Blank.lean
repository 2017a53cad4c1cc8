/-!
# Blanks at the ends of a text

A blank is any character with the Unicode property White_Space, twenty-five in all.  `trim` takes
them off both ends and leaves those inside alone.
-/

namespace NodeBalancer.Text

def blanks : List Char :=
  ['\t', '\n', '\x0b', '\x0c', '\r', ' ', '\u0085', '\u00a0', '\u1680', '\u2000', '\u2001', '\u2002',
    '\u2003', '\u2004', '\u2005', '\u2006', '\u2007', '\u2008', '\u2009', '\u200a', '\u2028', '\u2029',
    '\u202f', '\u205f', '\u3000']

def isBlank (c : Char) : Bool :=
  blanks.contains c

def trimStart (cs : List Char) : List Char :=
  cs.dropWhile isBlank

def trimEnd (cs : List Char) : List Char :=
  (cs.reverse.dropWhile isBlank).reverse

def trim (cs : List Char) : List Char :=
  trimEnd (trimStart cs)

end NodeBalancer.Text
