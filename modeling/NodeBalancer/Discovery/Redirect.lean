import NodeBalancer.Discovery.Locator

/-!
# Where a redirect leads

A redirect names its target relative to where it was found: by a path, by a path beside the present
one, or by a query alone.  A target that names a host of its own is somewhere else and is not
resolved.
-/

namespace NodeBalancer.Locator

/-- Whether a reference begins with the name of a scheme and a colon. -/
def namesScheme (reference : List Char) : Bool :=
  let name := reference.takeWhile fun c => c.isAlphanum || ['+', '-', '.'].contains c
  (name.head?.any Char.isAlpha) && (reference.drop name.length).head? == some ':'

def namesHost (reference : List Char) : Bool :=
  namesScheme reference || ['/', '/'].isPrefixOf reference

def isDot (segment : List Char) : Bool :=
  segment == ['.']

def isDoubleDot (segment : List Char) : Bool :=
  segment == ['.', '.']

/-- Drops single dots, and double dots together with the segment before them; `done` holds the
segments kept so far, the last one first. -/
def withoutDots (done : List (List Char)) : List (List Char) → List (List Char)
  | [] => done.reverse
  | [segment] =>
    if isDot segment then (([] : List Char) :: done).reverse
    else if isDoubleDot segment then (([] : List Char) :: done.drop 1).reverse
    else (segment :: done).reverse
  | segment :: segments =>
    if isDot segment then withoutDots done segments
    else if isDoubleDot segment then withoutDots (done.drop 1) segments
    else withoutDots (segment :: done) segments

/-- A path with a slash at its front, without dot segments. -/
def normalizePath (path : List Char) : List Char :=
  '/' :: List.intercalate ['/'] (withoutDots [] ((path.drop 1).splitOn '/'))

/-- The visible characters that a path does not hold as they are. -/
def pathReserved : List Char :=
  ['"', '#', '<', '>', '?', '^', '\x60', '\x7b', '\x7d']

/-- The visible characters that a query does not hold as they are. -/
def queryReserved : List Char :=
  ['"', '#', '<', '>', '\x27']

/-- Writes every byte that is not a visible character, or is a reserved one, as a percent sign and
two hexadecimal digits. -/
def percentEncode (reserved : List Char) (cs : List Char) : List Char :=
  (cs.flatMap String.utf8EncodeChar).flatMap fun b =>
    let c := Char.ofNat b.toNat
    if 0x20 < b.toNat ∧ b.toNat < 0x7f ∧ c ∉ reserved then [c]
    else ['%', Text.hexDigit (b.toNat / 16), Text.hexDigit (b.toNat % 16)]

/-- The segments of a path but for the last, joined up again with a slash at the end. -/
def directory (path : List Char) : List Char :=
  (path.reverse.dropWhile (· != '/')).reverse

/-- The target of a reference found at `l`, unless it names a host. -/
def resolve? (l : Locator) (reference : String) : Option Locator :=
  let reference := reference.toList.takeWhile (· != '#')
  if namesHost reference then none
  else
    let path := reference.takeWhile (· != '?')
    let query := match reference.dropWhile (· != '?') with
      | [] => none
      | _ :: query => some (percentEncode queryReserved query)
    let encodedPath := percentEncode pathReserved path
    match path with
    | [] => some { l with query := if reference.isEmpty then l.query else query }
    | '/' :: _ => some { l with path := normalizePath encodedPath, query := query }
    | _ => some { l with path := normalizePath (directory l.path ++ encodedPath), query := query }

end NodeBalancer.Locator
