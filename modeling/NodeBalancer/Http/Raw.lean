import NodeBalancer.Http.Response
import NodeBalancer.Text.Numeral

/-!
# Responses as bytes

A response is a status line, header lines up to an empty one, and a body, which is measured by its
chunks, by an announced length, or by the end of the connection.  Lines end in a line feed, with or
without a carriage return before it.
-/

namespace NodeBalancer.Http.Raw

abbrev Bytes := List UInt8

def chars (bytes : Bytes) : List Char :=
  bytes.map fun b => Char.ofNat b.toNat

/-- The first line, without its end, and what follows; `none` if no line ends. -/
def line? : Bytes → Option (List Char × Bytes)
  | [] => none
  | 10 :: rest => some ([], rest)
  | 13 :: 10 :: rest => some ([], rest)
  | b :: rest => (line? rest).map fun (cs, rest) => (Char.ofNat b.toNat :: cs, rest)

def isPadding (c : Char) : Bool :=
  c == ' ' || c == '\t'

def trimPadding (cs : List Char) : List Char :=
  ((cs.dropWhile isPadding).reverse.dropWhile isPadding).reverse

abbrev Header := List Char × List Char

/-- A field name in lower case and its value. -/
def header? (cs : List Char) : Option Header :=
  let name := cs.takeWhile (· != ':')
  match cs.dropWhile (· != ':') with
  | _ :: value =>
    if name.isEmpty || name.any isPadding then none
    else some (name.map Char.toLower, trimPadding value)
  | [] => none

/-- Header lines up to the empty one; `fuel` bounds their number. -/
def headers? : Nat → Bytes → Option (List Header × Bytes)
  | 0, _ => none
  | fuel + 1, bytes =>
    match line? bytes with
    | none => none
    | some ([], rest) => some ([], rest)
    | some (cs, rest) =>
      match header? cs with
      | none => none
      | some header => (headers? fuel rest).map fun (headers, rest) => (header :: headers, rest)

/-- The status of a status line of either version. -/
def status? (cs : List Char) : Option Nat :=
  match cs with
  | 'H' :: 'T' :: 'T' :: 'P' :: '/' :: '1' :: '.' :: v :: ' ' :: a :: b :: c :: rest =>
    if (v = '0' ∨ v = '1') ∧ (rest = [] ∨ rest.head? = some ' ') then Text.natural? 10 [a, b, c]
    else none
  | _ => none

def headerValue? (headers : List Header) (name : String) : Option (List Char) :=
  headers.lookup name.toList

/-- The payload of chunks up to the empty one; `fuel` bounds their number. -/
def chunks? : Nat → Bytes → Option Bytes
  | 0, _ => none
  | fuel + 1, bytes =>
    match line? bytes with
    | none => none
    | some (cs, rest) =>
      match Text.natural? 16 (trimPadding (cs.takeWhile (· != ';'))) with
      | none => none
      | some 0 => (headers? (rest.length + 1) rest).map fun _ => []
      | some size =>
        if rest.length < size then none
        else
          match line? (rest.drop size) with
          | some ([], more) => (chunks? fuel more).map (rest.take size ++ ·)
          | _ => none

def isChunked (headers : List Header) : Bool :=
  match headerValue? headers "transfer-encoding" with
  | none => false
  | some value =>
    (((value.map Char.toLower).splitOn ',').getLast?.map trimPadding) == some "chunked".toList

/-- The body behind the headers: `none` if the headers contradict themselves, `some none` if it
broke off. -/
def body? (headers : List Header) (bytes : Bytes) : Option (Option Bytes) :=
  if isChunked headers then some (chunks? (bytes.length + 1) bytes)
  else
    match headerValue? headers "content-length" with
    | none => some (some bytes)
    | some value =>
      match Text.natural? 10 value with
      | none => none
      | some length => some (if bytes.length < length then none else some (bytes.take length))

def ofBytes (bytes : Bytes) : ByteArray :=
  ByteArray.mk bytes.toArray

/-- The exchange that a server brings about by sending these bytes and closing the connection. -/
def exchange (bytes : Bytes) : Exchange :=
  match line? bytes with
  | none => .failure
  | some (first, rest) =>
    match status? first, headers? (rest.length + 1) rest with
    | some status, some (headers, rest) =>
      if status < 200 then .failure
      else
        match body? headers rest with
        | none => .failure
        | some body =>
          let location := (headerValue? headers "location").map String.ofList
          .response (.ofStatus status location (body.map ofBytes))
    | _, _ => .failure

end NodeBalancer.Http.Raw
