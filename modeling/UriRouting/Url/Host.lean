import UriRouting.Domain.Basic
import UriRouting.Percent.Codec

/-!
# Hosts

Which texts may be the host of a URL.  A host is an IPv6 address in brackets, an
IPv4 address, or a name.  In a URL of one of the well-known schemes the name is
percent-decoded and has to be a domain name, and one whose last part is a number
has to be an IPv4 address; elsewhere a name is taken as it stands.
-/

namespace UriRouting.Url

/-! ## IPv4 -/

/-- A part of an IPv4 address: decimal, octal after `0`, or hexadecimal after
`0x`. -/
def ipv4Number? : Text → Option Nat
  | [] => none
  | '0' :: rest =>
      match rest with
      | [] => some 0
      | c :: digits =>
          if c = 'x' ∨ c = 'X' then
            (digits.mapM Percent.hexValue?).map fun ds => ds.foldl (fun n d => 16 * n + d) 0
          else if rest.all fun d => '0' ≤ d && d ≤ '7' then
            some (rest.foldl (fun n d => 8 * n + (d.toNat - 48)) 0)
          else none
  | t => if t.all Char.isDigit then some (t.foldl (fun n d => 10 * n + (d.toNat - 48)) 0) else none

/-- The parts of a name between its dots, without an empty one at the end. -/
def nameParts (name : Text) : List Text :=
  let parts := name.fields '.'
  if 1 < parts.length ∧ parts.getLast? = some [] then parts.dropLast else parts

/-- Whether the last part of a name is a number. -/
def endsInNumber (name : Text) : Bool :=
  match (nameParts name).getLast? with
  | none => false
  | some last => (!last.isEmpty && last.all Char.isDigit) || (ipv4Number? last).isSome

/-- Whether a text is an IPv4 address of up to four parts, the last of which
fills the bytes that the others leave. -/
def isIpv4 (name : Text) : Bool :=
  match (nameParts name).mapM ipv4Number? with
  | none => false
  | some numbers =>
      numbers.length ≤ 4 && numbers.dropLast.all (· ≤ 255) &&
        (numbers.getLast?.elim false fun last => last < Nat.pow 256 (5 - numbers.length))

/-! ## IPv6 -/

/-- One to four hexadecimal digits. -/
def isHexGroup (t : Text) : Bool := !t.isEmpty && t.length ≤ 4 && t.all isHexDigit

/-- A decimal number up to 255 without zeros before it. -/
def isOctet (t : Text) : Bool :=
  t == ['0'] ||
    (!t.isEmpty && t.length ≤ 3 && t.all Char.isDigit && t.head? != some '0' &&
      t.foldl (fun n d => 10 * n + (d.toNat - 48)) 0 ≤ 255)

/-- Four octets with dots between them. -/
def isDottedQuad (t : Text) : Bool :=
  let parts := t.fields '.'
  parts.length == 4 && parts.all isOctet

/-- The number of sixteen-bit groups that a list of parts makes, the last of
which may be a dotted quad. -/
def groupCount? : List Text → Option Nat
  | [] => some 0
  | [part] => if isHexGroup part then some 1 else if isDottedQuad part then some 2 else none
  | part :: parts => if isHexGroup part then (groupCount? parts).map (· + 1) else none

/-- The parts between single colons; the empty text has none. -/
def colonParts (t : Text) : List Text := if t.isEmpty then [] else t.fields ':'

/-- The texts before and after the first double colon. -/
def splitDoubleColon : Text → Option (Text × Text)
  | ':' :: ':' :: rest => some ([], rest)
  | c :: rest => (splitDoubleColon rest).map fun (before, after) => (c :: before, after)
  | [] => none

/-- Whether a text is an IPv6 address: eight groups, or fewer around a double
colon. -/
def isIpv6 (t : Text) : Bool :=
  match splitDoubleColon t with
  | none => groupCount? (colonParts t) == some 8
  | some (before, after) =>
      (colonParts before).all isHexGroup &&
        (groupCount? (colonParts after)).elim false fun n => (colonParts before).length + n ≤ 7

/-- The address between brackets, if a text is one. -/
def bracketed? : Text → Option Text
  | '[' :: rest => if rest.getLast? = some ']' then some rest.dropLast else none
  | _ => none

/-! ## Names -/

/-- The characters that a name outside the well-known schemes may not hold. -/
def isForbiddenInOpaque (c : Char) : Bool :=
  c.toNat == 0 || c == '\t' || c == '\n' || c == '\r' || c == ' ' || c == '#' || c == '/' ||
    c == ':' || c == '<' || c == '>' || c == '?' || c == '@' || c == '[' || c == '\\' || c == ']' ||
    c == '^' || c == '|'

/-- The host that a text names in a URL of a well-known scheme. -/
def host? (t : Text) : Option Text :=
  if t.head? = some '[' then
    match bracketed? t with
    | some address => if isIpv6 address then some t else none
    | none => none
  else do
    let name ← Domain.canonical? (← Percent.decode t)
    if name.isEmpty ∨ (endsInNumber name ∧ ¬ isIpv4 name) then none else some name

/-- The host that a text names in any other URL. -/
def opaqueHost? (t : Text) : Option Text :=
  if t.head? = some '[' then
    match bracketed? t with
    | some address => if isIpv6 address then some t else none
    | none => none
  else if t.any isForbiddenInOpaque then none
  else some t

end UriRouting.Url
