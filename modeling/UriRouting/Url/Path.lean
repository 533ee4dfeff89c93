import UriRouting.Percent.Codec

/-!
# Paths and queries

The path of a URL is a sequence of segments.  Reading one removes the segments
`.` and `..`, the latter together with the segment before it, and percent-encodes
what a path may not hold.  A dot may be written as `%2e`.  Where a path ends in
one of these segments it ends in a slash.  A segment that names a drive, such as
`c:`, stays.
-/

namespace UriRouting.Url

/-- Control characters and everything beyond ASCII. -/
def isControl (c : Char) : Bool := c.toNat < 32 || 126 < c.toNat

/-- The characters that stand for themselves in a path. -/
def keptInPath (c : Char) : Bool :=
  !(isControl c || c == ' ' || c == '"' || c == '<' || c == '>' || c == '\x60' || c == '#' ||
    c == '?' || c == '{' || c == '}')

/-- The characters that stand for themselves in a query; the well-known schemes
do not keep the apostrophe. -/
def keptInQuery (special : Bool) (c : Char) : Bool :=
  !(isControl c || c == ' ' || c == '"' || c == '<' || c == '>' || c == '#' ||
    (special && c == '\''))

/-- The number of dots that a segment consists of, an escaped dot included. -/
def dots? : Text → Option Nat
  | [] => some 0
  | '.' :: rest => (dots? rest).map (· + 1)
  | '%' :: '2' :: 'e' :: rest => (dots? rest).map (· + 1)
  | '%' :: '2' :: 'E' :: rest => (dots? rest).map (· + 1)
  | _ => none

/-- Whether a segment is the letter of a drive. -/
def isDriveLetter : Text → Bool
  | [letter, mark] => letter.isAlpha && (mark == ':' || mark == '|')
  | _ => false

/-- Whether a segment begins with the letter of a drive. -/
def namesDrive (segment : Text) : Bool :=
  isDriveLetter (segment.take 2) && (segment.drop 2).head?.all (· == '\\')

/-- The segments before a `..` that it leaves; all segments are in reverse. -/
def withoutLast : List Text → List Text
  | [] => []
  | segment :: before => if namesDrive segment then segment :: before else before

/-- Tabs and line breaks, which may stand anywhere in a URL and mean nothing. -/
def isIgnored (c : Char) : Bool := c == '\t' || c == '\n' || c == '\r'

/-- A text without tabs and line breaks. -/
def visible (t : Text) : Text := t.filter fun c => !isIgnored c

/-- The letter of a drive and what stands in the segment after it, where a tab or
a line break follows its colon. -/
def splitDrive? (raw : Text) : Option (Text × Text) :=
  match raw.dropWhile isIgnored with
  | [] => none
  | letter :: rest =>
      match rest.dropWhile isIgnored with
      | ':' :: c :: rest =>
          let rest := visible rest
          if letter.isAlpha ∧ isIgnored c ∧ !rest.isEmpty then some ([letter, ':'], rest) else none
      | _ => none

/-- The segments in reverse after one more raw segment.  A path to a file that
begins with the letter of a drive belongs to no host. -/
def readSegment? (ofFile : Bool) (readRev : List Text) (raw : Text) : Option (List Text) :=
  let segment := visible raw
  match dots? segment with
  | some 2 => some (withoutLast readRev)
  | some 1 => some readRev
  | _ =>
      if ofFile ∧ readRev.isEmpty then
        if isDriveLetter segment then none
        else
          match splitDrive? raw with
          | some (drive, rest) => some [Percent.encodeUnless keptInPath rest, drive]
          | none => some [Percent.encodeUnless keptInPath segment]
      else some (Percent.encodeUnless keptInPath segment :: readRev)

/-- Whether a raw segment is made of dots that stand for a place in the path. -/
def isDots (raw : Text) : Bool := dots? (visible raw) == some 1 || dots? (visible raw) == some 2

/-- The segments of a path, given the raw segments still to be read and those
read so far in reverse. -/
def normalizeFrom? (ofFile : Bool) (readRev : List Text) : List Text → Option (List Text)
  | [] => some readRev.reverse
  | raw :: rest =>
      match readSegment? ofFile readRev raw with
      | none => none
      | some readRev =>
          if rest.isEmpty ∧ isDots raw then some ([] :: readRev).reverse
          else normalizeFrom? ofFile readRev rest

/-- The segments of a path on a host without those made of dots. -/
def normalize? (ofFile : Bool) (segments : List Text) : Option (List Text) :=
  normalizeFrom? ofFile [] segments

/-- Segments with a slash before each. -/
def writePath (segments : List Text) : Text := segments.flatMap fun segment => '/' :: segment

end UriRouting.Url
