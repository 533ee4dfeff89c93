import UriRouting.Percent.Codec
import UriRouting.Yaml.Cursor

/-!
# Scalars

Scalars come in three styles.  Between double quotation marks a backslash
introduces an escape, between single ones a mark is written twice, and a plain
scalar ends where an indicator could begin.  All three may run over several
lines: the blanks around a line break go away, a single break becomes a space,
and of several breaks the first one goes away.

No line of a scalar begins with a mark that separates documents.  The lines of a
plain scalar are indented further than the collection around it, by spaces.
-/

namespace UriRouting.Yaml

/-! ## Gaps -/

/-- The blanks and line breaks between two characters of a scalar. -/
structure Gap where
  /-- The blanks and breaks in reverse. -/
  charsRev : Text := []
  /-- Whether a line ends in the gap. -/
  broken : Bool := false
  /-- The number of characters behind the last line break. -/
  column : Nat := 0
  /-- Whether an escape took away the first line break. -/
  escaped : Bool := false

namespace Gap

/-- No gap. -/
def empty : Gap := {}

/-- The gap that begins with an escaped line break. -/
def afterEscape : Gap := { broken := true, escaped := true }

/-- The gap with one more blank or break. -/
def push (g : Gap) (c : Char) : Gap :=
  if isBreak c then { g with charsRev := c :: g.charsRev, broken := true, column := 0 }
  else { g with charsRev := c :: g.charsRev, column := g.column + 1 }

/-- What stands for the gap in the scalar. -/
def text (g : Gap) : Text :=
  let breaks := (g.charsRev.filter isBreak).reverse
  if g.escaped then breaks
  else
    match breaks with
    | [] => g.charsRev.reverse
    | ['\n'] => [' ']
    | '\n' :: others => others
    | others => others

/-- Whether the text behind the gap begins with a mark that separates
documents. -/
def endsAtMarker (g : Gap) (rest : Text) : Bool :=
  g.broken && g.column == 0 && beginsWithMarker rest

end Gap

/-! ## Between quotation marks -/

/-- The character that a one-letter escape stands for. -/
def letterEscape? : Char → Option Char
  | '0' => some '\x00'
  | 'a' => some '\x07'
  | 'b' => some '\x08'
  | 't' => some '\t'
  | '\t' => some '\t'
  | 'n' => some '\n'
  | 'v' => some '\x0b'
  | 'f' => some '\x0c'
  | 'r' => some '\r'
  | 'e' => some '\x1b'
  | ' ' => some ' '
  | '"' => some '"'
  | '/' => some '/'
  | '\\' => some '\\'
  | 'N' => some '\u0085'
  | '_' => some '\u00a0'
  | 'L' => some '\u2028'
  | 'P' => some '\u2029'
  | _ => none

/-- The number of hexadecimal digits after the letter of an escape. -/
def escapeWidth? : Char → Option Nat
  | 'x' => some 2
  | 'u' => some 4
  | 'U' => some 8
  | _ => none

/-- The character that a sequence of hexadecimal digits names. -/
def codePoint? (digits : Text) : Option Char := do
  let n := (← digits.mapM Percent.hexValue?).foldl (fun n d => 16 * n + d) 0
  if n < 0xD800 ∨ (0xE000 ≤ n ∧ n < 0x110000) then some (Char.ofNat n) else none

/-- Where the reading of a double-quoted scalar stands. -/
inductive QuotedState where
  /-- After a character or a gap. -/
  | content (gap : Gap)
  /-- After a backslash. -/
  | backslash
  /-- In an escape that needs more hexadecimal digits. -/
  | digits (missing : Nat) (digitsRev : Text)

/-- The content of a double-quoted scalar after its first mark, and the number of
characters up to and with its last one; `done` is the content so far in reverse,
`read` the number of characters that gave it. -/
def doubleQuoted (done : Text) (read : Nat) : QuotedState → Text → Option (Text × Nat)
  | _, [] => none
  | .content gap, c :: rest =>
      if isBlank c || isBreak c then doubleQuoted done (read + 1) (.content (gap.push c)) rest
      else if gap.endsAtMarker (c :: rest) then none
      else
        let done := gap.text.reverse ++ done
        if c == '"' then some (done.reverse, read + 1)
        else if c == '\\' then doubleQuoted done (read + 1) .backslash rest
        else doubleQuoted (c :: done) (read + 1) (.content .empty) rest
  | .backslash, c :: rest =>
      if isBreak c then doubleQuoted done (read + 1) (.content .afterEscape) rest
      else
        match letterEscape? c, escapeWidth? c with
        | some ch, _ => doubleQuoted (ch :: done) (read + 1) (.content .empty) rest
        | none, some width => doubleQuoted done (read + 1) (.digits width []) rest
        | none, none => none
  | .digits missing digitsRev, c :: rest =>
      if missing ≤ 1 then
        match codePoint? (c :: digitsRev).reverse with
        | some ch => doubleQuoted (ch :: done) (read + 1) (.content .empty) rest
        | none => none
      else doubleQuoted done (read + 1) (.digits (missing - 1) (c :: digitsRev)) rest

/-- The content of a single-quoted scalar after its first mark, and the number of
characters up to and with its last one. -/
def singleQuoted (done : Text) (gap : Gap) (read : Nat) : Text → Option (Text × Nat)
  | [] => none
  | '\'' :: '\'' :: rest => singleQuoted ('\'' :: gap.text.reverse ++ done) .empty (read + 2) rest
  | '\'' :: _ => some ((gap.text.reverse ++ done).reverse, read + 1)
  | c :: rest =>
      if isBlank c || isBreak c then singleQuoted done (gap.push c) (read + 1) rest
      else if gap.endsAtMarker (c :: rest) then none
      else singleQuoted (c :: gap.text.reverse ++ done) .empty (read + 1) rest

/-! ## Plain scalars -/

/-- The characters that structure a collection in brackets. -/
def isFlowIndicator (c : Char) : Bool :=
  c == ',' || c == '[' || c == ']' || c == '{' || c == '}'

/-- The characters with which no plain scalar begins. -/
def isIndicator (c : Char) : Bool :=
  isFlowIndicator c || c == '#' || c == '&' || c == '*' || c == '!' || c == '|' || c == '>' ||
    c == '\'' || c == '"' || c == '%' || c == '@' || c == '\x60'

/-- Whether a plain scalar begins with a text that does not begin with the dash,
the question mark or the colon of an entry. -/
def startsPlain : Text → Bool
  | [] => false
  | c :: _ => !(isBlank c || isBreak c || isIndicator c)

/-- Whether a plain scalar ends before a text that follows without a gap. -/
def endsPlain (flow : Bool) : Text → Bool
  | [] => true
  | c :: rest => (c == ':' && atGap rest) || (flow && isFlowIndicator c)

/-- Whether a plain scalar whose lines are indented by `floor` spaces at least ends
before a text behind a gap. -/
def endsPlainAfter (flow : Bool) (floor : Nat) (gap : Gap) (rest : Text) : Bool :=
  endsPlain flow rest || (!gap.charsRev.isEmpty && rest.head? == some '#') ||
    gap.endsAtMarker rest || (!flow && gap.broken && gap.column < floor)

/-- Whether a colon stands before a bracket or a comma, which is a fault in a
plain scalar between brackets. -/
def isColonFault (flow : Bool) : Text → Bool
  | ':' :: c :: _ => flow && (isFlowIndicator c || c == '?')
  | _ => false

/-- A plain scalar: its content, the number of characters up to the end of the
gap behind it, and whether that gap has a line break. -/
def plainScalar (flow : Bool) (floor : Nat) (done : Text) (gap : Gap) (read : Nat) :
    Text → Option (Text × Nat × Bool)
  | [] => some (done.reverse, read, gap.broken)
  | c :: rest =>
      if isBlank c || isBreak c then
        if c == '\t' && gap.broken && gap.column < floor then none
        else plainScalar flow floor done (gap.push c) (read + 1) rest
      else if endsPlainAfter flow floor gap (c :: rest) then some (done.reverse, read, gap.broken)
      else if isColonFault flow (c :: rest) then none
      else plainScalar flow floor (c :: gap.text.reverse ++ done) .empty (read + 1) rest

end UriRouting.Yaml
