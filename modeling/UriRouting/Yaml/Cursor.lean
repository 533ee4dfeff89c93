import UriRouting.Text

/-!
# Positions in a document

Indentation is structure in YAML, so a reader has to know the column in which it
stands.  A cursor is the text still to be read with its line and column; every
step goes through `Cursor.advance`, which keeps the three together.
-/

namespace UriRouting.Yaml

/-- The characters that end a line. -/
def isBreak (c : Char) : Bool := c == '\n' || c == '\u2028' || c == '\u2029'

/-- Spaces and tabs. -/
def isBlank (c : Char) : Bool := c == ' ' || c == '\t'

/-- Whether a text is at its end or goes on with a blank or with a new line. -/
def atGap : Text → Bool
  | [] => true
  | c :: _ => isBlank c || isBreak c

/-- Whether a text begins with three dashes or three dots that stand alone; at
the beginning of a line they separate documents. -/
def beginsWithMarker : Text → Bool
  | '-' :: '-' :: '-' :: rest => atGap rest
  | '.' :: '.' :: '.' :: rest => atGap rest
  | _ => false

/-- The characters that a document may hold. -/
def isPrintable (c : Char) : Bool :=
  let n := c.toNat
  n == 0x09 || n == 0x0A || n == 0x0D || (0x20 ≤ n && n ≤ 0x7E) || n == 0x85 ||
    (0xA0 ≤ n && n ≤ 0xD7FF) || (0xE000 ≤ n && n ≤ 0xFFFD) || 0x10000 ≤ n

/-- The text with one line feed for each carriage return, line feed, next-line
character, or carriage return before a line feed. -/
def normalizeBreaks : Text → Text
  | [] => []
  | '\r' :: '\n' :: rest => '\n' :: normalizeBreaks rest
  | '\r' :: rest => '\n' :: normalizeBreaks rest
  | '\u0085' :: rest => '\n' :: normalizeBreaks rest
  | c :: rest => c :: normalizeBreaks rest

/-- A place in a document. -/
structure Cursor where
  /-- The number of lines before this one. -/
  line : Nat
  /-- The number of characters before this one in its line. -/
  column : Nat
  /-- What is still to be read. -/
  text : Text

namespace Cursor

/-- The beginning of a text. -/
def start (t : Text) : Cursor := ⟨0, 0, t⟩

/-- The cursor `n` characters further on. -/
def advance : (n : Nat) → Cursor → Cursor
  | 0, c => c
  | n + 1, ⟨line, column, text⟩ =>
      match text with
      | [] => ⟨line, column, []⟩
      | ch :: rest =>
          advance n (if isBreak ch then ⟨line + 1, 0, rest⟩ else ⟨line, column + 1, rest⟩)

/-- The length of the blanks, comments and line breaks that a text begins with.
A tab counts as a blank only where no indentation is at stake: on the line where
the gap begins when `tabs` is set, and everywhere when `flow` is.  A byte order
mark at the beginning of a line is passed over, but it takes a column. -/
def gapLength (flow : Bool) (tabs inComment atLineStart : Bool) : Text → Nat
  | [] => 0
  | c :: rest =>
      if isBreak c then gapLength flow flow false true rest + 1
      else if inComment || c == '#' then gapLength flow tabs true false rest + 1
      else if c == ' ' || (c == '\t' && tabs) || (c == '\uFEFF' && atLineStart) then
        gapLength flow tabs false false rest + 1
      else 0

/-- The cursor at the next character that is not part of a gap. -/
def skipGap (c : Cursor) (flow tabs : Bool) : Cursor :=
  c.advance (gapLength flow tabs false (c.column == 0) c.text)

/-- Whether the cursor is at a mark that separates documents. -/
def atMarker (c : Cursor) : Bool := c.column == 0 && beginsWithMarker c.text

end Cursor
end UriRouting.Yaml
