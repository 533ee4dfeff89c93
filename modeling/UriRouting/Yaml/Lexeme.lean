import UriRouting.Yaml.Node
import UriRouting.Yaml.Scalar

/-!
# Lexemes

A document is a sequence of lexemes: scalars, the marks of collections in
brackets and braces, and the marks of block collections.  Most of the latter are
not written.  A block collection begins where an entry stands further right than
the entries around it, and it ends where one stands further left.

A key is known only by the colon after it, so `Lexer` remembers for each level of
brackets where a key may have begun.  The colon has to follow on the same line
within 1024 characters.  Where an entry of a block mapping has to stand, a scalar
without such a colon is a fault.

`lexemes?` cuts a text into lexemes.  Anchors, tags, block scalars and directives
are not part of what a route file may use and are faults.
-/

namespace UriRouting.Yaml

/-- The lexemes of a document. -/
inductive Lexeme where
  /-- The mark that begins a document. -/
  | documentStart
  /-- The mark that ends a document. -/
  | documentEnd
  /-- The beginning of a block sequence. -/
  | blockSequence
  /-- The beginning of a block mapping. -/
  | blockMapping
  /-- The end of a block collection. -/
  | blockEnd
  /-- The beginning of a sequence in brackets. -/
  | flowSequence
  /-- The end of a sequence in brackets. -/
  | flowSequenceEnd
  /-- The beginning of a mapping in braces. -/
  | flowMapping
  /-- The end of a mapping in braces. -/
  | flowMappingEnd
  /-- The dash before an entry of a block sequence. -/
  | dash
  /-- The comma between the entries in brackets or braces. -/
  | comma
  /-- The beginning of a key. -/
  | key
  /-- The colon before a value. -/
  | colon
  /-- A scalar. -/
  | scalar (node : Yaml)

/-- A place where a key may have begun. -/
structure KeyStart where
  /-- Whether nothing but a key may stand there. -/
  required : Bool
  /-- The number of lexemes before it. -/
  position : Nat
  /-- The line. -/
  line : Nat
  /-- The column. -/
  column : Nat

/-- Where the cutting of a text stands. -/
structure Lexer where
  /-- The text still to be cut. -/
  cursor : Cursor
  /-- The columns of the open block collections, the innermost one first. -/
  indents : List Nat := []
  /-- Whether a key may begin here. -/
  keyAllowed : Bool := true
  /-- Where a key may have begun in the innermost brackets. -/
  keyStart : Option KeyStart := none
  /-- Where keys may have begun around these brackets, level by level. -/
  outerKeyStarts : List (Option KeyStart) := []
  /-- The lexemes so far. -/
  lexemes : Array Lexeme := #[]

namespace Lexer

/-- Whether the lexer is between brackets or braces. -/
def inFlow (s : Lexer) : Bool := !s.outerKeyStarts.isEmpty

/-- The lexer after a lexeme of `n` characters. -/
def emit (s : Lexer) (lexeme : Lexeme) (n : Nat) : Lexer :=
  { s with lexemes := s.lexemes.push lexeme, cursor := s.cursor.advance n }

/-! ## Keys -/

/-- What is left of a place that a key has not begun at. -/
def giveUp? : Option KeyStart → Option (Option KeyStart)
  | some k => if k.required then none else some none
  | none => some none

/-- What is left of a place where a key may have begun, at a cursor further on. -/
def refresh? (c : Cursor) : Option KeyStart → Option (Option KeyStart)
  | some k =>
      if k.line < c.line ∨ k.column + 1024 < c.column then giveUp? (some k) else some (some k)
  | none => some none

/-- The lexer without the places from which no colon can be reached any more. -/
def refreshed? (s : Lexer) : Option Lexer := do
  return { s with
    keyStart := ← refresh? s.cursor s.keyStart
    outerKeyStarts := ← s.outerKeyStarts.mapM (refresh? s.cursor) }

/-- The lexer where no key has begun in the innermost brackets. -/
def withoutKey? (s : Lexer) : Option Lexer := do
  return { s with keyStart := ← giveUp? s.keyStart }

/-- The lexer where a key may begin, if it is allowed to. -/
def markKey? (s : Lexer) : Option Lexer := do
  if s.keyAllowed then
    let s ← s.withoutKey?
    let k : KeyStart := {
      required := !s.inFlow && s.indents.head? == some s.cursor.column
      position := s.lexemes.size
      line := s.cursor.line
      column := s.cursor.column }
    return { s with keyStart := some k }
  else return s

/-! ## Block collections -/

/-- The lexer with a block collection that begins in a column, unless one is open
there; its first lexeme is to stand at a position. -/
def openBlock (s : Lexer) (column position : Nat) (lexeme : Lexeme) : Lexer :=
  if s.inFlow || s.indents.head?.any (column ≤ ·) then s
  else { s with
    indents := column :: s.indents
    lexemes := s.lexemes.insertIdxIfInBounds position lexeme }

/-- The lexer without the block collections whose columns have a property. -/
def closeBlocks (s : Lexer) (p : Nat → Bool) : Lexer :=
  if s.inFlow then s
  else { s with
    indents := s.indents.dropWhile p
    lexemes := s.lexemes ++ (s.indents.takeWhile p).map fun _ => Lexeme.blockEnd }

/-! ## Steps -/

/-- The lexer at the next lexeme.  A new line of a block may begin with a key. -/
def skipGap (s : Lexer) : Lexer :=
  let cursor := s.cursor.skipGap s.inFlow (s.inFlow || !s.keyAllowed)
  let broken := s.cursor.line < cursor.line
  { s with cursor, keyAllowed := s.keyAllowed || (broken && !s.inFlow) }

/-- The lexer after a mark that separates documents. -/
def marker? (s : Lexer) (lexeme : Lexeme) : Option Lexer := do
  let s ← (s.closeBlocks fun _ => true).withoutKey?
  return { s with keyAllowed := false }.emit lexeme 3

/-- The lexer after an opening bracket or brace, which may begin a key. -/
def openFlow? (s : Lexer) (lexeme : Lexeme) : Option Lexer := do
  let s ← s.markKey?
  return { s with
    keyAllowed := true
    keyStart := none
    outerKeyStarts := s.keyStart :: s.outerKeyStarts }.emit lexeme 1

/-- The lexer after a closing bracket or brace. -/
def closeFlow? (s : Lexer) (lexeme : Lexeme) : Option Lexer := do
  let s ← s.withoutKey?
  return { s with
    keyAllowed := false
    keyStart := s.outerKeyStarts.head?.join
    outerKeyStarts := s.outerKeyStarts.tail }.emit lexeme 1

/-- The lexer after a comma. -/
def comma? (s : Lexer) : Option Lexer := do
  return { ← s.withoutKey? with keyAllowed := true }.emit .comma 1

/-- The lexer after the dash or the question mark of an entry; it opens a block
collection and a key may follow it, neither of which holds for a question mark
between brackets. -/
def entry? (s : Lexer) (block lexeme : Lexeme) (thenKey : Bool) : Option Lexer := do
  if s.inFlow || s.keyAllowed then
    let s ← (s.openBlock s.cursor.column s.lexemes.size block).withoutKey?
    return { s with keyAllowed := thenKey }.emit lexeme 1
  else none

/-- The lexer after a colon.  If a key may have begun before, it has; otherwise a
key without content stands before the colon. -/
def colon? (s : Lexer) : Option Lexer :=
  match s.keyStart with
  | some k =>
      let s := { s with
        keyAllowed := false
        keyStart := none
        lexemes := s.lexemes.insertIdxIfInBounds k.position .key }
      some ((s.openBlock k.column k.position .blockMapping).emit .colon 1)
  | none =>
      if s.inFlow then some ({ s with keyAllowed := false }.emit .colon 1)
      else if s.keyAllowed then
        some ((s.openBlock s.cursor.column s.lexemes.size .blockMapping).emit .colon 1)
      else none

/-- The lexer after a quoted scalar that has been read. -/
def quoted? (s : Lexer) (read : Option (Text × Nat)) : Option Lexer := do
  let s ← s.markKey?
  let (t, n) ← read
  return { s with keyAllowed := false }.emit (.scalar (.quoted t)) n

/-- The lexer after a plain scalar. -/
def plain? (s : Lexer) : Option Lexer := do
  let s ← s.markKey?
  let floor := s.indents.head?.elim 0 (· + 1)
  let (t, n, broken) ← plainScalar s.inFlow floor [] .empty 0 s.cursor.text
  return { s with keyAllowed := broken }.emit (.scalar (.plain t)) n

/-- The lexer after the lexeme that stands at the cursor. -/
def next? (s : Lexer) : Option Lexer :=
  match s.cursor.text with
  | [] => none
  | c :: rest =>
      if s.cursor.column = 0 ∧ c = '%' then none
      else if s.cursor.atMarker then
        s.marker? (if c = '-' then .documentStart else .documentEnd)
      else if c = '[' then s.openFlow? .flowSequence
      else if c = '{' then s.openFlow? .flowMapping
      else if c = ']' then s.closeFlow? .flowSequenceEnd
      else if c = '}' then s.closeFlow? .flowMappingEnd
      else if c = ',' then s.comma?
      else if c = '-' ∧ atGap rest then s.entry? .blockSequence .dash true
      else if c = '?' ∧ (s.inFlow ∨ atGap rest) then s.entry? .blockMapping .key !s.inFlow
      else if c = ':' ∧ (s.inFlow ∨ atGap rest) then s.colon?
      else if c = '"' then s.quoted? (doubleQuoted [] 1 (.content .empty) rest)
      else if c = '\'' then s.quoted? (singleQuoted [] .empty 1 rest)
      else if startsPlain (c :: rest) then s.plain?
      else none

/-- The lexemes of the rest of a text, cut off within a number of steps. -/
def finish? : (fuel : Nat) → Lexer → Option (List Lexeme)
  | 0, _ => none
  | fuel + 1, s => do
      let s ← s.skipGap.refreshed?
      if s.cursor.text.isEmpty then
        let s ← (s.closeBlocks fun _ => true).withoutKey?
        return s.lexemes.toList
      else
        let s ← (s.closeBlocks fun column => s.cursor.column < column).next?
        finish? fuel s

end Lexer

/-- The lexemes of a text, if it can be cut into lexemes.  Every lexeme takes at
least one character. -/
def lexemes? (t : Text) : Option (List Lexeme) :=
  Lexer.finish? (t.length + 1) { cursor := .start t }

end UriRouting.Yaml
