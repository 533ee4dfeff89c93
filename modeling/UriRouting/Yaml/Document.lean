import UriRouting.Yaml.Lexeme

/-!
# Documents

`Yaml.read?` reads a text as a single document made of block mappings and
sequences, collections in brackets and braces, scalars and comments.

A node may be missing before the next entry or before the end of its collection.
The dashes of a sequence that is the value of a key may stand in the column of
the key; such a sequence has no lexemes for its beginning and its end, and ends
where no dash follows.

The functions call each other with a number of steps that is reckoned from the
number of lexemes and cannot run out before they do.
-/

namespace UriRouting.Yaml

/-- Whether an entry of a block collection ends before a lexeme. -/
def Lexeme.endsEntry : Lexeme → Bool
  | dash => true
  | blockEnd => true
  | _ => false

/-- Whether a key or a value of a block mapping ends before a lexeme. -/
def Lexeme.endsField : Lexeme → Bool
  | key => true
  | colon => true
  | blockEnd => true
  | _ => false

/-- Whether a value between brackets or braces ends before a lexeme. -/
def Lexeme.endsFlowValue : Lexeme → Bool
  | comma => true
  | flowSequenceEnd => true
  | flowMappingEnd => true
  | _ => false

mutual

/-- The node at the beginning of the lexemes; `afterKey` when it stands in a block
mapping, where the dashes of a sequence may stand in the column of the keys. -/
def node (afterKey : Bool) : (fuel : Nat) → List Lexeme → Option (Yaml × List Lexeme)
  | 0, _ => none
  | fuel + 1, lexemes =>
      match lexemes with
      | .scalar n :: rest => some (n, rest)
      | .flowSequence :: rest => do
          let (items, rest) ← flowItems fuel rest
          some (.sequence items, rest)
      | .flowMapping :: rest => do
          let (entries, rest) ← flowEntries fuel rest
          some (.mapping entries, rest)
      | .blockSequence :: rest => do
          let (items, rest) ← blockItems fuel rest
          some (.sequence items, rest)
      | .blockMapping :: rest => do
          let (entries, rest) ← blockEntries fuel rest
          some (.mapping entries, rest)
      | .dash :: _ =>
          if afterKey then do
            let (items, rest) ← dashItems fuel lexemes
            some (.sequence items, rest)
          else none
      | _ => none

/-- The node at the beginning of the lexemes, or the absent one if the first
lexeme has a property. -/
def nodeUnless (p : Lexeme → Bool) (afterKey : Bool) :
    (fuel : Nat) → List Lexeme → Option (Yaml × List Lexeme)
  | 0, _ => none
  | fuel + 1, lexemes =>
      if lexemes.head?.any p then some (.absent, lexemes) else node afterKey fuel lexemes

/-- The items of a block sequence. -/
def blockItems : (fuel : Nat) → List Lexeme → Option (List Yaml × List Lexeme)
  | 0, _ => none
  | fuel + 1, lexemes =>
      match lexemes with
      | .dash :: rest => do
          let (item, rest) ← nodeUnless Lexeme.endsEntry false fuel rest
          let (items, rest) ← blockItems fuel rest
          some (item :: items, rest)
      | .blockEnd :: rest => some ([], rest)
      | _ => none

/-- The items of a block sequence in the column of the keys around it. -/
def dashItems : (fuel : Nat) → List Lexeme → Option (List Yaml × List Lexeme)
  | 0, _ => none
  | fuel + 1, lexemes =>
      match lexemes with
      | .dash :: rest => do
          let (item, rest) ← nodeUnless (fun l => l.endsEntry || l.endsField) false fuel rest
          let (items, rest) ← dashItems fuel rest
          some (item :: items, rest)
      | _ => some ([], lexemes)

/-- The entries of a block mapping. -/
def blockEntries : (fuel : Nat) → List Lexeme → Option (List (Yaml × Yaml) × List Lexeme)
  | 0, _ => none
  | fuel + 1, lexemes =>
      match lexemes with
      | .key :: rest => do
          let (key, rest) ← nodeUnless Lexeme.endsField true fuel rest
          let (value, rest) ←
            match rest with
            | .colon :: rest => nodeUnless Lexeme.endsField true fuel rest
            | _ => some (Yaml.absent, rest)
          let (entries, rest) ← blockEntries fuel rest
          some ((key, value) :: entries, rest)
      | .blockEnd :: rest => some ([], rest)
      | _ => none

/-- The value of a key between brackets or braces. -/
def flowValue : (fuel : Nat) → List Lexeme → Option (Yaml × List Lexeme)
  | 0, _ => none
  | fuel + 1, lexemes =>
      match lexemes with
      | .colon :: rest => nodeUnless Lexeme.endsFlowValue false fuel rest
      | _ => some (.absent, lexemes)

/-- The items of a sequence in brackets.  An item may be a single entry of a
mapping without braces. -/
def flowItems : (fuel : Nat) → List Lexeme → Option (List Yaml × List Lexeme)
  | 0, _ => none
  | fuel + 1, lexemes =>
      match lexemes with
      | .flowSequenceEnd :: rest => some ([], rest)
      | _ => do
          let (item, rest) ←
            match lexemes with
            | .key :: rest => do
                let (key, rest) ← node false fuel rest
                let (value, rest) ← flowValue fuel rest
                some (Yaml.mapping [(key, value)], rest)
            | _ => node false fuel lexemes
          match rest with
          | .flowSequenceEnd :: rest => some ([item], rest)
          | .comma :: rest => do
              let (items, rest) ← flowItems fuel rest
              some (item :: items, rest)
          | _ => none

/-- The entries of a mapping in braces.  An entry may be a key without a value. -/
def flowEntries : (fuel : Nat) → List Lexeme → Option (List (Yaml × Yaml) × List Lexeme)
  | 0, _ => none
  | fuel + 1, lexemes =>
      match lexemes with
      | .flowMappingEnd :: rest => some ([], rest)
      | _ => do
          let (entry, rest) ←
            match lexemes with
            | .key :: rest => do
                let (key, rest) ←
                  nodeUnless (fun l => l.endsField || l.endsFlowValue) false fuel rest
                let (value, rest) ← flowValue fuel rest
                some ((key, value), rest)
            | _ => do
                let (key, rest) ← node false fuel lexemes
                some ((key, Yaml.absent), rest)
          match rest with
          | .flowMappingEnd :: rest => some ([entry], rest)
          | .comma :: rest => do
              let (entries, rest) ← flowEntries fuel rest
              some (entry :: entries, rest)
          | _ => none

end

/-- Whether nothing but marks for the end of a document is left. -/
def onlyDocumentEnds (lexemes : List Lexeme) : Bool :=
  lexemes.all fun
    | .documentEnd => true
    | _ => false

/-- The node of the only document that lexemes make. -/
def ofLexemes? (lexemes : List Lexeme) : Option Yaml := do
  let fuel := 2 * lexemes.length + 2
  let (n, rest) ←
    match lexemes with
    | [] => some (Yaml.absent, [])
    | .documentStart :: .documentEnd :: rest => some (Yaml.absent, rest)
    | [.documentStart] => some (Yaml.absent, [])
    | .documentStart :: rest => node false fuel rest
    | _ => node false fuel lexemes
  if onlyDocumentEnds rest then some n else none

/-- The node of the only document in a text. -/
def read? (t : Text) : Option Yaml :=
  if t.all isPrintable then (lexemes? (normalizeBreaks t)).bind ofLexemes? else none

end UriRouting.Yaml
