/-!
# Texts and their fields

A text is the list of its code points.  Everything in this library that reads or
writes characters does so on such lists; `String` appears only at the edge, for
messages and for output.

* `Text.utf8Size` --- the length in UTF-8 bytes, the unit of every position that
  is reported;
* `Text.splitOnce` --- the cut at the first occurrence of a character;
* `Text.fields`, `Text.fieldsAtMost` --- the pieces between separators, of which
  there is always at least one.
-/

namespace UriRouting

/-- A text is the list of its code points. -/
abbrev Text := List Char

namespace Text

/-- The number of bytes that a text takes in UTF-8. -/
def utf8Size : Text → Nat
  | [] => 0
  | c :: rest => c.utf8Size + utf8Size rest

@[simp] theorem utf8Size_nil : utf8Size [] = 0 := rfl

@[simp] theorem utf8Size_cons (c : Char) (t : Text) :
    utf8Size (c :: t) = c.utf8Size + utf8Size t := rfl

@[simp] theorem utf8Size_append (s t : Text) :
    utf8Size (s ++ t) = utf8Size s + utf8Size t := by
  induction s with
  | nil => simp
  | cons c s ih => simp [ih, Nat.add_assoc]

/-- The text with its ASCII letters in lower case. -/
def lower (t : Text) : Text := t.map Char.toLower

/-- The text with its ASCII letters in upper case. -/
def upper (t : Text) : Text := t.map Char.toUpper

/-- The parts before and after the first occurrence of `sep`. -/
def splitOnce (sep : Char) : Text → Option (Text × Text)
  | [] => none
  | c :: rest =>
      if c = sep then some ([], rest)
      else (splitOnce sep rest).map fun (before, after) => (c :: before, after)

/-- The pieces between the occurrences of `sep`; a text without any is its own
only piece. -/
def fields (sep : Char) : Text → List Text
  | [] => [[]]
  | c :: rest =>
      if c = sep then [] :: fields sep rest
      else
        match fields sep rest with
        | [] => [[c]]
        | field :: others => (c :: field) :: others

/-- The first `n - 1` fields, and what follows them as the last one. -/
def fieldsAtMost (sep : Char) : Nat → Text → List Text
  | 0, _ => []
  | 1, t => [t]
  | n + 2, t =>
      match splitOnce sep t with
      | none => [t]
      | some (field, rest) => field :: fieldsAtMost sep (n + 1) rest

/-- The texts written one after another with `sep` between neighbours. -/
def joined (sep : Text) (ts : List Text) : Text := List.intercalate sep ts

/-- The code point order of texts, for lists that are written out sorted. -/
def le : Text → Text → Bool
  | [], _ => true
  | _ :: _, [] => false
  | a :: s, b :: t => a.toNat < b.toNat || (a == b && le s t)

end Text
end UriRouting
