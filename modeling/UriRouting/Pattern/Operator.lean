import UriRouting.Pattern.Boundary
import UriRouting.Pattern.Capture
import UriRouting.Template.Parser

/-!
# What operators take

Every operator but `+` takes its text in one way only: `Operator.take` returns
the captures and the rest of the URI, and a match that fails later does not come
back to it.  An operator that finds nothing takes nothing.

* `takePairs` --- groups `name=value` in any order, for `;`, `?` and `join`;
* `takeSegments` --- segments `/value`, for `/`;
* `takeSeparated` --- items with a separator between them, for `list`;
* `takeDecorated` --- items with a text before or after each, for `prefix` and
  `suffix`.
-/

namespace UriRouting

/-- The results of a step repeated for as long as it succeeds and shortens the
text, with what is left. -/
def repeatedly {α : Type} (step : Text → Option (α × Text)) (text : Text) : List α × Text :=
  match step text with
  | none => ([], text)
  | some (a, rest) =>
      if rest.length < text.length then
        let (as, last) := repeatedly step rest
        (a :: as, last)
      else ([], text)
termination_by text.length

/-! ## Groups -/

/-- A group `name` or `name=value` after `lead`, its name one of the operator's. -/
def takePair (op : Operator) (b : Boundary) (lead text : Text) : Option (Capture × Text) := do
  let rest ← stripLiteral? lead text
  let name := rest.takeWhile isNameChar
  let rest := rest.dropWhile isNameChar
  let v ← op.variable? name
  match stripLiteral? ['='] rest with
  | none => some (⟨v, .one []⟩, rest)
  | some rest =>
      let (raw, rest) := (takeValue .unreservedList b 0 [] rest).getD ([], rest)
      some (⟨v, .ofCommaSeparated raw⟩, rest)

/-- Groups in any order, the first one after `first` and the others after
`next`. -/
def takePairs (op : Operator) (b : Boundary) (first next text : Text) : List Capture × Text :=
  match takePair op b first text with
  | none => ([], text)
  | some (capture, rest) =>
      let (captures, rest) := repeatedly (takePair op b next) rest
      (capture :: captures, rest)

/-! ## Segments -/

/-- The value of one segment. -/
def takeSegment (b : Boundary) (text : Text) : Option (Text × Text) := do
  let rest ← stripLiteral? ['/'] text
  takeValue .unreservedList b 1 [] rest

/-- A segment for each variable, as far as there are segments. -/
def takeSegments (b : Boundary) : List Variable → Text → List Capture × Text
  | [], text => ([], text)
  | v :: vs, text =>
      match takeSegment b text with
      | none => ([], text)
      | some (raw, rest) =>
          let (captures, last) := takeSegments b vs rest
          (⟨v, .ofCommaSeparated raw⟩ :: captures, last)

/-! ## Items -/

/-- Items with `separator` between them. -/
def takeSeparated (b : Boundary) (separator text : Text) : List Text × Text :=
  match takeValue .unreserved b 1 separator text with
  | none => ([], text)
  | some (item, rest) =>
      let (items, last) := repeatedly
        (fun t => stripLiteral? separator t >>= takeValue .unreserved b 1 separator) rest
      (item :: items, last)

/-- One item with `lead` before and `tail` after it. -/
def takeItem (b : Boundary) (lead tail text : Text) : Option (Text × Text) := do
  let rest ← stripLiteral? lead text
  let stop := if tail.isEmpty then lead else tail
  let (item, rest) ← takeValue .unreserved b 1 stop rest
  let rest ← stripLiteral? tail rest
  some (item, rest)

/-- One decorated item for each variable but the last, which takes as many as
there are. -/
def takeDecorated (b : Boundary) (lead tail : Text) : List Variable → Text → List Capture × Text
  | [], text => ([], text)
  | [v], text =>
      match repeatedly (takeItem b lead tail) text with
      | ([], _) => ([], text)
      | (items, rest) => ([⟨v, .ofItems items⟩], rest)
  | v :: vs, text =>
      match takeItem b lead tail text with
      | none => ([], text)
      | some (item, rest) =>
          let (captures, last) := takeDecorated b lead tail vs rest
          (⟨v, .one item⟩ :: captures, last)

/-! ## Operators -/

/-- The captures of an operator at the front of a text, and what follows. -/
def Operator.take (op : Operator) (b : Boundary) (text : Text) : List Capture × Text :=
  match op.form with
  | .reserved => ([], text)
  | .pathParameters => takePairs op b [';'] [';'] text
  | .queryParameters => takePairs op b ['?'] ['&'] text
  | .join separator => takePairs op b [] separator text
  | .pathSegments => takeSegments b op.vars text
  | .list separator =>
      match takeSeparated b separator text, op.vars with
      | (items@(_ :: _), rest), v :: _ => ([⟨v, .ofItems items⟩], rest)
      | (_, rest), _ => ([], rest)
  | .prefixed arg => takeDecorated b arg [] op.vars text
  | .suffixed arg => takeDecorated b [] arg op.vars text
  | .opt arg => ([], (stripLiteral? arg text).getD text)
  | .neg arg => ([], (stripLiteral? arg text).getD text)

end UriRouting
