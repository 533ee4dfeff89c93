import UriRouting.Url.Host
import UriRouting.Url.Path

/-!
# Request targets

What a service is asked for by an absolute URL is the path of the URL with its
query.  `requestTarget` finds this part of a text that is a URL with a host, and
returns every other text as it is.

A URL is a scheme, an authority made of user information, a host and a number
behind a colon, then a path, a query and a fragment.  The well-known schemes are
read with some tolerance: a backslash counts as a slash, any number of slashes
may stand before the authority, and an empty path is the root.
-/

namespace UriRouting.Url

/-- The kinds of schemes that are read differently. -/
inductive SchemeKind where
  /-- The scheme of local files. -/
  | file
  /-- The other well-known schemes. -/
  | special
  /-- All the rest. -/
  | other
  deriving DecidableEq, Repr

/-- The kind of a scheme in lower case. -/
def SchemeKind.ofName (name : Text) : SchemeKind :=
  if name = "file".toList then .file
  else if ["http", "https", "ws", "wss", "ftp"].any fun known => known.toList = name then .special
  else .other

/-- The text without blanks and control characters around it. -/
def trimmed (t : Text) : Text :=
  let isOuter := fun c : Char => c.toNat ≤ 32
  ((t.dropWhile isOuter).reverse.dropWhile isOuter).reverse

/-- What follows the first `n` characters that are not ignored. -/
def dropVisible : (n : Nat) → Text → Text
  | 0, t => t
  | _ + 1, [] => []
  | n + 1, c :: rest => if isIgnored c then dropVisible (n + 1) rest else dropVisible n rest

/-- The kind of the scheme that a text begins with, and what follows its colon. -/
def splitScheme? (t : Text) : Option (SchemeKind × Text) := do
  let (name, rest) ← t.splitOnce ':'
  if (name.head?.elim false Char.isAlpha) ∧
      name.all fun c => c.isAlphanum || c == '+' || c == '-' || c == '.' then
    some (.ofName name.lower, rest)
  else none

/-- The characters that separate segments. -/
def isSlash (kind : SchemeKind) (c : Char) : Bool := c == '/' || (kind ≠ .other && c == '\\')

/-- The characters that end an authority. -/
def endsAuthority (kind : SchemeKind) (c : Char) : Bool := isSlash kind c || c == '?' || c == '#'

/-- What follows the two slashes before the authority. -/
def afterSlashes? (kind : SchemeKind) (t : Text) : Option Text :=
  match kind with
  | .special => some (t.dropWhile (isSlash kind))
  | _ =>
      match t with
      | a :: b :: rest => if isSlash kind a ∧ isSlash kind b then some rest else none
      | _ => none

/-- What follows the last `@` of a text. -/
def afterLastAt? : Text → Option Text
  | [] => none
  | c :: rest =>
      match afterLastAt? rest with
      | some found => some found
      | none => if c = '@' then some rest else none

/-- The text behind the user information, if there is any. -/
def afterUserInfo (kind : SchemeKind) (t : Text) : Text :=
  let authority := t.takeWhile fun c => !endsAuthority kind c
  match afterLastAt? authority with
  | none => t
  | some host => t.drop (authority.length - host.length)

/-- The number of characters of a host; a colon ends it outside brackets. -/
def hostLength (kind : SchemeKind) (inBrackets : Bool) : Text → Nat
  | [] => 0
  | c :: rest =>
      if (c == ':' && !inBrackets) || endsAuthority kind c then 0
      else
        let inBrackets := c == '[' || (inBrackets && c != ']')
        hostLength kind inBrackets rest + 1

/-- What follows the number behind a colon, if there is one and it has at most
sixteen bits. -/
def afterPort? : Text → Option Text
  | ':' :: rest =>
      let digits := rest.takeWhile Char.isDigit
      let rest := rest.dropWhile Char.isDigit
      let endsHere := rest.head?.elim true fun c => c == '/' || c == '\\' || c == '?' || c == '#'
      if endsHere ∧ digits.foldl (fun n d => 10 * n + (d.toNat - 48)) 0 < 65536 then some rest
      else none
  | t => some t

/-- Whether a text before the path names a host, and what follows it. -/
def afterHost? (kind : SchemeKind) (t : Text) : Option Text :=
  match kind with
  | .file => do
      let name := t.takeWhile fun c => !endsAuthority kind c
      let host ← host? name
      if isDriveLetter name ∨ host = "localhost".toList then none else some (t.drop name.length)
  | _ => do
      let t := afterUserInfo kind t
      let name := t.take (hostLength kind false t)
      let host ← if kind = .special then host? name else opaqueHost? name
      if host.isEmpty then none else afterPort? (t.drop name.length)

/-- The path that a URL of the given kind with a host writes as `raw`. -/
def pathOf? (kind : SchemeKind) (raw : Text) : Option Text :=
  if kind = .other ∧ (visible raw).isEmpty then some []
  else do
    let segments := Text.fields '/' (raw.map fun c => if isSlash kind c then '/' else c)
    let inner :=
      match segments with
      | first :: rest => if (visible first).isEmpty ∧ !rest.isEmpty then rest else segments
      | [] => []
    let path := writePath (← normalize? (kind = .file) inner)
    return if kind = .file then '/' :: path.dropWhile (· == '/') else path

/-- The path and query of a URL with a host. -/
def target? (t : Text) : Option Text := do
  let raw := trimmed t
  let t := visible raw
  let (kind, rest) ← splitScheme? t
  let rest ← afterSlashes? kind rest
  let rest ← afterHost? kind rest
  let raw := dropVisible (t.length - rest.length) raw
  let isPathChar := fun c : Char => c != '?' && c != '#'
  let path ← pathOf? kind (raw.takeWhile isPathChar)
  match rest.dropWhile isPathChar with
  | '?' :: query =>
      let query := query.takeWhile (· != '#')
      some (path ++ '?' :: Percent.encodeUnless (keptInQuery (kind ≠ .other)) query)
  | _ => some path

/-- What a URI asks a service for. -/
def requestTarget (uri : Text) : Text := (target? uri).getD uri

end UriRouting.Url
