import UriRouting.Text

/-!
# Arguments of the command line

The program has three commands, each with arguments by position and with
options.  An option with a value takes it from behind `=` or from the next
argument, a one-letter option also from the letters behind it; letters of flags
may be run together.  Behind `--` everything counts by position.

Arguments are read from left to right and the first one that is out of place
decides.  An option that is given twice is out of place, and so is an argument
that looks like an option but is none.
-/

namespace UriRouting.CommandLine

/-- What the program is asked to do. -/
inductive Command where
  /-- Expand a template with `NAME=VALUE` parameters. -/
  | expand (template : Text) (params : List Text)
  /-- Resolve a URI against a pattern. -/
  | resolve (pattern uri : Text)
  /-- Find the service that a route file assigns to a URI. -/
  | route (file : Text) (method uri : Text)
  deriving DecidableEq, Repr

/-- Why there is no command. -/
inductive Stop where
  /-- Help was asked for. -/
  | help
  /-- The arguments are wrong. -/
  | usage
  deriving DecidableEq, Repr

/-- The options that take a value. -/
inductive OptionName where
  | routes
  | method
  deriving DecidableEq, Repr

/-- The arguments that a command understands. -/
structure Shape where
  /-- Whether the options with a value are known. -/
  takesOptions : Bool
  /-- The greatest number of arguments by position. -/
  most : Option Nat

/-- The arguments read so far. -/
structure Arguments where
  /-- The arguments by position, in reverse. -/
  positionalRev : List Text := []
  /-- The option `--routes`. -/
  routes : Option Text := none
  /-- The option `--method`. -/
  method : Option Text := none
  /-- The flag `--verbose`. -/
  verbose : Bool := false

namespace Arguments

/-- One more argument by position. -/
def push (shape : Shape) (args : Arguments) (arg : Text) : Except Stop Arguments :=
  if shape.most.elim true fun most => args.positionalRev.length < most then
    .ok { args with positionalRev := arg :: args.positionalRev }
  else .error .usage

/-- The flag `--verbose`, given for the first time. -/
def setVerbose (args : Arguments) : Except Stop Arguments :=
  if args.verbose then .error .usage else .ok { args with verbose := true }

/-- An option with its value, given for the first time. -/
def set (args : Arguments) (option : OptionName) (value : Text) : Except Stop Arguments :=
  match option with
  | .routes =>
      if args.routes.isSome then .error .usage else .ok { args with routes := some value }
  | .method =>
      if args.method.isSome then .error .usage else .ok { args with method := some value }

end Arguments

namespace Shape

/-- The option with a value that a word names. -/
def longOption? (shape : Shape) (name : Text) : Option OptionName :=
  if !shape.takesOptions then none
  else if name = "routes".toList then some .routes
  else if name = "method".toList then some .method
  else none

/-- The option with a value that a letter names. -/
def letterOption? (shape : Shape) (letter : Char) : Option OptionName :=
  if !shape.takesOptions then none
  else if letter = 'r' then some .routes
  else if letter = 'm' then some .method
  else none

/-- The arguments after the letters behind a dash, and the option that still
needs its value. -/
def readLetters (shape : Shape) (args : Arguments) :
    Text → Except Stop (Arguments × Option OptionName)
  | [] => .ok (args, none)
  | 'v' :: rest => do shape.readLetters (← args.setVerbose) rest
  | 'h' :: _ => .error .help
  | letter :: rest =>
      match shape.letterOption? letter with
      | none => .error .usage
      | some option =>
          match rest with
          | [] => .ok (args, some option)
          | '=' :: value => do return (← args.set option value, none)
          | value => do return (← args.set option value, none)

/-- The arguments after a word behind two dashes, and the option that still
needs its value. -/
def readWord (shape : Shape) (args : Arguments) (word : Text) :
    Except Stop (Arguments × Option OptionName) := do
  let (name, value) :=
    match word.splitOnce '=' with
    | some (name, value) => (name, some value)
    | none => (word, none)
  if name = "verbose".toList ∧ value.isNone then return (← args.setVerbose, none)
  else if name = "help".toList ∧ value.isNone then .error .help
  else
    match shape.longOption? name, value with
    | none, _ => .error .usage
    | some option, some value => return (← args.set option value, none)
    | some option, none => return (args, some option)

/-- Whether an argument counts by position. -/
def isPositional : Text → Bool
  | '-' :: _ :: _ => false
  | _ => true

/-- The arguments of a command; `pending` is an option that waits for its
value. -/
def readAll (shape : Shape) (args : Arguments) (pending : Option OptionName) :
    List Text → Except Stop Arguments
  | [] => if pending.isSome then .error .usage else .ok args
  | arg :: rest =>
      match pending with
      | some option =>
          if isPositional arg then do shape.readAll (← args.set option arg) none rest
          else .error .usage
      | none =>
          match arg with
          | ['-', '-'] => rest.foldlM (Arguments.push shape) args
          | '-' :: '-' :: word => do
              let (args, pending) ← shape.readWord args word
              shape.readAll args pending rest
          | '-' :: letter :: letters => do
              let (args, pending) ← shape.readLetters args (letter :: letters)
              shape.readAll args pending rest
          | arg => do shape.readAll (← args.push shape arg) none rest

end Shape

/-- The arguments of a command, those by position in order. -/
def readArguments (shape : Shape) (args : List Text) : Except Stop (Arguments × List Text) := do
  let args ← shape.readAll {} none args
  return (args, args.positionalRev.reverse)

/-- The file that holds the routes unless another one is named. -/
def standardRouteFile : Text := "routes.yml".toList

namespace Command

/-- The command of the given name. -/
def ofNamed (name : Text) (args : List Text) : Except Stop Command := do
  if name = "expand".toList then
    let (_, positional) ← readArguments ⟨false, none⟩ args
    match positional with
    | template :: params => return expand template params
    | _ => .error .usage
  else if name = "match".toList then
    let (_, positional) ← readArguments ⟨false, some 2⟩ args
    match positional with
    | [pattern, uri] => return resolve pattern uri
    | _ => .error .usage
  else if name = "route".toList then
    let (options, positional) ← readArguments ⟨true, some 1⟩ args
    match positional with
    | [uri] =>
        return route (options.routes.getD standardRouteFile) (options.method.getD "GET".toList) uri
    | _ => .error .usage
  else if name = "help".toList then
    match args with
    | [] => .error .help
    | [topic] =>
        if ["expand", "match", "route", "help"].any fun known => known.toList = topic then
          .error .help
        else .error .usage
    | _ => .error .usage
  else .error .usage

/-- The command after the flags that stand before its name. -/
def ofArgumentsFrom (args : Arguments) : List Text → Except Stop Command
  | [] => .error .usage
  | arg :: rest =>
      match arg with
      | ['-', '-'] => .error .usage
      | '-' :: '-' :: word => do
          let (args, _) ← Shape.readWord ⟨false, none⟩ args word
          ofArgumentsFrom args rest
      | '-' :: letter :: letters => do
          let (args, _) ← Shape.readLetters ⟨false, none⟩ args (letter :: letters)
          ofArgumentsFrom args rest
      | name => ofNamed name rest

/-- The command that the arguments of the program give. -/
def ofArguments (args : List Text) : Except Stop Command := ofArgumentsFrom {} args

end Command
end UriRouting.CommandLine
