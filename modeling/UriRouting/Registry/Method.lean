import UriRouting.UnknownName

/-!
# Request methods

The methods under which services can be registered.
-/

namespace UriRouting

/-- A request method. -/
inductive Method where
  | get
  | post
  | put
  | delete
  | patch
  | head
  | options
  deriving DecidableEq, Repr

namespace Method

/-- Every method. -/
def all : List Method := [get, post, put, delete, patch, head, options]

/-- The methods that a registry supports unless it is told otherwise. -/
def standard : List Method := [get, post, put, delete]

/-- The name of a method. -/
def name : Method → String
  | get => "GET"
  | post => "POST"
  | put => "PUT"
  | delete => "DELETE"
  | patch => "PATCH"
  | head => "HEAD"
  | options => "OPTIONS"

/-- The method that a name stands for, in upper or lower case. -/
def ofName (name : Text) : Except UnknownName Method :=
  match all.find? fun m => m.name.toList = name.upper with
  | some m => .ok m
  | none => .error (.method name)

theorem mem_all (m : Method) : m ∈ all := by
  cases m <;> decide

end Method
end UriRouting
