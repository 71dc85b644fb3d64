import Mathlib.Data.List.Basic

/-!
# Methods — what a call through a class passes

A function in the body of a Python class gets the class as its first argument when it is called
through the class and decorated with `classmethod`, and nothing otherwise. The parameters here are
positional and have no defaults, and the arguments of a call are positional. The body runs if what
is passed fills the parameters (`Method.callError`).
-/

namespace Methods

inductive Decorator where
  | plain
  | classmethod
  | staticmethod
  deriving DecidableEq, Repr

structure Method where
  qualname : String
  parameters : List String
  decorator : Decorator := .plain
  deriving DecidableEq, Repr

namespace Method

/-- The arguments that come from the call itself. -/
def implicitArguments (m : Method) : Nat :=
  match m.decorator with
  | .classmethod => 1
  | .plain | .staticmethod => 0

/-- The names of missing arguments, as the message lists them. -/
def listNames : List String → String
  | [] => ""
  | [a] => s!"'{a}'"
  | [a, b] => s!"'{a}' and '{b}'"
  | [a, b, c] => s!"'{a}', '{b}', and '{c}'"
  | a :: rest => s!"'{a}', " ++ listNames rest

def plural (n : Nat) : String := if n = 1 then "" else "s"

/-- The message of the `TypeError` of a call with so many arguments, if there is one. -/
def callError (m : Method) (given : Nat) : Option String :=
  let expected := m.parameters.length
  let passed := m.implicitArguments + given
  if passed < expected then
    let missing := expected - passed
    some (s!"{m.qualname}() missing {missing} required positional argument{plural missing}: " ++
      listNames (m.parameters.drop passed))
  else if expected < passed then
    let verb := if passed = 1 then "was" else "were"
    some (s!"{m.qualname}() takes {expected} positional argument{plural expected} but {passed} " ++
      s!"{verb} given")
  else none

end Method

end Methods
