/-!
# Failures

Everything that can go wrong outside a refusal is a failure of one of seven kinds with a code for
programs and a message for people. A command line ends with the exit status of the kind.
-/

namespace WorldAccess

/-- The kind of a failure. -/
inductive FailureKind where
  | userInput
  | notFound
  | conflict
  | denied
  | config
  | io
  | internal
deriving DecidableEq

namespace FailureKind

/-- Every kind, as declared. -/
def all : List FailureKind := [userInput, notFound, conflict, denied, config, io, internal]

/-- The word for a kind. -/
def word : FailureKind → String
  | userInput => "user_input"
  | notFound => "not_found"
  | conflict => "conflict"
  | denied => "denied"
  | config => "config"
  | io => "io"
  | internal => "internal"

/-- The exit status of a command line that ends with a failure of this kind. -/
def exitStatus : FailureKind → Nat
  | userInput => 2
  | notFound => 3
  | denied => 4
  | config => 5
  | io => 6
  | conflict => 7
  | internal => 1

end FailureKind

/-- A failure. -/
structure Failure where
  kind : FailureKind
  code : String
  message : String
deriving DecidableEq

namespace Failure

/-- The code and the message in one line. -/
def display (f : Failure) : String := f.code ++ ": " ++ f.message

/-- A text that is not the JSON that was asked for. -/
def malformedJson : Failure :=
  ⟨.userInput, "malformed_json", "the text does not have the expected form"⟩

/-- An error from outside that has no code of its own. -/
def unclassified (message : String) : Failure := ⟨.internal, "internal_error", message⟩

/-- A file that could not be read. -/
def unreadable (message : String) : Failure := ⟨.io, "io_error", message⟩

end Failure

end WorldAccess
