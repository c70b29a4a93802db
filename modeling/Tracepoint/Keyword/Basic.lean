import Tracepoint.Kind
/-!
Keywords: names that stand for a value in a message template, and when a keyword is fit for use on
its own.
-/

namespace Tracepoint

structure Keyword where
  name : String
  kind : Kind
  argument : Option UInt32
  description : String
  deriving DecidableEq, Repr, Inhabited

namespace Keyword

inductive Mismatch
  | notKeyword
  | argumentMissing
  | argumentUnexpected
  deriving DecidableEq, Repr

def Mismatch.reason : Mismatch → String
  | .notKeyword => "kind cannot be produced by a keyword"
  | .argumentMissing => "kind requires a numeric argument"
  | .argumentUnexpected => "kind does not take a numeric argument"

inductive Rejection
  | emptyName (kind : Kind)
  | mismatch (name : String) (kind : Kind) (cause : Mismatch)
  | duplicate (name : String)
  deriving DecidableEq, Repr

def Rejection.message : Rejection → String
  | .emptyName kind =>
    "KEYWORD_NAME_EMPTY: keyword definition for " ++ kind.name ++ " has an empty name"
  | .mismatch name kind cause =>
    "KEYWORD_ARGUMENT_MISMATCH: keyword '$" ++ name ++ "' of kind " ++ kind.name ++ ": " ++
      cause.reason
  | .duplicate name => "KEYWORD_DUPLICATE: keyword '$" ++ name ++ "' is defined more than once"

def mismatch? (keyword : Keyword) : Option Mismatch :=
  if !keyword.kind.isKeyword then some .notKeyword
  else if keyword.kind.takesArgument && keyword.argument.isNone then some .argumentMissing
  else if !keyword.kind.takesArgument && keyword.argument.isSome then some .argumentUnexpected
  else none

/-- The fault of a keyword taken on its own: an empty name before a mismatch. -/
def rejection? (keyword : Keyword) : Option Rejection :=
  if keyword.name.isEmpty then some (.emptyName keyword.kind)
  else keyword.mismatch?.map (.mismatch keyword.name keyword.kind)

end Keyword

end Tracepoint
