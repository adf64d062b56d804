/-!
# Diagnostics

A diagnostic is what a failure tells the user: a code to search for, a message, possibly a cause and
a word of help. A cause is a text, or a diagnostic of its own.
-/

namespace RpcStubs

/-- The parts of a diagnostic that do not depend on its cause. -/
structure Headline where
  code : String
  message : String
  help : Option String := none
deriving Repr, DecidableEq, Inhabited

/-- A failure as it is told to the user. -/
inductive Diagnostic where
  /-- A failure without a cause. -/
  | alone (headline : Headline)
  /-- A failure with a cause that is a text. -/
  | because (headline : Headline) (cause : String)
  /-- A failure whose cause is a failure. -/
  | nested (headline : Headline) (cause : Diagnostic)
deriving Repr, DecidableEq, Inhabited

namespace Diagnostic

/-- The outermost headline. -/
def headline : Diagnostic → Headline
  | alone headline | because headline _ | nested headline _ => headline

/-- The messages of the causes, outermost first. -/
def causes : Diagnostic → List String
  | alone _ => []
  | because _ cause => [cause]
  | nested _ cause => cause.headline.message :: cause.causes

end Diagnostic

end RpcStubs
