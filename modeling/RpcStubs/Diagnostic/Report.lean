import RpcStubs.Diagnostic.Basic
import RpcStubs.Text.Wrap

/-!
# Reports

A report shows a diagnostic on a terminal: the code, the message behind a cross, the causes behind
arrows and the help. A cause that is a diagnostic is a report of its own inside the other, with the
help of that cause but without further causes, which follow by themselves.
-/

namespace RpcStubs

/-- A link in a chain of causes. -/
inductive Cause where
  | text (text : String)
  | failure (headline : Headline)
deriving Repr, DecidableEq, Inhabited

namespace Diagnostic

/-- The causes of a failure, outermost first. -/
def chain : Diagnostic → List Cause
  | alone _ => []
  | because _ cause => [.text cause]
  | nested _ cause => .failure cause.headline :: cause.chain

end Diagnostic

namespace Report

/-- The columns of a terminal. -/
def terminal : Nat :=
  80

/-- The columns at the right that a report leaves free. -/
def margin : Nat :=
  2

/-- The indent of a cause. -/
def causeIndent : Nat :=
  6

/-- Lines as a text. -/
def textOf (lines : List String) : String :=
  String.join (lines.map (· ++ "\n"))

/-- A message behind its cross. -/
def messageLines (columns : Nat) (message : String) : List String :=
  Text.wrap "  × " "  │ " (columns - margin) message

/-- A word of help. -/
def helpLines (columns : Nat) (help : Option String) : List String :=
  help.elim [] (Text.wrap "  help: " "        " (columns - margin))

/-- A failure with what is told between its message and its help. -/
def headlineLines (columns : Nat) (headline : Headline) (between : List String) : List String :=
  headline.code :: "" :: messageLines columns headline.message ++ between
    ++ helpLines columns headline.help

/-- A cause without the arrow before it. -/
def causeText (columns : Nat) : Cause → String
  | .text text => text
  | .failure headline => textOf (headlineLines (columns - causeIndent) headline [])

/-- The causes behind their arrows. A line leads down to the next cause if there is one. -/
def causeLines (columns : Nat) : List Cause → List String
  | [] => []
  | [cause] => Text.wrap "  ╰─▶ " "      " (columns - margin) (causeText columns cause)
  | cause :: later =>
      Text.wrap "  ├─▶ " "  │   " (columns - margin) (causeText columns cause)
        ++ causeLines columns later

/-- The lines of a report on a terminal with some columns. -/
def lines (columns : Nat) (diagnostic : Diagnostic) : List String :=
  headlineLines columns diagnostic.headline (causeLines columns diagnostic.chain)

end Report

/-- A diagnostic as a terminal shows it. -/
def Diagnostic.report (diagnostic : Diagnostic) : String :=
  Report.textOf (Report.lines Report.terminal diagnostic)

end RpcStubs
