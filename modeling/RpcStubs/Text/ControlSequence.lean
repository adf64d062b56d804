/-!
# Control sequences of a terminal

A terminal does not show a control sequence but does what it says. A sequence begins with the escape
character. Behind a bracket that opens it goes on to its first letter or sign from `@` on, behind a
bracket that closes it is a command, which ends with the bell or with an escape character and a
backslash, and behind any other character it is at its end.
-/

namespace RpcStubs.Text

/-- What the characters so far have begun. -/
inductive SequenceState where
  /-- Nothing: the next character is shown, unless it begins a sequence. -/
  | outside
  /-- A sequence of which only the escape character is known. -/
  | escaped
  /-- A sequence that goes on to its first letter. -/
  | parameters
  /-- A command, and whether its last character is an escape character. -/
  | command (escaped : Bool)
deriving Repr, DecidableEq, Inhabited

namespace SequenceState

/-- The state behind a character. -/
def next : SequenceState → Char → SequenceState
  | outside, c => if c = '\x1b' then escaped else outside
  | escaped, c => if c = '[' then parameters else if c = ']' then command false else outside
  | parameters, c => if '@' ≤ c ∧ c ≤ '~' then outside else parameters
  | command afterEscape, c =>
      if c = '\x07' ∨ (c = '\\' ∧ afterEscape) then outside else command (c = '\x1b')

/-- Whether a character is shown. -/
def shows (state : SequenceState) (c : Char) : Bool :=
  state == outside && c != '\x1b'

end SequenceState

/-- Each character with whether it is shown, from a state on. -/
def markedFrom (state : SequenceState) : List Char → List (Char × Bool)
  | [] => []
  | c :: rest => (c, state.shows c) :: markedFrom (state.next c) rest

/-- Each character with whether it is shown. -/
def marked (cs : List Char) : List (Char × Bool) :=
  markedFrom .outside cs

/-- The characters that are shown. -/
def shown (cs : List Char) : List Char :=
  ((marked cs).filter Prod.snd).map Prod.fst

end RpcStubs.Text
