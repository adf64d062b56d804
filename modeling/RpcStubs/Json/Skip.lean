import RpcStubs.Json.Token

/-!
# Skipping a value

A value nobody asked for is passed over, however deep it is. The walk goes token by token with the
list of the containers that are open, the innermost first.
-/

namespace RpcStubs.Json

/-- A container that is open. -/
inductive Frame where
  | list
  | object
deriving Repr, DecidableEq, Inhabited

/-- What may come next on the way through a value. -/
inductive Stage where
  /-- A value. -/
  | value
  /-- The first element of the innermost container, or its end. -/
  | first
  /-- A comma, or the end of the innermost container. -/
  | next
  /-- A key. -/
  | key
  /-- A colon. -/
  | colon
deriving Repr, DecidableEq, Inhabited

namespace Skip

/-- The stage and the open containers after a value, or nothing if the value was the one to skip. -/
def afterValue : List Frame → Option (Stage × List Frame)
  | [] => none
  | frames => some (.next, frames)

/-- The problem with the end of the text, or with an unexpected token, where a value may come. -/
def valueStep (frames : List Frame) : Kind → Except Problem (Option (Stage × List Frame))
  | .listOpen => .ok (some (.first, .list :: frames))
  | .objectOpen => .ok (some (.first, .object :: frames))
  | .null | .boolean _ | .number _ | .text _ => .ok (afterValue frames)
  | _ => .error .valueExpected

/-- One token: the stage after it, nothing at the end of the value, or a problem. -/
def step (stage : Stage) (frames : List Frame) (kind : Kind) :
    Except Problem (Option (Stage × List Frame)) :=
  match stage, frames, kind with
  | .value, frames, kind => valueStep frames kind
  | .first, .list :: outer, .listClose => .ok (afterValue outer)
  | .first, .object :: outer, .objectClose => .ok (afterValue outer)
  | .first, .object :: outer, .text _ => .ok (some (.colon, .object :: outer))
  | .first, .object :: _, _ => .error .keyExpected
  | .first, frames, kind => valueStep frames kind
  | .next, .list :: outer, .comma => .ok (some (.value, .list :: outer))
  | .next, .list :: outer, .listClose => .ok (afterValue outer)
  | .next, .object :: outer, .comma => .ok (some (.key, .object :: outer))
  | .next, .object :: outer, .objectClose => .ok (afterValue outer)
  | .next, .object :: _, _ => .error .objectCommaOrEndExpected
  | .next, _, _ => .error .listCommaOrEndExpected
  | .key, frames, .text _ => .ok (some (.colon, frames))
  | .key, _, _ => .error .keyExpected
  | .colon, frames, .colon => .ok (some (.value, frames))
  | .colon, _, _ => .error .colonExpected

/-- The problem with the end of the text. -/
def endProblem (stage : Stage) (frames : List Frame) : Problem :=
  match stage, frames with
  | .value, _ => .endInValue
  | .first, .list :: _ | .next, .list :: _ => .endInList
  | _, _ => .endInObject

/-- The fault of a token that cannot be completed: its own where such a token may come, and else
that of an unexpected token. -/
def brokenFault (stage : Stage) (frames : List Frame) (isText : Bool) (peek : Position)
    (skipped : Fault) : Fault :=
  match stage, frames with
  | .value, _ | .first, .list :: _ | .first, [] => skipped
  | .first, .object :: _ | .key, _ => if isText then skipped else ⟨.keyExpected, peek⟩
  | .next, .object :: _ => ⟨.objectCommaOrEndExpected, peek⟩
  | .next, _ => ⟨.listCommaOrEndExpected, peek⟩
  | .colon, _ => ⟨.colonExpected, peek⟩

/-- Pass over tokens to the end of a value. -/
def run (stage : Stage) (frames : List Frame) : Tokens → Except Fault Tokens
  | .finish position => .error ⟨endProblem stage frames, position⟩
  | .broken start isText _ skipped =>
      .error (brokenFault stage frames isText (start.right 1) skipped)
  | .token start kind _ rest =>
      match step stage frames kind with
      | .error problem => .error ⟨problem, start.right 1⟩
      | .ok none => .ok rest
      | .ok (some (stage, frames)) => run stage frames rest

end Skip

/-- Pass over a value. -/
def skipValue (tokens : Tokens) : Except Fault Tokens :=
  Skip.run .value [] tokens

end RpcStubs.Json
