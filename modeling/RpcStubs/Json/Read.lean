import RpcStubs.Json.Scan
import RpcStubs.Json.Shape
import RpcStubs.Json.Skip

/-!
# Reading values

Values of a shape are read off the tokens from left to right, and the first fault met is the one
reported, be it a broken text or a value of the wrong shape. A record is written as an object,
where fields come in any order and unknown ones are skipped, or as a list of its fields, where
only trailing fields that are not needed may be left out.
-/

namespace RpcStubs.Json

/-- A reader of a value gives the value and the tokens behind it. -/
abbrev Reader (α : Type) := Tokens → Except Fault (α × Tokens)

/-- The fault of a token in place of a value of an expected shape. -/
def mismatch (expected : String) : Tokens → Fault
  | .finish position => ⟨.endInValue, position⟩
  | .broken _ _ read _ => read
  | .token start kind stop _ =>
      let wrong (found : Found) (position : Position) : Fault :=
        ⟨.wrongType found expected, position⟩
      match kind with
      | .null => wrong .null stop
      | .boolean value => wrong (.boolean value) stop
      | .number (.ok found) => wrong found stop
      | .number (.error fault) => fault
      | .text (.ok value) => wrong (.text value) stop
      | .text (.error fault) => fault
      | .listOpen => wrong .list start
      | .objectOpen => wrong .object start
      | _ => ⟨.valueExpected, start.right 1⟩

/-! ## Texts -/

/-- Read a text. -/
def readText : Reader String
  | .token _ (.text value) _ rest => value.map (·, rest)
  | tokens => .error (mismatch Shape.text.expectation tokens)

/-! ## Lists -/

/-- How a list goes on. -/
inductive Continuation where
  /-- It ends; its closing bracket stops at a position. -/
  | closed (stop : Position) (rest : Tokens)
  /-- An element or a key comes. -/
  | goesOn (tokens : Tokens)

/-- How a list goes on after its bracket or after an element. -/
def nextElement (first : Bool) : Tokens → Except Fault Continuation
  | .finish position => .error ⟨.endInList, position⟩
  | .token _ .listClose stop rest => .ok (.closed stop rest)
  | .token start .comma stop rest =>
      if first then .ok (.goesOn (.token start .comma stop rest))
      else
        match rest with
        | .finish position => .error ⟨.endInValue, position⟩
        | .token close .listClose _ _ => .error ⟨.commaBeforeEnd, close.right 1⟩
        | rest => .ok (.goesOn rest)
  | tokens =>
      if first then .ok (.goesOn tokens) else .error (tokens.fault .listCommaOrEndExpected)

/-- Read elements up to the end of a list, at most a number of them. -/
def readElements {α : Type} (read : Reader α) : Nat → Bool → Reader (List α)
  | 0, _, tokens => .error (tokens.fault .endInList)
  | limit + 1, first, tokens => do
      match ← nextElement first tokens with
      | .closed _ rest => return ([], rest)
      | .goesOn tokens =>
          let (element, tokens) ← read tokens
          let (elements, tokens) ← readElements read limit false tokens
          return (element :: elements, tokens)

/-- Read a list. It has no more elements than tokens follow. -/
def readList {α : Type} (read : Reader α) (expected : String) : Reader (List α)
  | .token _ .listOpen _ rest => readElements read (rest.size + 1) true rest
  | tokens => .error (mismatch expected tokens)

/-- Read the end of a list that may hold no more elements. -/
def readListEnd : Tokens → Except Fault Tokens
  | .finish position => .error ⟨.endInList, position⟩
  | .token _ .listClose _ rest => .ok rest
  | .token _ .comma _ (.token close .listClose _ _) => .error ⟨.commaBeforeEnd, close.right 1⟩
  | .token _ .comma _ rest => .error (rest.fault .moreCharacters)
  | tokens => .error (tokens.fault .moreCharacters)

/-! ## Objects -/

/-- How an object goes on after its brace or after a value. -/
def nextKey (first : Bool) : Tokens → Except Fault Continuation
  | .finish position => .error ⟨.endInObject, position⟩
  | .token _ .objectClose stop rest => .ok (.closed stop rest)
  | .token start .comma stop rest =>
      if first then .error ((Tokens.token start .comma stop rest).fault .keyExpected)
      else
        match rest with
        | .finish position => .error ⟨.endInValue, position⟩
        | .token close .objectClose _ _ => .error ⟨.commaBeforeEnd, close.right 1⟩
        | rest => .ok (.goesOn rest)
  | tokens =>
      if first then .ok (.goesOn tokens) else .error (tokens.fault .objectCommaOrEndExpected)

/-- Read a key. -/
def readKey : Reader String
  | .token _ (.text value) _ rest => value.map (·, rest)
  | .broken start isText read _ =>
      .error (if isText then read else ⟨.keyExpected, start.right 1⟩)
  | tokens => .error (tokens.fault .keyExpected)

/-- Read the colon between a key and its value. -/
def readColon : Tokens → Except Fault Tokens
  | .finish position => .error ⟨.endInObject, position⟩
  | .token _ .colon _ rest => .ok rest
  | tokens => .error (tokens.fault .colonExpected)

/-- Where a second value for a field is reported: before the token behind the key, except that a
closing brace is passed over. -/
def duplicatePosition : Tokens → Position
  | .token _ .objectClose stop _ => stop
  | tokens => tokens.start

/-- Read the members of an object up to its end, at most a number of them. A reader takes the
value of a known key; the value of any other is skipped. -/
def readMembers {σ : Type} (accept : String → σ → Tokens → Option (Except Fault (σ × Tokens))) :
    Nat → Bool → σ → Tokens → Except Fault (σ × Position × Tokens)
  | 0, _, _, tokens => .error (tokens.fault .endInObject)
  | limit + 1, first, slots, tokens => do
      match ← nextKey first tokens with
      | .closed stop rest => return (slots, stop, rest)
      | .goesOn tokens =>
          let (key, tokens) ← readKey tokens
          match accept key slots tokens with
          | some result =>
              let (slots, tokens) ← result
              readMembers accept limit false slots tokens
          | none =>
              let tokens ← readColon tokens
              let tokens ← skipValue tokens
              readMembers accept limit false slots tokens

/-! ## Shapes -/

mutual

/-- Read a value of a shape. -/
def Shape.read : (shape : Shape) → Reader shape.Value
  | .text => readText
  | .list item => readList item.read (Shape.list item).expectation
  | .record name fields => fun tokens =>
      match tokens with
      | .token _ .listOpen _ rest =>
          fields.readInOrder
            ((Shape.record name fields).expectation ++ " with " ++ toString fields.count
              ++ " elements") 0 rest
      | .token _ .objectOpen _ rest => do
          let (slots, stop, rest) ←
            readMembers fields.accept (rest.size + 1) true fields.vacant rest
          match fields.close slots with
          | .ok values => return (values, rest)
          | .error key => .error ⟨.missingField key, stop⟩
      | tokens => .error (mismatch (Shape.record name fields).expectation tokens)

/-- Read the values of fields from the elements of a list, after some that were read already. -/
def Fields.readInOrder :
    (fields : Fields) → (expected : String) → (before : Nat) → Reader fields.Values
  | .done, _, _, tokens => (readListEnd tokens).map ((), ·)
  | .field key needed shape rest, expected, before, tokens => do
      match ← nextElement (before == 0) tokens with
      | .closed stop tokens =>
          match (Fields.field key needed shape rest).close (Fields.vacant _) with
          | .ok values => return (values, tokens)
          | .error _ => .error ⟨.wrongLength before expected, stop⟩
      | .goesOn tokens =>
          let (value, tokens) ← shape.read tokens
          let (values, tokens) ← rest.readInOrder expected (before + 1) tokens
          return ((value, values), tokens)

/-- Read the value of a key into its slot; nothing if no field has the key. -/
def Fields.accept : (fields : Fields) → String → fields.Slots → Tokens →
    Option (Except Fault (fields.Slots × Tokens))
  | .done, _, _, _ => none
  | .field key _ shape rest, found, (slot, slots), tokens =>
      if found = key then
        match slot with
        | some _ => some (.error ⟨.duplicateField key, duplicatePosition tokens⟩)
        | none => some do
            let tokens ← readColon tokens
            let (value, tokens) ← shape.read tokens
            return ((some value, slots), tokens)
      else
        (rest.accept found slots tokens).map fun result =>
          result.map fun (slots, tokens) => ((slot, slots), tokens)

end

/-- Read a text that holds one value of a shape and nothing else. -/
def Shape.parse (shape : Shape) (text : String) : Except Fault shape.Value := do
  let (value, rest) ← shape.read (tokens text)
  match rest with
  | .finish _ => return value
  | rest => .error (rest.fault .moreCharacters)

end RpcStubs.Json
