import RpcStubs.Command.Request
import RpcStubs.Text.Cut

/-!
# Reading a command line

Arguments are read from left to right, and the first fault found is reported. A value is taken as
soon as it is seen but looked at only when the next argument is known to be one, so a wrong argument
behind a wrong value is what is reported. Help is given at once; what is missing is noticed at the
end.
-/

namespace RpcStubs.Command

/-! ## Words -/

/-- How an argument is written. -/
inductive Word where
  /-- Two dashes, behind which there are no options. -/
  | ends
  /-- Two dashes, a name, and possibly an equals sign and a value. -/
  | long (name : String) (value : Option String)
  /-- One dash, a letter and what is behind it. -/
  | short (letter : Char) (behind : List Char)
  | plain
deriving Repr, DecidableEq, Inhabited

/-- How an argument is written. -/
def Word.of (argument : String) : Word :=
  match argument.toList with
  | ['-', '-'] => ends
  | '-' :: '-' :: rest =>
      match Text.cutAtFirst? '=' rest with
      | none => long (String.ofList rest) none
      | some (name, value) => long (String.ofList name) (some (String.ofList value))
  | '-' :: letter :: rest => short letter rest
  | _ => plain

/-! ## Options -/

/-- What a value is for. -/
inductive Slot where
  | descriptors
  | directory
  | options
deriving Repr, DecidableEq, Inhabited

/-- An option. -/
inductive OptionKind where
  | help
  | toStdout
  /-- An option that takes a value. -/
  | valued (slot : Slot)
deriving Repr, DecidableEq, Inhabited

namespace Verb

/-- The option of a long name. -/
def long? (verb : Verb) (name : String) : Option OptionKind :=
  match verb, name with
  | _, "help" => some .help
  | _, "param" => some (.valued .options)
  | generate, "out-dir" => some (.valued .directory)
  | generate, "stdout" => some .toStdout
  | _, _ => none

/-- The option of a letter. -/
def short? (verb : Verb) (letter : Char) : Option OptionKind :=
  match verb, letter with
  | _, 'h' => some .help
  | _, 'p' => some (.valued .options)
  | generate, 'o' => some (.valued .directory)
  | _, _ => none

/-- The command of a name. -/
def read? : String → Option Verb
  | "generate" => some generate
  | "check" => some check
  | _ => none

end Verb

/-! ## Drafts -/

/-- What is known of a request. -/
structure Draft where
  descriptors : Option String := none
  directory : Option String := none
  options : Option String := none
  toStdout : Bool := false
deriving Repr, DecidableEq, Inhabited

namespace Draft

/-- A value, if there is one yet. -/
def value? (draft : Draft) : Slot → Option String
  | .descriptors => draft.descriptors
  | .directory => draft.directory
  | .options => draft.options

/-- The draft with a value. -/
def withValue (draft : Draft) (slot : Slot) (value : String) : Draft :=
  match slot with
  | .descriptors => { draft with descriptors := some value }
  | .directory => { draft with directory := some value }
  | .options => { draft with options := some value }

/-- The draft with a value there was none of before. Paths must not be empty. -/
def put (draft : Draft) (slot : Slot) (value : String) : Except UsageError Draft :=
  if (draft.value? slot).isSome then .error .conflict
  else if value = "" ∧ slot ≠ .options then .error .missingValue
  else .ok (draft.withValue slot value)

/-- The draft with its destination on the screen. -/
def printing (draft : Draft) : Except UsageError Draft :=
  if draft.toStdout then .error .conflict else .ok { draft with toStdout := true }

/-- The request that a complete draft is. -/
def request (draft : Draft) (verb : Verb) : Except UsageError Request :=
  if draft.toStdout ∧ draft.directory.isSome then .error .conflict
  else
    match draft.descriptors, verb with
    | none, _ => .error .missingDescriptors
    | some descriptors, .generate =>
        .ok <| .generate descriptors draft.options <|
          if draft.toStdout then .standardOutput else .directory draft.directory
    | some descriptors, .check => .ok (.check descriptors draft.options)

end Draft

/-! ## Reading -/

/-- A draft, and what is last seen: what a value is for, and the value if it is seen, too. -/
structure Reading where
  draft : Draft := {}
  pending : Option (Slot × Option String) := none
deriving Repr, DecidableEq, Inhabited

namespace Reading

/-- The draft with what is pending. -/
def settle (reading : Reading) : Except UsageError Draft :=
  match reading.pending with
  | none => .ok reading.draft
  | some (_, none) => .error .missingValue
  | some (slot, some value) => reading.draft.put slot value

/-- Whether the descriptors are named already. -/
def namesDescriptors (reading : Reading) : Bool :=
  reading.draft.descriptors.isSome || reading.pending.any (·.1 == .descriptors)

/-- Go on behind an argument that is no option and no value of one. -/
def literal (reading : Reading) (argument : String) : Except UsageError Reading :=
  if reading.namesDescriptors then .error (.unknownArgument argument)
  else do return ⟨← reading.settle, some (.descriptors, some argument)⟩

/-- Go on behind an argument without dashes, which may be the value of the option before it. -/
def plain (reading : Reading) (argument : String) : Except UsageError Reading :=
  match reading.pending with
  | some (slot, none) => .ok { reading with pending := some (slot, some argument) }
  | _ => reading.literal argument

/-- Go on behind an option with or without a value attached. -/
def valued (reading : Reading) (slot : Slot) (attached : Option String) :
    Except UsageError Reading := do
  let draft ← reading.settle
  match attached with
  | none => return ⟨draft, some (slot, none)⟩
  | some value => return ⟨← draft.put slot value, none⟩

/-- The value attached to a letter. -/
def attached? : List Char → Option String
  | [] => none
  | '=' :: value => some (String.ofList value)
  | value => some (String.ofList value)

/-- The option that a word is, and the value attached to it. -/
def option (verb : Verb) (argument : String) :
    Word → Except UsageError (Option (OptionKind × Option String))
  | .ends | .plain => .ok none
  | .long name value =>
      match verb.long? name, value with
      | none, _ => .error (.unknownArgument argument)
      | some (.valued slot), value => .ok (some (.valued slot, value))
      | some _, some _ => .error (.surplusValue argument)
      | some kind, none => .ok (some (kind, none))
  | .short letter behind =>
      match verb.short? letter with
      | none => .error (.unknownArgument argument)
      | some kind => .ok (some (kind, attached? behind))

/-- The request that the reading ends in. -/
def finish (reading : Reading) (verb : Verb) : Except UsageError Invocation := do
  return .request (← (← reading.settle).request verb)

/-- What the arguments behind a command ask for. -/
def read (verb : Verb) (reading : Reading) : List String → Except UsageError Invocation
  | [] => reading.finish verb
  | argument :: rest =>
      let word := Word.of argument
      if word = .ends then do
        (← rest.foldlM literal reading).finish verb
      else do
        match ← option verb argument word with
        | none => (← reading.plain argument).read verb rest
        | some (.help, _) =>
            let _ ← reading.settle
            return .help (.verb verb)
        | some (.toStdout, _) => read verb ⟨← (← reading.settle).printing, none⟩ rest
        | some (.valued slot, value) => read verb (← reading.valued slot value) rest

end Reading

/-! ## Command lines -/

/-- What there is help about under the name of a command. -/
def Topic.read? (word : String) : Option Topic :=
  if word = "help" then some .help else (Verb.read? word).map .verb

/-- What the arguments behind a request for help ask for. No command has commands of its own. -/
def helpAbout : List String → Except UsageError Invocation
  | [] => .ok (.help .program)
  | word :: rest =>
      match Topic.read? word, rest with
      | none, _ => .error (.unknownCommand word)
      | some topic, [] => .ok (.help topic)
      | some _, next :: _ => .error (.unknownCommand next)

/-- What an argument asks for that is no command. -/
def withoutCommand (argument : String) (rest : List String) : Except UsageError Invocation :=
  match Word.of argument with
  | .ends =>
      match rest with
      | [] => .error .nothingAsked
      | next :: _ =>
          if (Topic.read? next).isSome then .error (.unknownArgument next)
          else .error (.unknownCommand next)
  | .long "help" none | .short 'h' _ => .ok (.help .program)
  | .long "version" none | .short 'V' _ => .ok .version
  | .long "help" (some _) | .long "version" (some _) => .error (.surplusValue argument)
  | .long _ _ | .short _ _ => .error (.unknownArgument argument)
  | .plain => .error (.unknownCommand argument)

/-- What a command line asks for. -/
def parse : List String → Except UsageError Invocation
  | [] => .error .nothingAsked
  | argument :: rest =>
      match Topic.read? argument with
      | some (.verb verb) => Reading.read verb {} rest
      | some _ => helpAbout rest
      | none => withoutCommand argument rest

end RpcStubs.Command
