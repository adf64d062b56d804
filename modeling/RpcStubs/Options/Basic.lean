import RpcStubs.Diagnostic.Basic
import RpcStubs.Options.Choice
import RpcStubs.Text.Blank
import RpcStubs.Text.Cut

/-!
# Generator options

Options are written as `key=value` pieces between commas. Blanks around pieces, keys and values do
not count, nor do blank pieces; of several pieces with one key the last one counts, and the first
piece at fault is the one reported.
-/

namespace RpcStubs

/-- The settings of one run. -/
structure Options where
  /-- Module root of the framework that generated code imports. -/
  root : String := "github.com/smallnest/rpcx"
  /-- Network on which servers listen and clients dial. -/
  network : String := "tcp"
  serializeType : SerializeType := .protoBuffer
  failMode : FailMode := .retry
  selectMode : SelectMode := .roundRobin
  /-- Name of the plugin to run. -/
  plugin : String := "rpcx"
deriving Repr, DecidableEq, Inhabited

/-- What can be wrong with a piece of an option text. -/
inductive OptionError where
  /-- No option has this key. -/
  | unknown (key : String)
  /-- The piece has no equals sign, or nothing behind it. -/
  | malformed (piece : String)
  /-- The setting has no such value. -/
  | invalid (setting : Setting) (value : String)
deriving Repr, DecidableEq, Inhabited

namespace OptionError

/-- The words of an option error. -/
def message : OptionError → String
  | unknown key => "unknown option `" ++ key ++ "`"
  | malformed piece => "malformed option `" ++ piece ++ "`, expected `key=value`"
  | invalid setting value => "invalid value `" ++ value ++ "` for " ++ setting.words

end OptionError

/-- A value of a setting, or the error that there is no such value. -/
def Choice.read {α : Type} [Choice α] (written : String) : Except OptionError α :=
  match Choice.read? written with
  | some value => .ok value
  | none => .error (.invalid (Choice.setting α) written)

namespace Options

/-- The keys of options. -/
inductive Key where
  | root
  | network
  | serializeType
  | failMode
  | selectMode
  | plugin
deriving Repr, DecidableEq, Inhabited

namespace Key

/-- The keys in the order in which they are listed to the user. -/
def all : List Key :=
  [root, network, serializeType, failMode, selectMode, plugin]

theorem mem_all (key : Key) : key ∈ all := by
  cases key <;> decide

/-- How a key is written. -/
def word : Key → String
  | root => "rpcx_root"
  | network => "network"
  | serializeType => "serialize"
  | failMode => "fail_mode"
  | selectMode => "select_mode"
  | plugin => "plugins"

/-- The key that is written as given. -/
def read? (written : String) : Option Key :=
  all.find? fun key => key.word == written

theorem read?_word (key : Key) : read? key.word = some key := by
  cases key <;> decide

end Key

/-- The keys as a list in a sentence. -/
def Key.listed : String :=
  ", ".intercalate (Key.all.map Key.word)

/-- The options with a value under a key. -/
def set (options : Options) (key : Key) (value : String) : Except OptionError Options :=
  match key with
  | .root => .ok { options with root := value }
  | .network => .ok { options with network := value }
  | .serializeType => do return { options with serializeType := ← Choice.read value }
  | .failMode => do return { options with failMode := ← Choice.read value }
  | .selectMode => do return { options with selectMode := ← Choice.read value }
  | .plugin => .ok { options with plugin := value }

/-- The key and the value of a piece, without the blanks around them. -/
def keyAndValue? (piece : List Char) : Option (String × String) :=
  (Text.cutAtFirst? '=' piece).map fun sides =>
    (String.ofList (Text.trimChars sides.1), String.ofList (Text.trimChars sides.2))

/-- The options after one piece. A missing value is reported before an unknown key. -/
def apply (options : Options) (piece : List Char) : Except OptionError Options :=
  match keyAndValue? piece with
  | none => .error (.malformed (String.ofList piece))
  | some (key, value) =>
      if value = "" then .error (.malformed (String.ofList piece))
      else
        match Key.read? key with
        | none => .error (.unknown key)
        | some key => options.set key value

/-- The pieces of an option text that are not blank, trimmed. -/
def pieces (text : String) : List (List Char) :=
  ((Text.pieces ',' text.toList).map Text.trimChars).filter fun piece => !piece.isEmpty

/-- The options that a text sets on top of the defaults. -/
def parse (text : String) : Except OptionError Options :=
  (pieces text).foldlM apply {}

/-- The options of a run, with or without an option text. -/
def ofText? : Option String → Except OptionError Options
  | none => .ok {}
  | some text => parse text

end Options

/-- An option error as it is told to the user. -/
def OptionError.diagnostic (error : OptionError) : Diagnostic :=
  .alone <|
    match error with
    | unknown _ =>
        { code := "rpcxgen::config::unknown_option"
          message := error.message
          help := "expected one of: " ++ Options.Key.listed }
    | malformed _ => { code := "rpcxgen::config::malformed", message := error.message }
    | invalid .. => { code := "rpcxgen::config::invalid_value", message := error.message }

end RpcStubs
