import RpcStubs.Log.Event
import RpcStubs.Text.Cut

/-!
# Log filters

A filter names the least important level that is still logged, and possibly the part of the program
whose events are logged: that part and all whose names begin with its name.
-/

namespace RpcStubs.Log

/-- Which events are logged. -/
structure Filter where
  /-- What the name of a part of the program begins with. -/
  source : String := ""
  /-- The least important level, nothing if nothing is logged. -/
  level : Option Level
deriving Repr, DecidableEq, Inhabited

namespace Level

/-- The levels, the most important first. -/
def all : List Level :=
  [error, warn, info, debug, trace]

/-- The level that a word names, in any ASCII case. -/
def read? (word : String) : Option Level :=
  all.find? fun level => level.word.toList == word.toList.map Char.toUpper

end Level

namespace Filter

/-- The filter that lets nothing through. -/
def silent : Filter :=
  { level := none }

/-- The filter that a text describes: a level, or a part of the program, an equals sign and a
level. -/
def parse? (text : String) : Option Filter :=
  match Text.cutAtFirst? '=' text.toList with
  | none => (Level.read? text).map fun level => { level }
  | some (source, word) =>
      (Level.read? (String.ofList word)).map fun level =>
        { source := String.ofList source, level }

/-- Whether a filter lets through what a part of the program tells at a level. -/
def admits (filter : Filter) (source : String) (level : Level) : Bool :=
  filter.level.any (fun least => level.rank ≤ least.rank)
    && filter.source.toList.isPrefixOf source.toList

end Filter

end RpcStubs.Log
