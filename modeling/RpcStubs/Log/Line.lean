import RpcStubs.Log.Filter
import RpcStubs.Log.Journal

/-!
# Lines of a log

An event that a filter lets through is one line: its level, the file a plugin is at work on, where
it comes from, its words and its fields. The opening of a file is no line of its own.
-/

namespace RpcStubs.Log

/-- A field of an event. -/
def fieldText (field : String × Value) : String :=
  field.1 ++ "=" ++ field.2.shown

/-- A level in a column of its own. -/
def Level.column (level : Level) : String :=
  (if level.word.length < 5 then " " else "") ++ level.word

/-- What a line tells about the file that a plugin is at work on. -/
def Span.text (span : Span) : String :=
  Span.name ++ "\x7b" ++ " ".intercalate (span.fields.map fieldText) ++ "\x7d: "

/-- What a line tells about the file, if the filter lets it through. -/
def Filter.spanText (filter : Filter) (span : Option Span) : String :=
  if filter.admits Span.source Span.level then span.elim "" Span.text else ""

/-- The line of an entry, none if the filter does not let it through. -/
def Filter.line? (filter : Filter) : Entry → Option String
  | .opened _ => none
  | .event span event =>
      if filter.admits event.source event.level then
        some (event.level.column ++ " " ++ filter.spanText span ++ event.source ++ ": "
          ++ " ".intercalate (event.message :: event.fields.map fieldText) ++ "\n")
      else none

end RpcStubs.Log
