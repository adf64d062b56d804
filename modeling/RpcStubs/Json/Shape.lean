/-!
# Shapes of values

A shape says what a JSON value may look like: a text, a list of values of one shape, or a record
with named fields in a fixed order. Each shape has a type of values that are read from it. A field
that is not needed reads as empty when it is absent.
-/

namespace RpcStubs.Json

mutual

/-- What a value may look like. -/
inductive Shape where
  | text
  | list (item : Shape)
  /-- A record, by the name that messages call it. -/
  | record (name : String) (fields : Fields)

/-- The fields of a record, in order. -/
inductive Fields where
  | done
  | field (key : String) (needed : Bool) (shape : Shape) (rest : Fields)

end

mutual

/-- The values of a shape. -/
@[reducible]
def Shape.Value : Shape → Type
  | .text => String
  | .list item => List item.Value
  | .record _ fields => fields.Values

/-- The values of some fields. -/
@[reducible]
def Fields.Values : Fields → Type
  | .done => Unit
  | .field _ _ shape rest => shape.Value × rest.Values

end

mutual

/-- The empty value of a shape. -/
def Shape.empty : (shape : Shape) → shape.Value
  | .text => ("" : String)
  | .list _ => []
  | .record _ fields => fields.empty

/-- The empty values of some fields. -/
def Fields.empty : (fields : Fields) → fields.Values
  | .done => ()
  | .field _ _ shape rest => (shape.empty, rest.empty)

end

/-- The values of some fields so far, each present or absent. -/
@[reducible]
def Fields.Slots : Fields → Type
  | .done => Unit
  | .field _ _ shape rest => Option shape.Value × rest.Slots

namespace Fields

/-- The number of fields. -/
def count : Fields → Nat
  | .done => 0
  | .field _ _ _ rest => rest.count + 1

/-- No value for any field. -/
def vacant : (fields : Fields) → fields.Slots
  | .done => ()
  | .field _ _ _ rest => (none, rest.vacant)

/-- The values in the slots, absent ones empty; the key of the first field that is needed and
absent, if there is one. -/
def close : (fields : Fields) → fields.Slots → Except String fields.Values
  | .done, _ => .ok ()
  | .field key needed shape rest, (slot, slots) =>
      match slot with
      | some value => (rest.close slots).map fun values => (value, values)
      | none =>
          if needed then .error key
          else (rest.close slots).map fun values => (shape.empty, values)

end Fields

/-- How messages call a shape that was expected. -/
def Shape.expectation : Shape → String
  | .text => "a string"
  | .list _ => "a sequence"
  | .record name _ => "struct " ++ name

end RpcStubs.Json
