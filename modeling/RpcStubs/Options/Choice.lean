/-!
# Policies of generated clients

Three settings of a generated client are picked from fixed lists: how messages are encoded, what
happens when a call fails, and which server is called. In an option a value may be written in any
ASCII case; in code it is an identifier of the framework package that defines it.
-/

namespace RpcStubs

/-- How messages are encoded on the wire. -/
inductive SerializeType where
  | raw
  | json
  | protoBuffer
  | msgPack
  | thrift
deriving Repr, DecidableEq, Inhabited

/-- What a client does when a call fails. -/
inductive FailMode where
  | over
  | fast
  | retry
  | backup
deriving Repr, DecidableEq, Inhabited

/-- Which of several servers a client calls. -/
inductive SelectMode where
  | random
  | roundRobin
  | weightedRoundRobin
  | weightedPing
  | consistentHash
  | closest
deriving Repr, DecidableEq, Inhabited

/-- Which of the three settings a value belongs to. -/
inductive Setting where
  | serializeType
  | failMode
  | selectMode
deriving Repr, DecidableEq, Inhabited

namespace Setting

/-- A setting as messages call it. -/
def words : Setting → String
  | serializeType => "serialize type"
  | failMode => "fail mode"
  | selectMode => "select mode"

end Setting

/-- A setting with a fixed list of values, each with an identifier. -/
class Choice (α : Type) where
  /-- The setting. -/
  setting : Setting
  /-- The package that defines the identifiers. -/
  qualifier : String
  /-- All values, in the order in which the framework declares them. -/
  all : List α
  /-- The identifier of a value. -/
  word : α → String

instance : Choice SerializeType where
  setting := .serializeType
  qualifier := "protocol"
  all := [.raw, .json, .protoBuffer, .msgPack, .thrift]
  word
    | .raw => "SerializeNone"
    | .json => "JSON"
    | .protoBuffer => "ProtoBuffer"
    | .msgPack => "MsgPack"
    | .thrift => "Thrift"

instance : Choice FailMode where
  setting := .failMode
  qualifier := "client"
  all := [.over, .fast, .retry, .backup]
  word
    | .over => "Failover"
    | .fast => "Failfast"
    | .retry => "Failtry"
    | .backup => "Failbackup"

instance : Choice SelectMode where
  setting := .selectMode
  qualifier := "client"
  all := [.random, .roundRobin, .weightedRoundRobin, .weightedPing, .consistentHash, .closest]
  word
    | .random => "RandomSelect"
    | .roundRobin => "RoundRobin"
    | .weightedRoundRobin => "WeightedRoundRobin"
    | .weightedPing => "WeightedICMP"
    | .consistentHash => "ConsistentHash"
    | .closest => "Closest"

namespace Choice

variable {α : Type} [Choice α]

/-- A value as an expression of generated code. -/
def expression (value : α) : String :=
  qualifier α ++ "." ++ word value

/-- Whether two texts differ at most in the case of ASCII letters. -/
def sameWord (first second : String) : Bool :=
  first.toList.map Char.toLower == second.toList.map Char.toLower

/-- The first value whose identifier is the given word in some ASCII case. -/
def read? (written : String) : Option α :=
  (all : List α).find? fun value => sameWord (word value) written

end Choice

end RpcStubs
