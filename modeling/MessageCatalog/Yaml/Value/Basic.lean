import MessageCatalog.Binary64.Basic
import MessageCatalog.Bytes
import MessageCatalog.Yaml.Calendar
import MessageCatalog.Yaml.Graph.Basic

/-!
# Values of documents

A document gives a value. The values of scalars stand for themselves; collections are looked up by the
number of their node, since they may contain each other and themselves. The keys of a mapping are
distinct: numbers are compared by their value, whatever their kind, and truth values count as zero
and one.
-/

namespace MessageCatalog
namespace Yaml

/-- A value of a document. -/
inductive Value where
  | null
  | boolean (b : Bool)
  | integer (i : Int)
  | float (x : Binary64)
  | text (t : Text)
  | bytes (b : Bytes)
  | date (d : CalendarDate)
  | moment (m : CalendarMoment)
  | sequence (id : NodeId)
  | mapping (id : NodeId)
  | set (id : NodeId)
  /-- An entry of a mapping whose order counts. -/
  | pair (key value : Value)
deriving DecidableEq, Repr

/-- What a collection holds, in order. -/
inductive Collection where
  | sequence (items : List Value)
  | mapping (entries : List (Value × Value))
  | set (items : List Value)
deriving DecidableEq, Repr

namespace Value

/-- The value can be a key: it is no collection. -/
def isKey : Value → Bool
  | .sequence _ => false
  | .mapping _ => false
  | .set _ => false
  | _ => true

/-- The integer that a truth value or an integer counts as. -/
def integer? : Value → Option Int
  | .boolean b => some (if b then 1 else 0)
  | .integer i => some i
  | _ => none

/-- Two values are the same key. What is not a number is one key. -/
def sameKey (a b : Value) : Bool :=
  a = b || match a.integer?, b.integer?, a, b with
  | some i, some j, _, _ => i = j
  | some i, none, _, .float y => y.isInteger i
  | none, some j, .float x, _ => x.isInteger j
  | none, none, .float x, .float y => x.same y
  | _, _, _, _ => false

/-- The entries with a value for a key; a key that is there keeps its place and its spelling. -/
def put (key value : Value) : List (Value × Value) → List (Value × Value)
  | [] => [(key, value)]
  | (other, old) :: rest =>
      if sameKey other key then (other, value) :: rest else (other, old) :: put key value rest

end Value

/-- A document: its value and the collections in it. -/
structure Document where
  root : Value
  collections : List (NodeId × Collection)
deriving DecidableEq, Repr

namespace Document

/-- The entries of a mapping. -/
def entries? (d : Document) (v : Value) : Option (List (Value × Value)) :=
  match v with
  | .mapping id =>
      match d.collections.lookup id with
      | some (.mapping entries) => some entries
      | _ => some []
  | _ => none

/-- The items of a sequence. -/
def items? (d : Document) (v : Value) : Option (List Value) :=
  match v with
  | .sequence id =>
      match d.collections.lookup id with
      | some (.sequence items) => some items
      | _ => some []
  | _ => none

/-- The members of a set. -/
def members (d : Document) (id : NodeId) : List Value :=
  match d.collections.lookup id with
  | some (.set members) => members
  | _ => []

end Document

/-- The value under a name, which is nothing if there is none. -/
def field (entries : List (Value × Value)) (name : Text) : Value :=
  ((entries.find? fun (key, _) => key = .text name).map (·.2)).getD .null

end Yaml
end MessageCatalog
