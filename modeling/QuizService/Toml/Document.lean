import QuizService.Decimal.Binary
import QuizService.Entries

namespace QuizService.Toml

inductive Value where
  | string (s : String)
  | integer (n : Int64)
  | float (x : Option (Decimal.Binary Decimal.double))
  | boolean (b : Bool)
  | datetime
  | array (items : List Value)
  | table (entries : List (String × Value))

inductive TableKind where
  | header
  | implied
  | dotted
deriving DecidableEq

inductive Node where
  | value (v : Value)
  | table (kind : TableKind) (entries : List (String × Node))
  | tables (items : List (List (String × Node)))

namespace Node

mutual

def toValue : Node → Value
  | .value v => v
  | .table _ entries => .table (entryValues entries)
  | .tables items => .array (tableValues items)

def entryValues : List (String × Node) → List (String × Value)
  | [] => []
  | (k, n) :: rest => (k, toValue n) :: entryValues rest

def tableValues : List (List (String × Node)) → List Value
  | [] => []
  | entries :: rest => .table (entryValues entries) :: tableValues rest

end

end Node

abbrev Nodes := Entries Node

namespace Nodes

/-- Adds a value under a dotted key, making the tables on the way. The table that takes the value
must be open: the one the line belongs to, or one that dotted keys made. -/
def add? (isOpen : Bool) : List String → String → Value → Nodes → Option Nodes
  | [], key, v, nodes =>
    if isOpen && !nodes.has key then some (nodes ++ [(key, .value v)]) else none
  | k :: path, key, v, nodes =>
    match nodes.get? k with
    | none => (add? true path key v []).map fun sub => nodes ++ [(k, .table .dotted sub)]
    | some (.table .header _) => none
    | some (.table kind sub) =>
      (add? (decide (kind = .dotted)) path key v sub).map fun sub' =>
        nodes.put k (.table kind sub')
    | some (.tables items) =>
      (add? false path key v (items.getLast?.getD [])).map fun last =>
        nodes.put k (.tables (items.dropLast ++ [last]))
    | some (.value _) => none

def update? (change : Nodes → Option Nodes) : List String → Nodes → Option Nodes
  | [], nodes => change nodes
  | k :: path, nodes =>
    match nodes.get? k with
    | none => (update? change path []).map fun sub => nodes ++ [(k, .table .implied sub)]
    | some (.table kind sub) =>
      (update? change path sub).map fun sub' => nodes.put k (.table kind sub')
    | some (.tables items) =>
      (update? change path (items.getLast?.getD [])).map fun last =>
        nodes.put k (.tables (items.dropLast ++ [last]))
    | some (.value _) => none

def openTable? (key : String) (nodes : Nodes) : Option Nodes :=
  match nodes.get? key with
  | none => some (nodes ++ [(key, .table .header [])])
  | some (.table .implied sub) => some (nodes.put key (.table .header sub))
  | some _ => none

def appendTable? (key : String) (nodes : Nodes) : Option Nodes :=
  match nodes.get? key with
  | none => some (nodes ++ [(key, .tables [[]])])
  | some (.tables items) => some (nodes.put key (.tables (items ++ [[]])))
  | some _ => none

end Nodes

structure Document where
  nodes : Nodes
  current : List String

namespace Document

def empty : Document := ⟨[], []⟩

def splitKey (first : String) : List String → List String × String
  | [] => ([], first)
  | next :: rest =>
    let (path, last) := splitKey next rest
    (first :: path, last)

def assign? (d : Document) (path : List String) (key : String) (v : Value) : Option Document :=
  (d.nodes.update? (fun nodes => nodes.add? true path key v) d.current).map fun nodes =>
    { d with nodes := nodes }

def openTable? (d : Document) (path : List String) (key : String) : Option Document :=
  (d.nodes.update? (fun nodes => nodes.openTable? key) path).map fun nodes =>
    ⟨nodes, path ++ [key]⟩

def appendTable? (d : Document) (path : List String) (key : String) : Option Document :=
  (d.nodes.update? (fun nodes => nodes.appendTable? key) path).map fun nodes =>
    ⟨nodes, path ++ [key]⟩

def entries (d : Document) : Entries Value :=
  Node.entryValues d.nodes

end Document

end QuizService.Toml
