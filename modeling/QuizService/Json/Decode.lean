import QuizService.Json.Tree

/-!
Reading records out of trees. A record is written as an object, where unknown names are passed
over and a known name may stand once, or as the array of its values in field order, which may stop
early but not run on.
-/

namespace QuizService.Json.Tree

def occurrences (members : List (String × Tree)) (name : String) : List Tree :=
  members.filterMap fun m => if m.1 = name then some m.2 else none

def named? : List (Option String × Tree) → Option (List (String × Tree))
  | [] => some []
  | (some k, v) :: rest => (named? rest).map ((k, v) :: ·)
  | (none, _) :: _ => none

def single? : List Tree → Option (Option Tree)
  | [] => some none
  | [t] => some (some t)
  | _ => none

def fields? (names : List String) : Tree → Option (List (Option Tree))
  | .object members => do
    let ms ← named? members
    names.mapM fun name => single? (occurrences ms name)
  | .array items =>
    if items.length ≤ names.length then
      some (items.map some ++ List.replicate (names.length - items.length) none)
    else none
  | _ => none

def orDefault? {α : Type} (default : α) (decode : Tree → Option α) : Option Tree → Option α
  | none => some default
  | some t => decode t

def required? {α : Type} (decode : Tree → Option α) : Option Tree → Option α
  | none => none
  | some t => decode t

def nullable? {α : Type} (decode : Tree → Option α) : Tree → Option (Option α)
  | .null => some none
  | t => (decode t).map some

def string? : Tree → Option String
  | .string s => s
  | _ => none

def bool? : Tree → Option Bool
  | .bool b => some b
  | _ => none

def int64? : Tree → Option Int64
  | .number (some (.whole n)) => n.toInt64?
  | _ => none

def uint32? : Tree → Option UInt32
  | .number (some (.whole n)) => n.toUInt32?
  | _ => none

def list? {α : Type} (decode : Tree → Option α) : Tree → Option (List α)
  | .array items => items.mapM decode
  | _ => none

/-- A tag is written as its string, or as an object whose only member has that name and is null. -/
def tag? : Tree → Option String
  | .string s => s
  | .object [(some name, .null)] => some name
  | _ => none

end QuizService.Json.Tree
