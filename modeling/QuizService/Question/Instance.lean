import QuizService.Question.Shape

/-!
The record of a shape for a bag of supplied values: the declared fields in their order, each with
the supplied value or else the default, and members of a supplied object over those of a default
object. Pins win over both, and marked arrays are shuffled last.
-/

namespace QuizService

abbrev Draws := List UInt32

namespace Draws

/-- The greatest lower half that is accepted for `count` indices. -/
def zone (count : Nat) : Nat :=
  count * Nat.pow 2 (31 - Nat.log2 count) - 1

def index (count : Nat) : Draws → Nat × Draws
  | [] => (0, [])
  | v :: rest =>
    let product := v.toNat * count
    -- A word above the zone is drawn again, so that all indices are equally likely.
    if product % 4294967296 ≤ zone count then (product / 4294967296, rest)
    else index count rest

end Draws

namespace Shuffle

variable {α : Type}

def swap (xs : List α) (i j : Nat) : List α :=
  match xs[i]?, xs[j]? with
  | some a, some b => (xs.set i b).set j a
  | _, _ => xs

def down : Nat → List α → Draws → List α × Draws
  | 0, xs, ds => (xs, ds)
  | i + 1, xs, ds =>
    let (j, later) := ds.index (i + 2)
    down i (swap xs (i + 1) j) later

def shuffle (xs : List α) (ds : Draws) : List α × Draws :=
  down (xs.length - 1) xs ds

end Shuffle

end QuizService

namespace QuizService.Shape

def resolveValue : Option Json → Option Json → Option Json
  | some (.object base), some (.object more) => some (.object (Entries.putAll base more))
  | _, some v => some v
  | some d, none => some d
  | none, none => none

def filled (s : Shape) (raw : Entries Json) : Entries Json :=
  s.fields.foldl
    (fun acc f =>
      match resolveValue (s.defaults.get? f.1) (raw.get? f.1) with
      | some v => acc.put f.1 v
      | none => acc)
    []

def shuffleField (state : Entries Json × Draws) (name : String) : Entries Json × Draws :=
  match state.1.get? name with
  | some (.array items) =>
    let (arranged, later) := Shuffle.shuffle items state.2
    (state.1.put name (.array arranged), later)
  | _ => state

def instantiate (s : Shape) (raw : Entries Json) (ds : Draws) : Entries Json × Draws :=
  s.shuffled.foldl shuffleField ((s.filled raw).putAll s.pins, ds)

end QuizService.Shape
