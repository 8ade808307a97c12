import QuizService.FieldType.Basic
import QuizService.Json.Decode
import QuizService.Json.Reader
import QuizService.Question.Shape

namespace QuizService

structure ScoringRules where
  points : Int64
  negativePoints : Int64
  allowedDurationSecs : Int64
  skippable : Bool
  instantFail : Bool
  allowApproximate : Bool
deriving DecidableEq

namespace ScoringRules

def default : ScoringRules where
  points := 0
  negativePoints := 0
  allowedDurationSecs := 60
  skippable := false
  instantFail := false
  allowApproximate := false

def names : List String :=
  ["points", "negative_points", "allowed_duration_secs", "skippable", "instant_fail",
    "allow_approximate"]

def recordType : RecordType where
  name := "ScoringRules"
  fields :=
    [("points", .optional .integer), ("negative_points", .optional .integer),
      ("allowed_duration_secs", .optional .integer), ("skippable", .optional .boolean),
      ("instant_fail", .optional .boolean), ("allow_approximate", .optional .boolean)]

def json (r : ScoringRules) : Json :=
  .object
    [("points", .int64 r.points), ("negative_points", .int64 r.negativePoints),
      ("allowed_duration_secs", .int64 r.allowedDurationSecs), ("skippable", .bool r.skippable),
      ("instant_fail", .bool r.instantFail), ("allow_approximate", .bool r.allowApproximate)]

def plain (r : ScoringRules) : Json.Plain where
  value := r.json
  distinct :=
    .object _ (show ScoringRules.names.Nodup by decide)
      (by simp [Json.int64])

@[simp]
theorem value_plain (r : ScoringRules) : r.plain.value = r.json :=
  rfl

def ofTree? (t : Json.Tree) : Option ScoringRules := do
  match ← t.fields? names with
  | [a, b, c, d, e, f] =>
    some
      { points := ← Json.Tree.orDefault? default.points Json.Tree.int64? a
        negativePoints := ← Json.Tree.orDefault? default.negativePoints Json.Tree.int64? b
        allowedDurationSecs :=
          ← Json.Tree.orDefault? default.allowedDurationSecs Json.Tree.int64? c
        skippable := ← Json.Tree.orDefault? default.skippable Json.Tree.bool? d
        instantFail := ← Json.Tree.orDefault? default.instantFail Json.Tree.bool? e
        allowApproximate := ← Json.Tree.orDefault? default.allowApproximate Json.Tree.bool? f }
  | _ => none

def ofText? (s : String) : Option ScoringRules := do
  ofTree? (← Json.Tree.ofText? s)

end ScoringRules

structure Analytics where
  numCorrect : UInt32
  numIncorrect : UInt32
  numSkipped : UInt32
deriving DecidableEq

namespace Analytics

def default : Analytics := ⟨0, 0, 0⟩

def names : List String :=
  ["num_correct", "num_incorrect", "num_skipped"]

def recordType : RecordType where
  name := "Analytics"
  fields :=
    [("num_correct", .optional .integer), ("num_incorrect", .optional .integer),
      ("num_skipped", .optional .integer)]

def json (a : Analytics) : Json :=
  .object
    [("num_correct", .uint32 a.numCorrect), ("num_incorrect", .uint32 a.numIncorrect),
      ("num_skipped", .uint32 a.numSkipped)]

def plain (a : Analytics) : Json.Plain where
  value := a.json
  distinct :=
    .object _ (show Analytics.names.Nodup by decide) (by simp [Json.uint32])

@[simp]
theorem value_plain (a : Analytics) : a.plain.value = a.json :=
  rfl

def ofTree? (t : Json.Tree) : Option Analytics := do
  match ← t.fields? names with
  | [a, b, c] =>
    some
      { numCorrect := ← Json.Tree.orDefault? default.numCorrect Json.Tree.uint32? a
        numIncorrect := ← Json.Tree.orDefault? default.numIncorrect Json.Tree.uint32? b
        numSkipped := ← Json.Tree.orDefault? default.numSkipped Json.Tree.uint32? c }
  | _ => none

def ofText? (s : String) : Option Analytics := do
  ofTree? (← Json.Tree.ofText? s)

end Analytics

end QuizService

namespace QuizService.Catalogue

def base : Fragment :=
  [ .field "category" (.enumeration QuestionType.enumeration) none,
    .field "difficulty" (.enumeration Difficulty.enumeration) none,
    .field "topic" .string none,
    .field "statement" .string none,
    .field "scoring_rules" ScoringRules.recordType.type (some ScoringRules.default.plain),
    .field "analytics" Analytics.recordType.type (some Analytics.default.plain) ]

def choices : Fragment :=
  [ .field "solution" (.list .string) (some (.strings [])),
    .field "choices" (.list .string) (some (.strings [])),
    .field "num_selectable" (.optional .integer) (some (.int64 1)),
    .shuffled "choices" ]

def blank : Fragment :=
  [.field "solution" .string none]

def shape : QuestionType → Except QuizError Shape
  | .mcq =>
    Shape.build .mcq [base, choices] [("category", .string "mcq"), ("num_selectable", .int64 1)]
  | .fill => Shape.build .fill [base, blank] [("category", .string "fill")]
  | .multiSelect => Shape.build .multiSelect [base, choices] [("category", .string "multi_select")]

def resolve (tag : String) : Except QuizError Shape :=
  match QuestionType.ofTag? tag with
  | some q => shape q
  | none => .error (.unknownQuestionType tag)

end QuizService.Catalogue
