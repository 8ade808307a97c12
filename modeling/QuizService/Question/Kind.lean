import QuizService.FieldType.Basic

namespace QuizService

/-- The name that a variant is encoded by: in lower case, each later word after an underscore. -/
def snakeCase (variant : String) : String :=
  match variant.toList with
  | [] => ""
  | c :: cs =>
    String.ofList
      (c.toLower :: cs.flatMap fun d => if d.isUpper then ['_', d.toLower] else [d.toLower])

inductive QuestionType where
  | mcq
  | fill
  | multiSelect
deriving DecidableEq, Repr

namespace QuestionType

def all : List QuestionType := [.mcq, .fill, .multiSelect]

def tag : QuestionType → String
  | .mcq => "mcq"
  | .fill => "fill"
  | .multiSelect => "multi_select"

def ofTag? (s : String) : Option QuestionType :=
  all.find? fun q => q.tag = s

def enumeration : Enumeration :=
  .ofTexts "QuestionTypes" "mcq" ["fill", "multi_select"]

def variant : QuestionType → String
  | .mcq => "Mcq"
  | .fill => "Fill"
  | .multiSelect => "MultiSelect"

def encoded (q : QuestionType) : String :=
  snakeCase q.variant

def ofEncoded? (s : String) : Option QuestionType :=
  all.find? fun q => q.encoded = s

@[simp]
theorem encoded_eq_tag (q : QuestionType) : q.encoded = q.tag := by
  cases q <;> decide

theorem ofEncoded?_eq_ofTag? : ofEncoded? = ofTag? := by
  funext s
  simp only [ofEncoded?, ofTag?, encoded_eq_tag]

theorem ofTag?_tag (q : QuestionType) : ofTag? q.tag = some q := by
  cases q <;> rfl

theorem enumeration_members : enumeration.members = all.map fun q => .text q.tag :=
  rfl

end QuestionType

inductive Difficulty where
  | easy
  | medium
  | hard
deriving DecidableEq, Repr

namespace Difficulty

def all : List Difficulty := [.easy, .medium, .hard]

def tag : Difficulty → String
  | .easy => "easy"
  | .medium => "medium"
  | .hard => "hard"

def ofTag? (s : String) : Option Difficulty :=
  all.find? fun d => d.tag = s

def enumeration : Enumeration :=
  .ofTexts "Difficulty" "easy" ["medium", "hard"]

def variant : Difficulty → String
  | .easy => "Easy"
  | .medium => "Medium"
  | .hard => "Hard"

def encoded (d : Difficulty) : String :=
  snakeCase d.variant

def ofEncoded? (s : String) : Option Difficulty :=
  all.find? fun d => d.encoded = s

@[simp]
theorem encoded_eq_tag (d : Difficulty) : d.encoded = d.tag := by
  cases d <;> decide

theorem ofEncoded?_eq_ofTag? : ofEncoded? = ofTag? := by
  funext s
  simp only [ofEncoded?, ofTag?, encoded_eq_tag]

theorem ofTag?_tag (d : Difficulty) : ofTag? d.tag = some d := by
  cases d <;> rfl

theorem enumeration_members : enumeration.members = all.map fun d => .text d.tag :=
  rfl

end Difficulty

end QuizService
