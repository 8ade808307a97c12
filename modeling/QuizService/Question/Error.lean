import QuizService.Decimal.Digits
import QuizService.FieldType.Schema

namespace QuizService

inductive RequestError where
  | transport
  | status (code : Nat) (text : String)
  | missingToolCall
  | undecodable
deriving DecidableEq, Repr

def RequestError.message? : RequestError → Option String
  | .transport => none
  | .status code text =>
    some
      ("model endpoint returned HTTP " ++ String.ofList (Decimal.digits code) ++ ": " ++ text)
  | .missingToolCall => some "model reply carried no function call"
  | .undecodable => none

inductive QuizError where
  | invalidInput (fields : List String)
  | emptyEnumeration (name : String)
  | mixedEnumeration (name : String)
  | unsupportedType (location reason : String)
  | unknownQuestionType (tag : String)
  | undeclaredPin (variant field : String)
  | unencodableDefault (field reason : String)
  | request (e : RequestError)
deriving DecidableEq, Repr

namespace QuizError

def ofEnumeration : EnumerationError → QuizError
  | .empty name => .emptyEnumeration name
  | .mixed name => .mixedEnumeration name

def ofSchema (e : SchemaError) : QuizError :=
  .unsupportedType e.location e.defect.reason

def message? : QuizError → Option String
  | .invalidInput fields => some ("invalid fields: " ++ String.intercalate ", " fields)
  | .emptyEnumeration name => some ("enum `" ++ name ++ "` has no members")
  | .mixedEnumeration name => some ("enum `" ++ name ++ "` mixes string and integer members")
  | .unsupportedType location reason =>
    some ("unsupported type at `" ++ location ++ "`: " ++ reason)
  | .unknownQuestionType tag => some ("unknown question type `" ++ tag ++ "`")
  | .undeclaredPin variant field =>
    some ("variant `" ++ variant ++ "` pins undeclared field `" ++ field ++ "`")
  | .unencodableDefault field reason =>
    some ("default for `" ++ field ++ "` cannot be encoded: " ++ reason)
  | .request e => e.message?

end QuizError

end QuizService
