import QuizService.Chat.Client
import QuizService.FieldType.Basic
import QuizService.FieldType.Schema
import QuizService.FieldType.Values
import QuizService.Http.Router
import QuizService.Schema.Reading
import QuizService.Settings
import QuizService.Text.Template
import QuizService.Proofs.FieldType.Lowering
import QuizService.Proofs.Json.Literals
import QuizService.Proofs.Json.ReadBack
import QuizService.Proofs.FieldType.Recovery
import QuizService.Proofs.Entries
import QuizService.Proofs.Question.Composition
import QuizService.Proofs.Question.Shuffle
import QuizService.Proofs.Schema.Meaning
import QuizService.Proofs.Schema.Grammar
import QuizService.Proofs.FieldType.Values
import QuizService.Proofs.Question.Conformance
import QuizService.Proofs.Question.Input
import QuizService.Proofs.Question.Generate
import QuizService.Proofs.Question.Discovery
import QuizService.Question.Shape
import QuizService.Proofs.Question.Arrangement
import QuizService.Proofs.Question.Declaration
import QuizService.Proofs.Question.Defaults
import QuizService.Proofs.Question.Builtin
import QuizService.Proofs.Text.Template
import QuizService.Proofs.Text.Substitution
import QuizService.Proofs.Text.Excerpt
import QuizService.Proofs.Text.Utf8
import QuizService.Proofs.Http.Form
import QuizService.Proofs.Decimal.Binary
import QuizService.Proofs.Decimal.Shortest
import QuizService.Proofs.Json.Line
import QuizService.Proofs.Json.Single
import QuizService.Proofs.Json.Value
import QuizService.Proofs.Http.Layer
import QuizService.Proofs.Http.Outcome
import QuizService.Proofs.Http.Methods
import QuizService.Proofs.Chat.Completion
import QuizService.Proofs.Chat.Prompt
import QuizService.Proofs.Chat.Request
import QuizService.Proofs.Chat.Delivery
import QuizService.Proofs.Chat.Reply
import QuizService.Proofs.Question.Assembly
import QuizService.Proofs.Question.Contents
import QuizService.Proofs.Question.Interference
import QuizService.Proofs.Question.Score
import QuizService.Proofs.Question.Resubmission
import QuizService.Proofs.FieldType.Partition
import QuizService.Proofs.FieldType.Built
