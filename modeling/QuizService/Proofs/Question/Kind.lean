import QuizService.FieldType.Values
import QuizService.Question.Kind

namespace QuizService

theorem find?_tag_eq_some_iff {α : Type} {all : List α} {tag : α → String} {s : String} {a : α}
    (hself : all.find? (fun b => tag b = tag a) = some a) :
    all.find? (fun b => tag b = s) = some a ↔ s = tag a := by
  constructor
  · intro h
    have htag := List.find?_some h
    exact (of_decide_eq_true htag).symm
  · rintro rfl
    exact hself

theorem FieldType.admits_tags_iff {α : Type} {all : List α} {tag : α → String} {e : Enumeration}
    (hall : ∀ a, a ∈ all) (he : e.members = all.map fun a => .text (tag a)) {v : Json} :
    (enumeration e).Admits v ↔ ∃ a, v = .string (tag a) := by
  rw [Admits, he]
  constructor
  · rintro ⟨m, hm, rfl⟩
    obtain ⟨a, -, rfl⟩ := List.mem_map.mp hm
    exact ⟨a, rfl⟩
  · rintro ⟨a, rfl⟩
    exact ⟨.text (tag a), List.mem_map.mpr ⟨a, hall a, rfl⟩, rfl⟩

namespace QuestionType

theorem mem_all (q : QuestionType) : q ∈ all := by
  cases q <;> decide

theorem ofTag?_eq_some_iff {s : String} {q : QuestionType} : ofTag? s = some q ↔ s = q.tag :=
  find?_tag_eq_some_iff (ofTag?_tag q)

theorem admits_enumeration_iff {v : Json} :
    (FieldType.enumeration enumeration).Admits v ↔ ∃ q : QuestionType, v = .string q.tag :=
  FieldType.admits_tags_iff mem_all enumeration_members

end QuestionType

namespace Difficulty

theorem mem_all (d : Difficulty) : d ∈ all := by
  cases d <;> decide

theorem ofTag?_eq_some_iff {s : String} {d : Difficulty} : ofTag? s = some d ↔ s = d.tag :=
  find?_tag_eq_some_iff (ofTag?_tag d)

theorem admits_enumeration_iff {v : Json} :
    (FieldType.enumeration enumeration).Admits v ↔ ∃ d : Difficulty, v = .string d.tag :=
  FieldType.admits_tags_iff mem_all enumeration_members

end Difficulty

end QuizService
