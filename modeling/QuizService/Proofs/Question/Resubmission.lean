import QuizService.Proofs.Json.Value
import QuizService.Proofs.Question.Generate

/-!
An accepted input, written out and given as a bag again. Main statement: the bag is accepted as the
same input, so that it comes to what the first bag came to and the model gets the same call.
-/

namespace QuizService

namespace Input

def members (i : Input) : Entries Json :=
  match i.json with
  | .object members => members
  | _ => []

variable {i : Input}

theorem get?_members_category (i : Input) :
    i.members.get? "category" = some (.string i.category.tag) := by
  rw [← QuestionType.encoded_eq_tag]
  rfl

theorem get?_members_difficulty (i : Input) :
    i.members.get? "difficulty" = some (.string i.difficulty.tag) := by
  rw [← Difficulty.encoded_eq_tag]
  rfl

theorem get?_members_instructions (i : Input) :
    i.members.get? "instructions" =
      if i.instructions = "" then none else some (.string i.instructions) := by
  by_cases h : i.instructions = "" <;> simp [members, json, Entries.get?, h]

theorem ofText?_text_json (i : Input) : Json.ofText? i.json.text = some i.json := by
  apply Json.ofText?_text_of_exact
  · by_cases h : i.instructions.isEmpty <;>
      simp [json, h]
  · by_cases h : i.instructions.isEmpty <;>
      simp [json, h, Entries.names]
  · by_cases h : i.instructions.isEmpty <;>
      simp [json, h, Json.depth, Json.membersDepth, Json.depthLimit]

theorem check_members (h : i.topic ≠ "") : check i.category.tag i.members = .ok i := by
  rw [check_eq_ok_iff, category?_eq_some_iff, difficulty?_eq_some_iff, topic?_eq_some_iff,
    instructions?_eq_some_iff, get?_members_instructions]
  refine ⟨rfl, get?_members_difficulty i, ⟨rfl, h⟩, ?_⟩
  by_cases hi : i.instructions = "" <;> simp [hi]

end Input

namespace Generated

variable {raw other : Entries Json} {i : Input}

theorem ofBag_congr_input (h : Input.check (tagOf raw) raw = .ok i)
    (h' : Input.check (tagOf other) other = .ok i) (model : Option Model) (ds : Draws) :
    ofBag model ds raw = ofBag model ds other := by
  obtain ⟨s, hs, -, d, hd⟩ := Catalogue.shape_eq_ok i.category
  rw [ofBag_of_check_ok model ds h hs hd, ofBag_of_check_ok model ds h' hs hd]

theorem asked_of_check (h : Input.check (tagOf raw) raw = .ok i) (ask : Model) (ds : Draws) :
    ∃ schema, (ofBag (some ask) ds raw).asked = [⟨schema, .ofInput i⟩] := by
  obtain ⟨s, hs, -, d, hd⟩ := Catalogue.shape_eq_ok i.category
  rw [ofBag_of_check_ok (some ask) ds h hs hd, answer_some]
  exact ⟨d, rfl⟩

end Generated

namespace Input

open Generated (tagOf ofBag)

theorem check_written_again {tag : String} {raw : Entries Json} {i : Input}
    (h : check tag raw = .ok i) :
    ∃ members : Entries Json, i.json = .object members ∧
      Json.ofText? i.json.text = some (.object members) ∧
      (members.get? "instructions" = none ↔ i.instructions = "") ∧
      (∃ again, members.get? "category" = some (.string again) ∧ check again members = .ok i) ∧
      (raw.get? "category" = some (.string tag) →
        (∀ model ds, ofBag model ds members = ofBag model ds raw) ∧
        ∀ ask ds, ∃ schema,
          (ofBag (some ask) ds raw).asked = [⟨schema, .ofInput i⟩] ∧
          (ofBag (some ask) ds members).asked = [⟨schema, .ofInput i⟩]) := by
  obtain ⟨hcategory, -, htopic, -⟩ := check_eq_ok_iff.mp h
  obtain rfl := category?_eq_some_iff.mp hcategory
  obtain ⟨-, hne⟩ := topic?_eq_some_iff.mp htopic
  have hagain : check i.category.tag i.members = .ok i := check_members hne
  refine ⟨i.members, rfl, ofText?_text_json i, ?_,
    ⟨_, get?_members_category i, hagain⟩, fun hnamed => ?_⟩
  · rw [get?_members_instructions]
    by_cases hi : i.instructions = "" <;> simp [hi]
  · have htag : tagOf raw = i.category.tag := Generated.tagOf_eq_tag_iff.mpr hnamed
    have htag' : tagOf i.members = i.category.tag := 
      Generated.tagOf_eq_tag_iff.mpr (get?_members_category i)
    rw [← htag] at h
    rw [← htag'] at hagain
    have hsame := Generated.ofBag_congr_input hagain h
    refine ⟨hsame, fun ask ds => ?_⟩
    obtain ⟨schema, hasked⟩ := Generated.asked_of_check h ask ds
    exact ⟨schema, hasked, by rw [hsame, hasked]⟩

theorem check_written_again_unordered :
    let raw : Entries Json :=
      [("instructions", .null), ("more", .array [.null]), ("topic", .string "tides \"1\""),
        ("difficulty", .string "hard"), ("category", .string "multi_select")]
    let members : Entries Json :=
      [("category", .string "multi_select"), ("difficulty", .string "hard"),
        ("topic", .string "tides \"1\"")]
    let i : Input := ⟨.multiSelect, .hard, "tides \"1\"", ""⟩
    check "multi_select" raw = .ok i ∧ i.json = .object members ∧
      check "multi_select" members = .ok i ∧
      ∀ model ds, ofBag model ds members = ofBag model ds raw := by
  intro raw members i
  have h : check "multi_select" raw = .ok i := rfl
  have hmembers : i.json = .object members := by
    simp [json, i, members, QuestionType.tag, Difficulty.tag]
  obtain ⟨ms, hjson, -, -, ⟨again, hcategory, hagain⟩, hsame⟩ := check_written_again h
  obtain rfl : members = ms := Json.object.inj (hmembers.symm.trans hjson)
  obtain rfl : "multi_select" = again := Json.string.inj (Option.some.inj hcategory)
  exact ⟨h, hjson, hagain, (hsame rfl).1⟩

end Input

end QuizService
