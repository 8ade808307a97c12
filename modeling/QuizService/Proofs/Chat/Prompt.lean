import QuizService.Chat.Prompt
import QuizService.Proofs.Json.Line
import QuizService.Proofs.Text.Template

/-!
The user message and its template. Main statements: the template alone settles which texts stand
where and they stand there unchanged, and with the default template a message tells its context
and its number.
-/

namespace QuizService

open Template (Cut)

inductive Slot where
  | inputs
  | instructions
  | nonce
deriving DecidableEq, Repr

namespace Slot

def name : Slot → List Char
  | .inputs => "inputs".toList
  | .instructions => "instructions".toList
  | .nonce => "nonce".toList

def naming : Template.Naming Slot where
  slots := [.inputs, .instructions, .nonce]
  name := name
  complete s := by cases s <;> decide
  injective s t h := by
    cases s <;> cases t
    all_goals first
      | rfl
      | exact absurd h (by decide)
  unbraced s := by cases s <;> decide

def inputsJson (c : PromptContext) : Json :=
  .object
    [("category", .string c.category), ("difficulty", .string c.difficulty),
      ("topic", .string c.topic)]

def text (c : PromptContext) (nonce : Nat) : Slot → List Char
  | .inputs => (inputsJson c).chars
  | .instructions => c.instructions.toList
  | .nonce => Decimal.digits nonce

variable {c d : PromptContext}

theorem newline_not_mem_inputs (c : PromptContext) : '\n' ∉ (inputsJson c).chars := by
  intro h
  have hplain : 32 ≤ '\n'.toNat := Json.isPlain_chars _ _ h
  exact absurd hplain (by decide)

theorem exact_inputs (c : PromptContext) : (inputsJson c).Exact :=
  .object _ (by simp)

theorem eq_of_inputs_eq (h : (inputsJson c).chars = (inputsJson d).chars) :
    c.category = d.category ∧ c.difficulty = d.difficulty ∧ c.topic = d.topic := by
  have htext : (inputsJson c).text = (inputsJson d).text := congrArg String.ofList h
  simpa [inputsJson] using Json.text_injective (exact_inputs c) (exact_inputs d) htext

end Slot

theorem blank_not_mem_digits (n : Nat) : ' ' ∉ Decimal.digits n :=
  fun h => absurd (Json.Numeral.isDigit_digits n ' ' h) (by decide)

section Split

variable {α : Type} {a : α} {x y z w : List α}

theorem eq_of_append_cons (hx : a ∉ x) (hy : a ∉ y) (h : x ++ a :: z = y ++ a :: w) :
    x = y ∧ z = w := by
  rcases List.append_eq_append_iff.mp h with ⟨c, rfl, hc⟩ | ⟨c, rfl, hc⟩
  · cases c <;> simp_all
  · cases c <;> simp_all

theorem eq_of_append_cons_right (hz : a ∉ z) (hw : a ∉ w) (h : x ++ a :: z = y ++ a :: w) :
    x = y ∧ z = w := by
  have hreverse : z.reverse ++ a :: x.reverse = w.reverse ++ a :: y.reverse := by
    simpa using congrArg List.reverse h
  obtain ⟨hzw, hxy⟩ := eq_of_append_cons (by simpa using hz) (by simpa using hw) hreverse
  exact ⟨List.reverse_injective hxy, List.reverse_injective hzw⟩

end Split

namespace Prompts

variable {p : Prompts} {c d : PromptContext} {cut : Cut Slot}

theorem toList_userMessage (p : Prompts) (c : PromptContext) (nonce : Nat) :
    (p.userMessage c nonce).toList =
      Template.fillChars (Slot.naming.pairs (Slot.text c nonce)) p.userTemplate.toList := by
  have hinputs : c.json.text.toList = Slot.text c nonce .inputs := Json.toList_text _
  have hnonce : (String.ofList (Decimal.digits nonce)).toList = Slot.text c nonce .nonce :=
    String.toList_ofList
  have hpairs : (slots c nonce).map (fun s => (s.1.toList, s.2.toList)) =
      Slot.naming.pairs (Slot.text c nonce) := by
    change [(Slot.name .inputs, c.json.text.toList),
      (Slot.name .instructions, c.instructions.toList),
      (Slot.name .nonce, (String.ofList (Decimal.digits nonce)).toList)] = _
    rw [hinputs, hnonce]
    rfl
  rw [userMessage, Template.fill, hpairs, String.toList_ofList]

theorem toList_userMessage_of_cut (h : Slot.naming.IsCut p.userTemplate.toList cut)
    (c : PromptContext) (nonce : Nat) :
    (p.userMessage c nonce).toList = cut.fill (Slot.text c nonce) := by
  rw [toList_userMessage, h.fillChars_eq]

theorem userMessage_congr (h : Slot.naming.IsCut p.userTemplate.toList cut) {k : Nat}
    (htext : ∀ part ∈ cut.parts, Slot.text c k part.2 = Slot.text d k part.2) :
    p.userMessage c k = p.userMessage d k := by
  rw [← String.toList_inj, toList_userMessage_of_cut h, toList_userMessage_of_cut h,
    Cut.fill_congr htext]

theorem userMessage_of_unmarked
    (h : ¬ Slot.naming.mark .instructions <:+: p.userTemplate.toList) (c : PromptContext)
    (instructions : String) (nonce : Nat) :
    p.userMessage { c with instructions := instructions } nonce = p.userMessage c nonce := by
  obtain ⟨cut, hcut⟩ := Slot.naming.exists_isCut p.userTemplate.toList
  refine userMessage_congr hcut fun part hpart => ?_
  cases hslot : part.2 with
  | inputs => rfl
  | instructions => exact absurd (hslot ▸ hcut.mark_infix hpart) h
  | nonce => rfl

theorem userMessage_fills_marks (p : Prompts) :
    ∃ cut : Cut Slot,
      (∀ other, Slot.naming.IsCut p.userTemplate.toList other ↔ other = cut) ∧
      (∀ before slot after,
        p.userTemplate.toList = before ++ (Slot.naming.mark slot ++ after) ↔
          ∃ front literal back, cut.parts = front ++ (literal, slot) :: back ∧
            before = (Cut.mk front literal).fill Slot.naming.mark ∧
            after = (Cut.mk back cut.last).fill Slot.naming.mark) ∧
      (∀ context nonce,
        (p.userMessage context nonce).toList = cut.fill (Slot.text context nonce)) ∧
      (¬ Slot.naming.mark .instructions <:+: p.userTemplate.toList →
        ∀ (context : PromptContext) instructions nonce,
          p.userMessage { context with instructions := instructions } nonce =
            p.userMessage context nonce) := by
  obtain ⟨cut, hcut⟩ := Slot.naming.exists_isCut p.userTemplate.toList
  refine ⟨cut, fun other => ⟨fun h => h.unique hcut, ?_⟩, ?_, toList_userMessage_of_cut hcut, ?_⟩
  · rintro rfl
    exact hcut
  · exact fun _ slot _ => hcut.mark_iff slot
  · exact fun h context instructions nonce => userMessage_of_unmarked h context instructions nonce

def defaultCut : Cut Slot where
  parts :=
    [("Get me a question from the inputs provided:\n".toList, .inputs), (['\n'], .instructions),
      ("\nQuestion Number: ".toList, .nonce)]
  last := []

theorem isCut_default : Slot.naming.IsCut default.userTemplate.toList defaultCut := by
  refine ⟨rfl, ?_, Template.Naming.isLiteral_nil⟩
  have hparts : ∀ part ∈ defaultCut.parts, '{' ∉ part.1 := by decide
  exact fun part hpart => Template.Naming.isLiteral_of_not_mem (hparts part hpart)

theorem toList_userMessage_default (c : PromptContext) (nonce : Nat) :
    (default.userMessage c nonce).toList =
      "Get me a question from the inputs provided:\n".toList ++
        ((Slot.inputsJson c).chars ++ '\n' ::
          (c.instructions.toList ++ "\nQuestion Number:".toList ++
            ' ' :: Decimal.digits nonce)) := by
  rw [toList_userMessage_of_cut isCut_default]
  simp [defaultCut, Cut.fill, Slot.text]

theorem userMessage_default_eq_iff (c d : PromptContext) (m n : Nat) :
    default.userMessage c m = default.userMessage d n ↔
      c.category = d.category ∧ c.difficulty = d.difficulty ∧ c.topic = d.topic ∧
        c.instructions = d.instructions ∧ m = n := by
  constructor
  · intro h
    rw [← String.toList_inj, toList_userMessage_default, toList_userMessage_default,
      List.append_cancel_left_eq] at h
    -- The inputs end at the first line end, the instructions at the last blank.
    obtain ⟨hinputs, hrest⟩ :=
      eq_of_append_cons (Slot.newline_not_mem_inputs c) (Slot.newline_not_mem_inputs d) h
    obtain ⟨hinstructions, hdigits⟩ :=
      eq_of_append_cons_right (blank_not_mem_digits m) (blank_not_mem_digits n) hrest
    obtain ⟨hcategory, hdifficulty, htopic⟩ := Slot.eq_of_inputs_eq hinputs
    have hnumber := congrArg Decimal.value hdigits
    rw [Decimal.value_digits, Decimal.value_digits] at hnumber
    exact ⟨hcategory, hdifficulty, htopic,
      String.toList_inj.mp (List.append_cancel_right hinstructions), hnumber⟩
  · rintro ⟨hcategory, hdifficulty, htopic, hinstructions, rfl⟩
    obtain rfl : c = d := by
      cases c
      cases d
      simp_all
    rfl

end Prompts

end QuizService
