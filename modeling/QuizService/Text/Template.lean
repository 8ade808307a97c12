/-!
Templates: a name in braces stands for a text. The template is read once from left to right, so a
text that is put in is never read again; braces around anything else stay as they are.
-/

namespace QuizService.Template

def lookup (pairs : List (List Char × List Char)) (name : List Char) : Option (List Char) :=
  match pairs with
  | [] => none
  | (k, v) :: rest => if k = name then some v else lookup rest name

def closing? : List Char → Option (List Char × List Char)
  | [] => none
  | c :: cs =>
    if c = '}' then some ([], cs) else (closing? cs).map fun p => (c :: p.1, p.2)

def slot? (pairs : List (List Char × List Char)) (cs : List Char) :
    Option (List Char × List Char) :=
  match closing? cs with
  | some (name, rest) => (lookup pairs name).map fun v => (v, rest)
  | none => none

theorem closing?_length {cs name rest : List Char} (h : closing? cs = some (name, rest)) :
    rest.length < cs.length := by
  induction cs generalizing name with
  | nil => simp [closing?] at h
  | cons c cs ih =>
    simp only [closing?] at h
    split at h
    · obtain ⟨-, rfl⟩ := Prod.mk.inj (Option.some.inj h)
      simp
    · obtain ⟨⟨n, r⟩, hp, he⟩ := Option.map_eq_some_iff.1 h
      obtain ⟨-, rfl⟩ := Prod.mk.inj he
      exact Nat.lt_succ_of_lt (ih hp)

theorem slot?_length {pairs : List (List Char × List Char)} {cs v rest : List Char}
    (h : slot? pairs cs = some (v, rest)) : rest.length < cs.length := by
  simp only [slot?] at h
  split at h
  · rename_i name r hc
    obtain ⟨x, -, he⟩ := Option.map_eq_some_iff.1 h
    obtain ⟨-, rfl⟩ := Prod.mk.inj he
    exact closing?_length hc
  · cases h

def fillChars (pairs : List (List Char × List Char)) : List Char → List Char
  | [] => []
  | c :: cs =>
    if c = '{' then
      match h : slot? pairs cs with
      | some (v, rest) =>
        have := slot?_length h
        v ++ fillChars pairs rest
      | none => '{' :: fillChars pairs cs
    else c :: fillChars pairs cs
termination_by cs => cs.length

def fill (template : String) (pairs : List (String × String)) : String :=
  String.ofList (fillChars (pairs.map fun p => (p.1.toList, p.2.toList)) template.toList)

def named? (cs : List Char) : List (List Char × List Char) → Option (List Char × List Char)
  | [] => none
  | (k, v) :: rest =>
    if '}' ∉ k ∧ (k ++ ['}']).isPrefixOf cs then some (v, cs.drop (k.length + 1))
    else named? cs rest

theorem named?_length {cs v rest : List Char} {pairs : List (List Char × List Char)}
    (h : named? cs pairs = some (v, rest)) : rest.length ≤ cs.length := by
  induction pairs with
  | nil => simp [named?] at h
  | cons p pairs ih =>
    simp only [named?] at h
    split at h
    · obtain ⟨-, rfl⟩ := Prod.mk.inj (Option.some.inj h)
      simp
    · exact ih h

def substituteChars (pairs : List (List Char × List Char)) : List Char → List Char
  | [] => []
  | c :: cs =>
    if c = '{' then
      match h : named? cs pairs with
      | some (v, rest) =>
        have := named?_length h
        v ++ substituteChars pairs rest
      | none => c :: substituteChars pairs cs
    else c :: substituteChars pairs cs
termination_by cs => cs.length

def substitute (template : String) (pairs : List (String × String)) : String :=
  String.ofList (substituteChars (pairs.map fun p => (p.1.toList, p.2.toList)) template.toList)

/-- The slots of a template with their names, which are free of braces and tell the slots apart. -/
structure Naming (σ : Type) where
  slots : List σ
  name : σ → List Char
  complete : ∀ s, s ∈ slots
  injective : ∀ s t, name s = name t → s = t
  unbraced : ∀ s, '{' ∉ name s ∧ '}' ∉ name s

namespace Naming

variable {σ : Type}

def mark (n : Naming σ) (s : σ) : List Char :=
  '{' :: (n.name s ++ ['}'])

def pairs (n : Naming σ) (text : σ → List Char) : List (List Char × List Char) :=
  n.slots.map fun s => (n.name s, text s)

def IsLiteral (n : Naming σ) (cs : List Char) : Prop :=
  ∀ s, ¬ n.mark s <:+: cs

end Naming

structure Cut (σ : Type) where
  parts : List (List Char × σ)
  last : List Char

variable {σ : Type}

def Cut.fill (c : Cut σ) (text : σ → List Char) : List Char :=
  c.parts.flatMap (fun p => p.1 ++ text p.2) ++ c.last

structure Naming.IsCut (n : Naming σ) (template : List Char) (c : Cut σ) : Prop where
  marked : c.fill n.mark = template
  parts : ∀ p ∈ c.parts, n.IsLiteral p.1
  last : n.IsLiteral c.last

end QuizService.Template
