import Mathlib.Data.List.Basic
import QuizService.Text.Template

/-!
Filling a template by its cut. Main statements: a template is cut in one way, every mark in it is
a slot of the cut, and filling puts a text into each slot and leaves the literals as they are.
-/

namespace QuizService.Template

section Slots

variable {pairs : List (List Char × List Char)} {cs name rest v : List Char}

theorem closing?_append (h : '}' ∉ name) (rest : List Char) :
    closing? (name ++ '}' :: rest) = some (name, rest) := by
  induction name with
  | nil => simp [closing?]
  | cons c name ih =>
    obtain ⟨hc, hname⟩ := List.ne_and_not_mem_of_not_mem_cons h
    simp [closing?, hc.symm, ih hname]

theorem of_closing? (h : closing? cs = some (name, rest)) :
    '}' ∉ name ∧ cs = name ++ '}' :: rest := by
  induction cs generalizing name with
  | nil => simp [closing?] at h
  | cons c cs ih =>
    simp only [closing?] at h
    split at h
    · rename_i hc
      obtain ⟨rfl, rfl⟩ := Prod.mk.inj (Option.some.inj h)
      exact ⟨List.not_mem_nil, by rw [hc, List.nil_append]⟩
    · rename_i hc
      obtain ⟨⟨n, r⟩, hp, he⟩ := Option.map_eq_some_iff.mp h
      obtain ⟨rfl, rfl⟩ := Prod.mk.inj he
      obtain ⟨hn, rfl⟩ := ih hp
      exact ⟨List.not_mem_cons_of_ne_of_not_mem (fun heq => hc heq.symm) hn, rfl⟩

theorem slot?_eq_some_iff :
    slot? pairs cs = some (v, rest) ↔
      ∃ name, '}' ∉ name ∧ cs = name ++ '}' :: rest ∧ lookup pairs name = some v := by
  constructor
  · intro h
    simp only [slot?] at h
    split at h
    · rename_i name r hc
      obtain ⟨w, hv, he⟩ := Option.map_eq_some_iff.mp h
      obtain ⟨rfl, rfl⟩ := Prod.mk.inj he
      obtain ⟨hn, rfl⟩ := of_closing? hc
      exact ⟨name, hn, rfl, hv⟩
    · contradiction
  · rintro ⟨name, hn, rfl, hv⟩
    simp [slot?, closing?_append hn, hv]

theorem fillChars_nil : fillChars pairs [] = [] := by
  rw [fillChars]

theorem fillChars_slot (h : slot? pairs cs = some (v, rest)) :
    fillChars pairs ('{' :: cs) = v ++ fillChars pairs rest := by
  rw [fillChars, if_pos rfl]
  split
  · rename_i heq
    rw [h] at heq
    obtain ⟨rfl, rfl⟩ := Prod.mk.inj (Option.some.inj heq)
    rfl
  · rename_i heq
    rw [h] at heq
    contradiction

theorem fillChars_copy {c : Char} (h : c = '{' → slot? pairs cs = none) :
    fillChars pairs (c :: cs) = c :: fillChars pairs cs := by
  rw [fillChars]
  by_cases hc : c = '{'
  · rw [if_pos hc]
    split
    · rename_i heq
      rw [h hc] at heq
      contradiction
    · rw [hc]
  · rw [if_neg hc]

end Slots

variable {σ : Type} {n : Naming σ} {text : σ → List Char}
  {template before after cs l m rest tail : List Char}

namespace Naming

theorem lookup_map (slots : List σ) (s : σ) (h : s ∈ slots) :
    lookup (slots.map fun s => (n.name s, text s)) (n.name s) = some (text s) := by
  induction slots with
  | nil => contradiction
  | cons t slots ih =>
    by_cases ht : n.name t = n.name s
    · simp [lookup, n.injective t s ht]
    · have hs : s ∈ slots := (List.mem_cons.mp h).resolve_left fun heq => ht (by rw [heq])
      simp [lookup, ht, ih hs]

theorem lookup_pairs (s : σ) : lookup (n.pairs text) (n.name s) = some (text s) :=
  lookup_map n.slots s (n.complete s)

theorem exists_name_of_lookup {slots : List σ} {k v : List Char}
    (h : lookup (slots.map fun s => (n.name s, text s)) k = some v) : ∃ s, n.name s = k := by
  induction slots with
  | nil => contradiction
  | cons t slots ih =>
    by_cases ht : n.name t = k
    · exact ⟨t, ht⟩
    · simp only [List.map_cons, lookup, if_neg ht] at h
      exact ih h

theorem mark_append (s : σ) (rest : List Char) :
    n.mark s ++ rest = '{' :: (n.name s ++ '}' :: rest) := by
  simp [mark]

theorem fillChars_mark (s : σ) (rest : List Char) :
    fillChars (n.pairs text) (n.mark s ++ rest) = text s ++ fillChars (n.pairs text) rest := by
  rw [mark_append]
  exact fillChars_slot (slot?_eq_some_iff.mpr ⟨n.name s, (n.unbraced s).2, rfl, lookup_pairs s⟩)

theorem fillChars_cons {c : Char} (h : ∀ s, ¬ n.mark s <+: c :: cs) :
    fillChars (n.pairs text) (c :: cs) = c :: fillChars (n.pairs text) cs := by
  apply fillChars_copy
  rintro rfl
  cases hslot : slot? (n.pairs text) cs with
  | none => rfl
  | some p =>
    obtain ⟨v, rest⟩ := p
    obtain ⟨k, -, rfl, hv⟩ := slot?_eq_some_iff.mp hslot
    obtain ⟨s, rfl⟩ := exists_name_of_lookup hv
    exact absurd ⟨rest, mark_append s rest⟩ (h s)

theorem mark_inj {s t : σ} (h : n.mark s ++ rest = n.mark t ++ tail) : s = t ∧ rest = tail := by
  rw [mark_append, mark_append, List.cons.injEq] at h
  have hclosing := closing?_append (n.unbraced s).2 rest
  rw [h.2, closing?_append (n.unbraced t).2] at hclosing
  obtain ⟨hname, hrest⟩ := Prod.mk.inj (Option.some.inj hclosing)
  exact ⟨n.injective s t hname.symm, hrest.symm⟩

def Opens (n : Naming σ) (rest : List Char) : Prop :=
  rest = [] ∨ ∃ s, n.mark s <+: rest

theorem Opens.eq_of_head {c : Char} {cs : List Char} (h : n.Opens (c :: cs)) : c = '{' := by
  rcases h with h | ⟨s, hs⟩
  · contradiction
  · exact (List.cons_prefix_cons.mp hs).1.symm

theorem opens_mark (s : σ) (rest : List Char) : n.Opens (n.mark s ++ rest) :=
  .inr ⟨s, List.prefix_append _ _⟩

theorem isLiteral_nil : n.IsLiteral [] :=
  fun _ h => nomatch List.infix_nil.mp h

theorem isLiteral_of_not_mem (h : '{' ∉ l) : n.IsLiteral l :=
  fun _ hs => h (hs.subset List.mem_cons_self)

theorem isLiteral_cons {c : Char} :
    n.IsLiteral (c :: cs) ↔ (∀ s, ¬ n.mark s <+: c :: cs) ∧ n.IsLiteral cs := by
  simp only [IsLiteral, List.infix_cons_iff, not_or, forall_and]

theorem IsLiteral.of_append (h : n.IsLiteral (l ++ m)) : n.IsLiteral m :=
  fun s hs => h s (hs.trans (List.suffix_append l m).isInfix)

/-- A mark that starts inside a literal would have to go on into the next one, and no mark holds
the brace that another begins with. -/
theorem IsLiteral.not_mark_prefix {c : Char} (h : n.IsLiteral (c :: l)) (hr : n.Opens rest)
    (s : σ) : ¬ n.mark s <+: c :: (l ++ rest) := by
  rintro ⟨tail, heq⟩
  rw [← List.cons_append] at heq
  rcases List.append_eq_append_iff.mp heq with ⟨more, hl, -⟩ | ⟨excess, hmark, hrest⟩
  · exact h s ⟨[], more, by rw [List.nil_append, hl]⟩
  · cases excess with
    | nil =>
      rw [List.append_nil] at hmark
      exact h s (hmark ▸ List.infix_rfl)
    | cons d excess =>
      rw [hrest, List.cons_append] at hr
      have hd : d ∈ n.name s ++ ['}'] := by
        have htail : n.name s ++ ['}'] = l ++ d :: excess := (List.cons.inj hmark).2
        rw [htail]
        exact List.mem_append_right l List.mem_cons_self
      rw [hr.eq_of_head, List.mem_append] at hd
      exact hd.elim (n.unbraced s).1 (by decide)

theorem IsLiteral.eq_nil (h : n.IsLiteral m) (hr : n.Opens rest) (htail : n.Opens tail)
    (heq : rest = m ++ tail) : m = [] := by
  cases m with
  | nil => rfl
  | cons c m =>
    rcases hr with hnil | ⟨s, hs⟩
    · rw [hnil] at heq
      contradiction
    · rw [heq, List.cons_append] at hs
      exact absurd hs (h.not_mark_prefix htail s)

theorem IsLiteral.eq_of_append (hl : n.IsLiteral l) (hm : n.IsLiteral m) (hr : n.Opens rest)
    (htail : n.Opens tail) (h : l ++ rest = m ++ tail) : l = m ∧ rest = tail := by
  rcases List.append_eq_append_iff.mp h with ⟨more, hmore, hrest⟩ | ⟨more, hmore, hrest⟩
  · have hnil : more = [] := (hmore ▸ hm).of_append.eq_nil hr htail hrest
    simp_all
  · have hnil : more = [] := (hmore ▸ hl).of_append.eq_nil htail hr hrest
    simp_all

end Naming

namespace Cut

variable {c d : Cut σ} {parts : List (List Char × σ)} {last : List Char}

theorem fill_nil : (⟨[], last⟩ : Cut σ).fill text = last :=
  rfl

theorem fill_cons (l : List Char) (s : σ) :
    (Cut.mk ((l, s) :: parts) last).fill text = l ++ (text s ++ (Cut.mk parts last).fill text) := by
  simp [fill]

theorem fill_append (front back : List (List Char × σ)) (l : List Char) (s : σ) :
    (Cut.mk (front ++ (l, s) :: back) last).fill text =
      (Cut.mk front l).fill text ++ (text s ++ (Cut.mk back last).fill text) := by
  simp [fill]

theorem fill_congr {other : σ → List Char} (h : ∀ p ∈ c.parts, text p.2 = other p.2) :
    c.fill text = c.fill other := by
  have hparts : c.parts.flatMap (fun p => p.1 ++ text p.2) =
      c.parts.flatMap fun p => p.1 ++ other p.2 :=
    List.flatMap_congr fun p hp => by rw [h p hp]
  rw [fill, fill, hparts]

end Cut

namespace Naming

variable {c d : Cut σ}

theorem fillChars_literal (hl : n.IsLiteral l) (hr : n.Opens rest) :
    fillChars (n.pairs text) (l ++ rest) = l ++ fillChars (n.pairs text) rest := by
  induction l with
  | nil => rfl
  | cons c l ih =>
    obtain ⟨-, htail⟩ := isLiteral_cons.mp hl
    rw [List.cons_append, fillChars_cons (hl.not_mark_prefix hr), ih htail, List.cons_append]

theorem fillChars_fill {parts : List (List Char × σ)} {last : List Char}
    (hparts : ∀ p ∈ parts, n.IsLiteral p.1) (hlast : n.IsLiteral last) :
    fillChars (n.pairs text) ((Cut.mk parts last).fill n.mark) = (Cut.mk parts last).fill text := by
  induction parts with
  | nil =>
    have h : fillChars (n.pairs text) (last ++ []) = last ++ fillChars (n.pairs text) [] :=
      fillChars_literal hlast (.inl rfl)
    rwa [fillChars_nil, List.append_nil] at h
  | cons p parts ih =>
    obtain ⟨l, s⟩ := p
    obtain ⟨hl, hparts⟩ := List.forall_mem_cons.mp hparts
    rw [Cut.fill_cons, fillChars_literal hl (opens_mark s _), fillChars_mark, ih hparts,
      Cut.fill_cons]

theorem IsCut.fillChars_eq (h : n.IsCut template c) :
    fillChars (n.pairs text) template = c.fill text := by
  rw [← h.marked]
  exact fillChars_fill h.parts h.last

theorem IsCut.nil : n.IsCut [] ⟨[], []⟩ :=
  ⟨rfl, nofun, isLiteral_nil⟩

theorem IsCut.join (h : n.IsCut before c) (s : σ) (h' : n.IsCut after d) :
    n.IsCut (before ++ (n.mark s ++ after)) ⟨c.parts ++ (c.last, s) :: d.parts, d.last⟩ := by
  refine ⟨?_, ?_, h'.last⟩
  · rw [Cut.fill_append, h.marked, h'.marked]
  · exact List.forall_mem_append.mpr ⟨h.parts, List.forall_mem_cons.mpr ⟨h.last, h'.parts⟩⟩

theorem IsCut.cons {ch : Char} (h : n.IsCut cs c) (hmark : ∀ s, ¬ n.mark s <+: ch :: cs) :
    ∃ d, n.IsCut (ch :: cs) d := by
  -- A mark at the head of the first literal would be one at the head of the whole.
  have hliteral {l rest : List Char} (hl : n.IsLiteral l) (hcs : l ++ rest = cs) :
      n.IsLiteral (ch :: l) :=
    isLiteral_cons.mpr ⟨fun s hs => hmark s (hcs ▸ hs.trans (List.prefix_append _ _)), hl⟩
  obtain ⟨parts, last⟩ := c
  have hmarked := h.marked
  cases parts with
  | nil =>
    have hcs : last ++ [] = cs := by rwa [List.append_nil]
    exact ⟨⟨[], ch :: last⟩, congrArg (ch :: ·) hmarked, nofun, hliteral h.last hcs⟩
  | cons p parts =>
    obtain ⟨l, s⟩ := p
    obtain ⟨hl, hparts⟩ := List.forall_mem_cons.mp h.parts
    rw [Cut.fill_cons] at hmarked
    refine ⟨⟨(ch :: l, s) :: parts, last⟩, ?_, ?_, h.last⟩
    · rw [Cut.fill_cons, List.cons_append, hmarked]
    · exact List.forall_mem_cons.mpr ⟨hliteral hl hmarked, hparts⟩

theorem exists_isCut (n : Naming σ) (template : List Char) : ∃ c, n.IsCut template c := by
  induction hlength : template.length using Nat.strongRecOn generalizing template with
  | ind k ih =>
    cases template with
    | nil => exact ⟨_, .nil⟩
    | cons ch cs =>
      by_cases hmark : ∃ s, n.mark s <+: ch :: cs
      · obtain ⟨s, rest, hrest⟩ := hmark
        have hshorter : rest.length < k := by
          rw [← hlength, ← hrest]
          simp [mark]
          omega
        obtain ⟨d, hd⟩ := ih rest.length hshorter rest rfl
        rw [← hrest]
        exact ⟨_, IsCut.nil.join s hd⟩
      · have hshorter : cs.length < k := by
          rw [← hlength]
          exact Nat.lt_succ_self _
        obtain ⟨d, hd⟩ := ih cs.length hshorter cs rfl
        exact hd.cons (not_exists.mp hmark)

theorem eq_of_fill_eq {parts others : List (List Char × σ)} {last ending : List Char}
    (hparts : ∀ p ∈ parts, n.IsLiteral p.1) (hlast : n.IsLiteral last)
    (hothers : ∀ p ∈ others, n.IsLiteral p.1) (hend : n.IsLiteral ending)
    (h : (Cut.mk parts last).fill n.mark = (Cut.mk others ending).fill n.mark) :
    parts = others ∧ last = ending := by
  induction parts generalizing others with
  | nil =>
    cases others with
    | nil => exact ⟨rfl, h⟩
    | cons p others =>
      obtain ⟨l, s⟩ := p
      rw [Cut.fill_nil, Cut.fill_cons, ← List.append_nil last] at h
      have hhead := hlast.eq_of_append (hothers _ List.mem_cons_self) (.inl rfl) (opens_mark s _) h
      exact absurd hhead.2 (by simp [mark])
  | cons p parts ih =>
    obtain ⟨l, s⟩ := p
    obtain ⟨hl, hparts⟩ := List.forall_mem_cons.mp hparts
    cases others with
    | nil =>
      rw [Cut.fill_nil, Cut.fill_cons, ← List.append_nil ending] at h
      have hhead := hl.eq_of_append hend (opens_mark s _) (.inl rfl) h
      exact absurd hhead.2 (by simp [mark])
    | cons q others =>
      obtain ⟨m, t⟩ := q
      obtain ⟨hm, hmore⟩ := List.forall_mem_cons.mp hothers
      rw [Cut.fill_cons, Cut.fill_cons] at h
      obtain ⟨rfl, hrest⟩ := hl.eq_of_append hm (opens_mark s _) (opens_mark t _) h
      obtain ⟨rfl, htail⟩ := mark_inj hrest
      obtain ⟨rfl, rfl⟩ := ih hparts hmore htail
      exact ⟨rfl, rfl⟩

theorem IsCut.unique (h : n.IsCut template c) (h' : n.IsCut template d) : c = d := by
  obtain ⟨parts, last⟩ := c
  obtain ⟨others, ending⟩ := d
  obtain ⟨rfl, rfl⟩ := eq_of_fill_eq h.parts h.last h'.parts h'.last (h.marked.trans h'.marked.symm)
  rfl

theorem IsCut.mark_iff (h : n.IsCut template c) (s : σ) :
    template = before ++ (n.mark s ++ after) ↔
      ∃ front l back, c.parts = front ++ (l, s) :: back ∧
        before = (Cut.mk front l).fill n.mark ∧ after = (Cut.mk back c.last).fill n.mark := by
  constructor
  · rintro rfl
    obtain ⟨d, hd⟩ := n.exists_isCut before
    obtain ⟨e, he⟩ := n.exists_isCut after
    rw [h.unique (hd.join s he)]
    exact ⟨d.parts, d.last, e.parts, rfl, hd.marked.symm, he.marked.symm⟩
  · rintro ⟨front, l, back, hparts, rfl, rfl⟩
    obtain ⟨parts, last⟩ := c
    obtain rfl : parts = _ := hparts
    rw [← h.marked, Cut.fill_append]

theorem IsCut.mark_infix (h : n.IsCut template c) {p : List Char × σ} (hp : p ∈ c.parts) :
    n.mark p.2 <:+: template := by
  obtain ⟨front, back, hparts⟩ := List.append_of_mem hp
  rw [(h.mark_iff p.2).mpr ⟨front, p.1, back, hparts, rfl, rfl⟩]
  exact ⟨_, _, List.append_assoc _ _ _⟩

end Naming

end QuizService.Template
