import QuizService.Proofs.Entries
import QuizService.Proofs.Text.Template
import QuizService.Text.Template

/-!
Filling a template and substituting place by place. Main statement: they give the same text, in
which a name with a closing brace plays no part, nor does the order of distinct names, and where
every name stands for itself in braces the template is kept.
-/

namespace QuizService.Template

variable {pairs others : List (List Char × List Char)} {cs name rest k v : List Char}

theorem isPrefix_closed_iff (hname : '}' ∉ name) :
    '}' ∉ k ∧ k ++ ['}'] <+: name ++ '}' :: rest ↔ k = name := by
  constructor
  · rintro ⟨hk, tail, h⟩
    have hclosing := closing?_append hname rest
    rw [← h, List.append_assoc, List.singleton_append, closing?_append hk] at hclosing
    exact (Prod.mk.inj (Option.some.inj hclosing)).1
  · rintro rfl
    exact ⟨hname, rest, by simp⟩

theorem named?_closed (hname : '}' ∉ name) (pairs : List (List Char × List Char)) :
    named? (name ++ '}' :: rest) pairs = (lookup pairs name).map fun v => (v, rest) := by
  induction pairs with
  | nil => rfl
  | cons p pairs ih =>
    obtain ⟨k, v⟩ := p
    simp only [named?, lookup, List.isPrefixOf_iff_prefix, isPrefix_closed_iff hname]
    by_cases hk : k = name
    · simp [hk, List.drop_append]
    · rw [if_neg hk, if_neg hk, ih]

theorem closing?_eq_none_iff : closing? cs = none ↔ '}' ∉ cs := by
  induction cs with
  | nil => simp [closing?]
  | cons c cs ih =>
    by_cases hc : c = '}'
    · simp [closing?, hc]
    · rw [closing?, if_neg hc, Option.map_eq_none_iff, ih, List.mem_cons, not_or]
      exact (and_iff_right fun h => hc h.symm).symm

theorem named?_unclosed (h : '}' ∉ cs) (pairs : List (List Char × List Char)) :
    named? cs pairs = none := by
  induction pairs with
  | nil => rfl
  | cons p pairs ih =>
    obtain ⟨k, v⟩ := p
    have hk : ¬ k ++ ['}'] <+: cs := fun hstart => h (hstart.subset (by simp))
    simp only [named?, List.isPrefixOf_iff_prefix, if_neg fun hboth => hk (And.right hboth), ih]

/-- A name that stands in braces ends at the first closing brace, so both readings find the same
pair. -/
theorem named?_eq_slot? (cs : List Char) (pairs : List (List Char × List Char)) :
    named? cs pairs = slot? pairs cs := by
  unfold slot?
  cases h : closing? cs with
  | none => exact named?_unclosed (closing?_eq_none_iff.mp h) pairs
  | some p =>
    obtain ⟨name, rest⟩ := p
    obtain ⟨hname, rfl⟩ := of_closing? h
    exact named?_closed hname pairs

theorem fillChars_eq_substituteChars (pairs : List (List Char × List Char)) (cs : List Char) :
    fillChars pairs cs = substituteChars pairs cs := by
  fun_induction substituteChars pairs cs with
  | case1 => rw [fillChars]
  | case2 cs v rest h _ ih => rw [fillChars_slot ((named?_eq_slot? cs pairs).symm.trans h), ih]
  | case3 cs h ih => rw [fillChars_copy fun _ => (named?_eq_slot? cs pairs).symm.trans h, ih]
  | case4 c cs hc ih => rw [fillChars_copy fun h => absurd h hc, ih]

theorem slot?_congr (h : ∀ name, '}' ∉ name → lookup pairs name = lookup others name)
    (cs : List Char) : slot? pairs cs = slot? others cs := by
  apply Option.ext
  rintro ⟨v, rest⟩
  rw [slot?_eq_some_iff, slot?_eq_some_iff]
  constructor
  · rintro ⟨name, hname, hcs, hv⟩
    exact ⟨name, hname, hcs, (h name hname).symm.trans hv⟩
  · rintro ⟨name, hname, hcs, hv⟩
    exact ⟨name, hname, hcs, (h name hname).trans hv⟩

theorem fillChars_congr (h : ∀ name, '}' ∉ name → lookup pairs name = lookup others name)
    (cs : List Char) : fillChars pairs cs = fillChars others cs := by
  fun_induction fillChars pairs cs with
  | case1 => rw [fillChars]
  | case2 cs v rest hslot _ ih => rw [fillChars_slot ((slot?_congr h cs).symm.trans hslot), ih]
  | case3 cs hslot ih => rw [fillChars_copy fun _ => (slot?_congr h cs).symm.trans hslot, ih]
  | case4 c cs hc ih => rw [fillChars_copy fun h => absurd h hc, ih]

theorem fillChars_self (h : ∀ name v, lookup pairs name = some v → v = '{' :: (name ++ ['}']))
    (cs : List Char) : fillChars pairs cs = cs := by
  fun_induction fillChars pairs cs with
  | case1 => rfl
  | case2 cs v rest hslot _ ih =>
    obtain ⟨name, -, rfl, hv⟩ := slot?_eq_some_iff.mp hslot
    rw [ih, h name v hv]
    simp
  | case3 cs _ ih => rw [ih]
  | case4 c cs _ ih => rw [ih]

section Texts

variable {given : Entries String}

theorem lookup_toList (given : Entries String) (name : String) :
    lookup (given.map fun p => (p.1.toList, p.2.toList)) name.toList =
      (given.get? name).map String.toList := by
  induction given with
  | nil => rfl
  | cons p given ih =>
    obtain ⟨k, v⟩ := p
    simp only [List.map_cons, lookup, Entries.get?, String.toList_inj]
    by_cases hk : k = name
    · simp [hk]
    · rw [if_neg hk, if_neg hk, ih]

theorem fill_congr {other : Entries String}
    (h : ∀ name : String, '}' ∉ name.toList → given.get? name = other.get? name)
    (template : String) : fill template given = fill template other := by
  refine congrArg String.ofList (fillChars_congr (fun name hname => ?_) template.toList)
  have hchars : (String.ofList name).toList = name := String.toList_ofList
  rw [← hchars, lookup_toList, lookup_toList, h _ (by rwa [hchars])]

theorem fill_of_closing (front back : Entries String) {k : String} (h : '}' ∈ k.toList)
    (v template : String) :
    fill template (front ++ (k, v) :: back) = fill template (front ++ back) := by
  apply fill_congr
  intro name hname
  have hne : name ≠ k := by
    rintro rfl
    exact hname h
  rw [Entries.get?_append, Entries.get?_append, Entries.get?_cons, if_neg hne]

theorem fill_self (h : ∀ p ∈ given, p.2 = "\x7b" ++ p.1 ++ "\x7d") (template : String) :
    fill template given = template := by
  have hchars : fillChars (given.map fun p => (p.1.toList, p.2.toList)) template.toList =
      template.toList := by
    apply fillChars_self
    intro name v hv
    have hname : (String.ofList name).toList = name := String.toList_ofList
    rw [← hname, lookup_toList] at hv
    obtain ⟨text, htext, rfl⟩ := Option.map_eq_some_iff.mp hv
    have hself : text = "\x7b" ++ String.ofList name ++ "\x7d" :=
      h _ (Entries.mem_of_get? htext)
    simp [hself]
  rw [fill, hchars, String.ofList_toList]

theorem fill_eq_substitute (template : String) (given : Entries String) :
    fill template given = substitute template given ∧
    (∀ front k v back, given = front ++ (k, v) :: back → '}' ∈ k.toList →
      fill template given = fill template (front ++ back)) ∧
    (∀ other : Entries String, given.Perm other → given.names.Nodup →
      fill template given = fill template other) ∧
    ((∀ p ∈ given, p.2 = "\x7b" ++ p.1 ++ "\x7d") → fill template given = template) := by
  refine ⟨congrArg String.ofList (fillChars_eq_substituteChars _ _), ?_, ?_, ?_⟩
  · rintro front k v back rfl hk
    exact fill_of_closing front back hk v template
  · intro other hperm hn
    exact fill_congr (fun name _ => Entries.get?_perm hperm hn name) template
  · exact fun h => fill_self h template

theorem fill_eq_substitute_braces :
    let template := "\x7b\x7bb\x7d \x7ba\x7d\x7d \x7b"
    let given : Entries String := [("a\x7d", "1"), ("b", "\x7ba\x7d"), ("\x7bc", "2")]
    substitute template given = "\x7b\x7ba\x7d \x7ba\x7d\x7d \x7b" ∧
      fill template given = substitute template given ∧
      fill template given = fill template [("b", "\x7ba\x7d"), ("\x7bc", "2")] ∧
      fill template given = fill template given.reverse ∧
      fill template [("b", "\x7bb\x7d")] = template := by
  intro template given
  obtain ⟨hsubstitute, hclosing, hperm, -⟩ := fill_eq_substitute template given
  obtain ⟨-, -, -, hself⟩ := fill_eq_substitute template [("b", "\x7bb\x7d")]
  refine ⟨by decide +kernel, hsubstitute, hclosing [] "a\x7d" "1" _ rfl (by decide), ?_, ?_⟩
  · exact hperm given.reverse (List.reverse_perm given).symm (by decide)
  · exact hself (List.forall_mem_singleton.mpr rfl)

end Texts

end QuizService.Template
