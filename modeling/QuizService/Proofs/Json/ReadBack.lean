import QuizService.Proofs.Json.Literals
import QuizService.Proofs.Json.Numerals

/-!
The compact text of a value reads back as the tree of that value, whatever follows it. A value
without floating-point numbers is therefore told by its text.
-/

namespace QuizService.Json

/-- The digits of a floating-point number may read as another one, or as none. -/
def Numeral.reread? (n : Number) : Option Number :=
  (read? (numberChars n)).bind fun p => p.1.value?

mutual

def tree : Json → Tree
  | .null => .null
  | .bool b => .bool b
  | .number n => .number (Numeral.reread? n)
  | .string s => .string (some s)
  | .array items => .array (trees items)
  | .object members => .object (memberTrees members)

def trees : List Json → List Tree
  | [] => []
  | v :: vs => tree v :: trees vs

def memberTrees : List (String × Json) → List (Option String × Tree)
  | [] => []
  | (k, v) :: vs => (some k, tree v) :: memberTrees vs

end

@[elab_as_elim, induction_eliminator]
theorem induct {motive : Json → Prop}
    (null : motive .null)
    (bool : ∀ b, motive (.bool b))
    (number : ∀ n, motive (.number n))
    (string : ∀ s, motive (.string s))
    (array : ∀ items, (∀ x ∈ items, motive x) → motive (.array items))
    (object : ∀ members, (∀ m ∈ members, motive m.2) → motive (.object members))
    (v : Json) : motive v :=
  @Json.rec motive (fun items => ∀ x ∈ items, motive x) (fun ms => ∀ m ∈ ms, motive m.2)
    (fun m => motive m.2) null bool number string array object (by simp)
    (fun _ _ hx hxs => List.forall_mem_cons.mpr ⟨hx, hxs⟩) (by simp)
    (fun _ _ hm hms => List.forall_mem_cons.mpr ⟨hm, hms⟩) (fun _ _ hv => hv) v

inductive Exact : Json → Prop where
  | null : Exact .null
  | bool (b : Bool) : Exact (.bool b)
  | whole (n : Whole) : Exact (.number (.whole n))
  | string (s : String) : Exact (.string s)
  | array (items : List Json) : (∀ x ∈ items, Exact x) → Exact (.array items)
  | object (members : List (String × Json)) :
    (∀ m ∈ members, Exact m.2) → Exact (.object members)

attribute [simp] Exact.null Exact.bool Exact.whole Exact.string

@[simp]
theorem exact_array_iff {items : List Json} : (array items).Exact ↔ ∀ x ∈ items, x.Exact :=
  ⟨fun h => by cases h; assumption, .array items⟩

@[simp]
theorem exact_object_iff {members : List (String × Json)} :
    (object members).Exact ↔ ∀ m ∈ members, m.2.Exact :=
  ⟨fun h => by cases h; assumption, .object members⟩

theorem skipBlanks_cons {c : Char} (h : isBlank c = false) (cs : List Char) :
    skipBlanks (c :: cs) = c :: cs := by
  simp [skipBlanks, h]

theorem isBlank_numeral {c : Char} (h : c = '-' ∨ Numeral.isDigit c = true) :
    isBlank c = false ∧ c ≠ ']' := by
  have hne : ∀ d, (d = '-' ∨ Numeral.isDigit d = true → False) → c ≠ d := by
    rintro d hd rfl
    exact hd h
  simp only [isBlank, Bool.or_eq_false_iff, decide_eq_false_iff_not]
  exact ⟨⟨⟨⟨hne _ (by decide), hne _ (by decide)⟩, hne _ (by decide)⟩, hne _ (by decide)⟩,
    hne _ (by decide)⟩

theorem numberChars_head (n : Number) :
    ∃ c cs, numberChars n = c :: cs ∧ (c = '-' ∨ Numeral.isDigit c = true) := by
  obtain ⟨m, hm, hchars⟩ := Numeral.exists_numberChars n
  rw [hchars]
  exact Numeral.text_head hm

theorem read?_numberChars (n : Number) {rest : List Char} (hr : Numeral.Ends rest) :
    ∃ m : Numeral, Numeral.read? (numberChars n ++ rest) = some (m, rest) ∧
      m.value? = Numeral.reread? n := by
  obtain ⟨m, hm, hchars⟩ := Numeral.exists_numberChars n
  rw [Numeral.reread?, hchars, Numeral.read?_text_alone hm]
  exact ⟨m, Numeral.read?_text hm hr, rfl⟩

theorem reread?_whole (n : Whole) : Numeral.reread? (.whole n) = some (.whole n) := by
  have hread := Numeral.read?_text_alone (Numeral.valid_ofWhole n)
  rw [Numeral.text_ofWhole] at hread
  rw [Numeral.reread?, numberChars, hread]
  exact Numeral.value?_ofWhole n

theorem reread?_eq_whole_iff {n : Number} {w : Whole} :
    Numeral.reread? n = some (.whole w) ↔ n = .whole w := by
  cases n with
  | whole m => simp [reread?_whole]
  | double x => simp [Numeral.reread?, numberChars, Numeral.value?_render_ne_whole]
  | single x => simp [Numeral.reread?, numberChars, Numeral.value?_render_ne_whole]

theorem chars_head (v : Json) : ∃ c cs, v.chars = c :: cs ∧ isBlank c = false ∧ c ≠ ']' := by
  cases v with
  | null => exact ⟨_, _, rfl, by decide, by decide⟩
  | bool b => cases b <;> exact ⟨_, _, rfl, by decide, by decide⟩
  | number n =>
    obtain ⟨c, cs, hs, hc⟩ := numberChars_head n
    exact ⟨c, cs, hs, isBlank_numeral hc⟩
  | string s => exact ⟨_, _, rfl, by decide, by decide⟩
  | array items => cases items <;> exact ⟨_, _, rfl, by decide, by decide⟩
  | object members => cases members <;> exact ⟨_, _, rfl, by decide, by decide⟩

namespace Tree

variable {fuel : Nat} {c : Char} {cs more after rest : List Char} {t : Tree}

theorem read?_number (n : Number) (hr : Numeral.Ends rest) :
    read? (fuel + 1) (numberChars n ++ rest) = some (.number (Numeral.reread? n), rest) := by
  obtain ⟨c, cs, hs, hc⟩ := numberChars_head n
  obtain ⟨m, hread, hvalue⟩ := read?_numberChars n hr
  rw [hs, List.cons_append] at hread ⊢
  rw [read?, skipBlanks_cons (isBlank_numeral hc).1]
  split
  all_goals try
    rename_i heq
    obtain ⟨rfl, -⟩ := List.cons.inj heq
    exact absurd hc (by decide)
  simp [hread, hvalue]

theorem read?_string (s : String) :
    read? (fuel + 1) (stringChars s ++ rest) = some (.string (some s), rest) := by
  simp [stringChars, read?, skipBlanks_cons, isBlank, readString?_string]

theorem read?_array {ts : List Tree} (hb : isBlank c = false) (hc : c ≠ ']')
    (hitems : readItems? fuel (c :: cs) = some (ts, after)) :
    read? (fuel + 1) ('[' :: c :: cs) = some (.array ts, after) := by
  have hopen : skipBlanks ('[' :: c :: cs) = '[' :: c :: cs := skipBlanks_cons (by decide) _
  simp [read?, hopen, skipBlanks_cons hb, hc, hitems]

theorem readItems?_last (hread : read? fuel cs = some (t, ']' :: after)) :
    readItems? (fuel + 1) cs = some ([t], after) := by
  simp [readItems?, hread, skipBlanks_cons, isBlank]

theorem readItems?_next {ts : List Tree} (hread : read? fuel cs = some (t, ',' :: more))
    (hmore : readItems? fuel more = some (ts, after)) :
    readItems? (fuel + 1) cs = some (t :: ts, after) := by
  simp [readItems?, hread, hmore, skipBlanks_cons, isBlank]

theorem read?_object {ts : List (Option String × Tree)} (k : String)
    (hmembers : readMembers? fuel (stringChars k ++ cs) = some (ts, after)) :
    read? (fuel + 1) ('{' :: (stringChars k ++ cs)) = some (.object ts, after) := by
  simp only [stringChars, List.cons_append, List.append_assoc, List.nil_append] at hmembers ⊢
  simp [read?, skipBlanks_cons, isBlank, hmembers]

theorem readMembers?_last (k : String) (hread : read? fuel cs = some (t, '}' :: after)) :
    readMembers? (fuel + 1) (stringChars k ++ ':' :: cs) = some ([(some k, t)], after) := by
  simp [readMembers?, stringChars, readString?_string, readColon?, hread, skipBlanks_cons, isBlank]

theorem readMembers?_next {ts : List (Option String × Tree)} (k : String)
    (hread : read? fuel cs = some (t, ',' :: more))
    (hmore : readMembers? fuel more = some (ts, after)) :
    readMembers? (fuel + 1) (stringChars k ++ ':' :: cs) = some ((some k, t) :: ts, after) := by
  simp [readMembers?, stringChars, readString?_string, readColon?, hread, hmore, skipBlanks_cons,
    isBlank]

end Tree

def ReadsBack (v : Json) : Prop :=
  ∀ (fuel : Nat) (rest : List Char), 2 * v.chars.length ≤ fuel → Numeral.Ends rest →
    Tree.read? fuel (v.chars ++ rest) = some (v.tree, rest)

theorem ends_laterItems (xs : List Json) (rest : List Char) :
    Numeral.Ends (laterItems xs ++ rest) := by
  cases xs <;> exact ⟨by decide, by decide, by decide, by decide⟩

theorem ends_laterMembers (ms : List (String × Json)) (rest : List Char) :
    Numeral.Ends (laterMembers ms ++ rest) := by
  cases ms <;> exact ⟨by decide, by decide, by decide, by decide⟩

theorem readItems?_chars {x : Json} {xs : List Json} (hx : ReadsBack x)
    (hxs : ∀ y ∈ xs, ReadsBack y) {fuel : Nat} (rest : List Char)
    (hf : 2 * (x.chars ++ laterItems xs).length ≤ fuel) :
    Tree.readItems? fuel (x.chars ++ laterItems xs ++ rest) = some (trees (x :: xs), rest) := by
  simp only [List.length_append] at hf
  induction xs generalizing x fuel with
  | nil =>
    simp only [laterItems, List.length_cons] at hf
    obtain ⟨fuel, rfl⟩ : ∃ n, fuel = n + 1 := ⟨fuel - 1, by omega⟩
    rw [List.append_assoc]
    exact Tree.readItems?_last (hx fuel _ (by omega) (ends_laterItems [] rest))
  | cons y ys ih =>
    simp only [laterItems, List.length_append, List.length_cons] at hf
    obtain ⟨fuel, rfl⟩ : ∃ n, fuel = n + 1 := ⟨fuel - 1, by omega⟩
    obtain ⟨hy, hys⟩ := List.forall_mem_cons.mp hxs
    rw [List.append_assoc]
    exact Tree.readItems?_next (hx fuel _ (by omega) (ends_laterItems (y :: ys) rest))
      (ih hy hys (by omega))

theorem readMembers?_chars (k : String) {v : Json} {ms : List (String × Json)} (hv : ReadsBack v)
    (hms : ∀ m ∈ ms, ReadsBack m.2) {fuel : Nat} (rest : List Char)
    (hf : 2 * (stringChars k ++ ':' :: v.chars ++ laterMembers ms).length ≤ fuel) :
    Tree.readMembers? fuel (stringChars k ++ ':' :: v.chars ++ laterMembers ms ++ rest) =
      some (memberTrees ((k, v) :: ms), rest) := by
  simp only [List.length_append, List.length_cons] at hf
  induction ms generalizing k v fuel with
  | nil =>
    obtain ⟨fuel, rfl⟩ : ∃ n, fuel = n + 1 := ⟨fuel - 1, by omega⟩
    rw [List.append_assoc, List.append_assoc]
    exact Tree.readMembers?_last k (hv fuel _ (by omega) (ends_laterMembers [] rest))
  | cons m ms ih =>
    obtain ⟨k', v'⟩ := m
    simp only [laterMembers, List.length_append, List.length_cons] at hf
    obtain ⟨fuel, rfl⟩ : ∃ n, fuel = n + 1 := ⟨fuel - 1, by omega⟩
    obtain ⟨hv', hms'⟩ : ReadsBack v' ∧ ∀ m ∈ ms, ReadsBack m.2 := List.forall_mem_cons.mp hms
    rw [List.append_assoc, List.append_assoc]
    exact Tree.readMembers?_next k
      (hv fuel _ (by omega) (ends_laterMembers ((k', v') :: ms) rest))
      (ih k' hv' hms' (by omega))

theorem readsBack_intro {v : Json}
    (h : ∀ (fuel : Nat) (rest : List Char), 2 * v.chars.length ≤ fuel + 1 → Numeral.Ends rest →
      Tree.read? (fuel + 1) (v.chars ++ rest) = some (v.tree, rest)) : ReadsBack v := by
  intro fuel rest hf hr
  obtain ⟨c, cs, hs, -⟩ := chars_head v
  -- No text is empty, so the fuel for one is never zero.
  cases fuel with
  | zero => simp [hs] at hf
  | succ fuel => exact h fuel rest hf hr

theorem readsBack_array {items : List Json} (h : ∀ x ∈ items, ReadsBack x) :
    ReadsBack (.array items) := by
  apply readsBack_intro
  intro fuel rest hf _
  cases items with
  | nil => rfl
  | cons x xs =>
    obtain ⟨hx, hxs⟩ := List.forall_mem_cons.mp h
    obtain ⟨c, cs, hs, hb, hc⟩ := chars_head x
    simp only [chars, List.cons_append, List.length_cons] at hf ⊢
    have hread : Tree.readItems? fuel _ = _ := readItems?_chars hx hxs rest (by omega)
    rw [hs, List.cons_append, List.cons_append] at hread ⊢
    exact Tree.read?_array hb hc hread

theorem readsBack_object {members : List (String × Json)} (h : ∀ m ∈ members, ReadsBack m.2) :
    ReadsBack (.object members) := by
  apply readsBack_intro
  intro fuel rest hf _
  cases members with
  | nil => rfl
  | cons m ms =>
    obtain ⟨k, v⟩ := m
    obtain ⟨hv, hms⟩ : ReadsBack v ∧ ∀ m ∈ ms, ReadsBack m.2 := List.forall_mem_cons.mp h
    simp only [chars, List.cons_append, List.length_cons] at hf ⊢
    have hread : Tree.readMembers? fuel _ = _ := readMembers?_chars k hv hms rest (by omega)
    simp only [List.append_assoc, List.cons_append] at hread ⊢
    exact Tree.read?_object k hread

theorem readsBack (v : Json) : ReadsBack v := by
  induction v with
  | null => exact readsBack_intro fun _ _ _ _ => rfl
  | bool b =>
    apply readsBack_intro
    intro fuel rest _ _
    cases b <;> rfl
  | number n => exact readsBack_intro fun _ _ _ hr => Tree.read?_number n hr
  | string s => exact readsBack_intro fun _ _ _ _ => Tree.read?_string s
  | array items ih => exact readsBack_array ih
  | object members ih => exact readsBack_object ih

theorem ofStart?_chars (v : Json) : Tree.ofStart? v.chars = some (v.tree, []) := by
  have hread := readsBack v (2 * v.chars.length + 2) [] (by omega) trivial
  rwa [List.append_nil] at hread

theorem toList_text (v : Json) : v.text.toList = v.chars := by
  simp [text]

theorem ofText?_text (v : Json) : Tree.ofText? v.text = some v.tree := by
  rw [Tree.ofText?, toList_text, ofStart?_chars]
  rfl

theorem trees_injective {xs ys : List Json} (hxs : ∀ x ∈ xs, ∀ y ∈ ys, tree x = tree y → x = y)
    (h : trees xs = trees ys) : xs = ys := by
  induction xs generalizing ys with
  | nil => cases ys <;> simp_all [trees]
  | cons x xs ih =>
    cases ys with
    | nil => simp [trees] at h
    | cons y ys =>
      obtain ⟨ht, hts⟩ := List.cons.inj h
      have hrest : ∀ x' ∈ xs, ∀ y' ∈ ys, tree x' = tree y' → x' = y' := fun x' hx' y' hy' =>
        hxs x' (List.mem_cons_of_mem x hx') y' (List.mem_cons_of_mem y hy')
      rw [hxs x List.mem_cons_self y List.mem_cons_self ht, ih hrest hts]

theorem memberTrees_injective {ms ns : List (String × Json)}
    (hms : ∀ m ∈ ms, ∀ n ∈ ns, tree m.2 = tree n.2 → m.2 = n.2)
    (h : memberTrees ms = memberTrees ns) : ms = ns := by
  induction ms generalizing ns with
  | nil => cases ns <;> simp_all [memberTrees]
  | cons m ms ih =>
    cases ns with
    | nil => simp [memberTrees] at h
    | cons n ns =>
      obtain ⟨hkt, hts⟩ := List.cons.inj h
      obtain ⟨hk, ht⟩ := Prod.mk.inj hkt
      have hrest : ∀ m' ∈ ms, ∀ n' ∈ ns, tree m'.2 = tree n'.2 → m'.2 = n'.2 :=
        fun m' hm' n' hn' => hms m' (List.mem_cons_of_mem m hm') n' (List.mem_cons_of_mem n hn')
      rw [ih hrest hts, Prod.ext (Option.some.inj hk)
        (hms m List.mem_cons_self n List.mem_cons_self ht)]

theorem tree_injective {v w : Json} (hv : Exact v) (hw : Exact w) (h : v.tree = w.tree) :
    v = w := by
  induction hv generalizing w with
  | null => cases w <;> simp_all [tree]
  | bool b => cases w <;> simp_all [tree]
  | whole n => cases hw <;> simp_all [tree, reread?_whole]
  | string s => cases w <;> simp_all [tree]
  | array items _ ih =>
    cases hw with
    | array others hothers =>
      have hitems : items = others :=
        trees_injective (fun x hx y hy => ih x hx (hothers y hy)) (Tree.array.inj h)
      rw [hitems]
    | _ => simp [tree] at h
  | object members _ ih =>
    cases hw with
    | object others hothers =>
      have hmembers : members = others :=
        memberTrees_injective (fun m hm n hn => ih m hm (hothers n hn)) (Tree.object.inj h)
      rw [hmembers]
    | _ => simp [tree] at h

theorem text_injective {v w : Json} (hv : Exact v) (hw : Exact w) (h : v.text = w.text) :
    v = w := by
  have hread := ofText?_text v
  rw [h, ofText?_text w] at hread
  exact tree_injective hv hw (Option.some.inj hread).symm

end QuizService.Json
