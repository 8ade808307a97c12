import Mathlib.Data.List.Forall2
import QuizService.Entries

namespace QuizService.Entries

variable {α : Type} {xs base more : Entries α} {name : String} {value : α}

def mention (mentioned : List String) (name : String) : List String :=
  if name ∈ mentioned then mentioned else mentioned ++ [name]

theorem nodup_mention {mentioned : List String} (h : mentioned.Nodup) (name : String) :
    (mention mentioned name).Nodup := by
  unfold mention
  split
  · exact h
  · rename_i hn
    refine List.nodup_append.mpr ⟨h, by simp, ?_⟩
    rintro a ha b hb rfl
    exact hn (List.mem_singleton.mp hb ▸ ha)

theorem filter_not_mem_of_iff {old new : List String} {name : String}
    (h : ∀ other, other ∈ new ↔ other = name ∨ other ∈ old) (names : List String) :
    (names.filter fun other => other ∉ new) =
      (names.filter fun other => other ∉ old).filter fun other => !other == name := by
  rw [List.filter_filter]
  apply List.filter_congr
  intro other _
  by_cases ho : other = name <;> simp [h, ho]

theorem foldl_mention (mentioned more : List String) :
    more.foldl mention mentioned =
      mentioned ++ (more.filter fun name => name ∉ mentioned).eraseDups := by
  induction more generalizing mentioned with
  | nil => simp
  | cons name rest ih =>
    rw [List.foldl_cons, ih, List.filter_cons]
    by_cases h : name ∈ mentioned
    · simp [mention, h]
    · have hnext : ∀ other, other ∈ mentioned ++ [name] ↔ other = name ∨ other ∈ mentioned := by
        intro other
        rw [List.mem_append, List.mem_singleton, or_comm]
      rw [mention, if_neg h, if_pos (decide_eq_true h), List.eraseDups_cons,
        filter_not_mem_of_iff hnext, List.append_assoc, List.singleton_append]

theorem foldl_mention_nil (names : List String) : names.foldl mention [] = names.eraseDups := by
  have hall : names.filter (fun name => name ∉ []) = names := by simp
  rw [foldl_mention, hall, List.nil_append]

theorem nodup_eraseDups (names : List String) : names.eraseDups.Nodup := by
  rw [← foldl_mention_nil]
  exact List.foldlRecOn names mention List.nodup_nil fun _ h name _ => nodup_mention h name

theorem eraseDups_of_nodup {names : List String} (h : names.Nodup) : names.eraseDups = names := by
  induction names with
  | nil => rfl
  | cons name rest ih =>
    obtain ⟨hname, hrest⟩ := List.nodup_cons.mp h
    have hfilter : (rest.filter fun other => !other == name) = rest := by
      apply List.filter_eq_self.mpr
      intro other hother
      have hne : other ≠ name := by
        rintro rfl
        exact hname hother
      simp [hne]
    rw [List.eraseDups_cons, hfilter, ih hrest]

theorem names_cons (e : String × α) (xs : Entries α) : names (e :: xs) = e.1 :: names xs :=
  rfl

theorem mem_names {e : String × α} (h : e ∈ xs) : e.1 ∈ names xs :=
  List.mem_map.mpr ⟨e, h, rfl⟩

theorem has_iff : has xs name = true ↔ name ∈ names xs := by
  simp [has, names]

theorem get?_cons (e : String × α) (xs : Entries α) (name : String) :
    get? (e :: xs) name = if name = e.1 then some e.2 else get? xs name := by
  rw [get?]
  by_cases h : name = e.1
  · rw [if_pos h, if_pos h.symm]
  · rw [if_neg h, if_neg fun heq => h heq.symm]

theorem get?_eq_none_iff : get? xs name = none ↔ name ∉ names xs := by
  induction xs with
  | nil => simp [get?, names]
  | cons e rest ih =>
    obtain ⟨k, v⟩ := e
    by_cases h : k = name
    · simp [get?, names, h]
    · simp only [get?, if_neg h, ih, names_cons, List.mem_cons, not_or]
      exact ⟨fun hn => ⟨fun hk => h hk.symm, hn⟩, fun hn => hn.2⟩

theorem isSome_get?_iff : (get? xs name).isSome = true ↔ name ∈ names xs := by
  rw [Option.isSome_iff_ne_none, Ne, get?_eq_none_iff, not_not]

theorem get?_reverse_eq_none_iff : get? xs.reverse name = none ↔ name ∉ names xs := by
  rw [get?_eq_none_iff]
  simp [names]

theorem get?_of_mem (hn : (names xs).Nodup) (h : (name, value) ∈ xs) :
    get? xs name = some value := by
  induction xs with
  | nil => simp at h
  | cons e rest ih =>
    obtain ⟨k, v⟩ := e
    obtain ⟨hk, hrest⟩ := List.nodup_cons.mp hn
    rcases List.mem_cons.mp h with heq | hmem
    · obtain ⟨rfl, rfl⟩ := Prod.mk.inj heq
      simp [get?]
    · have hne : k ≠ name := by
        rintro rfl
        exact hk (List.mem_map.mpr ⟨_, hmem, rfl⟩)
      rw [get?, if_neg hne, ih hrest hmem]

theorem get?_perm {ys : Entries α} (h : xs.Perm ys) (hn : xs.names.Nodup) (name : String) :
    get? xs name = get? ys name := by
  have hnames : xs.names.Perm ys.names := h.map Prod.fst
  cases hv : get? xs name with
  | none =>
    have hnot : name ∉ ys.names := fun hmem => get?_eq_none_iff.mp hv (hnames.mem_iff.mpr hmem)
    rw [get?_eq_none_iff.mpr hnot]
  | some v =>
    have hmem : (name, v) ∈ ys := h.mem_iff.mp (mem_of_get? hv)
    rw [get?_of_mem (hnames.nodup_iff.mp hn) hmem]

theorem get?_append (xs ys : Entries α) (name : String) :
    get? (xs ++ ys) name = (get? xs name).or (get? ys name) := by
  induction xs with
  | nil => rfl
  | cons e rest ih =>
    obtain ⟨k, v⟩ := e
    by_cases h : k = name <;> simp [get?, h, ih]

theorem names_filter (p : String → Bool) (xs : Entries α) :
    names (xs.filter fun e => p e.1) = (names xs).filter p :=
  (List.filter_map).symm

theorem get?_filter (p : String → Bool) (xs : Entries α) (name : String) :
    get? (xs.filter fun e => p e.1) name = if p name then get? xs name else none := by
  induction xs with
  | nil => simp [get?]
  | cons e rest ih =>
    rw [List.filter_cons, get?_cons]
    by_cases hname : name = e.1
    · subst hname
      by_cases hp : p e.1 = true
      · rw [if_pos hp, if_pos hp, if_pos rfl, get?_cons, if_pos rfl]
      · rw [if_neg hp, if_neg hp, ih, if_neg hp]
    · rw [if_neg hname, ← ih]
      split
      · rw [get?_cons, if_neg hname]
      · rfl

theorem get?_erase (xs : Entries α) (name other : String) :
    get? (erase xs name) other = if name = other then none else get? xs other := by
  rw [erase, get?_filter (fun kept => kept ≠ name)]
  by_cases h : name = other
  · simp [h]
  · simp [h, Ne.symm h]

theorem nodup_erase (h : (names xs).Nodup) : (names (erase xs name)).Nodup :=
  h.sublist (List.filter_sublist.map _)

theorem get?_put (xs : Entries α) (name : String) (value : α) (other : String) :
    get? (put xs name value) other = if name = other then some value else get? xs other := by
  by_cases h : name = other
  · rw [if_pos h, ← h, get?_put_self]
  · rw [if_neg h, get?_put_of_ne xs value h]

theorem put_of_not_mem (h : name ∉ xs.names) (value : α) :
    xs.put name value = xs ++ [(name, value)] := by
  induction xs with
  | nil => rfl
  | cons e rest ih =>
    obtain ⟨k, v⟩ := e
    rw [names_cons, List.mem_cons, not_or] at h
    have hk : k ≠ name := fun heq => h.1 heq.symm
    rw [put, if_neg hk, ih h.2, List.cons_append]

theorem put_put (xs : Entries α) (name : String) (first second : α) :
    (xs.put name first).put name second = xs.put name second := by
  induction xs with
  | nil => simp [put]
  | cons e rest ih =>
    obtain ⟨k, v⟩ := e
    by_cases hk : k = name <;> simp [put, hk, ih]

theorem names_putAll_foldl (base more : Entries α) :
    names (putAll base more) = more.names.foldl mention base.names := by
  induction more generalizing base with
  | nil => rfl
  | cons e rest ih =>
    have hstep : names (putAll base (e :: rest)) =
        (names rest).foldl mention (put base e.1 e.2).names := ih _
    rw [hstep, names_put]
    rfl

theorem names_putAll (base more : Entries α) :
    names (putAll base more) =
      names base ++ (more.names.filter fun name => name ∉ names base).eraseDups := by
  rw [names_putAll_foldl, foldl_mention]

theorem names_putAll_nil (more : Entries α) : names (putAll [] more) = more.names.eraseDups :=
  (names_putAll_foldl [] more).trans (foldl_mention_nil _)

theorem names_putAll_of_nodup (h : (names more).Nodup) :
    names (putAll base more) =
      names base ++ (names more).filter fun name => name ∉ names base := by
  rw [names_putAll, eraseDups_of_nodup (h.filter _)]

theorem names_putAll_of_subset (h : ∀ name ∈ names more, name ∈ names base) :
    names (putAll base more) = names base := by
  have hnone : (names more).filter (fun name => name ∉ names base) = [] := by
    simpa [List.filter_eq_nil_iff] using h
  rw [names_putAll, hnone, List.eraseDups_nil, List.append_nil]

theorem get?_putAll_reverse (base more : Entries α) (name : String) :
    get? (putAll base more) name = (get? more.reverse name).or (get? base name) := by
  induction more generalizing base with
  | nil => rfl
  | cons e rest ih =>
    obtain ⟨k, v⟩ := e
    have hstep : get? (putAll base ((k, v) :: rest)) name =
        (get? rest.reverse name).or (get? (put base k v) name) := ih _
    rw [hstep, get?_put, List.reverse_cons, get?_append]
    by_cases h : k = name <;> simp [get?, h]

theorem get?_putAll (hn : (names more).Nodup) (name : String) :
    get? (putAll base more) name = (get? more name).or (get? base name) := by
  rw [get?_putAll_reverse, get?_perm more.reverse_perm.symm hn]

/-- The second list over the first: its values count, and its new names come after the others. -/
structure Overlays (base more merged : Entries α) : Prop where
  names : merged.names = base.names ++ more.names.filter fun name => name ∉ base.names
  get? : ∀ name, merged.get? name = (more.get? name).or (base.get? name)

theorem overlays_putAll (h : more.names.Nodup) : Overlays base more (putAll base more) where
  names := names_putAll_of_nodup h
  get? := get?_putAll h

theorem putAll_append (h : (names (base ++ more)).Nodup) : putAll base more = base ++ more := by
  induction more generalizing base with
  | nil => simp [putAll]
  | cons e rest ih =>
    have hfresh : e.1 ∉ base.names := by
      intro hmem
      rw [names, List.map_append] at h
      exact (List.nodup_append.mp h).2.2 e.1 hmem e.1 List.mem_cons_self rfl
    have happend : base ++ [e] ++ rest = base ++ e :: rest := by simp
    have hstep : putAll base (e :: rest) = putAll (base ++ [e]) rest := by
      rw [putAll, List.foldl_cons, put_of_not_mem hfresh]
      rfl
    rw [hstep, ih (by rwa [happend]), happend]

theorem putAll_nil (h : xs.names.Nodup) : putAll [] xs = xs :=
  putAll_append h

theorem putAll_putAll_append (base first second : Entries α) :
    putAll (putAll base first) second = putAll base (first ++ second) :=
  List.foldl_append.symm

theorem forall₂_of_get? {β : Type} {R : String → α → β → Prop} {ys : Entries β}
    (hnames : xs.names = ys.names) (hn : xs.names.Nodup)
    (h : ∀ name, Option.Rel (R name) (xs.get? name) (ys.get? name)) :
    List.Forall₂ (fun a b => a.1 = b.1 ∧ R a.1 a.2 b.2) xs ys := by
  induction xs generalizing ys with
  | nil =>
    obtain rfl := List.map_eq_nil_iff.mp hnames.symm
    exact .nil
  | cons x xs ih =>
    cases ys with
    | nil => contradiction
    | cons y ys =>
      obtain ⟨hfirst, hrest⟩ := List.cons.inj hnames
      change x.1 = y.1 at hfirst
      obtain ⟨hx, hxs⟩ := List.nodup_cons.mp hn
      have hhead := h x.1
      rw [get?_cons, get?_cons, if_pos rfl, if_pos hfirst] at hhead
      have hvalue : R x.1 x.2 y.2 := by
        cases hhead with
        | some hvalue => exact hvalue
      have htail : ∀ name, Option.Rel (R name) (get? xs name) (get? ys name) := by
        intro name
        by_cases hname : name = x.1
        · have hys : name ∉ names ys := by
            rw [hname, names, ← hrest]
            exact hx
          rw [get?_eq_none_iff.mpr (hname ▸ hx), get?_eq_none_iff.mpr hys]
          exact .none
        · have hlater := h name
          rwa [get?_cons, get?_cons, if_neg hname, if_neg (hfirst ▸ hname)] at hlater
      exact .cons ⟨hfirst, hvalue⟩ (ih hrest hxs htail)

theorem ext_get? {ys : Entries α} (hnames : xs.names = ys.names) (hn : xs.names.Nodup)
    (h : ∀ name, xs.get? name = ys.get? name) : xs = ys := by
  have hrel : ∀ name, Option.Rel (· = ·) (xs.get? name) (ys.get? name) := by
    intro name
    rw [h name]
    cases ys.get? name with
    | none => exact .none
    | some v => exact .some rfl
  have hall := forall₂_of_get? (R := fun _ => (· = ·)) hnames hn hrel
  rw [← List.forall₂_eq_eq_eq]
  exact hall.imp fun a b hab => Prod.ext hab.1 hab.2

theorem putAll_putAll (h : base.names.Nodup) (more : Entries α) :
    putAll base (putAll base more) = putAll base more := by
  have hn : (putAll base more).names.Nodup := nodup_putAll h
  have hbase : ∀ name ∈ base.names, name ∈ (putAll base more).names := by
    intro name hname
    rw [names_putAll]
    exact List.mem_append_left _ hname
  have hnames : (putAll base (putAll base more)).names = (putAll base more).names := by
    have hold : base.names.filter (fun name => name ∉ base.names) = [] := by
      simp [List.filter_eq_nil_iff]
    have hnew : ((more.names.filter fun name => name ∉ base.names).eraseDups).filter
        (fun name => name ∉ base.names) =
          (more.names.filter fun name => name ∉ base.names).eraseDups := by
      apply List.filter_eq_self.mpr
      intro name hname
      exact (List.mem_filter.mp (List.mem_eraseDups.mp hname)).2
    rw [names_putAll_of_nodup hn, names_putAll, List.filter_append, hold, hnew, List.nil_append]
  refine ext_get? hnames (nodup_putAll h) fun name => ?_
  rw [get?_putAll hn]
  cases hname : get? (putAll base more) name with
  | some v => rw [Option.some_or]
  | none =>
    have hnot : name ∉ base.names := mt (hbase name) (get?_eq_none_iff.mp hname)
    rw [get?_eq_none_iff.mpr hnot, Option.none_or]

def updated (base more : Entries α) : Entries α :=
  base.map fun e => (e.1, (get? more e.1).getD e.2)

theorem names_updated (base more : Entries α) : names (updated base more) = names base := by
  simp [names, updated]

theorem get?_updated (base more : Entries α) (name : String) :
    get? (updated base more) name = (get? base name).map fun v => (get? more name).getD v := by
  induction base with
  | nil => rfl
  | cons e rest ih =>
    rw [updated, List.map_cons, get?_cons, get?_cons]
    by_cases hname : name = e.1
    · rw [if_pos hname, if_pos hname, hname]
      rfl
    · rw [if_neg hname, if_neg hname]
      exact ih

theorem updated_self (h : base.names.Nodup) : updated base base = base := by
  apply ext_get? (names_updated base base) (names_updated base base ▸ h)
  intro name
  rw [get?_updated]
  cases get? base name <;> rfl

theorem filter_putAll (hbase : base.names.Nodup) (hmore : more.names.Nodup) :
    (putAll base more).filter (fun e => e.1 ∈ base.names) = updated base more := by
  have hnames : names ((putAll base more).filter fun e => e.1 ∈ base.names) = base.names := by
    rw [names_filter (fun name => name ∈ base.names), names_putAll_of_nodup hmore,
      List.filter_append, List.filter_filter]
    simp
  apply ext_get? (hnames.trans (names_updated base more).symm) (hnames.symm ▸ hbase)
  intro name
  rw [get?_filter (fun name => name ∈ base.names), get?_putAll hmore, get?_updated]
  cases hname : get? base name with
  | none => simp [get?_eq_none_iff.mp hname]
  | some v =>
    have hmem : name ∈ base.names := mem_names (mem_of_get? hname)
    rw [if_pos (decide_eq_true hmem)]
    cases get? more name <;> rfl

theorem updated_putAll (hbase : base.names.Nodup) (hmore : more.names.Nodup) :
    updated base (putAll base more) = updated base more := by
  rw [← filter_putAll hbase (nodup_putAll hbase), putAll_putAll hbase, filter_putAll hbase hmore]

end QuizService.Entries
