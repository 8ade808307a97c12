import QuizService.Json.Reader
import QuizService.Proofs.Entries
import QuizService.Proofs.Json.ReadBack

namespace QuizService.Json

mutual

def depth : Json → Nat
  | .array items => itemsDepth items + 1
  | .object members => membersDepth members + 1
  | _ => 0

def itemsDepth : List Json → Nat
  | [] => 0
  | v :: vs => max (depth v) (itemsDepth vs)

def membersDepth : List (String × Json) → Nat
  | [] => 0
  | (_, v) :: ms => max (depth v) (membersDepth ms)

end

theorem depth_le_of_item {items : List Json} {v : Json} (h : v ∈ items) :
    v.depth ≤ itemsDepth items := by
  induction items with
  | nil => contradiction
  | cons w ws ih =>
    rw [itemsDepth]
    rcases List.mem_cons.mp h with rfl | h
    · omega
    · have := ih h
      omega

theorem depth_le_of_member {members : List (String × Json)} {m : String × Json}
    (h : m ∈ members) : m.2.depth ≤ membersDepth members := by
  induction members with
  | nil => contradiction
  | cons n ns ih =>
    obtain ⟨k, v⟩ := n
    rw [membersDepth]
    rcases List.mem_cons.mp h with rfl | h
    · dsimp only
      omega
    · have := ih h
      omega

variable {room : Nat}

theorem values?_trees {items : List Json}
    (h : ∀ x ∈ items, x.tree.value? room = some x) :
    Tree.values? room (trees items) = some items := by
  induction items with
  | nil => rw [trees, Tree.values?]
  | cons x xs ih =>
    obtain ⟨hx, hxs⟩ := List.forall_mem_cons.mp h
    simp [trees, Tree.values?, hx, ih hxs]

theorem membersOf?_cons {k : String} {v w : Json} {ms others : List (String × Json)}
    (hv : v.tree.value? room = some w) (hms : Tree.membersOf? room (memberTrees ms) = some others) :
    Tree.membersOf? room (memberTrees ((k, v) :: ms)) = some ((k, w) :: others) := by
  simp [memberTrees, Tree.membersOf?, hv, hms]

theorem membersOf?_memberTrees {members : List (String × Json)}
    (h : ∀ m ∈ members, m.2.tree.value? room = some m.2) :
    Tree.membersOf? room (memberTrees members) = some members := by
  induction members with
  | nil => rw [memberTrees, Tree.membersOf?]
  | cons m ms ih =>
    obtain ⟨hm, hms⟩ := List.forall_mem_cons.mp h
    exact membersOf?_cons hm (ih hms)

theorem value?_array {items : List Json} (h : ∀ x ∈ items, x.tree.value? room = some x) :
    (Json.array items).tree.value? (room + 1) = some (.array items) := by
  rw [tree, Tree.value?, values?_trees h]
  rfl

theorem value?_object {members : List (String × Json)}
    (h : ∀ m ∈ members, m.2.tree.value? room = some m.2) :
    (Json.object members).tree.value? (room + 1) = some (.ofMembers members) := by
  rw [tree, Tree.value?, membersOf?_memberTrees h]
  rfl

theorem value?_tree {v : Json} (hv : Exact v) (hn : Distinct v) (hd : v.depth ≤ room) :
    v.tree.value? room = some v := by
  induction v generalizing room with
  | null => rw [tree, Tree.value?]
  | bool b => rw [tree, Tree.value?]
  | string s => simp [tree, Tree.value?]
  | number n =>
    cases hv with
    | whole n => simp [tree, Tree.value?, reread?_whole]
  | array items ih =>
    cases hv with
    | array _ hitems =>
    cases hn with
    | array _ hnames =>
    rw [depth] at hd
    obtain ⟨room, rfl⟩ : ∃ r, room = r + 1 := ⟨room - 1, by omega⟩
    apply value?_array
    intro x hx
    have := depth_le_of_item hx
    exact ih x hx (hitems x hx) (hnames x hx) (by omega)
  | object members ih =>
    cases hv with
    | object _ hmembers =>
    cases hn with
    | object _ hnames hdistinct =>
    rw [depth] at hd
    obtain ⟨room, rfl⟩ : ∃ r, room = r + 1 := ⟨room - 1, by omega⟩
    rw [value?_object, ofMembers, Entries.putAll_nil hnames]
    intro m hm
    have := depth_le_of_member hm
    exact ih m hm (hmembers m hm) (hdistinct m hm) (by omega)

theorem ofText?_text_of_exact {v : Json} (hv : Exact v) (hn : Distinct v)
    (hd : v.depth ≤ depthLimit) : ofText? v.text = some v := by
  rw [ofText?, ofText?_text]
  exact value?_tree hv hn hd

theorem read_object {members : List (String × Json)}
    (h : ∀ m ∈ members, m.2.tree.value? 126 = some m.2) {rest : List Char}
    (hr : Numeral.Ends rest) :
    ∃ hdistinct, Leading.read ((Json.object members).chars ++ rest) =
      .object ⟨Entries.putAll [] members, hdistinct⟩ := by
  have hread : Tree.ofStart? ((Json.object members).chars ++ rest) =
      some ((Json.object members).tree, rest) :=
    readsBack (.object members) _ rest (by rw [List.length_append]; omega) hr
  have hvalue : (Json.object members).tree.value? depthLimit =
      some (.object (Entries.putAll [] members)) :=
    value?_object h
  refine ⟨Tree.distinct_of_value? hvalue, ?_⟩
  obtain ⟨cs, hcs⟩ : ∃ cs, (Json.object members).chars = '{' :: cs := by
    cases members <;> exact ⟨_, rfl⟩
  rw [hcs, List.cons_append] at hread ⊢
  have hopen : skipBlanks ('{' :: (cs ++ rest)) = '{' :: (cs ++ rest) :=
    skipBlanks_cons (by decide) _
  simp only [Leading.read, hopen, hread, Option.bind_some, Tree.plain?_of_value? hvalue]

namespace Tree

/-- Some number is too large to have a value, or some string holds half a surrogate pair. -/
inductive LacksValue : Tree → Prop where
  | number : LacksValue (.number none)
  | string : LacksValue (.string none)
  | item {items : List Tree} {t : Tree} (ht : t ∈ items) (h : LacksValue t) :
    LacksValue (.array items)
  | name {members : List (Option String × Tree)} {t : Tree} (ht : (none, t) ∈ members) :
    LacksValue (.object members)
  | member {members : List (Option String × Tree)} {m : Option String × Tree} (hm : m ∈ members)
    (h : LacksValue m.2) : LacksValue (.object members)

mutual

def depth : Tree → Nat
  | .array items => itemsDepth items + 1
  | .object members => membersDepth members + 1
  | _ => 0

def itemsDepth : List Tree → Nat
  | [] => 0
  | t :: ts => max (depth t) (itemsDepth ts)

def membersDepth : List (Option String × Tree) → Nat
  | [] => 0
  | (_, t) :: ms => max (depth t) (membersDepth ms)

end

theorem lacksValue_array_iff {items : List Tree} :
    LacksValue (.array items) ↔ ∃ t ∈ items, LacksValue t :=
  ⟨fun h => by cases h with | item ht h => exact ⟨_, ht, h⟩, fun ⟨_, ht, h⟩ => .item ht h⟩

theorem lacksValue_object_iff {members : List (Option String × Tree)} :
    LacksValue (.object members) ↔ ∃ m ∈ members, m.1 = none ∨ LacksValue m.2 := by
  constructor
  · intro h
    cases h with
    | name ht => exact ⟨_, ht, .inl rfl⟩
    | member hm h => exact ⟨_, hm, .inr h⟩
  · rintro ⟨⟨k, t⟩, hm, hk | h⟩
    · obtain rfl : k = none := hk
      exact .name hm
    · exact .member hm h

mutual

theorem value?_eq_none_iff {room : Nat} :
    ∀ {t : Tree}, value? room t = none ↔ t.LacksValue ∨ room < t.depth
  | .null => by simp [value?, depth, show ¬ LacksValue .null from nofun]
  | .bool b => by simp [value?, depth, show ¬ LacksValue (.bool b) from nofun]
  | .number none => by simp [value?, LacksValue.number]
  | .number (some n) => by simp [value?, depth, show ¬ LacksValue (.number (some n)) from nofun]
  | .string none => by simp [value?, LacksValue.string]
  | .string (some s) => by simp [value?, depth, show ¬ LacksValue (.string (some s)) from nofun]
  | .array items => by
    cases room with
    | zero => simp [value?, depth]
    | succ room =>
      rw [value?, Option.map_eq_none_iff, values?_eq_none_iff, lacksValue_array_iff, depth,
        Nat.add_lt_add_iff_right]
  | .object members => by
    cases room with
    | zero => simp [value?, depth]
    | succ room =>
      rw [value?, Option.map_eq_none_iff, membersOf?_eq_none_iff, lacksValue_object_iff, depth,
        Nat.add_lt_add_iff_right]

theorem values?_eq_none_iff {room : Nat} :
    ∀ {ts : List Tree},
      values? room ts = none ↔ (∃ t ∈ ts, t.LacksValue) ∨ room < itemsDepth ts
  | [] => by simp [values?, itemsDepth]
  | t :: ts => by
    have hfirst := @value?_eq_none_iff room t
    have hrest := @values?_eq_none_iff room ts
    have hnone : values? room (t :: ts) = none ↔ value? room t = none ∨ values? room ts = none := by
      rw [values?]
      cases value? room t <;> cases values? room ts <;> simp
    have hdepth : room < itemsDepth (t :: ts) ↔ room < depth t ∨ room < itemsDepth ts := by
      rw [itemsDepth]
      omega
    simp only [hnone, hfirst, hrest, hdepth, List.mem_cons, exists_eq_or_imp]
    exact or_or_or_comm

theorem membersOf?_eq_none_iff {room : Nat} :
    ∀ {ms : List (Option String × Tree)},
      membersOf? room ms = none ↔
        (∃ m ∈ ms, m.1 = none ∨ m.2.LacksValue) ∨ room < membersDepth ms
  | [] => by simp [membersOf?, membersDepth]
  | (k, t) :: ms => by
    have hfirst := @value?_eq_none_iff room t
    have hrest := @membersOf?_eq_none_iff room ms
    have hnone : membersOf? room ((k, t) :: ms) = none ↔
        k = none ∨ value? room t = none ∨ membersOf? room ms = none := by
      rw [membersOf?]
      cases k <;> cases value? room t <;> cases membersOf? room ms <;> simp
    have hdepth : room < membersDepth ((k, t) :: ms) ↔ room < depth t ∨ room < membersDepth ms := by
      rw [membersDepth]
      omega
    simp only [hnone, hfirst, hrest, hdepth, List.mem_cons, exists_eq_or_imp]
    rw [or_or_or_comm, ← @or_assoc (k = none), ← @or_assoc (k = none)]

end

end Tree

theorem ofText?_eq_none_iff {s : String} :
    ofText? s = none ↔
      ∀ t, Tree.ofText? s = some t → t.LacksValue ∨ depthLimit < t.depth := by
  rw [ofText?, Option.bind_eq_bind, Option.bind_eq_none_iff]
  simp only [Tree.value?_eq_none_iff]

end QuizService.Json
