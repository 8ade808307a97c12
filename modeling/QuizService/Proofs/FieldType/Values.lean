import QuizService.FieldType.Values
import QuizService.Proofs.Entries
import QuizService.Proofs.FieldType.Lowering

namespace QuizService.FieldType

variable {fields : List (String × FieldType)} {ms base more : List (String × Json)}
  {items arranged : List Json}

theorem fieldsAdmit_iff :
    FieldsAdmit fields ms ↔ ∀ f ∈ fields, ∀ m ∈ ms, m.1 = f.1 → f.2.Admits m.2 := by
  induction fields with
  | nil => simp [FieldsAdmit]
  | cons f rest ih => simp [FieldsAdmit, ih]

theorem admits_record {name : String} :
    (record name fields).Admits (.object ms) ↔
      ∀ f ∈ fields, ∀ m ∈ ms, m.1 = f.1 → f.2.Admits m.2 := by
  simp [Admits, fieldsAdmit_iff]

theorem admits_map {value : FieldType} :
    (map value).Admits (.object ms) ↔ ∀ m ∈ ms, value.Admits m.2 := by
  simp [Admits]

theorem admits_list {item : FieldType} :
    (list item).Admits (.array items) ↔ ∀ x ∈ items, item.Admits x := by
  simp [Admits]

theorem admits_optional {t : FieldType} {v : Json} : (optional t).Admits v ↔ t.Admits v := by
  unfold optional
  split <;> rfl

theorem admits_string (s : String) : string.Admits (.string s) :=
  trivial

theorem admits_int64 (n : Int64) : integer.Admits (.int64 n) :=
  trivial

theorem admits_uint32 (n : UInt32) : integer.Admits (.uint32 n) :=
  trivial

theorem admits_bool (b : Bool) : boolean.Admits (.bool b) :=
  trivial

theorem admits_strings (xs : List String) : (list string).Admits (.strings xs) :=
  admits_list.mpr (List.forall_mem_map.mpr fun s _ => admits_string s)

def Typed (fields : Entries FieldType) (values : List (String × Json)) : Prop :=
  ∀ e ∈ values, ∃ t, fields.get? e.1 = some t ∧ t.Admits e.2

theorem typed_nil (fields : Entries FieldType) : Typed fields [] :=
  fun _ he => absurd he List.not_mem_nil

theorem typed_cons {fields : Entries FieldType} {values : List (String × Json)} {name : String}
    {t : FieldType} {v : Json} (hname : fields.get? name = some t) (hv : t.Admits v)
    (hvalues : Typed fields values) : Typed fields ((name, v) :: values) :=
  List.forall_mem_cons.mpr ⟨⟨t, hname, hv⟩, hvalues⟩

theorem typed_append {fields : Entries FieldType} {values more : List (String × Json)}
    (h : Typed fields values) (hmore : Typed fields more) : Typed fields (values ++ more) :=
  List.forall_mem_append.mpr ⟨h, hmore⟩

theorem admits_of_typed {fields : Entries FieldType} (hn : fields.names.Nodup)
    {values : List (String × Json)} (h : Typed fields values) {f : String × FieldType}
    (hf : f ∈ fields) {v : Json} (hv : (f.1, v) ∈ values) : f.2.Admits v := by
  obtain ⟨t, ht, hadmits⟩ := h _ hv
  have hf' : fields.get? f.1 = some f.2 := Entries.get?_of_mem hn hf
  obtain rfl := Option.some.inj (ht.symm.trans hf')
  exact hadmits

theorem admits_record_of_typed {fields : Entries FieldType} {name : String}
    (hn : fields.names.Nodup) (h : Typed fields ms) : (record name fields).Admits (.object ms) := by
  refine admits_record.mpr fun f hf m hm hname => admits_of_typed hn h hf ?_
  rw [← hname]
  exact hm

theorem admits_putAll {t : FieldType} (hb : t.Admits (.object base))
    (hm : t.Admits (.object more)) : t.Admits (.object (Entries.putAll base more)) := by
  induction t with
  | scalar s => cases s <;> exact hb.elim
  | enumeration e =>
    obtain ⟨m, -, h⟩ := hb
    cases m <;> contradiction
  | optionalOf inner ih => exact ih hb hm
  | list item ih =>
    obtain ⟨vs, h, -⟩ := hb
    contradiction
  | map value ih =>
    rw [admits_map] at hb hm ⊢
    intro m h
    exact (Entries.mem_putAll h).elim (hb m) (hm m)
  | record name fields ih =>
    rw [admits_record] at hb hm ⊢
    intro f hf m h
    exact (Entries.mem_putAll h).elim (hb f hf m) (hm f hf m)

theorem admits_of_perm {t : FieldType} (hp : arranged.Perm items) (h : t.Admits (.array items)) :
    t.Admits (.array arranged) := by
  induction t with
  | scalar s => cases s <;> exact h.elim
  | enumeration e =>
    obtain ⟨m, -, h⟩ := h
    cases m <;> contradiction
  | optionalOf inner ih => exact ih h
  | list item ih =>
    rw [admits_list] at h ⊢
    exact fun x hx => h x (hp.mem_iff.mp hx)
  | map value ih =>
    obtain ⟨ms, h, -⟩ := h
    contradiction
  | record name fields ih =>
    obtain ⟨ms, h, -⟩ := h
    contradiction

end QuizService.FieldType
