import Mathlib.Data.List.FinRange
import Mathlib.Data.List.NodupEquivFin
import QuizService.Question.Instance

/-!
Shuffling only rearranges: whatever the random words, the result is a permutation of the list. The
words and the number of items alone say where each item goes and which words are left; what the
items are has no part in it.
-/

namespace QuizService

theorem Draws.index_suffix (count : Nat) (ds : Draws) : (ds.index count).2 <:+ ds := by
  induction ds with
  | nil => exact List.nil_suffix
  | cons v rest ih =>
    rw [index]
    split
    · exact List.suffix_cons v rest
    · exact ih.trans (List.suffix_cons v rest)

namespace Shuffle

variable {α β : Type}

theorem swap_perm (xs : List α) (i j : Nat) : (swap xs i j).Perm xs := by
  unfold swap
  split
  · rename_i a b ha hb
    obtain ⟨hi, rfl⟩ := List.getElem?_eq_some_iff.mp ha
    obtain ⟨hj, rfl⟩ := List.getElem?_eq_some_iff.mp hb
    exact List.set_set_perm hi hj
  · rfl

theorem down_perm (i : Nat) (xs : List α) (ds : Draws) : (down i xs ds).1.Perm xs := by
  induction i generalizing xs ds with
  | zero => rfl
  | succ i ih => exact (ih _ _).trans (swap_perm xs _ _)

theorem shuffle_perm (xs : List α) (ds : Draws) : (shuffle xs ds).1.Perm xs :=
  down_perm _ xs ds

theorem down_suffix (i : Nat) (xs : List α) (ds : Draws) : (down i xs ds).2 <:+ ds := by
  induction i generalizing xs ds with
  | zero => exact List.suffix_rfl
  | succ i ih => exact (ih _ _).trans (Draws.index_suffix (i + 2) ds)

theorem shuffle_suffix (xs : List α) (ds : Draws) : (shuffle xs ds).2 <:+ ds :=
  down_suffix _ xs ds

theorem swap_map (f : α → β) (xs : List α) (i j : Nat) :
    swap (xs.map f) i j = (swap xs i j).map f := by
  unfold swap
  rw [List.getElem?_map, List.getElem?_map]
  cases xs[i]? <;> cases xs[j]? <;> simp [List.map_set]

theorem down_map (f : α → β) (i : Nat) (xs : List α) (ds : Draws) :
    down i (xs.map f) ds = ((down i xs ds).1.map f, (down i xs ds).2) := by
  induction i generalizing xs ds with
  | zero => rfl
  | succ i ih => simp only [down, swap_map, ih]

theorem shuffle_map (f : α → β) (xs : List α) (ds : Draws) :
    shuffle (xs.map f) ds = ((shuffle xs ds).1.map f, (shuffle xs ds).2) := by
  rw [shuffle, List.length_map, down_map]
  rfl

def places (count : Nat) (ds : Draws) : List (Fin count) :=
  (shuffle (List.finRange count) ds).1

def left (count : Nat) (ds : Draws) : Draws :=
  (shuffle (List.finRange count) ds).2

theorem shuffle_eq (xs : List α) (ds : Draws) :
    shuffle xs ds = ((places xs.length ds).map xs.get, left xs.length ds) := by
  have hget : (List.finRange xs.length).map xs.get = xs :=
    List.ofFn_eq_map.symm.trans (List.ofFn_get xs)
  calc shuffle xs ds
      = shuffle ((List.finRange xs.length).map xs.get) ds := by rw [hget]
    _ = ((places xs.length ds).map xs.get, left xs.length ds) := shuffle_map xs.get _ ds

theorem places_perm (count : Nat) (ds : Draws) : (places count ds).Perm (List.finRange count) :=
  shuffle_perm _ ds

theorem length_places (count : Nat) (ds : Draws) : (places count ds).length = count := by
  rw [(places_perm count ds).length_eq, List.length_finRange]

/-- Where the items come from: after shuffling that many, the item at a place is the one that stood
at this other place before. -/
def order (count : Nat) (ds : Draws) : Equiv.Perm (Fin count) :=
  (finCongr (length_places count ds).symm).trans
    (List.Nodup.getEquivOfForallMemList (places count ds)
      ((places_perm count ds).nodup_iff.mpr (List.nodup_finRange count))
      fun i => (places_perm count ds).mem_iff.mpr (List.mem_finRange i))

theorem getElem?_places (count : Nat) (ds : Draws) (i : Fin count) :
    (places count ds)[(i : Nat)]? = some (order count ds i) := by
  have hi : (i : Nat) < (places count ds).length := by
    rw [length_places]
    exact i.isLt
  exact List.getElem?_eq_getElem hi

theorem getElem?_shuffle {xs : List α} {count : Nat} (h : xs.length = count) (ds : Draws)
    (i : Fin count) : (shuffle xs ds).1[(i : Nat)]? = xs[(order count ds i : Nat)]? := by
  subst h
  rw [shuffle_eq, List.getElem?_map, getElem?_places, Option.map_some, List.get_eq_getElem,
    List.getElem?_eq_getElem]

end Shuffle

end QuizService
