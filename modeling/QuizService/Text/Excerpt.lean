import QuizService.Decimal.Digits

namespace QuizService.Excerpt

def isBetween (s : String) (place : Nat) : Bool :=
  String.Pos.Raw.isValid s ⟨place⟩

def cut? (s : String) (place : Nat) : Option Nat :=
  if isBetween s place then some place
  else
    match place with
    | 0 => none
    | place + 1 => cut? s place

def before? (s : String) (place : Nat) : Option String :=
  (s.pos? ⟨place⟩).map fun p => (s.sliceTo p).copy

def excerpt? (room : Nat) (s : String) : Option String :=
  if s.utf8ByteSize ≤ room then some s
  else do
    let kept ← before? s (← cut? s room)
    return kept ++ "… (" ++ String.ofList (Decimal.digits s.utf8ByteSize) ++ " bytes total)"

theorem isBetween_iff {s : String} {place : Nat} :
    isBetween s place = true ↔ ∃ kept rest, s = kept ++ rest ∧ place = kept.utf8ByteSize := by
  rw [isBetween, String.Pos.Raw.isValid_eq_true_iff, String.Pos.Raw.isValid_iff_exists_append]
  simp only [String.Pos.Raw.ext_iff, String.byteIdx_rawEndPos]

theorem isBetween_zero (s : String) : isBetween s 0 = true :=
  isBetween_iff.mpr ⟨"", s, String.empty_append.symm, rfl⟩

theorem exists_cut? (s : String) (place : Nat) :
    ∃ kept rest, s = kept ++ rest ∧ cut? s place = some kept.utf8ByteSize := by
  fun_induction cut? s place with
  | case1 place hplace =>
    obtain ⟨kept, rest, hs, hsize⟩ := isBetween_iff.mp hplace
    exact ⟨kept, rest, hs, congrArg some hsize⟩
  | case2 hplace =>
    -- The start of a text is inside no character, so the search never leaves it.
    exact absurd (isBetween_zero s) hplace
  | case3 place hplace ih => exact ih

theorem before?_append (kept rest : String) :
    before? (kept ++ rest) kept.utf8ByteSize = some kept := by
  have hvalid : String.Pos.Raw.IsValid (kept ++ rest) ⟨kept.utf8ByteSize⟩ :=
    String.Pos.Raw.isValid_iff_exists_append.mpr ⟨kept, rest, rfl, rfl⟩
  rw [← String.Pos.Raw.isValidForSlice_toSlice_iff,
    ← String.Pos.Raw.isValidForSlice_eq_true_iff] at hvalid
  rw [before?, String.pos?, String.Slice.pos?, dif_pos hvalid]
  exact congrArg some (String.Pos.Splits.copy_sliceTo_eq ⟨rfl, rfl⟩)

theorem excerpt?_of_cut {room : Nat} {s kept rest : String} (hroom : room < s.utf8ByteSize)
    (hs : s = kept ++ rest) (hcut : cut? s room = some kept.utf8ByteSize) :
    excerpt? room s = some (kept ++ "… (" ++ String.ofList (Decimal.digits s.utf8ByteSize) ++
      " bytes total)") := by
  have hkept : before? s kept.utf8ByteSize = some kept := hs ▸ before?_append kept rest
  rw [excerpt?, if_neg (Nat.not_le.mpr hroom), hcut]
  simp only [Option.bind_eq_bind, Option.bind_some, hkept, Option.pure_def]

theorem isSome_excerpt? (room : Nat) (s : String) : (excerpt? room s).isSome := by
  by_cases hfits : s.utf8ByteSize ≤ room
  · rw [excerpt?, if_pos hfits]
    rfl
  · obtain ⟨kept, rest, hs, hcut⟩ := exists_cut? s room
    rw [excerpt?_of_cut (Nat.not_le.mp hfits) hs hcut]
    rfl

def excerpt (room : Nat) (s : String) : String :=
  (excerpt? room s).get (isSome_excerpt? room s)

theorem excerpt_eq_iff {room : Nat} {s shown : String} :
    excerpt room s = shown ↔ excerpt? room s = some shown := by
  rw [excerpt, ← Option.some_inj, Option.some_get]

end QuizService.Excerpt
