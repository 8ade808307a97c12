import QuizService.Text.Excerpt

/-!
What an excerpt keeps of a text. No character takes more than four bytes, so the search for the cut
goes back three bytes at most. Main statement: the excerpt of every text exists, and what it keeps
of a text that does not fit is its longest start of whole characters that does.
-/

namespace QuizService.Excerpt

/-- The search goes back from a place to a cut in a number of steps. It steps back only from inside
a character, and there is no step from the start of the text. -/
inductive GoesBack (s : String) : (place steps cut : Nat) → Prop where
  | stop {place : Nat} (hplace : isBetween s place = true) : GoesBack s place 0 place
  | back {place steps cut : Nat} (hplace : isBetween s (place + 1) = false)
    (hrest : GoesBack s place steps cut) : GoesBack s (place + 1) (steps + 1) cut

structure IsLongestStart (room : Nat) (s kept : String) : Prop where
  start : ∃ rest, s = kept ++ rest
  fits : kept.utf8ByteSize ≤ room
  longest : ∀ start rest, s = start ++ rest → start.utf8ByteSize ≤ room →
    ∃ more, kept = start ++ more

variable {s : String} {place steps cut : Nat}

theorem exists_goesBack (h : cut? s place = some cut) : ∃ steps, GoesBack s place steps cut := by
  fun_induction cut? s place with
  | case1 place hplace =>
    cases h
    exact ⟨0, .stop hplace⟩
  | case2 hplace => contradiction
  | case3 place hplace ih =>
    obtain ⟨steps, hrest⟩ := ih h
    exact ⟨steps + 1, .back (Bool.eq_false_iff.mpr hplace) hrest⟩

namespace GoesBack

theorem cut_add_steps (h : GoesBack s place steps cut) : cut + steps = place := by
  induction h with
  | stop hplace => rfl
  | back hplace hrest ih => omega

theorem le_cut (h : GoesBack s place steps cut) {n : Nat} (hn : isBetween s n = true)
    (hle : n ≤ place) : n ≤ cut := by
  induction h with
  | stop hplace => exact hle
  | @back place steps cut hplace hrest ih =>
    have hne : n ≠ place + 1 := by
      rintro rfl
      rw [hplace] at hn
      contradiction
    exact ih (by omega)

end GoesBack

theorem exists_start_near (s : String) {room : Nat} (hroom : room ≤ s.utf8ByteSize) :
    ∃ start rest, s = start ++ rest ∧ start.utf8ByteSize ≤ room ∧
      room ≤ start.utf8ByteSize + 3 := by
  induction s using String.push_induction with
  | empty => exact ⟨"", "", rfl, Nat.zero_le _, Nat.le_add_right_of_le hroom⟩
  | push s c ih =>
    rw [String.utf8ByteSize_push] at hroom
    have hwidth : c.utf8Size ≤ 4 := Char.utf8Size_le_four c
    by_cases hs : room ≤ s.utf8ByteSize
    · obtain ⟨start, rest, rfl, hfits, hnear⟩ := ih hs
      refine ⟨start, rest ++ String.singleton c, ?_, hfits, hnear⟩
      rw [String.push_eq_append, String.append_assoc]
    · -- The room ends in the last character or behind it.
      by_cases hall : room = s.utf8ByteSize + c.utf8Size
      · exact ⟨s.push c, "", String.append_empty.symm, by simp [hall], by simp [hall]⟩
      · exact ⟨s, String.singleton c, String.push_eq_append c, by omega, by omega⟩

theorem GoesBack.steps_le (h : GoesBack s place steps cut) (hplace : place ≤ s.utf8ByteSize) :
    steps ≤ 3 := by
  obtain ⟨start, rest, hs, hfits, hnear⟩ := exists_start_near s hplace
  have hcut := h.le_cut (isBetween_iff.mpr ⟨start, rest, hs, rfl⟩) hfits
  have hsum := h.cut_add_steps
  omega

theorem exists_eq_append_of_le {a b c d : String} (hab : s = a ++ b) (hcd : s = c ++ d)
    (hle : a.utf8ByteSize ≤ c.utf8ByteSize) : ∃ more, c = a ++ more := by
  have hfirst := String.Pos.splits_ofEqAppend hab
  have hsecond := String.Pos.splits_ofEqAppend hcd
  have hpos : String.Pos.ofEqAppend hab ≤ String.Pos.ofEqAppend hcd := by
    rw [String.Pos.le_iff, hfirst.offset_eq_rawEndPos, hsecond.offset_eq_rawEndPos]
    exact hle
  obtain ⟨more, hmore, -⟩ := (hfirst.le_iff_exists_eq_append hsecond).mp hpos
  exact ⟨more, hmore⟩

theorem GoesBack.isLongestStart {kept rest : String} (hs : s = kept ++ rest)
    (h : GoesBack s place steps kept.utf8ByteSize) : IsLongestStart place s kept where
  start := ⟨rest, hs⟩
  fits := Nat.le.intro h.cut_add_steps
  longest start rest' hs' hfits := by
    have hcut := h.le_cut (isBetween_iff.mpr ⟨start, rest', hs', rfl⟩) hfits
    exact exists_eq_append_of_le hs' hs hcut

theorem excerpt_longest (room : Nat) (s : String) :
    excerpt? room s = some (excerpt room s) ∧
      (s.utf8ByteSize ≤ room → excerpt room s = s) ∧
      (room < s.utf8ByteSize → ∃ cut steps kept, cut? s room = some cut ∧
        GoesBack s room steps cut ∧ steps ≤ 3 ∧ before? s cut = some kept ∧
        kept.utf8ByteSize = cut ∧ IsLongestStart room s kept ∧
        (4 ≤ room → room - 4 < kept.utf8ByteSize) ∧
        excerpt room s = kept ++ "… (" ++ String.ofList (Decimal.digits s.utf8ByteSize) ++
          " bytes total)") := by
  refine ⟨excerpt_eq_iff.mp rfl, fun hfits => ?_, fun hroom => ?_⟩
  · exact excerpt_eq_iff.mpr (if_pos hfits)
  · obtain ⟨kept, rest, hs, hcut⟩ := exists_cut? s room
    obtain ⟨steps, hback⟩ := exists_goesBack hcut
    have hsteps := hback.steps_le (Nat.le_of_lt hroom)
    have hsum := hback.cut_add_steps
    exact ⟨_, steps, kept, hcut, hback, hsteps, hs ▸ before?_append kept rest, rfl,
      hback.isLongestStart hs, by omega, excerpt_eq_iff.mpr (excerpt?_of_cut hroom hs hcut)⟩

theorem excerpt_longest_wide :
    excerpt 7 "aé😀" = "aé😀" ∧ excerpt 6 "aé😀" = "aé… (7 bytes total)" ∧
      GoesBack "aé😀" 6 3 3 ∧ IsLongestStart 6 "aé😀" "aé" ∧ 6 - 4 < "aé".utf8ByteSize ∧
      excerpt 0 "é" = "… (2 bytes total)" := by
  obtain ⟨cut, steps, kept, hcut, hback, -, hkept, -, hlongest, hsize, hshown⟩ :=
    (excerpt_longest 6 "aé😀").2.2 (by decide)
  have hcut' : cut? "aé😀" 6 = some 3 := by decide +kernel
  obtain rfl : cut = 3 := Option.some.inj (hcut.symm.trans hcut')
  have hkept' : before? "aé😀" 3 = some "aé" := by decide +kernel
  obtain rfl : kept = "aé" := Option.some.inj (hkept.symm.trans hkept')
  obtain rfl : steps = 3 := Nat.add_left_cancel hback.cut_add_steps
  refine ⟨(excerpt_longest 7 "aé😀").2.1 (by decide), ?_, hback, hlongest, hsize (by decide), ?_⟩
  · rw [hshown]
    decide +kernel
  · obtain ⟨-, -, kept, -, -, -, -, -, hlongest, -, hshown⟩ :=
      (excerpt_longest 0 "é").2.2 (by decide)
    obtain rfl : kept = "" := String.utf8ByteSize_eq_zero_iff.mp (Nat.le_zero.mp hlongest.fits)
    rw [hshown]
    decide +kernel

end QuizService.Excerpt
