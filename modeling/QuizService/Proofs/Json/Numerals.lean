import QuizService.Json.Numeral
import QuizService.Json.Printer

namespace QuizService.Json.Numeral

variable {n : Numeral} {ds rest : List Char}

def Ends : List Char → Prop
  | [] => True
  | c :: _ => isDigit c = false ∧ c ≠ '.' ∧ c ≠ 'e' ∧ c ≠ 'E'

def StopsDigits : List Char → Prop
  | [] => True
  | c :: _ => isDigit c = false

theorem ends_blanks (n : Nat) : Ends (List.replicate n ' ') := by
  cases n with
  | zero => trivial
  | succ n => exact ⟨by decide, by decide, by decide, by decide⟩

theorem Ends.stopsDigits (h : Ends rest) : StopsDigits rest := by
  cases rest with
  | nil => trivial
  | cons c rest => exact h.1

theorem takeWhile_digits (hds : ∀ c ∈ ds, isDigit c = true) (hr : StopsDigits rest) :
    (ds ++ rest).takeWhile isDigit = ds := by
  rw [List.takeWhile_append_of_pos hds]
  cases rest with
  | nil => simp
  | cons c rest =>
    have hc : isDigit c = false := hr
    simp [hc]

theorem dropWhile_digits (hds : ∀ c ∈ ds, isDigit c = true) (hr : StopsDigits rest) :
    (ds ++ rest).dropWhile isDigit = rest := by
  rw [List.dropWhile_append_of_pos hds]
  cases rest with
  | nil => rfl
  | cons c rest =>
    have hc : isDigit c = false := hr
    simp [hc]

def IsWhole : List Char → Prop
  | [] => False
  | c :: cs => (∀ d ∈ c :: cs, isDigit d = true) ∧ (c = '0' → cs = [])

theorem IsWhole.isDigit (h : IsWhole ds) : ∀ c ∈ ds, Numeral.isDigit c = true := by
  cases ds with
  | nil => exact h.elim
  | cons c cs => exact h.1

structure Valid (n : Numeral) : Prop where
  whole : IsWhole n.whole
  fraction : ∀ c ∈ n.fraction, isDigit c = true
  exponent : ∀ e ∈ n.exponent, e.2 ≠ [] ∧ ∀ c ∈ e.2, isDigit c = true

def fractionText : List Char → List Char
  | [] => []
  | c :: cs => '.' :: c :: cs

def exponentText : Option (Bool × List Char) → List Char
  | none => []
  | some (minus, ds) => 'e' :: (if minus then '-' else '+') :: ds

def text (n : Numeral) : List Char :=
  (if n.negative then ['-'] else []) ++
    (n.whole ++ (fractionText n.fraction ++ exponentText n.exponent))

theorem readDigits?_append (hne : ds ≠ []) (hds : ∀ c ∈ ds, isDigit c = true)
    (hr : StopsDigits rest) : readDigits? (ds ++ rest) = some (ds, rest) := by
  rw [readDigits?, takeWhile_digits hds hr, dropWhile_digits hds hr]
  cases ds with
  | nil => contradiction
  | cons c cs => rfl

theorem readWhole?_append (h : IsWhole ds) (hr : StopsDigits rest) :
    readWhole? (ds ++ rest) = some (ds, rest) := by
  simp only [readWhole?, takeWhile_digits h.isDigit hr, dropWhile_digits h.isDigit hr]
  cases ds with
  | nil => exact h.elim
  | cons c cs =>
    split
    · contradiction
    · rename_i heq
      obtain ⟨rfl, rfl⟩ := List.cons.inj heq
      exact absurd (h.2 rfl) nofun
    · rfl

theorem readExponent?_append {e : Option (Bool × List Char)}
    (he : ∀ x ∈ e, x.2 ≠ [] ∧ ∀ c ∈ x.2, isDigit c = true) (hr : Ends rest) :
    readExponent? (exponentText e ++ rest) = some (e, rest) := by
  cases e with
  | none =>
    cases rest with
    | nil => rfl
    | cons c rest => simp [exponentText, readExponent?, hr.2.2.1, hr.2.2.2]
  | some x =>
    obtain ⟨minus, ds⟩ := x
    obtain ⟨hne, hds⟩ := he _ rfl
    have hread := readDigits?_append hne hds hr.stopsDigits
    cases minus <;> simp [exponentText, readExponent?, hread]

theorem stopsDigits_exponentText (e : Option (Bool × List Char)) (hr : Ends rest) :
    StopsDigits (exponentText e ++ rest) := by
  cases e with
  | none => exact hr.stopsDigits
  | some x => exact rfl

theorem readFraction?_append (hds : ∀ c ∈ ds, isDigit c = true) (e : Option (Bool × List Char))
    (hr : Ends rest) :
    readFraction? (fractionText ds ++ (exponentText e ++ rest)) =
      some (ds, exponentText e ++ rest) := by
  cases ds with
  | nil =>
    cases e with
    | none =>
      cases rest with
      | nil => rfl
      | cons c rest => simp [fractionText, exponentText, readFraction?, hr.2.1]
    | some x => rfl
  | cons c cs => exact readDigits?_append nofun hds (stopsDigits_exponentText e hr)

theorem stopsDigits_fractionText (ds : List Char) (e : Option (Bool × List Char))
    (hr : Ends rest) : StopsDigits (fractionText ds ++ (exponentText e ++ rest)) := by
  cases ds with
  | nil => exact stopsDigits_exponentText e hr
  | cons c cs => exact rfl

theorem text_head (h : n.Valid) :
    ∃ c cs, n.text = c :: cs ∧ (c = '-' ∨ isDigit c = true) := by
  have hwhole := h.whole
  unfold text
  cases n.negative with
  | true => exact ⟨_, _, rfl, .inl rfl⟩
  | false =>
    cases hw : n.whole with
    | nil => simp [hw, IsWhole] at hwhole
    | cons c cs =>
      rw [hw] at hwhole
      exact ⟨c, _, rfl, .inr (hwhole.1 c List.mem_cons_self)⟩

theorem read?_text (h : n.Valid) (hr : Ends rest) : read? (n.text ++ rest) = some (n, rest) := by
  have hwhole := readWhole?_append h.whole (stopsDigits_fractionText n.fraction n.exponent hr)
  have hfraction := readFraction?_append h.fraction n.exponent hr
  have hexponent := readExponent?_append h.exponent hr
  obtain ⟨negative, whole, fraction, exponent⟩ := n
  cases negative with
  | true => simp [text, read?, hwhole, hfraction, hexponent]
  | false =>
    cases whole with
    | nil => exact h.whole.elim
    | cons c cs =>
      have hc : c ≠ '-' := by
        rintro rfl
        exact absurd (h.whole.1 _ List.mem_cons_self) (by decide)
      simp only [List.cons_append] at hwhole
      simp [text, read?, hc, hwhole, hfraction, hexponent]

theorem read?_text_alone (h : n.Valid) : read? n.text = some (n, []) := by
  have hread : read? (n.text ++ []) = some (n, []) := read?_text h trivial
  rwa [List.append_nil] at hread

section Digits

open Decimal (digits digitChar)

theorem isDigit_digitChar : ∀ d < 10, isDigit (digitChar d) = true := by
  decide

theorem digitChar_ne_zero : ∀ d < 10, d ≠ 0 → digitChar d ≠ '0' := by
  decide

theorem isDigit_digits (n : Nat) : ∀ c ∈ digits n, isDigit c = true := by
  intro c hc
  obtain ⟨d, hd, rfl⟩ := QuizService.Decimal.exists_of_mem_digits hc
  exact isDigit_digitChar d hd

theorem digits_head (n : Nat) : ∃ c cs, digits n = c :: cs ∧ (n ≠ 0 → c ≠ '0') := by
  induction n using QuizService.Decimal.digits.induct with
  | case1 n h =>
    rw [digits, if_pos h]
    exact ⟨_, _, rfl, digitChar_ne_zero n h⟩
  | case2 n h ih =>
    obtain ⟨c, cs, hd, hz⟩ := ih
    rw [digits, if_neg h, hd]
    exact ⟨c, _, rfl, fun _ => hz (by omega)⟩

theorem isWhole_digits (n : Nat) : IsWhole (digits n) := by
  obtain ⟨c, cs, hd, hz⟩ := digits_head n
  have hds := isDigit_digits n
  rw [hd] at hds ⊢
  refine ⟨hds, ?_⟩
  rintro rfl
  have hn : n = 0 := Decidable.byContradiction fun hn => hz hn rfl
  rw [hn, digits, if_pos (by decide)] at hd
  exact (List.cons.inj hd).2.symm

theorem isWhole_zero : IsWhole ['0'] :=
  ⟨List.forall_mem_singleton.mpr rfl, fun _ => rfl⟩

theorem isDigit_zeros {k : Nat} : ∀ c ∈ List.replicate k '0', isDigit c = true := by
  intro c hc
  rw [List.eq_of_mem_replicate hc]
  rfl

end Digits

def size (n : Numeral) : Nat :=
  n.whole.length + n.fraction.length + (power n.exponent).natAbs

def IsUnsigned (size : Nat) (cs : List Char) : Prop :=
  ∃ n : Numeral, n.Valid ∧ n.negative = false ∧ cs = n.text ∧ n.size ≤ size

theorem isUnsigned_point {size : Nat} (whole fraction : List Char) (hw : IsWhole whole)
    (hne : fraction ≠ []) (hf : ∀ c ∈ fraction, isDigit c = true)
    (hsize : whole.length + fraction.length ≤ size) :
    IsUnsigned size (whole ++ '.' :: fraction) := by
  refine ⟨⟨false, whole, fraction, none⟩, ⟨hw, hf, nofun⟩, rfl, ?_, hsize⟩
  cases fraction with
  | nil => contradiction
  | cons c cs => simp [text, fractionText, exponentText]

theorem exponentText_eq (e : Int) :
    Decimal.Layout.exponentText e =
      exponentText (some (decide (e < 0), Decimal.digits e.natAbs)) := by
  by_cases he : e < 0 <;> simp [Decimal.Layout.exponentText, exponentText, he]

theorem power_digits (e : Int) : power (some (decide (e < 0), Decimal.digits e.natAbs)) = e := by
  rw [power, Decimal.value_digits]
  by_cases he : e < 0
  · rw [decide_eq_true he, if_pos rfl]
    omega
  · rw [decide_eq_false he, if_neg Bool.false_ne_true]
    omega

theorem isUnsigned_positional {c : Char} {cs : List Char} (hz : c ≠ '0')
    (hds : ∀ d ∈ c :: cs, isDigit d = true) (e : Int) :
    IsUnsigned ((c :: cs).length + e.natAbs + 2) (Decimal.Layout.positionalText (c :: cs) e) := by
  cases e with
  | negSucc k =>
    refine isUnsigned_point ['0'] (List.replicate k '0' ++ c :: cs) isWhole_zero (by simp) ?_ ?_
    · intro d hd
      rcases List.mem_append.mp hd with hd | hd
      · exact isDigit_zeros d hd
      · exact hds d hd
    · rw [List.length_append, List.length_replicate, List.length_singleton]
      omega
  | ofNat k =>
    change IsUnsigned ((c :: cs).length + k + 2) _
    simp only [Decimal.Layout.positionalText]
    split
    · have hwhole : ∀ zeros, ∀ d ∈ c :: cs ++ List.replicate zeros '0', isDigit d = true := by
        intro zeros d hd
        rcases List.mem_append.mp hd with hd | hd
        · exact hds d hd
        · exact isDigit_zeros d hd
      have hzeros : IsWhole (c :: cs ++ List.replicate (k + 1 - (c :: cs).length) '0') :=
        ⟨hwhole _, fun h => absurd h hz⟩
      apply isUnsigned_point _ ['0'] hzeros nofun isWhole_zero.1
      rw [List.length_append, List.length_replicate, List.length_singleton]
      omega
    · rename_i hlength
      have hwhole : ∀ d ∈ (c :: cs).take (k + 1), isDigit d = true :=
        fun d hd => hds d (List.mem_of_mem_take hd)
      apply isUnsigned_point
      · exact ⟨hwhole, fun h => absurd h hz⟩
      · intro hnil
        have hle := List.drop_eq_nil_iff.mp hnil
        omega
      · exact fun d hd => hds d (List.mem_of_mem_drop hd)
      · rw [← List.length_append, List.take_append_drop]
        omega

theorem isUnsigned_scientific {c : Char} {cs : List Char}
    (hds : ∀ d ∈ c :: cs, isDigit d = true) (e : Int) :
    IsUnsigned ((c :: cs).length + e.natAbs + 2) (Decimal.Layout.scientificText (c :: cs) e) := by
  have hexponent : Decimal.digits e.natAbs ≠ [] := by
    obtain ⟨d, ds, hd, -⟩ := digits_head e.natAbs
    simp [hd]
  have hvalid : Valid ⟨false, [c], cs, some (decide (e < 0), Decimal.digits e.natAbs)⟩ := by
    refine ⟨⟨?_, fun _ => rfl⟩, fun d hd => hds d (List.mem_cons_of_mem c hd), ?_⟩
    · exact List.forall_mem_singleton.mpr (hds c List.mem_cons_self)
    · rintro x ⟨⟩
      exact ⟨hexponent, isDigit_digits _⟩
  refine ⟨_, hvalid, rfl, ?_, ?_⟩
  · cases cs with
    | nil => simp [Decimal.Layout.scientificText, text, fractionText, exponentText_eq]
    | cons d ds => simp [Decimal.Layout.scientificText, text, fractionText, exponentText_eq]
  · simp only [size, power_digits, List.length_cons, List.length_nil]
    omega

theorem isUnsigned_layout (l : Decimal.Layout) (s : Decimal.Scientific) :
    IsUnsigned (s.size + 2) (l.unsigned s) := by
  unfold Decimal.Layout.unsigned
  split
  · exact isUnsigned_point ['0'] ['0'] isWhole_zero nofun isWhole_zero.1 (Nat.le_add_left 2 s.size)
  · rename_i hs
    obtain ⟨c, cs, hd, hz⟩ := digits_head s.coefficient
    have hds := isDigit_digits s.coefficient
    have hsize : s.size =
        (c :: cs).length + (s.scale + ((c :: cs).length : Int) - 1).natAbs := by
      rw [← hd]
      rfl
    rw [hd] at hds ⊢
    rw [hsize]
    dsimp only
    split
    · exact isUnsigned_positional (hz hs) hds _
    · exact isUnsigned_scientific hds _

theorem exists_render (l : Decimal.Layout) {f : Decimal.Format} (x : Decimal.Binary f) :
    ∃ n : Numeral, n.Valid ∧ l.render x = n.text ∧
      n.size ≤ (f.shortest x.magnitude.toMagnitude).size + 2 := by
  obtain ⟨n, hn, hsign, htext, hsize⟩ :=
    isUnsigned_layout l (f.shortest x.magnitude.toMagnitude)
  unfold Decimal.Layout.render
  dsimp only
  rw [htext]
  split
  · refine ⟨{ n with negative := true }, ⟨hn.whole, hn.fraction, hn.exponent⟩, ?_, hsize⟩
    simp [text, hsign]
  · exact ⟨n, hn, rfl, hsize⟩

def ofWhole (n : Whole) : Numeral :=
  ⟨decide (n.val < 0), Decimal.digits n.val.natAbs, [], none⟩

theorem valid_ofWhole (n : Whole) : (ofWhole n).Valid :=
  ⟨isWhole_digits _, nofun, nofun⟩

theorem text_ofWhole (n : Whole) : (ofWhole n).text = Decimal.signed n.val := by
  by_cases hn : n.val < 0 <;>
    simp [ofWhole, text, fractionText, exponentText, Decimal.signed, hn]

theorem value?_ofWhole (n : Whole) : (ofWhole n).value? = some (.whole n) := by
  have hv : (if n.val < 0 then -(n.val.natAbs : Int) else (n.val.natAbs : Int)) = n.val := by
    split <;> omega
  have hz : ¬(n.val < 0 ∧ n.val.natAbs = 0) := by omega
  simp only [ofWhole, value?, Decimal.value_digits, decide_eq_true_eq, if_neg hz, hv]
  simp [Whole.ofInt?, n.least, n.greatest]

def IsPointed (n : Numeral) : Prop :=
  ¬(n.fraction = [] ∧ n.exponent = none)

theorem isPointed_of_mem (hn : n.Valid) (h : '.' ∈ n.text ∨ 'e' ∈ n.text) : n.IsPointed := by
  rintro ⟨hfraction, hexponent⟩
  have hplain : ∀ c ∈ n.text, c = '-' ∨ isDigit c = true := by
    intro c hc
    simp only [text, hfraction, hexponent, fractionText, exponentText, List.append_nil,
      List.mem_append] at hc
    refine hc.imp (fun hsign => ?_) (hn.whole.isDigit c)
    split at hsign
    · exact List.mem_singleton.mp hsign
    · exact absurd hsign List.not_mem_nil
  rcases h with h | h
  · exact absurd (hplain '.' h) (by decide)
  · exact absurd (hplain 'e' h) (by decide)

theorem value?_of_isPointed (h : n.IsPointed) : n.value? = n.double? := by
  unfold value?
  split
  · rename_i hfraction hexponent
    exact absurd ⟨hfraction, hexponent⟩ h
  · rfl

theorem double?_ne_whole (n : Numeral) (w : Whole) : n.double? ≠ some (.whole w) := by
  simp [double?, Option.bind_eq_some_iff]

theorem mem_unsigned (l : Decimal.Layout) (s : Decimal.Scientific) :
    '.' ∈ l.unsigned s ∨ 'e' ∈ l.unsigned s := by
  unfold Decimal.Layout.unsigned
  split
  · exact .inl (by decide)
  · obtain ⟨c, cs, hd, -⟩ := digits_head s.coefficient
    rw [hd]
    dsimp only
    split
    · left
      unfold Decimal.Layout.positionalText
      split
      · split <;> simp
      · simp
    · right
      cases cs <;> simp [Decimal.Layout.scientificText, Decimal.Layout.exponentText]

theorem value?_render_ne_whole (l : Decimal.Layout) {f : Decimal.Format} (x : Decimal.Binary f)
    (w : Whole) : ((read? (l.render x)).bind fun p => p.1.value?) ≠ some (.whole w) := by
  obtain ⟨m, hm, htext, -⟩ := exists_render l x
  have hpointed : m.IsPointed := by
    apply isPointed_of_mem hm
    rw [← htext, Decimal.Layout.render]
    have hbody := mem_unsigned l (f.shortest x.magnitude.toMagnitude)
    split
    · exact hbody.imp (List.mem_cons_of_mem _) (List.mem_cons_of_mem _)
    · exact hbody
  rw [htext, read?_text_alone hm, Option.bind_some, value?_of_isPointed hpointed]
  exact double?_ne_whole m w

theorem exists_numberChars (n : Number) :
    ∃ m : Numeral, m.Valid ∧ numberChars n = m.text := by
  cases n with
  | whole n => exact ⟨_, valid_ofWhole n, (text_ofWhole n).symm⟩
  | double x =>
    obtain ⟨m, hm, htext, -⟩ := exists_render doubleLayout x
    exact ⟨m, hm, htext⟩
  | single x =>
    obtain ⟨m, hm, htext, -⟩ := exists_render singleLayout x
    exact ⟨m, hm, htext⟩

end QuizService.Json.Numeral
