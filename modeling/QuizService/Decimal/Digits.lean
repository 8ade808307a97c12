namespace QuizService.Decimal

def digitChar (d : Nat) : Char :=
  Char.ofNat (48 + d)

def digitValue (c : Char) : Nat :=
  c.toNat - 48

def digits (n : Nat) : List Char :=
  if n < 10 then [digitChar n] else digits (n / 10) ++ [digitChar (n % 10)]

def valueFrom (start : Nat) (cs : List Char) : Nat :=
  cs.foldl (fun acc c => acc * 10 + digitValue c) start

def value (cs : List Char) : Nat :=
  valueFrom 0 cs

def signed (n : Int) : List Char :=
  if n < 0 then '-' :: digits n.natAbs else digits n.natAbs

def tenTo (k : Nat) : Nat :=
  Nat.pow 10 k

theorem digitValue_digitChar {d : Nat} (h : d < 10) : digitValue (digitChar d) = d := by
  have h' : ∀ d : Fin 10, digitValue (digitChar d.val) = d.val := by decide
  exact h' ⟨d, h⟩

theorem value_digits (n : Nat) : value (digits n) = n := by
  induction n using digits.induct with
  | case1 n h =>
    rw [digits, if_pos h]
    simp [value, valueFrom, digitValue_digitChar h]
  | case2 n h ih =>
    rw [digits, if_neg h]
    simp only [value, valueFrom, List.foldl_append, List.foldl_cons, List.foldl_nil] at ih ⊢
    rw [ih, digitValue_digitChar (Nat.mod_lt n (by decide))]
    omega

theorem exists_of_mem_digits {n : Nat} {c : Char} (h : c ∈ digits n) :
    ∃ d < 10, c = digitChar d := by
  induction n using digits.induct with
  | case1 n hn =>
    rw [digits, if_pos hn, List.mem_singleton] at h
    exact ⟨n, hn, h⟩
  | case2 n hn ih =>
    rw [digits, if_neg hn, List.mem_append, List.mem_singleton] at h
    rcases h with h | h
    · exact ih h
    · exact ⟨_, Nat.mod_lt n (by decide), h⟩

end QuizService.Decimal
