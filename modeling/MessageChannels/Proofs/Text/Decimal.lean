import MessageChannels.Text.Decimal

/-!
# Numbers read back from their text

The text that is written for an integer is read as that integer by every range that holds it, so a
number that travels as an attribute survives being written and read any number of times.
-/

set_option autoImplicit false

namespace MessageChannels.Decimal

/-- The characters of a natural number: its digits to the base of ten. -/
theorem toList_toString_nat (n : Nat) : (toString n).toList = Nat.toDigits 10 n := by
  rw [Nat.toString_eq_ofList_toDigits, String.toList_ofList]

/-- A number above zero is written without leading zeros. -/
theorem head?_toDigits_ne_zero {n : Nat} (positive : 0 < n) :
    (Nat.toDigits 10 n).head? ≠ some '0' := by
  induction n using Nat.strongRecOn with
  | ind n ih =>
    rw [Nat.toDigits_eq_if (by decide)]
    split
    · next small =>
      have digit : ∀ d < 10, 0 < d → d.digitChar ≠ '0' := by decide
      exact fun e => digit n small positive (Option.some.inj e)
    · have front := ih (n / 10) (by omega) (by omega)
      obtain ⟨c, cs, h⟩ := List.exists_cons_of_ne_nil (Nat.toDigits_ne_nil (n := n / 10) (b := 10))
      rw [h] at front ⊢
      exact front

theorem isDigit_of_mem_toString {n : Nat} {c : Char} (h : c ∈ (toString n).toList) :
    c.isDigit = true := by
  rw [toList_toString_nat] at h
  exact Nat.isDigit_of_mem_toDigits (by decide) (by decide) h

theorem digit?_of_isDigit {c : Char} (h : c.isDigit = true) :
    digit? c = some (c.toNat - '0'.toNat) := by
  simp only [Char.isDigit, Bool.and_eq_true, decide_eq_true_eq] at h
  exact if_pos h

theorem toNat_of_isDigit {c : Char} (h : c.isDigit = true) : 48 ≤ c.toNat ∧ c.toNat ≤ 57 := by
  simp only [Char.isDigit, Bool.and_eq_true, decide_eq_true_eq, ge_iff_le,
    UInt32.le_iff_toNat_le] at h
  exact h

/-- Digits denote what they do to the base of ten. -/
theorem digits?_eq {cs : List Char} (h : ∀ c ∈ cs, c.isDigit = true) (n : Nat) :
    digits? n cs = some (Nat.ofDigitChars 10 cs n) := by
  induction cs generalizing n with
  | nil => rfl
  | cons c cs ih =>
    obtain ⟨hc, hcs⟩ := List.forall_mem_cons.1 h
    rw [digits?, digit?_of_isDigit hc, Nat.ofDigitChars_cons]
    exact ih hcs _

theorem natural?_toString (n : Nat) : natural? (toString n).toList = some n := by
  have digits : digits? 0 (toString n).toList = some n := by
    rw [digits?_eq (fun _ => isDigit_of_mem_toString), toList_toString_nat,
      Nat.ofDigitChars_ten_toDigits]
  unfold natural?
  split
  · next empty =>
    rw [toList_toString_nat] at empty
    exact absurd empty Nat.toDigits_ne_nil
  · exact digits

/-- A number begins with a digit, not with a sign. -/
theorem head?_toString_ne {n : Nat} {c : Char} (sign : c.isDigit = false) :
    (toString n).toList.head? ≠ some c := by
  intro h
  have hc := isDigit_of_mem_toString (List.mem_of_mem_head? h)
  rw [sign] at hc
  cases hc

theorem integer?_toString_nat (n : Nat) : integer? (toString n).toList = some (n : Int) := by
  have plus : (toString n).toList.head? ≠ some '+' := head?_toString_ne (by decide)
  have minus : (toString n).toList.head? ≠ some '-' := head?_toString_ne (by decide)
  unfold integer?
  split
  · next heq =>
    rw [heq] at plus
    exact absurd rfl plus
  · next heq =>
    rw [heq] at minus
    exact absurd rfl minus
  · rw [natural?_toString]
    rfl

theorem toList_toString_negSucc (n : Nat) :
    (toString (Int.negSucc n)).toList = '-' :: (toString (n + 1)).toList := by
  show ("-" ++ toString (n + 1)).toList = _
  rw [String.toList_append]
  rfl

theorem integer?_toString (n : Int) : integer? (toString n).toList = some n := by
  cases n with
  | ofNat n => exact integer?_toString_nat n
  | negSucc n =>
    rw [toList_toString_negSucc]
    show (natural? (toString (n + 1)).toList).map _ = _
    rw [natural?_toString]
    rfl

/-- Only a negative number begins with a minus sign. -/
theorem neg_of_head?_toString {n : Int} (h : (toString n).toList.head? = some '-') : n < 0 := by
  cases n with
  | ofNat n => exact absurd h (head?_toString_ne (by decide))
  | negSucc n => exact Int.negSucc_lt_zero n

/-- **A number of a range is read back from its text.** -/
theorem read?_toString {r : Range} {n : Int} (least : r.least ≤ n) (greatest : n ≤ r.greatest) :
    read? r (toString n) = some n := by
  have signed : ¬ ((toString n).toList.head? = some '-' ∧ r.admitsMinus = false) := by
    rintro ⟨hminus, hunsigned⟩
    have hneg := neg_of_head?_toString hminus
    have : ¬ r.least < 0 := of_decide_eq_false hunsigned
    omega
  rw [read?, if_neg signed, integer?_toString]
  exact if_pos ⟨least, greatest⟩

end MessageChannels.Decimal
