import MessageChannels.Proofs.Text.Decimal

/-!
# Which texts are integers

The texts that denote an integer are an optional sign and one or more digits, and nothing else:
`Denotes` gives the texts with what they denote, leading zeros and a plus sign included. Reading
accepts exactly these, up to the limits of the range (`read?_eq_some_iff`). What is written is
canonical: it has neither.
-/

set_option autoImplicit false

namespace MessageChannels.Decimal

/-- One or more ASCII digits. -/
def IsDigits (cs : List Char) : Prop := cs ≠ [] ∧ ∀ c ∈ cs, c.isDigit = true

/-- Characters that denote an integer: digits to the base of ten, after an optional sign. -/
inductive Denotes : List Char → Int → Prop where
  | unsigned {cs : List Char} (digits : IsDigits cs) :
    Denotes cs (Nat.ofDigitChars 10 cs 0 : Nat)
  | plus {cs : List Char} (digits : IsDigits cs) :
    Denotes ('+' :: cs) (Nat.ofDigitChars 10 cs 0 : Nat)
  | minus {cs : List Char} (digits : IsDigits cs) :
    Denotes ('-' :: cs) (-(Nat.ofDigitChars 10 cs 0 : Nat))

/-- Characters of an integer without a plus sign, without leading zeros, and without a minus sign
before zero. -/
inductive IsCanonical : List Char → Prop where
  | zero : IsCanonical ['0']
  | positive {c : Char} {cs : List Char} (digits : IsDigits (c :: cs)) (leading : c ≠ '0') :
    IsCanonical (c :: cs)
  | negative {c : Char} {cs : List Char} (digits : IsDigits (c :: cs)) (leading : c ≠ '0') :
    IsCanonical ('-' :: c :: cs)

variable {cs : List Char} {n m : Nat} {v : Int}

/-! ## Reading -/

/-- Digits begin with no sign. -/
theorem IsDigits.head_ne {c : Char} (digits : IsDigits (c :: cs)) : c ≠ '+' ∧ c ≠ '-' := by
  have digit := digits.2 c List.mem_cons_self
  constructor
  · rintro rfl
    cases digit
  · rintro rfl
    cases digit

theorem isDigit_of_digit? {c : Char} {d : Nat} (read : digit? c = some d) : c.isDigit = true := by
  unfold digit? at read
  split at read
  · next within =>
    simp only [Char.isDigit, Bool.and_eq_true, decide_eq_true_eq]
    exact within
  · cases read

theorem isDigit_of_digits? (read : digits? n cs = some m) : ∀ c ∈ cs, c.isDigit = true := by
  induction cs generalizing n with
  | nil =>
    intro c mem
    cases mem
  | cons c cs ih =>
    rw [digits?] at read
    split at read
    · next d digit => exact List.forall_mem_cons.2 ⟨isDigit_of_digit? digit, ih read⟩
    · cases read

theorem digits?_eq_some_iff :
    digits? n cs = some m ↔ (∀ c ∈ cs, c.isDigit = true) ∧ Nat.ofDigitChars 10 cs n = m := by
  constructor
  · intro read
    have digits := isDigit_of_digits? read
    rw [digits?_eq digits, Option.some.injEq] at read
    exact ⟨digits, read⟩
  · rintro ⟨digits, rfl⟩
    exact digits?_eq digits n

theorem natural?_eq_some_iff :
    natural? cs = some m ↔ IsDigits cs ∧ Nat.ofDigitChars 10 cs 0 = m := by
  unfold natural? IsDigits
  split
  · simp
  · next nonempty =>
    rw [digits?_eq_some_iff, and_assoc]
    constructor
    · intro read
      exact ⟨nonempty, read⟩
    · exact And.right

/-- **Characters are read as the integer that they denote.** -/
theorem integer?_eq_some_iff : integer? cs = some v ↔ Denotes cs v := by
  constructor
  · intro read
    unfold integer? at read
    split at read
    · obtain ⟨n, natural, rfl⟩ := Option.map_eq_some_iff.1 read
      obtain ⟨digits, rfl⟩ := natural?_eq_some_iff.1 natural
      exact .plus digits
    · obtain ⟨n, natural, rfl⟩ := Option.map_eq_some_iff.1 read
      obtain ⟨digits, rfl⟩ := natural?_eq_some_iff.1 natural
      exact .minus digits
    · obtain ⟨n, natural, rfl⟩ := Option.map_eq_some_iff.1 read
      obtain ⟨digits, rfl⟩ := natural?_eq_some_iff.1 natural
      exact .unsigned digits
  · intro denotes
    cases denotes with
    | plus digits =>
      rw [integer?, natural?_eq_some_iff.2 ⟨digits, rfl⟩]
      rfl
    | minus digits =>
      rw [integer?, natural?_eq_some_iff.2 ⟨digits, rfl⟩]
      rfl
    | unsigned digits =>
      -- Digits that begin with a sign are none.
      unfold integer?
      split
      · exact absurd rfl digits.head_ne.1
      · exact absurd rfl digits.head_ne.2
      · rw [natural?_eq_some_iff.2 ⟨digits, rfl⟩]
        rfl

/-- **A signed range reads the texts that denote one of its integers**, and no others. -/
theorem read?_eq_some_iff {r : Range} (signed : r.admitsMinus = true) {text : String} :
    read? r text = some v ↔ Denotes text.toList v ∧ r.least ≤ v ∧ v ≤ r.greatest := by
  have admitted : ¬ (text.toList.head? = some '-' ∧ r.admitsMinus = false) := by
    rintro ⟨_, unsigned⟩
    rw [signed] at unsigned
    cases unsigned
  rw [read?, if_neg admitted, ← integer?_eq_some_iff]
  cases integer? text.toList with
  | none => simp
  | some w =>
    dsimp only
    constructor
    · intro read
      split at read
      · next within =>
        obtain rfl := Option.some.inj read
        exact ⟨rfl, within⟩
      · cases read
    · rintro ⟨same, within⟩
      obtain rfl := Option.some.inj same
      rw [if_pos within]

/-! ## Writing -/

theorem isDigits_toString (n : Nat) : IsDigits (toString n).toList := by
  constructor
  · rw [toList_toString_nat]
    exact Nat.toDigits_ne_nil
  · intro c mem
    exact isDigit_of_mem_toString mem

/-- A number above zero is written in digits of which the first is not zero. -/
theorem exists_leading (positive : 0 < n) :
    ∃ c cs, (toString n).toList = c :: cs ∧ IsDigits (c :: cs) ∧ c ≠ '0' := by
  have digits := isDigits_toString n
  obtain ⟨c, cs, split⟩ := List.exists_cons_of_ne_nil digits.1
  rw [split] at digits
  refine ⟨c, cs, split, digits, ?_⟩
  rintro rfl
  rw [toList_toString_nat] at split
  exact head?_toDigits_ne_zero positive (congrArg List.head? split)

/-- **Integers are written canonically.** -/
theorem isCanonical_toString (v : Int) : IsCanonical (toString v).toList := by
  cases v with
  | ofNat n =>
    show IsCanonical (toString n).toList
    rcases Nat.eq_zero_or_pos n with rfl | positive
    · rw [toList_toString_nat]
      exact .zero
    · obtain ⟨c, cs, split, digits, leading⟩ := exists_leading positive
      rw [split]
      exact .positive digits leading
  | negSucc n =>
    obtain ⟨c, cs, split, digits, leading⟩ := exists_leading (Nat.succ_pos n)
    rw [toList_toString_negSucc, split]
    exact .negative digits leading

end MessageChannels.Decimal
