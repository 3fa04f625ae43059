import Courier.Number.Read
import Mathlib.Data.List.Induction

/-!
# Numerals

The decimal numerals and the integers they stand for, as a grammar. Reading accepts just these texts
and gives their integers, and the decimal text of an integer is a numeral for it.
-/

namespace Courier.Number

set_option autoImplicit false

/-- The character is the decimal digit of value `d`. -/
def Digit (c : Char) (d : Nat) : Prop := d < 10 ∧ c.toNat = '0'.toNat + d

/-- One or more digits, and the number they stand for. -/
inductive Digits : List Char → Nat → Prop
  | one {c : Char} {d : Nat} (digit : Digit c d) : Digits [c] d
  | append {cs : List Char} {n : Nat} {c : Char} {d : Nat} (front : Digits cs n)
      (digit : Digit c d) : Digits (cs ++ [c]) (10 * n + d)

/-- Digits with a sign in front of them or none, and the integer they stand for. -/
inductive Numeral : List Char → Int → Prop
  | unsigned {cs : List Char} {n : Nat} (digits : Digits cs n) : Numeral cs n
  | plus {cs : List Char} {n : Nat} (digits : Digits cs n) : Numeral ('+' :: cs) n
  | minus {cs : List Char} {n : Nat} (digits : Digits cs n) : Numeral ('-' :: cs) (-n)

variable {c : Char} {cs : List Char} {d n : Nat}

theorem isDigit_iff : isDigit c = true ↔ '0'.toNat ≤ c.toNat ∧ c.toNat ≤ '9'.toNat := by
  rw [isDigit, Bool.and_eq_true, decide_eq_true_eq, decide_eq_true_eq]
  rfl

theorem digit_iff : Digit c d ↔ isDigit c = true ∧ c.toNat - '0'.toNat = d := by
  have zero : '0'.toNat = 48 := rfl
  have nine : '9'.toNat = 57 := rfl
  rw [isDigit_iff, Digit, zero, nine]
  omega

theorem digitsValue_append_singleton (cs : List Char) (c : Char) :
    digitsValue (cs ++ [c]) = 10 * digitsValue cs + (c.toNat - '0'.toNat) := by
  rw [digitsValue, List.foldl_append, Nat.mul_comm]
  rfl

theorem Digits.spec (digits : Digits cs n) :
    cs ≠ [] ∧ cs.all isDigit = true ∧ digitsValue cs = n := by
  induction digits with
  | one digit =>
    obtain ⟨decimal, value⟩ := digit_iff.mp digit
    refine ⟨List.cons_ne_nil _ _, by simpa using decimal, ?_⟩
    rw [← value, ← List.nil_append [_], digitsValue_append_singleton]
    exact Nat.zero_add _
  | append front digit ih =>
    obtain ⟨-, decimals, rfl⟩ := ih
    obtain ⟨decimal, rfl⟩ := digit_iff.mp digit
    refine ⟨List.append_ne_nil_of_right_ne_nil _ (List.cons_ne_nil _ _), ?_,
      digitsValue_append_singleton _ _⟩
    rw [List.all_append, decimals, Bool.true_and]
    simpa using decimal

theorem digits_of_all (some : cs ≠ []) (decimals : cs.all isDigit = true) :
    Digits cs (digitsValue cs) := by
  induction cs using List.reverseRecOn with
  | nil => exact absurd rfl some
  | append_singleton cs c ih =>
    rw [List.all_append, Bool.and_eq_true] at decimals
    have digit : Digit c (c.toNat - '0'.toNat) :=
      digit_iff.mpr ⟨by simpa using decimals.2, rfl⟩
    rw [digitsValue_append_singleton]
    by_cases alone : cs = []
    · subst alone
      simpa [digitsValue] using Digits.one digit
    · exact .append (ih alone decimals.1) digit

/-- A sign is not a digit. -/
theorem takeSign_of_digits (digits : Digits cs n) : takeSign cs = (false, cs) := by
  obtain ⟨some, decimals, -⟩ := digits.spec
  unfold takeSign
  split
  · simp [isDigit] at decimals
  · simp [isDigit] at decimals
  · rfl

/-- A sign is taken off where there is one. -/
theorem takeSign_cases (cs : List Char) :
    (∃ rest, cs = '-' :: rest ∧ takeSign cs = (true, rest)) ∨
    (∃ rest, cs = '+' :: rest ∧ takeSign cs = (false, rest)) ∨ takeSign cs = (false, cs) := by
  unfold takeSign
  split
  · exact .inl ⟨_, rfl, rfl⟩
  · exact .inr (.inl ⟨_, rfl, rfl⟩)
  · exact .inr (.inr rfl)

theorem readInteger_of_digits {s : String} {negative : Bool}
    (text : takeSign s.toList = (negative, cs)) (digits : Digits cs n) :
    readInteger s = some (if negative then -(n : Int) else n) := by
  obtain ⟨some, decimals, rfl⟩ := digits.spec
  have accepted : ¬ (cs.isEmpty || !cs.all isDigit) = true := by
    simpa [-List.all_eq_true, decimals] using some
  simp only [readInteger, text]
  rw [if_neg accepted]

theorem digits_of_readInteger {s : String} {i : Int} (read : readInteger s = some i) :
    ∃ n, Digits (takeSign s.toList).2 n ∧
      i = if (takeSign s.toList).1 then -(n : Int) else n := by
  simp only [readInteger] at read
  split at read
  · cases read
  · rename_i accepted
    rw [Bool.or_eq_true, not_or, Bool.not_eq_true', Bool.not_eq_false] at accepted
    exact ⟨_, digits_of_all (by simpa using accepted.1) accepted.2, (Option.some.inj read).symm⟩

theorem numeral_of_readInteger {s : String} {i : Int} (read : readInteger s = some i) :
    Numeral s.toList i := by
  obtain ⟨n, digits, rfl⟩ := digits_of_readInteger read
  obtain ⟨rest, text, taken⟩ | ⟨rest, text, taken⟩ | taken := takeSign_cases s.toList
  · rw [taken] at digits ⊢
    exact text ▸ .minus digits
  · rw [taken] at digits ⊢
    exact text ▸ .plus digits
  · rw [taken] at digits ⊢
    exact .unsigned digits

/-- Reading accepts the numerals and gives the integers they stand for. -/
theorem readInteger_eq_some_iff {s : String} {i : Int} :
    readInteger s = some i ↔ Numeral s.toList i := by
  refine ⟨numeral_of_readInteger, fun numeral => ?_⟩
  generalize text : s.toList = cs at numeral
  cases numeral with
  | unsigned digits =>
    exact readInteger_of_digits ((congrArg takeSign text).trans (takeSign_of_digits digits)) digits
  | plus digits => exact readInteger_of_digits (congrArg takeSign text) digits
  | minus digits => exact readInteger_of_digits (congrArg takeSign text) digits

/-! The decimal text of a number. -/

theorem digit_digitChar (small : d < 10) : Digit d.digitChar d :=
  ⟨small, Nat.toNat_digitChar_of_lt_ten small⟩

theorem digits_toDigits (n : Nat) : Digits (Nat.toDigits 10 n) n := by
  induction n using Nat.strongRecOn with
  | ind n ih =>
    by_cases small : n < 10
    · rw [Nat.toDigits_of_lt_base small]
      exact .one (digit_digitChar small)
    · have last : n % 10 < 10 := Nat.mod_lt _ (by decide)
      have digits := (ih (n / 10) (by omega)).append (digit_digitChar last)
      rw [Nat.div_add_mod] at digits
      rwa [Nat.toDigits_of_base_le (by decide) (by omega)]

theorem toList_toString_ofNat (n : Nat) :
    (toString (Int.ofNat n)).toList = Nat.toDigits 10 n := Nat.toList_repr

theorem toList_toString_negSucc (n : Nat) :
    (toString (Int.negSucc n)).toList = '-' :: Nat.toDigits 10 (n + 1) := by
  rw [Int.toString_eq_repr, Int.repr, String.toList_append, Nat.toList_repr]
  rfl

theorem numeral_toString (i : Int) : Numeral (toString i).toList i := by
  cases i with
  | ofNat n =>
    rw [toList_toString_ofNat]
    exact .unsigned (digits_toDigits n)
  | negSucc n =>
    rw [toList_toString_negSucc]
    exact .minus (digits_toDigits (n + 1))

end Courier.Number
