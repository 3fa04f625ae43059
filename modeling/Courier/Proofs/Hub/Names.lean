import Courier.Hub.Basic

/-!
# Unique names

The hub numbers the names it gives out, and no two numbers have the same text.
-/

namespace Courier

set_option autoImplicit false

/-- The number that a digit stands for. -/
def hexValue (c : Char) : Nat := if c.isDigit then c.toNat - 48 else c.toNat - 87

/-- The number that a text of digits stands for. -/
def hexNumber (digits : List Char) : Nat := digits.foldl (fun n c => 16 * n + hexValue c) 0

theorem hexValue_digitChar {n : Nat} (h : n < 16) : hexValue n.digitChar = n := by
  have small : ∀ n : Fin 16, hexValue (Nat.digitChar n) = n := by decide
  exact small ⟨n, h⟩

theorem hexNumber_append_singleton (digits : List Char) (c : Char) :
    hexNumber (digits ++ [c]) = 16 * hexNumber digits + hexValue c := by
  simp [hexNumber]

theorem hexNumber_toDigits (n : Nat) : hexNumber (Nat.toDigits 16 n) = n := by
  induction n using Nat.strongRecOn with
  | ind n ih =>
    by_cases small : n < 16
    · rw [Nat.toDigits_of_lt_base small]
      simpa [hexNumber] using hexValue_digitChar small
    · have least : hexValue (n % 16).digitChar = n % 16 := hexValue_digitChar (by omega)
      rw [Nat.toDigits_of_base_le (by decide) (by omega), hexNumber_append_singleton,
        ih (n / 16) (by omega), least]
      omega

/-- Leading zeros do not count. -/
theorem hexNumber_replicate_append (k : Nat) (digits : List Char) :
    hexNumber (List.replicate k '0' ++ digits) = hexNumber digits := by
  induction k with
  | zero => rfl
  | succ k ih =>
    rw [List.replicate_succ, List.cons_append, ← ih]
    rfl

theorem uniqueName_injective {n m : Nat} (h : uniqueName n = uniqueName m) : n = m := by
  have digits := String.ofList_injective (String.append_right_inj _ |>.mp h)
  have number := congrArg hexNumber digits
  rwa [hexNumber_replicate_append, hexNumber_replicate_append, hexNumber_toDigits,
    hexNumber_toDigits] at number

end Courier
