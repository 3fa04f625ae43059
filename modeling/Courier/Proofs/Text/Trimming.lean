import Courier.Text.Lowercase
import Mathlib.Data.List.DropRight

/-!
# Trimming

What is left of a text without the blanks at both ends, and when that is a certain word in whatever
case.
-/

namespace Courier.Text

set_option autoImplicit false

def Blank (cs : List Char) : Prop := ∀ c ∈ cs, whitespace.contains c = true

/-- There are no blanks in a word. -/
def Word (cs : List Char) : Prop := ∀ c ∈ cs, whitespace.contains c = false

theorem toList_trim (s : String) : (trim s).toList =
    (s.toList.dropWhile whitespace.contains).rdropWhile whitespace.contains :=
  String.toList_ofList

theorem Word.dropWhile {cs : List Char} (sound : Word cs) :
    cs.dropWhile whitespace.contains = cs := by
  cases cs with
  | nil => rfl
  | cons c cs =>
    exact List.dropWhile_cons_of_neg (Bool.eq_false_iff.mp (sound c List.mem_cons_self))

theorem Word.rdropWhile_append {word after : List Char} (sound : Word word) (blank : Blank after) :
    (word ++ after).rdropWhile whitespace.contains = word := by
  have backwards : Word word.reverse := fun c mem => sound c (List.mem_reverse.mp mem)
  have behind : Blank after.reverse := fun c mem => blank c (List.mem_reverse.mp mem)
  rw [List.rdropWhile, List.reverse_append, List.dropWhile_append_of_pos behind,
    backwards.dropWhile, List.reverse_reverse]

/-- Blanks around a word are trimmed. -/
theorem trim_of_blank {s : String} {before word after : List Char} (sound : Word word)
    (blank : Blank before) (blank' : Blank after) (whole : s.toList = before ++ word ++ after) :
    (trim s).toList = word := by
  rw [toList_trim, whole, List.append_assoc, List.dropWhile_append_of_pos blank]
  cases word with
  | nil => rw [List.nil_append, List.dropWhile_eq_nil_iff.mpr blank', List.rdropWhile_nil]
  | cons c cs =>
    have first := Bool.eq_false_iff.mp (sound c List.mem_cons_self)
    rw [List.cons_append, List.dropWhile_cons_of_neg first]
    exact sound.rdropWhile_append blank'

theorem exists_trim (s : String) :
    ∃ before after, Blank before ∧ Blank after ∧ s.toList = before ++ (trim s).toList ++ after := by
  refine ⟨s.toList.takeWhile whitespace.contains,
    (s.toList.dropWhile whitespace.contains).rtakeWhile whitespace.contains,
    fun c => List.mem_takeWhile_imp, fun c => List.mem_rtakeWhile_imp, ?_⟩
  rw [toList_trim, List.append_assoc, List.rdropWhile_append_rtakeWhile,
    List.takeWhile_append_dropWhile]

/-- A small letter. -/
def Letter (c : Char) : Prop := 97 ≤ c.toNat ∧ c.toNat ≤ 122

theorem not_blank_of_range {n : Nat} (range : 65 ≤ n ∧ n ≤ 90 ∨ 97 ≤ n ∧ n ≤ 122) :
    whitespace.mem n = false := by
  have all : ∀ n < 123, 65 ≤ n ∧ n ≤ 90 ∨ 97 ≤ n ∧ n ≤ 122 → whitespace.mem n = false := by
    decide
  exact all n (by omega) range

/-- A letter is not blank, whichever case it has. -/
theorem not_blank_of_toLower {c : Char} (letter : Letter c.toLower) :
    whitespace.contains c = false := by
  apply not_blank_of_range
  unfold Char.toLower at letter
  split at letter
  · rename_i capital
    exact .inl ⟨UInt32.le_iff_toNat_le.mp capital.1, UInt32.le_iff_toNat_le.mp capital.2⟩
  · exact .inr letter

/-- A text comes down to a word if it is that word in some case, with blanks around. -/
theorem trimmed_iff {s : String} {word : List Char}
    (letters : ∀ c ∈ word, Letter c) :
    (asciiLower (trim s)).toList = word ↔ ∃ before spelled after,
      s.toList = before ++ spelled ++ after ∧ Blank before ∧ Blank after ∧
        spelled.map Char.toLower = word := by
  rw [asciiLower, String.toList_map]
  constructor
  · intro lower
    obtain ⟨before, after, blank, blank', whole⟩ := exists_trim s
    exact ⟨before, _, after, whole, blank, blank', lower⟩
  · rintro ⟨before, spelled, after, whole, blank, blank', rfl⟩
    have sound : Word spelled := by
      intro c mem
      exact not_blank_of_toLower (letters _ (List.mem_map_of_mem mem))
    rw [trim_of_blank sound blank blank' whole]

end Courier.Text
