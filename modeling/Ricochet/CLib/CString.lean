import Mathlib.Data.Nat.Notation
import Mathlib.Tactic.SplitIfs

/-!
# C strings in bounded buffers

A `char` buffer is modelled by the string it holds, one character a byte, up to its terminating
`NUL`.  `strlcpy` and `strlcat` are the BSD functions: they never write past `size` bytes and
always leave a terminated string, so at most `size - 1` characters; a `size` of `0` writes nothing.
-/

namespace CLib

/-- What `dst` holds after `strlcpy(dst, src, size)`. -/
def strlcpy (dst src : String) (size : ℕ) : String :=
  if size = 0 then dst else String.ofList (src.toList.take (size - 1))

/-- What `dst` holds after `strlcat(dst, src, size)`. -/
def strlcat (dst src : String) (size : ℕ) : String :=
  if size ≤ dst.length then dst
  else dst ++ String.ofList (src.toList.take (size - 1 - dst.length))

/-- A source that fits together with its `NUL` is copied whole. -/
theorem strlcpy_of_length_lt {dst src : String} {size : ℕ} (h : src.length < size) :
    strlcpy dst src size = src := by
  have hlen : src.toList.length ≤ size - 1 := by
    rw [String.length_toList]
    omega
  rw [strlcpy, if_neg (by omega), List.take_of_length_le hlen, String.ofList_toList]

/-- Without room for a character an empty buffer stays empty. -/
theorem strlcpy_empty_of_lt_two (src : String) {size : ℕ} (h : size < 2) :
    strlcpy "" src size = "" := by
  have hroom : size - 1 = 0 := by omega
  rw [strlcpy, hroom, List.take_zero]
  split_ifs <;> rfl

theorem strlcpy_empty_empty (size : ℕ) : strlcpy "" "" size = "" := by
  rw [strlcpy, String.toList_empty, List.take_nil]
  split_ifs <;> rfl

/-- A text that has been appended to is empty only when it was, and had no room for a character. -/
theorem strlcat_eq_empty_iff {dst src : String} {size : ℕ} (hsrc : src ≠ "") :
    strlcat dst src size = "" ↔ size < 2 ∧ dst = "" := by
  have hchars : src.toList ≠ [] := fun hnil =>
    hsrc (String.toList_inj.mp (hnil.trans String.toList_empty.symm))
  rw [strlcat]
  by_cases hfull : size ≤ dst.length
  · rw [if_pos hfull]
    constructor
    · rintro rfl
      rw [String.length_empty] at hfull
      exact ⟨by omega, rfl⟩
    · exact And.right
  · rw [if_neg hfull, ← String.toList_inj, String.toList_append, String.toList_ofList,
      String.toList_empty, List.append_eq_nil_iff, List.take_eq_nil_iff, String.toList_eq_nil_iff]
    constructor
    · rintro ⟨rfl, hroom | hnil⟩
      · rw [String.length_empty] at hroom
        exact ⟨by omega, rfl⟩
      · exact absurd hnil hchars
    · rintro ⟨hsize, rfl⟩
      exact ⟨rfl, Or.inl (by rw [String.length_empty]; omega)⟩

end CLib
