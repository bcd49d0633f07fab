import Mathlib.Data.Nat.Notation
import Mathlib.Data.Vector.Basic
import Mathlib.Tactic.SplitIfs

/-!
# C byte buffers

`Buffer n` is the C array `uint8_t[n]`: its length is part of its type, so a copy that would leave
the array cannot be written.  `memset`, `memcpy` and `compareArray` are the library calls a
C program makes on such arrays; `memcpy` takes the two bounds as proof arguments, which the
constants of a call discharge by evaluation.

Everything is stated byte by byte (`getElem_memcpy`, `getElem_memset`): two buffers are equal when
their bytes are, and what is left of a chain of copies is a case split on the index.
-/

namespace CLib

/-- The C array `uint8_t[n]`. -/
abbrev Buffer (n : ℕ) : Type := Vector UInt8 n

variable {n m : ℕ}

/-- `memset(dst, c, sizeof(dst))`. -/
def memset (_dst : Buffer n) (c : UInt8) : Buffer n := Vector.replicate n c

/-- `memcpy(&dst[d], &src[s], len)`, the rest of `dst` kept. -/
def memcpy (dst : Buffer n) (d : ℕ) (src : Buffer m) (s len : ℕ)
    (_hd : d + len ≤ n := by decide) (_hs : s + len ≤ m := by decide) : Buffer n :=
  Vector.ofFn fun i => if h : d ≤ i ∧ i < d + len then src[i - d + s] else dst[i]

/-- A loop over two arrays of the same size that answers `1` at the first byte that differs and
`0` when there is none. -/
def compareArray (a b : Buffer n) : UInt8 :=
  if (List.finRange n).any fun i => a[i] ≠ b[i] then 1 else 0

/-- The array with every byte zero. -/
def zeros (n : ℕ) : Buffer n := Vector.replicate n 0

/-! ### Byte by byte -/

@[simp]
theorem getElem_memset (dst : Buffer n) (c : UInt8) (i : ℕ) (hi : i < n) :
    (memset dst c)[i] = c := by
  simp [memset]

theorem getElem_memcpy (dst : Buffer n) (d : ℕ) (src : Buffer m) (s len : ℕ)
    (hd : d + len ≤ n) (hs : s + len ≤ m) (i : ℕ) (hi : i < n) :
    (memcpy dst d src s len hd hs)[i] =
      if h : d ≤ i ∧ i < d + len then src[i - d + s] else dst[i] := by
  simp [memcpy]

@[simp]
theorem getElem_zeros (i : ℕ) (hi : i < n) : (zeros n)[i] = 0 := by
  simp [zeros]

/-- A copy over the whole destination is the source slice. -/
theorem memcpy_full (dst : Buffer n) (src : Buffer m) (s : ℕ) (hd : 0 + n ≤ n)
    (hs : s + n ≤ m) :
    memcpy dst 0 src s n hd hs = Vector.ofFn fun i => src[i + s] := by
  refine Vector.ext fun i hi => ?_
  rw [getElem_memcpy, Vector.getElem_ofFn, dif_pos ⟨Nat.zero_le i, by omega⟩]
  rfl

/-- `compareArray` answers `0` exactly on equal arrays. -/
theorem compareArray_eq_zero {a b : Buffer n} : compareArray a b = 0 ↔ a = b := by
  unfold compareArray
  constructor
  · intro h
    refine Vector.ext fun i hi => ?_
    by_contra hne
    rw [if_pos (List.any_eq_true.mpr ⟨⟨i, hi⟩, List.mem_finRange _, by simpa using hne⟩)] at h
    exact absurd h (by decide)
  · rintro rfl
    rw [if_neg (by simp)]

end CLib
