import Mathlib.Data.List.GetD
import Ricochet.CLib.BigEndian

/-!
# Calldata as a sequence of words

The arguments of a contract call are a byte string that a caller hands over in words of 32 bytes.
`byteAt ws p` is byte `p` of the words laid end to end, zero beyond the last one, and
`window ws p n` the `n` bytes from there on.  A value that straddles two words is one window, so a
reader that glues it from two messages is compared with a single slice of the string.

* `toWords` cuts a byte string into words and `bytesOf` lays words end to end again; a window is the
  slice of that string at its position (`window_eq_slice`, `window_toWords`).
* `slice_append_left` and `slice_append_add` find a slice in a string put together from pieces.
-/

namespace Abi

open CLib

/-- A word of calldata. -/
abbrev Word : Type := Buffer 32

/-- Word `i` of the calldata, the zero word beyond its end. -/
def wordAt (ws : List Word) (i : ℕ) : Word := ws.getD i (zeros 32)

/-- Byte `p` of the calldata, zero beyond its end. -/
def byteAt (ws : List Word) (p : ℕ) : UInt8 :=
  (wordAt ws (p / 32))[p % 32]

/-- The `n` bytes of the calldata from byte `p` on. -/
def window (ws : List Word) (p n : ℕ) : Buffer n := Vector.ofFn fun i => byteAt ws (p + i)

/-- A byte string cut into words, the last one filled with zeros. -/
def toWords (l : List UInt8) : List Word :=
  (List.range ((l.length + 31) / 32)).map fun i => Vector.ofFn fun j => l.getD (32 * i + j) 0

/-- The bytes of the words, end to end. -/
def bytesOf (ws : List Word) : List UInt8 := ws.flatMap Vector.toList

/-! ### Words -/

@[simp]
theorem wordAt_nil (i : ℕ) : wordAt [] i = zeros 32 := by simp [wordAt]

@[simp]
theorem wordAt_cons_zero (w : Word) (ws : List Word) : wordAt (w :: ws) 0 = w := rfl

@[simp]
theorem wordAt_cons_succ (w : Word) (ws : List Word) (i : ℕ) :
    wordAt (w :: ws) (i + 1) = wordAt ws i := by simp [wordAt]

theorem wordAt_of_length_le {ws : List Word} {i : ℕ} (h : ws.length ≤ i) :
    wordAt ws i = zeros 32 := by
  rw [wordAt, List.getD_eq_default _ _ h]

theorem wordAt_eq_getElem {ws : List Word} {i : ℕ} (h : i < ws.length) : wordAt ws i = ws[i] := by
  rw [wordAt, List.getD_eq_getElem _ _ h]

theorem wordAt_drop (ws : List Word) (m i : ℕ) : wordAt (ws.drop m) i = wordAt ws (m + i) := by
  simp [wordAt, List.getD_eq_getElem?_getD, List.getElem?_drop]

theorem drop_eq_wordAt_cons {ws : List Word} {i : ℕ} (h : i < ws.length) :
    ws.drop i = wordAt ws i :: ws.drop (i + 1) := by
  rw [wordAt_eq_getElem h, List.drop_eq_getElem_cons h]

/-! ### Bytes -/

theorem byteAt_of_length_le {ws : List Word} {p : ℕ} (h : 32 * ws.length ≤ p) :
    byteAt ws p = 0 := by
  rw [byteAt, wordAt_of_length_le (by omega), getElem_zeros]

@[simp]
theorem byteAt_nil (p : ℕ) : byteAt [] p = 0 := byteAt_of_length_le (by simp)

theorem byteAt_drop (ws : List Word) (m p : ℕ) :
    byteAt (ws.drop m) p = byteAt ws (32 * m + p) := by
  have hdiv : (32 * m + p) / 32 = m + p / 32 := by omega
  have hmod : (32 * m + p) % 32 = p % 32 := by omega
  simp only [byteAt, wordAt_drop, hdiv, hmod]

/-- The bytes of the first word come first. -/
theorem byteAt_cons_of_lt (w : Word) (ws : List Word) {p : ℕ} (h : p < 32) :
    byteAt (w :: ws) p = w[p] := by
  have hdiv : p / 32 = 0 := by omega
  have hmod : p % 32 = p := by omega
  simp only [byteAt, hdiv, hmod, wordAt_cons_zero]

/-- Past the first word the bytes are those of the rest. -/
theorem byteAt_cons_of_le (w : Word) (ws : List Word) {p : ℕ} (h : 32 ≤ p) :
    byteAt (w :: ws) p = byteAt ws (p - 32) := by
  have := byteAt_drop (w :: ws) 1 (p - 32)
  rw [List.drop_one, List.tail_cons, show 32 * 1 + (p - 32) = p by omega] at this
  exact this.symm

@[simp]
theorem getElem_window (ws : List Word) (p n i : ℕ) (hi : i < n) :
    (window ws p n)[i] = byteAt ws (p + i) := by
  simp [window]

theorem window_drop (ws : List Word) (m p n : ℕ) :
    window (ws.drop m) p n = window ws (32 * m + p) n := by
  refine Vector.ext fun i hi => ?_
  rw [getElem_window, getElem_window, byteAt_drop, Nat.add_assoc]

/-- A window beyond the end is zero. -/
theorem window_of_length_le {ws : List Word} {p : ℕ} (n : ℕ) (h : 32 * ws.length ≤ p) :
    window ws p n = zeros n := by
  refine Vector.ext fun i hi => ?_
  rw [getElem_window, getElem_zeros, byteAt_of_length_le (by omega)]

@[simp]
theorem window_nil (p n : ℕ) : window [] p n = zeros n := window_of_length_le n (by simp)

/-- A window inside the first word does not see the rest. -/
theorem window_cons_within (w : Word) (ws ws' : List Word) {p n : ℕ} (h : p + n ≤ 32) :
    window (w :: ws) p n = window (w :: ws') p n := by
  refine Vector.ext fun i hi => ?_
  rw [getElem_window, getElem_window, byteAt_cons_of_lt w ws (by omega),
    byteAt_cons_of_lt w ws' (by omega)]

theorem wordAt_eq_window (ws : List Word) (i : ℕ) : wordAt ws i = window ws (32 * i) 32 := by
  refine Vector.ext fun j hj => ?_
  have hdiv : (32 * i + j) / 32 = i := by omega
  have hmod : (32 * i + j) % 32 = j := by omega
  rw [getElem_window]
  simp only [byteAt, hdiv, hmod]

/-! ### Cutting and joining -/

@[simp]
theorem length_toWords (l : List UInt8) : (toWords l).length = (l.length + 31) / 32 := by
  simp [toWords]

theorem byteAt_toWords (l : List UInt8) (p : ℕ) : byteAt (toWords l) p = l.getD p 0 := by
  by_cases hp : p < 32 * ((l.length + 31) / 32)
  · have hlt : p / 32 < (toWords l).length := by
      rw [length_toWords]
      omega
    have hword : wordAt (toWords l) (p / 32) =
        Vector.ofFn fun j => l.getD (32 * (p / 32) + j) 0 := by
      rw [wordAt_eq_getElem hlt]
      simp only [toWords, List.getElem_map, List.getElem_range]
    simp only [byteAt, hword, Vector.getElem_ofFn, Nat.div_add_mod]
  · rw [byteAt_of_length_le (by rw [length_toWords]; omega),
      List.getD_eq_default _ _ (by omega)]

@[simp]
theorem length_bytesOf (ws : List Word) : (bytesOf ws).length = 32 * ws.length := by
  induction ws with
  | nil => rfl
  | cons w ws ih =>
    rw [bytesOf, List.flatMap_cons, List.length_append, Vector.length_toList]
    rw [bytesOf] at ih
    rw [ih, List.length_cons]
    omega

theorem byteAt_eq_getD (ws : List Word) (p : ℕ) : byteAt ws p = (bytesOf ws).getD p 0 := by
  induction ws generalizing p with
  | nil => simp [bytesOf]
  | cons w ws ih =>
    rw [bytesOf, List.flatMap_cons]
    by_cases hp : p < 32
    · rw [byteAt_cons_of_lt w ws hp, List.getD_append _ _ _ _ (by simpa using hp),
        List.getD_eq_getElem _ _ (by simpa using hp), Vector.getElem_toList]
    · rw [byteAt_cons_of_le w ws (by omega), ih, List.getD_append_right _ _ _ _ (by simp; omega),
        Vector.length_toList, bytesOf]

/-- A string of whole words is what its words lay end to end. -/
theorem bytesOf_toWords {l : List UInt8} (h : l.length % 32 = 0) : bytesOf (toWords l) = l := by
  have hlen : (bytesOf (toWords l)).length = l.length := by
    rw [length_bytesOf, length_toWords]
    omega
  refine List.ext_getElem hlen fun p h₁ h₂ => ?_
  have hbyte := byteAt_toWords l p
  rw [byteAt_eq_getD, List.getD_eq_getElem _ _ h₁, List.getD_eq_getElem _ _ h₂] at hbyte
  exact hbyte

theorem bytesOf_drop (ws : List Word) (m : ℕ) :
    bytesOf (ws.drop m) = (bytesOf ws).drop (32 * m) := by
  induction m generalizing ws with
  | zero => rfl
  | succ m ih =>
    cases ws with
    | nil => simp [bytesOf]
    | cons w ws =>
      have hsplit : bytesOf (w :: ws) = w.toList ++ bytesOf ws := List.flatMap_cons
      rw [List.drop_succ_cons, ih, hsplit, Nat.mul_succ, Nat.add_comm, ← List.drop_drop,
        List.drop_left' (by rw [Vector.length_toList])]

/-- A window inside the calldata is a slice of its bytes. -/
theorem toList_window {ws : List Word} {p n : ℕ} (h : p + n ≤ 32 * ws.length) :
    (window ws p n).toList = ((bytesOf ws).drop p).take n := by
  apply List.ext_getElem
  · simp
    omega
  · intro i h₁ h₂
    have hi : i < n := by simpa using h₁
    rw [Vector.getElem_toList, getElem_window, byteAt_eq_getD, List.getElem_take,
      List.getElem_drop, List.getD_eq_getElem _ _ (by rw [length_bytesOf]; omega)]

/-! ### Slices of a byte string -/

/-- The `n` bytes of a string from byte `p` on, zero beyond its end. -/
def slice (l : List UInt8) (p n : ℕ) : Buffer n := Vector.ofFn fun i => l.getD (p + i) 0

@[simp]
theorem getElem_slice (l : List UInt8) (p n i : ℕ) (hi : i < n) :
    (slice l p n)[i] = l.getD (p + i) 0 := by
  simp [slice]

theorem window_eq_slice (ws : List Word) (p n : ℕ) : window ws p n = slice (bytesOf ws) p n := by
  refine Vector.ext fun i hi => ?_
  rw [getElem_window, getElem_slice, byteAt_eq_getD]

theorem window_toWords (l : List UInt8) (p n : ℕ) : window (toWords l) p n = slice l p n := by
  refine Vector.ext fun i hi => ?_
  rw [getElem_window, getElem_slice, byteAt_toWords]

theorem wordAt_toWords (l : List UInt8) (i : ℕ) : wordAt (toWords l) i = slice l (32 * i) 32 := by
  rw [wordAt_eq_window, window_toWords]

theorem slice_append_left {l l' : List UInt8} {p n : ℕ} (h : p + n ≤ l.length) :
    slice (l ++ l') p n = slice l p n := by
  refine Vector.ext fun i hi => ?_
  rw [getElem_slice, getElem_slice, List.getD_append _ _ _ _ (by omega)]

theorem slice_append_add (l l' : List UInt8) (p n : ℕ) :
    slice (l ++ l') (l.length + p) n = slice l' p n := by
  refine Vector.ext fun i hi => ?_
  rw [getElem_slice, getElem_slice, List.getD_append_right _ _ _ _ (by omega)]
  congr 1
  omega

/-- Past a first piece a slice is one of the rest. -/
theorem slice_append_right {l l' : List UInt8} {p n : ℕ} (h : l.length ≤ p) :
    slice (l ++ l') p n = slice l' (p - l.length) n := by
  have := slice_append_add l l' (p - l.length) n
  rwa [Nat.add_sub_cancel' h] at this

/-- A piece at the start. -/
theorem slice_toList_append {n : ℕ} (b : Buffer n) (l : List UInt8) :
    slice (b.toList ++ l) 0 n = b := by
  refine Vector.ext fun i hi => ?_
  have hlen : i < b.toList.length := by simpa using hi
  rw [getElem_slice, Nat.zero_add, List.getD_append _ _ _ _ hlen, List.getD_eq_getElem _ _ hlen,
    Vector.getElem_toList]

theorem slice_drop (l : List UInt8) (m p n : ℕ) : slice (l.drop m) p n = slice l (m + p) n := by
  refine Vector.ext fun i hi => ?_
  rw [getElem_slice, getElem_slice, List.getD_eq_getElem?_getD, List.getElem?_drop,
    List.getD_eq_getElem?_getD, Nat.add_assoc]

theorem slice_take {l : List UInt8} {m p n : ℕ} (h : p + n ≤ m) :
    slice (l.take m) p n = slice l p n := by
  refine Vector.ext fun i hi => ?_
  rw [getElem_slice, getElem_slice, List.getD_eq_getElem?_getD, List.getD_eq_getElem?_getD,
    List.getElem?_take_of_lt (by omega)]

/-! ### Calldata read so far -/

theorem bytesOf_append (ws ws' : List Word) : bytesOf (ws ++ ws') = bytesOf ws ++ bytesOf ws' :=
  List.flatMap_append

theorem byteAt_append_of_lt (ws ws' : List Word) {p : ℕ} (h : p < 32 * ws.length) :
    byteAt (ws ++ ws') p = byteAt ws p := by
  rw [byteAt_eq_getD, byteAt_eq_getD, bytesOf_append,
    List.getD_append _ _ _ _ (by rwa [length_bytesOf])]

theorem byteAt_append_add (ws ws' : List Word) (p : ℕ) :
    byteAt (ws ++ ws') (32 * ws.length + p) = byteAt ws' p := by
  rw [← byteAt_drop, List.drop_left]

/-- A value that was complete does not see the words that follow. -/
theorem window_append_of_le (ws ws' : List Word) {p n : ℕ} (h : p + n ≤ 32 * ws.length) :
    window (ws ++ ws') p n = window ws p n := by
  refine Vector.ext fun i hi => ?_
  rw [getElem_window, getElem_window, byteAt_append_of_lt ws ws' (by omega)]

/-- A value within the first `m` words does not need the others. -/
theorem window_take_of_le (ws : List Word) {m p n : ℕ} (h : p + n ≤ 32 * m) :
    window (ws.take m) p n = window ws p n := by
  by_cases hm : m ≤ ws.length
  · conv_rhs => rw [← List.take_append_drop m ws]
    rw [window_append_of_le _ _ (by rw [List.length_take_of_le hm]; exact h)]
  · rw [List.take_of_length_le (by omega)]

/-! ### Gluing a value from two words -/

/-- A value inside the last word read. -/
theorem memcpy_within {n s p : ℕ} (dst : Buffer n) (ws : List Word) (w : Word)
    (hp : p = 32 * ws.length + s) (hd : 0 + n ≤ n) (hs : s + n ≤ 32) :
    memcpy (memset dst 0) 0 w s n hd hs = window (ws ++ [w]) p n := by
  subst hp
  rw [memcpy_full]
  refine Vector.ext fun i hi => ?_
  rw [Vector.getElem_ofFn, getElem_window, Nat.add_assoc, byteAt_append_add,
    byteAt_cons_of_lt w [] (by omega)]
  simp only [Nat.add_comm]

/-- The end of the last word read is the start of a value, of which nothing more is known. -/
theorem memcpy_first_half {n s len p : ℕ} (dst : Buffer n) (ws : List Word) (w : Word)
    (hp : p = 32 * ws.length + s) (hlen : s + len = 32) (hd : 0 + len ≤ n) (hs : s + len ≤ 32) :
    memcpy (memset dst 0) 0 w s len hd hs = window (ws ++ [w]) p n := by
  subst hp
  refine Vector.ext fun i hi => ?_
  rw [getElem_memcpy, getElem_window, Nat.add_assoc, byteAt_append_add]
  split_ifs with h
  · rw [byteAt_cons_of_lt w [] (by omega)]
    simp only [Nat.add_comm, Nat.sub_zero]
  · rw [byteAt_cons_of_le w [] (by omega), byteAt_nil, getElem_memset]

/-- The start of the next word completes it. -/
theorem memcpy_second_half {n len r p : ℕ} (ws : List Word) (w : Word)
    (hp : p + len = 32 * ws.length) (hn : len + r = n) (hd : len + r ≤ n) (hs : 0 + r ≤ 32) :
    memcpy (window ws p n) len w 0 r hd hs = window (ws ++ [w]) p n := by
  refine Vector.ext fun i hi => ?_
  rw [getElem_memcpy, getElem_window (ws ++ [w])]
  split_ifs with h
  · rw [show p + i = 32 * ws.length + (i - len) by omega, byteAt_append_add,
      byteAt_cons_of_lt w [] (by omega)]
    rfl
  · rw [getElem_window, byteAt_append_of_lt ws [w] (by omega)]

end Abi
