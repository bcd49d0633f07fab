import Ricochet.Abi.Calldata

/-!
# The canonical encoding of arguments

A tuple is encoded as a head and a tail.  A static component is in the head itself; of a dynamic one
the head holds the offset, from the start of the tuple, of its encoding in the tail.  The canonical
encoding lays the tails out in the order of the components, without gaps.

`slice_tuple_static`, `slice_tuple_offset` and `drop_tuple_dynamic` say where a component is.  All
three split the list of components at it, so they cover an array of any length.
-/

namespace Abi

open CLib

/-- A number as a word. -/
def word (v : ℕ) : List UInt8 := (beBytes 32 v).toList

/-- An address as a word. -/
def addressWord (a : Buffer 20) : List UInt8 := (zeros 12).toList ++ a.toList

/-- Zeros up to a whole number of words. -/
def pad (l : List UInt8) : List UInt8 := l ++ List.replicate ((32 - l.length % 32) % 32) 0

/-- A byte string: its length and its bytes. -/
def bytes (l : List UInt8) : List UInt8 := word l.length ++ pad l

/-- A component of a tuple, already encoded. -/
inductive Part
  | static (head : List UInt8)
  | dynamic (tail : List UInt8)

namespace Part

/-- The bytes a component takes in the head. -/
def headLength : Part → ℕ
  | static head => head.length
  | dynamic _ => 32

/-- The bytes a component puts in the tail. -/
def tail : Part → List UInt8
  | static _ => []
  | dynamic tail => tail

end Part

/-- The length of the head. -/
def headLength (ps : List Part) : ℕ := (ps.map Part.headLength).sum

/-- The tails, in order. -/
def tails (ps : List Part) : List UInt8 := ps.flatMap Part.tail

/-- The head, when the next tail is at `o`. -/
def heads : ℕ → List Part → List UInt8
  | _, [] => []
  | o, .static head :: ps => head ++ heads o ps
  | o, .dynamic tail :: ps => word o ++ heads (o + tail.length) ps

/-- A tuple. -/
def tuple (ps : List Part) : List UInt8 := heads (headLength ps) ps ++ tails ps

/-- An array with elements of a dynamic type, already encoded. -/
def array (elems : List (List UInt8)) : List UInt8 :=
  word elems.length ++ tuple (elems.map .dynamic)

/-! ### Lengths -/

@[simp]
theorem length_word (v : ℕ) : (word v).length = 32 := by simp [word]

@[simp]
theorem length_addressWord (a : Buffer 20) : (addressWord a).length = 32 := by simp [addressWord]

@[simp]
theorem length_pad (l : List UInt8) : (pad l).length = (l.length + 31) / 32 * 32 := by
  rw [pad, List.length_append, List.length_replicate]
  omega

@[simp]
theorem length_bytes (l : List UInt8) : (bytes l).length = 32 + (l.length + 31) / 32 * 32 := by
  rw [bytes, List.length_append, length_word, length_pad]

@[simp]
theorem headLength_nil : headLength [] = 0 := rfl

@[simp]
theorem headLength_cons (p : Part) (ps : List Part) :
    headLength (p :: ps) = p.headLength + headLength ps := rfl

theorem headLength_append (ps qs : List Part) :
    headLength (ps ++ qs) = headLength ps + headLength qs := by
  simp [headLength]

/-- Every element of an array has one word in the head. -/
theorem headLength_map_dynamic (elems : List (List UInt8)) :
    headLength (elems.map .dynamic) = 32 * elems.length := by
  induction elems with
  | nil => rfl
  | cons a elems ih =>
    rw [List.map_cons, headLength_cons, ih, List.length_cons, Part.headLength]
    omega

theorem tails_append (ps qs : List Part) : tails (ps ++ qs) = tails ps ++ tails qs :=
  List.flatMap_append

theorem length_tail_le {p : Part} {ps : List Part} (h : p ∈ ps) :
    p.tail.length ≤ (tails ps).length := by
  obtain ⟨qs, rs, rfl⟩ := List.append_of_mem h
  rw [tails_append, List.length_append]
  simp only [tails, List.flatMap_cons, List.length_append]
  omega

/-- Tails of whole words take whole words. -/
theorem length_tails_mod {es : List (List UInt8)} (h : ∀ e ∈ es, e.length % 32 = 0) :
    (tails (es.map .dynamic)).length % 32 = 0 := by
  induction es with
  | nil => rfl
  | cons e es ih =>
    have hrest := ih fun e' he' => h e' (List.mem_cons_of_mem e he')
    have hfirst := h e List.mem_cons_self
    rw [tails] at hrest
    rw [List.map_cons, tails, List.flatMap_cons, Part.tail, List.length_append]
    omega

@[simp]
theorem length_heads (o : ℕ) (ps : List Part) : (heads o ps).length = headLength ps := by
  induction ps generalizing o with
  | nil => rfl
  | cons p ps ih => cases p <;> simp [heads, ih, Part.headLength]

@[simp]
theorem length_tuple (ps : List Part) : (tuple ps).length = headLength ps + (tails ps).length := by
  rw [tuple, List.length_append, length_heads]

/-! ### Layout -/

@[simp]
theorem slice_addressWord (a : Buffer 20) : slice (addressWord a) 12 20 = a := by
  have := slice_append_add (zeros 12).toList a.toList 0 20
  rw [addressWord, ← List.append_nil a.toList]
  rw [← List.append_nil a.toList, slice_toList_append] at this
  simpa using this

@[simp]
theorem slice_word (v : ℕ) : slice (word v) 0 32 = beBytes 32 v := by
  rw [word, ← List.append_nil (beBytes 32 v).toList, slice_toList_append]

/-- The head splits where the components do. -/
theorem heads_append (o : ℕ) (ps qs : List Part) :
    heads o (ps ++ qs) = heads o ps ++ heads (o + (tails ps).length) qs := by
  induction ps generalizing o with
  | nil => simp [heads, tails]
  | cons p ps ih =>
    cases p with
    | static head => simp [heads, ih, tails, Part.tail]
    | dynamic tail => simp [heads, ih, tails, Part.tail, Nat.add_assoc]

theorem slice_tuple_static (ps qs : List Part) (head : List UInt8) {p n : ℕ}
    (h : p + n ≤ head.length) :
    slice (tuple (ps ++ .static head :: qs)) (headLength ps + p) n = slice head p n := by
  rw [tuple, heads_append, heads, List.append_assoc, List.append_assoc,
    ← length_heads (headLength (ps ++ .static head :: qs)) ps, slice_append_add,
    slice_append_left h]

/-- The head of a dynamic component is the offset of its tail. -/
theorem slice_tuple_offset (ps qs : List Part) (tail : List UInt8) :
    slice (tuple (ps ++ .dynamic tail :: qs)) (headLength ps) 32 =
      beBytes 32 (headLength (ps ++ .dynamic tail :: qs) + (tails ps).length) := by
  have := slice_append_add (heads (headLength (ps ++ .dynamic tail :: qs)) ps)
    (heads (headLength (ps ++ .dynamic tail :: qs) + (tails ps).length) (.dynamic tail :: qs) ++
      tails (ps ++ .dynamic tail :: qs)) 0 32
  rw [length_heads, Nat.add_zero] at this
  rw [tuple, heads_append, List.append_assoc, this, heads, word, List.append_assoc,
    slice_toList_append]

/-- Its tail is there. -/
theorem drop_tuple_dynamic (ps qs : List Part) (tail : List UInt8) :
    (tuple (ps ++ .dynamic tail :: qs)).drop
        (headLength (ps ++ .dynamic tail :: qs) + (tails ps).length) = tail ++ tails qs := by
  have hsplit : tuple (ps ++ .dynamic tail :: qs) =
      (heads (headLength (ps ++ .dynamic tail :: qs)) (ps ++ .dynamic tail :: qs) ++ tails ps) ++
        (tail ++ tails qs) := by
    rw [tuple, tails_append, List.append_assoc]
    rfl
  rw [hsplit, List.drop_left' (by rw [List.length_append, length_heads])]

end Abi
