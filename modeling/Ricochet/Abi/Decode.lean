import Ricochet.Abi.Encode

/-!
# Following the offsets

A contract that decodes its arguments follows the offsets it is given, wherever they lead: tails may
be in any order, overlap or leave gaps.  A reader here takes a byte string from its start, as the
encodings of `Encode` are laid out, and does not mind what follows.

Offsets must be multiples of 32 and stay inside the string, and an address must be padded with
zeros.  A number is the whole word it is in.

The readers invert the canonical encoding: `readWord_tuple`, `readAddress_tuple`, `readBytes_tuple`
for a component of a tuple, and `readArray_tuple`.
-/

namespace Abi

open CLib

variable {α : Type}

/-- The word at byte `p`. -/
def readWord (l : List UInt8) (p : ℕ) : Option ℕ :=
  if p + 32 ≤ l.length then some (beNat (slice l p 32).toList) else none

/-- The address in the word at byte `p`. -/
def readAddress (l : List UInt8) (p : ℕ) : Option (Buffer 20) :=
  if p + 32 ≤ l.length ∧ slice l p 12 = zeros 12 then some (slice l (p + 12) 20) else none

/-- What the offset at byte `p` leads to, and all that follows it. -/
def readTail (l : List UInt8) (p : ℕ) : Option (List UInt8) := do
  let o ← readWord l p
  if o % 32 = 0 ∧ o ≤ l.length then some (l.drop o) else none

/-- The byte string at the start of another. -/
def bytesAt (l : List UInt8) : Option (List UInt8) := do
  let n ← readWord l 0
  if 32 + n ≤ l.length then some ((l.drop 32).take n) else none

/-- The byte string the offset at byte `p` leads to. -/
def readBytes (l : List UInt8) (p : ℕ) : Option (List UInt8) := do
  let tail ← readTail l p
  bytesAt tail

/-- The `n` elements from element `i` on that a table of offsets leads to. -/
def readElems (f : List UInt8 → Option α) (table : List UInt8) : ℕ → ℕ → Option (List α)
  | _, 0 => some []
  | i, n + 1 => do
    let tail ← readTail table (32 * i)
    let a ← f tail
    let as ← readElems f table (i + 1) n
    some (a :: as)

/-- The array the offset at byte `p` leads to, with elements of a dynamic type. -/
def readArray (f : List UInt8 → Option α) (l : List UInt8) (p : ℕ) : Option (List α) := do
  let tail ← readTail l p
  let n ← readWord tail 0
  if 32 + 32 * n ≤ tail.length then readElems f (tail.drop 32) 0 n else none

/-! ### What was read -/

theorem readWord_eq_some {l : List UInt8} {p v : ℕ} (h : readWord l p = some v) :
    p + 32 ≤ l.length ∧ slice l p 32 = beBytes 32 v := by
  unfold readWord at h
  split_ifs at h with hlen
  obtain rfl := Option.some.inj h
  exact ⟨hlen, (beBytes_beNat _).symm⟩

theorem readAddress_eq_some {l : List UInt8} {p : ℕ} {a : Buffer 20}
    (h : readAddress l p = some a) : p + 32 ≤ l.length ∧ slice l (p + 12) 20 = a := by
  unfold readAddress at h
  split_ifs at h with hlen
  exact ⟨hlen.1, Option.some.inj h⟩

/-- A byte string that was read is where its offset says. -/
theorem readBytes_eq_some {l b : List UInt8} {p : ℕ} (h : readBytes l p = some b) :
    ∃ o, readWord l p = some o ∧ o + 32 + b.length ≤ l.length ∧
      b = (l.drop (o + 32)).take b.length := by
  obtain ⟨tail, htail, hb⟩ := Option.bind_eq_some_iff.mp h
  obtain ⟨o, ho, htail⟩ := Option.bind_eq_some_iff.mp htail
  obtain ⟨n, -, hb⟩ := Option.bind_eq_some_iff.mp hb
  split_ifs at htail hb with hin hlen
  obtain rfl := Option.some.inj htail
  obtain rfl := Option.some.inj hb
  have hb : (((l.drop o).drop 32).take n).length = n := by
    rw [List.length_take, List.length_drop]
    omega
  rw [List.length_drop] at hlen
  refine ⟨o, ho, by rw [hb]; omega, ?_⟩
  rw [hb, List.drop_drop]

/-! ### Reading canonical encodings -/

theorem readWord_of_slice {l : List UInt8} {p v : ℕ} (hlen : p + 32 ≤ l.length)
    (hslice : slice l p 32 = beBytes 32 v) (hv : v < 256 ^ 32) : readWord l p = some v := by
  rw [readWord, if_pos hlen, hslice, beNat_beBytes_of_lt hv]

/-- An address is read from its word. -/
theorem readAddress_addressWord (a : Buffer 20) (l : List UInt8) :
    readAddress (addressWord a ++ l) 0 = some a := by
  have hpad : slice (addressWord a ++ l) 0 12 = zeros 12 := by
    rw [addressWord, List.append_assoc, slice_toList_append]
  have haddress : slice (addressWord a ++ l) 12 20 = a := by
    rw [slice_append_left (by simp), slice_addressWord]
  rw [readAddress, if_pos ⟨by simp, hpad⟩, Nat.zero_add, haddress]

/-- An offset is followed to what it leads to. -/
theorem readTail_of_slice {l : List UInt8} {p o : ℕ} (hlen : p + 32 ≤ l.length)
    (hslice : slice l p 32 = beBytes 32 o) (hlt : o < 256 ^ 32) (hmod : o % 32 = 0)
    (hin : o ≤ l.length) : readTail l p = some (l.drop o) := by
  rw [readTail, readWord_of_slice hlen hslice hlt, Option.bind_eq_bind, Option.bind_some,
    if_pos ⟨hmod, hin⟩]

/-- A string of bytes is read from its encoding. -/
theorem bytesAt_bytes {b : List UInt8} (hb : b.length < 256 ^ 32) (rest : List UInt8) :
    bytesAt (bytes b ++ rest) = some b := by
  have hsplit : bytes b ++ rest =
      word b.length ++ (b ++ (List.replicate ((32 - b.length % 32) % 32) 0 ++ rest)) := by
    simp only [bytes, pad, List.append_assoc]
  have hlen : readWord (bytes b ++ rest) 0 = some b.length := by
    refine readWord_of_slice ?_ ?_ hb
    · rw [List.length_append, length_bytes]
      omega
    · rw [hsplit, word, slice_toList_append]
  rw [bytesAt, hlen, Option.bind_eq_bind, Option.bind_some, if_pos, hsplit,
    List.drop_left' (length_word _), List.take_left]
  rw [List.length_append, length_bytes]
  omega

/-- A byte string is read from wherever its offset leads. -/
theorem readBytes_of_drop {pre l b : List UInt8} (rest : List UInt8) {o : ℕ}
    (ho : o < 256 ^ 32) (hmod : o % 32 = 0) (hb : b.length < 256 ^ 32)
    (hdrop : (pre ++ (word o ++ l)).drop o = bytes b ++ rest) :
    readBytes (pre ++ (word o ++ l)) pre.length = some b := by
  have hslice : slice (pre ++ (word o ++ l)) pre.length 32 = beBytes 32 o := by
    have := slice_append_add pre (word o ++ l) 0 32
    rwa [Nat.add_zero, word, slice_toList_append] at this
  have hhead : pre.length + 32 ≤ (pre ++ (word o ++ l)).length := by
    simp only [List.length_append, length_word]
    omega
  have hin : o ≤ (pre ++ (word o ++ l)).length := by
    have hlen := congrArg List.length hdrop
    simp only [List.length_drop, List.length_append, length_word, length_bytes] at hlen ⊢
    omega
  rw [readBytes, readTail_of_slice hhead hslice ho hmod hin, Option.bind_eq_bind,
    Option.bind_some, hdrop, bytesAt_bytes hb]

section

variable (ps qs : List Part) (rest : List UInt8)

theorem readWord_tuple {v : ℕ} (hv : v < 256 ^ 32) :
    readWord (tuple (ps ++ .static (word v) :: qs) ++ rest) (headLength ps) = some v := by
  have hlen : headLength ps + 32 ≤ (tuple (ps ++ .static (word v) :: qs)).length := by
    rw [length_tuple, headLength_append, headLength_cons, Part.headLength, length_word]
    omega
  have hslice := slice_tuple_static ps qs (word v) (p := 0) (n := 32) (by simp)
  rw [Nat.add_zero] at hslice
  refine readWord_of_slice ?_ ?_ hv
  · rw [List.length_append]
    omega
  · rw [slice_append_left hlen, hslice, slice_word]

theorem readAddress_tuple (a : Buffer 20) :
    readAddress (tuple (ps ++ .static (addressWord a) :: qs) ++ rest) (headLength ps) = some a := by
  have hlen : headLength ps + 32 ≤ (tuple (ps ++ .static (addressWord a) :: qs)).length := by
    rw [length_tuple, headLength_append, headLength_cons, Part.headLength, length_addressWord]
    omega
  have hpad := slice_tuple_static ps qs (addressWord a) (p := 0) (n := 12) (by simp)
  have haddress := slice_tuple_static ps qs (addressWord a) (p := 12) (n := 20) (by simp)
  rw [Nat.add_zero] at hpad
  have hzeros : slice (addressWord a) 0 12 = zeros 12 := slice_toList_append (zeros 12) a.toList
  rw [readAddress, slice_append_left (by omega), slice_append_left (by omega), hpad, haddress,
    hzeros, if_pos ⟨by rw [List.length_append]; omega, rfl⟩, slice_addressWord]

variable {ps qs} in
theorem readTail_tuple {tail : List UInt8}
    (hlt : (tuple (ps ++ .dynamic tail :: qs)).length < 256 ^ 32)
    (hmod : (headLength (ps ++ .dynamic tail :: qs) + (tails ps).length) % 32 = 0) :
    readTail (tuple (ps ++ .dynamic tail :: qs) ++ rest) (headLength ps) =
      some (tail ++ (tails qs ++ rest)) := by
  have hlen : headLength (ps ++ .dynamic tail :: qs) + (tails ps).length ≤
      (tuple (ps ++ .dynamic tail :: qs)).length := by
    rw [length_tuple, tails_append, List.length_append]
    omega
  have hhead : headLength ps + 32 ≤ (tuple (ps ++ .dynamic tail :: qs)).length := by
    rw [length_tuple, headLength_append, headLength_cons, Part.headLength]
    omega
  have hoffset : slice (tuple (ps ++ .dynamic tail :: qs) ++ rest) (headLength ps) 32 = _ :=
    (slice_append_left hhead).trans (slice_tuple_offset ps qs tail)
  rw [readTail_of_slice (by rw [List.length_append]; omega) hoffset (by omega) hmod
    (by rw [List.length_append]; omega), List.drop_append_of_le_length hlen, drop_tuple_dynamic,
    List.append_assoc]

theorem readBytes_tuple (b : List UInt8)
    (hlt : (tuple (ps ++ .dynamic (bytes b) :: qs)).length < 256 ^ 32)
    (hmod : (headLength (ps ++ .dynamic (bytes b) :: qs) + (tails ps).length) % 32 = 0) :
    readBytes (tuple (ps ++ .dynamic (bytes b) :: qs) ++ rest) (headLength ps) = some b := by
  have hb : b.length < 256 ^ 32 := by
    rw [length_tuple, tails_append, List.length_append, tails, tails, List.flatMap_cons, Part.tail,
      List.length_append, length_bytes] at hlt
    omega
  rw [readBytes, readTail_tuple rest hlt hmod, Option.bind_eq_bind, Option.bind_some,
    bytesAt_bytes hb]

end

/-! ### Arrays -/

/-- The elements left to read are those left to encode. -/
theorem readElems_tuple {f : List UInt8 → Option α} {enc : α → List UInt8}
    (es : List (List UInt8)) (as : List α) (rest : List UInt8)
    (hf : ∀ a ∈ as, ∀ rest, f (enc a ++ rest) = some a)
    (hmod : ∀ e ∈ es ++ as.map enc, e.length % 32 = 0)
    (hlt : (tuple ((es ++ as.map enc).map .dynamic)).length < 256 ^ 32) :
    readElems f (tuple ((es ++ as.map enc).map .dynamic) ++ rest) es.length as.length =
      some as := by
  -- `es` are the elements already read
  induction as generalizing es with
  | nil => rfl
  | cons a as ih =>
    rw [List.map_cons, ← List.singleton_append, ← List.append_assoc] at hmod hlt ⊢
    have hrest := ih (es ++ [enc a]) (fun b hb => hf b (List.mem_cons_of_mem a hb)) hmod hlt
    rw [List.length_append, List.length_singleton] at hrest
    have htail : readTail (tuple ((es ++ [enc a] ++ as.map enc).map .dynamic) ++ rest)
        (32 * es.length) = some (enc a ++ (tails ((as.map enc).map .dynamic) ++ rest)) := by
      have hsplit : (es ++ [enc a] ++ as.map enc).map Part.dynamic =
          es.map .dynamic ++ .dynamic (enc a) :: (as.map enc).map .dynamic := by
        rw [List.append_assoc, List.map_append, List.map_append]
        rfl
      rw [hsplit] at hlt ⊢
      rw [← headLength_map_dynamic, readTail_tuple rest hlt]
      rw [← hsplit, headLength_map_dynamic]
      have hpre : (tails (es.map .dynamic)).length % 32 = 0 :=
        length_tails_mod fun e he => hmod e (by simp [he])
      omega
    rw [List.length_cons, readElems, htail, Option.bind_eq_bind, Option.bind_some,
      hf a List.mem_cons_self, Option.bind_eq_bind, Option.bind_some, hrest]
    rfl

/-- An array is read from a tuple it is a component of. -/
theorem readArray_tuple {f : List UInt8 → Option α} {enc : α → List UInt8} (ps qs : List Part)
    (as : List α) (rest : List UInt8)
    (hf : ∀ a ∈ as, ∀ rest, f (enc a ++ rest) = some a)
    (hmod : ∀ a ∈ as, (enc a).length % 32 = 0)
    (hlt : (tuple (ps ++ .dynamic (array (as.map enc)) :: qs)).length < 256 ^ 32)
    (hhead :
      (headLength (ps ++ .dynamic (array (as.map enc)) :: qs) + (tails ps).length) % 32 = 0) :
    readArray f (tuple (ps ++ .dynamic (array (as.map enc)) :: qs) ++ rest) (headLength ps) =
      some as := by
  have hlen : (array (as.map enc)).length < 256 ^ 32 := by
    rw [length_tuple, tails_append, List.length_append, tails, tails, List.flatMap_cons, Part.tail,
      List.length_append] at hlt
    omega
  rw [array, List.length_append, length_word] at hlen
  rw [readArray, readTail_tuple rest hlt hhead, Option.bind_eq_bind, Option.bind_some, array,
    List.append_assoc, List.length_map]
  generalize tails qs ++ rest = rest'
  have hcount : readWord (word as.length ++ (tuple ((as.map enc).map .dynamic) ++ rest')) 0 =
      some as.length := by
    refine readWord_of_slice ?_ (slice_toList_append _ _) ?_
    · simp
    · rw [length_tuple, headLength_map_dynamic, List.length_map] at hlen
      omega
  have helems := readElems_tuple [] as rest' hf (by simpa using hmod)
    (by simpa using (by omega : (tuple ((as.map enc).map .dynamic)).length < 256 ^ 32))
  rw [List.nil_append, List.length_nil] at helems
  rw [hcount, Option.bind_eq_bind, Option.bind_some, List.drop_left' (length_word _), helems,
    if_pos]
  simp only [List.length_append, length_word, length_tuple, headLength_map_dynamic, List.length_map]
  omega

end Abi
