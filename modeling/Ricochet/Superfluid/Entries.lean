import Ricochet.Superfluid.Sessions

/-!
# The operations of a batch of any size

Where each operation of a canonical batch is (`drop_encodeBatchCall_entry`), and which of them the
parser of `batchCall` lands on.  It keeps two bytes of the number of operations and two of an
offset: it takes the entry of the table that the former count to, and goes to what the latter point
to (`landing_of_le_entry`), unless that is back in the table (`batchCallInner_of_entry_lt`).
-/

namespace Ricochet

open CLib Abi

/-- The offset of operation `j` in the table of offsets. -/
def entryOffset (operations : List Operation) (j : ℕ) : ℕ :=
  32 * operations.length + ((operations.take j).map fun op => op.encode.length).sum

theorem entryOffset_mod (operations : List Operation) (j : ℕ) :
    entryOffset operations j % 32 = 0 := by
  have hlast := lastOffset_mod (operations.take j)
  rw [lastOffset] at hlast
  rw [entryOffset]
  omega

section

variable (before : List Operation) (op : Operation) (after : List Operation)

theorem entryOffset_append :
    entryOffset (before ++ op :: after) before.length =
      32 * (before.length + 1 + after.length) + (before.map fun op => op.encode.length).sum := by
  rw [entryOffset, List.take_left, List.length_append, List.length_cons]
  omega

private theorem map_operations :
    ((before ++ op :: after).map fun op => Part.dynamic op.encode) =
      before.map (fun op => Part.dynamic op.encode) ++
        .dynamic op.encode :: after.map fun op => .dynamic op.encode := by
  rw [List.map_append, List.map_cons]

private theorem entryOffset_eq :
    headLength (before.map (fun op => Part.dynamic op.encode) ++
          .dynamic op.encode :: after.map fun op => .dynamic op.encode) +
        (tails (before.map fun op => Part.dynamic op.encode)).length =
      entryOffset (before ++ op :: after) before.length := by
  rw [entryOffset_append, headLength_append, headLength_cons, headLength_operations,
    headLength_operations, length_tails_operations, Part.headLength]
  omega

/-- An entry of the table. -/
theorem slice_encodeBatchCall_entry :
    slice (encodeBatchCall (before ++ op :: after)) (32 * (before.length + 2)) 32 =
      beBytes 32 (entryOffset (before ++ op :: after) before.length) := by
  have hentry := slice_tuple_offset (before.map fun op => Part.dynamic op.encode)
    (after.map fun op => .dynamic op.encode) op.encode
  rw [headLength_operations, entryOffset_eq] at hentry
  have hpos : 32 * (before.length + 2) - 32 - 32 = 32 * before.length := by omega
  rw [encodeBatchCall_eq, map_operations, slice_append_right (by rw [length_word]; omega),
    length_word, slice_append_right (by rw [length_word]; omega), length_word, hpos, hentry]

/-- What it points to is the operation. -/
theorem drop_encodeBatchCall_entry :
    (encodeBatchCall (before ++ op :: after)).drop
        (64 + entryOffset (before ++ op :: after) before.length) =
      op.encode ++ tails (after.map fun op => .dynamic op.encode) := by
  have htail := drop_tuple_dynamic (before.map fun op => Part.dynamic op.encode)
    (after.map fun op => .dynamic op.encode) op.encode
  rw [entryOffset_eq] at htail
  have hlen : (word 32 ++ word (before ++ op :: after).length).length = 64 := by simp
  rw [encodeBatchCall_eq, map_operations, ← List.append_assoc, List.drop_append,
    List.drop_eq_nil_of_le (by rw [hlen]; omega), List.nil_append, hlen, Nat.add_sub_cancel_left,
    htail]

end

/-! ### Landing -/

variable {operations : List Operation}

/-- The parser's number of operations. -/
theorem low16_encodeBatchCall_length (operations : List Operation) :
    low16 (wordAt (toWords (encodeBatchCall operations)) 1) = operations.length % 65536 := by
  rw [wordAt_toWords, slice_encodeBatchCall_length, low16_beBytes]

/-- The parser's offset, at entry `j`. -/
theorem low16_encodeBatchCall_entry {j : ℕ} (hj : j < operations.length) :
    low16 (wordAt (toWords (encodeBatchCall operations)) (j + 2)) =
      entryOffset operations j % 65536 := by
  have hsplit : operations.take j ++ operations[j] :: operations.drop (j + 1) = operations := by
    rw [← List.drop_eq_getElem_cons hj, List.take_append_drop]
  have hlen : (operations.take j).length = j := by
    rw [List.length_take]
    omega
  have hentry := slice_encodeBatchCall_entry (operations.take j) operations[j]
    (operations.drop (j + 1))
  rw [hsplit, hlen] at hentry
  rw [wordAt_toWords, hentry, low16_beBytes]

/-- The first jump, to the entry that the kept number of operations counts to. -/
theorem nextWord_encodeBatchCall (hcount : operations.length % 65536 ≠ 0) :
    nextWord 2 (32 + 32 * low16 (wordAt (toWords (encodeBatchCall operations)) 1)) =
      some (operations.length % 65536 + 1) := by
  rw [low16_encodeBatchCall_length, nextWord, if_pos (by omega)]
  refine congrArg some ?_
  omega

theorem landing_encodeBatchCall_eq (hcount : operations.length % 65536 ≠ 0) :
    landing (toWords (encodeBatchCall operations)) =
      nextWord (operations.length % 65536 + 2)
        (64 + entryOffset operations (operations.length % 65536 - 1) % 65536) := by
  have hentry := low16_encodeBatchCall_entry (j := operations.length % 65536 - 1)
    (show operations.length % 65536 - 1 < operations.length by omega)
  rw [show operations.length % 65536 - 1 + 2 = operations.length % 65536 + 1 by omega] at hentry
  rw [landing_eq_nextWord (nextWord_encodeBatchCall hcount), hentry]

/-- An offset that is not back in the table is gone to. -/
theorem landing_of_le_entry (hcount : operations.length % 65536 ≠ 0)
    (hle : 32 * (operations.length % 65536) ≤
      entryOffset operations (operations.length % 65536 - 1) % 65536) :
    landing (toWords (encodeBatchCall operations)) =
      some (entryOffset operations (operations.length % 65536 - 1) % 65536 / 32 + 2) := by
  have hmod := entryOffset_mod operations (operations.length % 65536 - 1)
  rw [landing_encodeBatchCall_eq hcount, nextWord, if_pos (by omega)]
  refine congrArg some ?_
  omega

/-- Without operations, as far as they are counted, or with an offset back in the table, nothing is
read. -/
theorem batchCallInner_of_entry_lt (hsize : (encodeBatchCall operations).length < 2 ^ 32)
    (hback : operations.length % 65536 = 0 ∨
      entryOffset operations (operations.length % 65536 - 1) % 65536 <
        32 * (operations.length % 65536)) :
    batchCallInner (toWords (encodeBatchCall operations)) = [] := by
  have hwords : (toWords (encodeBatchCall operations)).length ≤ 2 ^ 27 := by
    rw [length_toWords]
    omega
  by_cases hcount : operations.length % 65536 = 0
  · -- the entry counted to is the number of operations itself, which has gone by
    have hfirst : nextWord 2 (32 + 32 * low16 (wordAt (toWords (encodeBatchCall operations)) 1)) =
        some (2 ^ 27 + 1) := by
      rw [low16_encodeBatchCall_length, hcount]
      decide
    exact batchCallInner_eq_nil_of_length_le hfirst (by omega)
  · have hlt := hback.resolve_left hcount
    have hmod := entryOffset_mod operations (operations.length % 65536 - 1)
    -- what is behind is waited for until the offsets of the words wrap around
    have hland : landing (toWords (encodeBatchCall operations)) =
        some (entryOffset operations (operations.length % 65536 - 1) % 65536 / 32 + 2 +
          2 ^ 27) := by
      rw [landing_encodeBatchCall_eq hcount, nextWord, if_pos (by omega)]
      refine congrArg some ?_
      omega
    exact batchCallInner_eq_nil hland (by omega)

/-- An offset that is that of an operation leads to its data. -/
theorem carries_of_entry {before after : List Operation} {op : Operation} {call : CfaCall}
    {userData : List UInt8} (hsplit : operations = before ++ op :: after)
    (hdata : op.data = encodeCallAgreementData call.encode userData)
    (hcount : operations.length % 65536 ≠ 0)
    (hle : 32 * (operations.length % 65536) ≤
      entryOffset operations (operations.length % 65536 - 1) % 65536)
    (hentry : entryOffset operations before.length =
      entryOffset operations (operations.length % 65536 - 1) % 65536) :
    CarriesCall (innerWords .batchCall (toWords (encodeBatchCall operations))) call := by
  obtain ⟨pre, post, hpre, hcall⟩ := encodeCallAgreementData_split call.encode userData
  obtain ⟨pre', post', hpre', hencode⟩ := encode_operation_split op
  have hmod := entryOffset_mod operations before.length
  have hland := landing_of_le_entry hcount hle
  rw [← hentry] at hland
  have hdrop : (encodeBatchCall operations).drop (64 + entryOffset operations before.length) =
      op.encode ++ tails (after.map fun op => .dynamic op.encode) := by
    rw [hsplit]
    exact drop_encodeBatchCall_entry before op after
  -- offsets count from the word after the number of operations
  have hpos : 64 + entryOffset operations before.length =
      32 * (entryOffset operations before.length / 32 + 2) := by omega
  rw [hencode, hdata, hcall, hpos, List.append_assoc, List.append_assoc, List.append_assoc,
    List.append_assoc, ← List.append_assoc pre'] at hdrop
  rw [innerWords, batchCallInner_of_landing hland]
  exact carriesCall_of_drop hdrop (by rw [List.length_append, hpre, hpre'])

end Ricochet
