import Ricochet.Guarantees.Batches
import Ricochet.Guarantees.Layout

/-!
# Masked operations

A parser that counts to where it expects the call data can be led to other data.  For any two
operations there is a `callAgreement` that the contract decodes to the one and the plugin displays
as the other (`callAgreement_masked`), and for any stream and any operations there is a batch that
ends with the operations and is displayed as the stream (`batch_masked`).
-/

namespace Ricochet

open CLib Abi

/-! ### Behind the user data -/

/-- Any operation can be signed as any other: with the tails in the other order the contract
executes the one, and the other is displayed, with all answers `OK` unless its rate overflows. -/
theorem callAgreement_masked (sdk : EthPluginSdk) (host : Host) (hhost : host.Compatible sdk)
    (memory : Context) (agreementClass : Address) (executed shown : CfaCall)
    (hexecuted : executed.Valid) (hshown : shown.Valid) (hctx : executed.ctx.length < 256 ^ 30)
    (hctx' : shown.ctx.length < 256 ^ 30) :
    let s := swappedCallAgreement host memory agreementClass executed.encode shown.encode
    signedCallData .callAgreement (bytesOf s.words) = some executed.encode ∧
      CfaCall.decode executed.encode = some executed ∧
      (s.AllOk sdk ↔ ¬ (shown.viewer false).Overflows) ∧
      s.DisplayedAs sdk (shown.viewer false) := by
  intro s
  have hlength := length_encode executed
  have hlength' := length_encode shown
  refine ⟨?_, ?_, ?_⟩
  · rw [bytesOf_swappedCallAgreement, signedCallData,
      decodeCallAgreement_encodeSwapped _ (by omega) (by omega)]
    rfl
  · exact executed.decode_encode hexecuted.lt_word (by omega)
  · have hpresents :=
      presents_swappedCallAgreement host memory agreementClass executed.encode shown
    exact hpresents.displayedAs hhost hshown

/-- A stream stopped is displayed as one started. -/
theorem callAgreement_masked_stop :
    (swappedCallAgreement (referenceHost (zeros 20)) Context.zero (zeros 20)
      (CfaCall.deleteFlow (zeros 20) (zeros 20) (zeros 20) []).encode
      (startAsDai 0 1).encode).DisplayedAs referenceSdk ((startAsDai 0 1).viewer false) := by
  have hvalid : (CfaCall.deleteFlow (zeros 20) (zeros 20) (zeros 20) []).Valid := by
    intro f hf
    cases hf
  exact (callAgreement_masked referenceSdk _ (referenceHost_compatible _) Context.zero (zeros 20)
    (.deleteFlow (zeros 20) (zeros 20) (zeros 20) []) (startAsDai 0 1) hvalid
    (canonicalStream_startAsDai 0).valid (by decide) (by decide)).2.2.2

/-! ### Behind a filler -/

/-- An operation with so much data of zeros. -/
def fillerOperation (size : ℕ) : Operation := ⟨0, zeros 20, List.replicate size 0⟩

/-- The size of the filler that makes the last offset of a batch a multiple of 65536 beyond the
first, the rest of the operations taking `size` bytes. -/
def fillerSize (size : ℕ) : ℕ := 65536 - (size + 128) % 65536

theorem length_encode_fillerOperation {size : ℕ} (h : size % 32 = 0) :
    (size + (fillerOperation (fillerSize size)).encode.length) % 65536 = 0 := by
  rw [length_encode_operation, fillerOperation, List.length_replicate, fillerSize]
  omega

/-- The size of all but the last of the operations. -/
def sizeBeforeLast (operations : List Operation) : ℕ :=
  ((operations.take (operations.length - 1)).map fun op => op.encode.length).sum

theorem sizeBeforeLast_mod (operations : List Operation) : sizeBeforeLast operations % 32 = 0 := by
  have h := entryOffset_mod operations (operations.length - 1)
  rw [entryOffset] at h
  rw [sizeBeforeLast]
  omega

/-- Operations behind another one, with a filler between that wraps their offsets. -/
def maskedBatch (shown : Operation) (operations : List Operation) : List Operation :=
  shown ::
    fillerOperation (fillerSize (shown.encode.length + sizeBeforeLast operations)) :: operations

section

variable (shown : Operation) {operations : List Operation}

theorem length_maskedBatch (operations : List Operation) :
    (maskedBatch shown operations).length = operations.length + 2 := rfl

theorem entryOffset_maskedBatch_zero (operations : List Operation) :
    entryOffset (maskedBatch shown operations) 0 = 32 * (operations.length + 2) := by
  rw [entryOffset, List.take_zero, List.map_nil, List.sum_nil, length_maskedBatch, Nat.add_zero]

/-- The last offset is as far from the first as the filler makes it. -/
theorem entryOffset_maskedBatch_last (hne : operations ≠ []) :
    entryOffset (maskedBatch shown operations) (operations.length + 1) % 65536 =
      32 * (operations.length + 2) % 65536 := by
  have hpos : 0 < operations.length := List.length_pos_iff.mpr hne
  have hsize : (shown.encode.length + sizeBeforeLast operations) % 32 = 0 := by
    have hshown := length_encode_operation shown
    have hbefore := sizeBeforeLast_mod operations
    omega
  -- what comes before the last operation adds up to a multiple of 65536
  have hfiller := length_encode_fillerOperation hsize
  have htake : operations.length + 1 = operations.length - 1 + 1 + 1 := by omega
  rw [entryOffset, length_maskedBatch, htake, maskedBatch, List.take_succ_cons, List.take_succ_cons,
    List.map_cons, List.map_cons, List.sum_cons, List.sum_cons, ← sizeBeforeLast]
  omega

/-- So the parser takes it for the first. -/
theorem entryOffset_maskedBatch (hne : operations ≠ []) (hcount : operations.length < 2046) :
    entryOffset (maskedBatch shown operations) 0 =
      entryOffset (maskedBatch shown operations)
        ((maskedBatch shown operations).length % 65536 - 1) % 65536 := by
  have hlast : (maskedBatch shown operations).length % 65536 - 1 = operations.length + 1 := by
    rw [length_maskedBatch]
    omega
  rw [hlast, entryOffset_maskedBatch_last shown hne, entryOffset_maskedBatch_zero]
  omega

end

/-- Behind any stream with a rate there is room for any operations: with the right filler between
them the batch of all is displayed as the stream, and its last operations, whatever they do, are
not. -/
theorem batch_masked (operationType : ℕ) (target : Address) (call : CfaCall) (userData : List UInt8)
    (hvalid : call.Valid) (hrate : call.flowRate?.isSome) (operations : List Operation)
    (hne : operations ≠ []) (hcount : operations.length < 2046) :
    ∃ filler : Operation, ∀ (sdk : EthPluginSdk) (host : Host), host.Compatible sdk →
      ∀ memory : Context,
        let s := batchCallSession host memory
          (⟨operationType, target, encodeCallAgreementData call.encode userData⟩ :: filler ::
            operations)
        (s.AllOk sdk ↔ ¬ (call.viewer true).Overflows) ∧ s.DisplayedAs sdk (call.viewer true) := by
  let shown : Operation := ⟨operationType, target, encodeCallAgreementData call.encode userData⟩
  refine ⟨fillerOperation (fillerSize (shown.encode.length + sizeBeforeLast operations)),
    fun sdk host hhost memory => ?_⟩
  intro s
  -- the parser goes to the last operation's offset, and finds the first operation there
  have hentry := entryOffset_maskedBatch shown hne hcount
  have hcarries : CarriesCall
      (innerWords .batchCall (toWords (encodeBatchCall (maskedBatch shown operations)))) call := by
    have hsplit :
        maskedBatch shown operations = [] ++ shown :: (maskedBatch shown operations).tail :=
      rfl
    refine carries_of_entry hsplit rfl ?_ ?_ hentry
    · rw [length_maskedBatch]
      omega
    · rw [← hentry, entryOffset_maskedBatch_zero, length_maskedBatch]
      omega
  have hpresents : Presents s .batchCall call :=
    ⟨rfl, Selector.isStream_batchCall, hcarries, fun _ => hrate⟩
  exact hpresents.displayedAs hhost hvalid

/-- A stream of DAIx before another of ETHx. -/
theorem batch_masked_dai :
    ∃ filler : Operation, ∀ memory : Context,
      (batchCallSession (referenceHost (zeros 20)) memory
        (⟨201, zeros 20, encodeCallAgreementData (startAsDai 0 1).encode []⟩ :: filler ::
          [⟨201, zeros 20, encodeCallAgreementData startUnknown.encode []⟩])).DisplayedAs
            referenceSdk
        ((startAsDai 0 1).viewer true) := by
  obtain ⟨filler, hfiller⟩ := batch_masked 201 (zeros 20) (startAsDai 0 1) []
    (canonicalStream_startAsDai 0).valid rfl
    [⟨201, zeros 20, encodeCallAgreementData startUnknown.encode []⟩] (by simp) (by decide)
  exact ⟨filler, fun memory => (hfiller referenceSdk _ (referenceHost_compatible _) memory).2⟩

end Ricochet
