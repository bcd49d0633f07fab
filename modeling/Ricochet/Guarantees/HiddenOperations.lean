import Ricochet.Guarantees.EntryPoints
import Ricochet.Guarantees.Rates

/-!
# The operations of a batch that are not shown

The parser of `batchCall` goes straight to the data of the last operation.  The type and the target
it steps through and the operations it jumps over are neither compared with anything nor kept, so
the answers of a session depend on the data of the last operation alone (`last_operation_shown`).
Any other operation goes unnoticed, another stream among them.
-/

namespace Ricochet

open CLib Abi

namespace Session

variable {sdk : EthPluginSdk} {host : Host}

/-- Whether a canonical batch is answered with `OK`, from the data of its last operation. -/
theorem allOk_batchCallSession_iff (hhost : host.Compatible sdk) (memory : Context)
    (operations : List Operation) (last : Operation) (hlast : lastOffset operations < 65536) :
    (batchCallSession host memory (operations ++ [last])).AllOk sdk ↔
      beNat (slice (pad last.data) 164 32).toList * 2592000 < 2 ^ 64 := by
  rw [allOk_iff hhost Selector.isStream_batchCall rfl, rate, words_batchCallSession,
    window_encodeBatchCall operations last hlast]
  exact ⟨fun h => h (hasRate_batchCall _), fun h _ => h⟩

end Session

/-- Every canonical batch whose last offset is below 65536.  The display and whether every answer
is `OK` depend on nothing but the last operation's data, not even on that operation's type; and if
the data is that of an operation with a rate, it is this operation that is shown. -/
theorem last_operation_shown (sdk : EthPluginSdk) (host : Host) (hhost : host.Compatible sdk)
    (memory : Context) (operations : List Operation) (last : Operation)
    (hlast : lastOffset operations < 65536) :
    let s := batchCallSession host memory (operations ++ [last])
    (∀ (memory' : Context) (operations' : List Operation) (last' : Operation),
      lastOffset operations' < 65536 → last'.data = last.data →
      let s' := batchCallSession host memory' (operations' ++ [last'])
      s'.display sdk = s.display sdk ∧ (s'.AllOk sdk ↔ s.AllOk sdk)) ∧
    (∀ (call : CfaCall) (userData : List UInt8),
      last.data = encodeCallAgreementData call.encode userData → call.Valid →
      call.flowRate?.isSome → s.AllOk sdk →
        (s.contractId sdk).version =
          strlcpy host.version call.method.methodName host.versionLength ∧
        s.ShowsStream sdk call.flowRate? (tickerSentOf call.receiver)
          (tickerReceivedOf call.receiver)) := by
  intro s
  constructor
  · intro memory' operations' last' hlast' hdata s'
    have hdisplay := Session.display_batchCallSession hhost memory' operations' last' hlast'
    have hok := Session.allOk_batchCallSession_iff hhost memory' operations' last' hlast'
    have hdisplay' := Session.display_batchCallSession hhost memory operations last hlast
    have hok' := Session.allOk_batchCallSession_iff hhost memory operations last hlast
    rw [hdata] at hdisplay hok
    exact ⟨hdisplay.trans hdisplay'.symm, hok.trans hok'.symm⟩
  · intro call userData hdata hvalid hrate hok
    obtain ⟨pre, post, hpre, hsplit⟩ := encodeCallAgreementData_split call.encode userData
    have hcarries := carries_of_lastData operations last call hpre (hdata.trans hsplit) hlast
    have hs : Presents s .batchCall call :=
      ⟨rfl, Selector.isStream_batchCall, hcarries, fun _ => hrate⟩
    exact ⟨hs.version hhost, hs.showsStream_tickers hhost hvalid.lt_word hok⟩

theorem last_operation_shown_dai :
    (batchCallSession (referenceHost (zeros 20)) Context.zero ([⟨1, zeros 20, [1, 2, 3]⟩] ++
      [⟨201, zeros 20, encodeCallAgreementData (startAsDai 0 1).encode []⟩])).ShowsStream
        referenceSdk (some 1) (tickerSentOf (startAsDai 0 1).receiver)
          (tickerReceivedOf (startAsDai 0 1).receiver) := by
  have hlast : lastOffset [⟨1, zeros 20, [1, 2, 3]⟩] < 65536 := by
    rw [lastOffset]
    simp [length_encode_operation]
  have hs := presents_batchCallSession (referenceHost (zeros 20)) Context.zero
    [⟨1, zeros 20, [1, 2, 3]⟩] 201 (zeros 20) (startAsDai 0 1) [] hlast rfl
  have h := last_operation_shown referenceSdk (referenceHost (zeros 20))
    (referenceHost_compatible _) Context.zero [⟨1, zeros 20, [1, 2, 3]⟩]
    ⟨201, zeros 20, encodeCallAgreementData (startAsDai 0 1).encode []⟩ hlast
  exact (h.2 (startAsDai 0 1) [] rfl (canonicalStream_startAsDai 0).valid rfl
    (allOk_startAsDai (referenceHost_compatible _) hs)).2

/-- Three batches that are answered with `OK` and show a stream of DAIx: one with another stream
before it, one whose operation is no call of an agreement by its type, and one that is so large that
its second operation, a stream too, is not reached. -/
theorem operation_hidden :
    let dai : List UInt8 := encodeCallAgreementData (startAsDai 0 1).encode []
    let other : Operation := ⟨201, zeros 20, encodeCallAgreementData startUnknown.encode []⟩
    let hidden := batchCallSession (referenceHost (zeros 20)) Context.zero
      ([other] ++ [⟨201, zeros 20, dai⟩])
    let mistyped := batchCallSession (referenceHost (zeros 20)) Context.zero
      ([] ++ [⟨1, zeros 20, dai⟩])
    let far := batchCallSession (referenceHost (zeros 20)) Context.zero
      ([longOperation 1 (zeros 20) (startAsDai 0 1).encode] ++ [other])
    (decodeCallAgreementData other.data = some (startUnknown.encode, []) ∧
      slice startUnknown.encode 0 4 ∈ cfaMethodCollection.map CfaMethod.method) ∧
    (hidden.AllOk referenceSdk ∧ hidden.ShowsStream referenceSdk (some 1) "DAIx " "ETHx") ∧
    (mistyped.AllOk referenceSdk ∧ mistyped.ShowsStream referenceSdk (some 1) "DAIx " "ETHx") ∧
    (far.AllOk referenceSdk ∧ far.ShowsStream referenceSdk (some 1) "DAIx " "ETHx") := by
  intro dai other hidden mistyped far
  have hhost := referenceHost_compatible (zeros 20)
  have hlen := length_startUnknown
  -- the second operation of `hidden` is near enough to be reached
  have hlast : lastOffset [other] < 65536 := by
    simp only [lastOffset, List.length_singleton, List.map_singleton, List.sum_singleton,
      length_encode_operation, other, length_encodeCallAgreementData, hlen, List.length_nil]
    decide
  have hhidden : Presents hidden .batchCall (startAsDai 0 1) :=
    presents_batchCallSession _ _ [other] 201 (zeros 20) (startAsDai 0 1) [] hlast rfl
  have hmistyped : Presents mistyped .batchCall (startAsDai 0 1) :=
    presents_batchCallSession _ _ [] 1 (zeros 20) (startAsDai 0 1) [] (by decide) rfl
  have hfar : Presents far .batchCall (startAsDai 0 1) :=
    presents_longOperation _ _ 1 (zeros 20) (startAsDai 0 1) other length_startAsDai rfl
  have hmethod : slice startUnknown.encode 0 4 = startUnknown.method.method :=
    (hasFields_of_decode decode_startUnknown).1.method
  refine ⟨⟨?_, ?_⟩, ⟨allOk_startAsDai hhost hhidden, ?_⟩,
    ⟨allOk_startAsDai hhost hmistyped, ?_⟩, ⟨allOk_startAsDai hhost hfar, ?_⟩⟩
  · exact decodeCallAgreementData_encode startUnknown.encode [] (by omega) (by decide)
  · rw [hmethod]
    exact List.mem_map_of_mem startUnknown.method_mem
  · exact showsStream_startAsDai hhost hhidden
  · exact showsStream_startAsDai hhost hmistyped
  · exact showsStream_startAsDai hhost hfar

end Ricochet
