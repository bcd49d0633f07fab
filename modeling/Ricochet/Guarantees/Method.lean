import Ricochet.Guarantees.CallAgreement
import Ricochet.Guarantees.Finalize

/-!
# The method of a stream operation

`ETH_PLUGIN_INIT_CONTRACT` refuses a selector it does not find.  The inner selector is looked up
twice, by the parser and by the identification query, and neither lookup refuses: an unknown one
leaves `method_id` at the zero of the cleared context, which is `START_STREAM`, and the version
unwritten.  `method_supported_iff` says when a parsed session answered with `OK` has a method of the
table.
-/

namespace Ricochet

open CLib Abi

namespace Session

variable {s : Session} {sdk : EthPluginSdk} {sel : Selector}

/-- The context's method is one of the table, with its name shown and its behaviour followed. -/
def MethodSupported (s : Session) (sdk : EthPluginSdk) : Prop :=
  ∃ m ∈ cfaMethodCollection,
    (s.final sdk).methodCfa = m.method ∧ (s.final sdk).methodId = m.methodId ∧
      (s.contractId sdk).version = strlcpy s.host.version m.methodName s.host.versionLength

/-- A session whose parser has read the selector of a listed method supports it. -/
theorem methodSupported_of_mem (hhost : s.host.Compatible sdk) (hstream : sel.IsStream)
    (hsel : s.selector = sel.bytes) {m : CfaMethod} (hm : m ∈ cfaMethodCollection)
    (hmethod : window (innerWords sel s.words) 0 4 = m.method) : s.MethodSupported sdk := by
  have h := streamParsed hhost hstream hsel
  have hfind : lookupMethod m.method = some m := lookupMethod_eq_some_iff.mpr ⟨hm, rfl⟩
  obtain ⟨a, t, t', hfinal⟩ := exists_final_eq hhost hstream hsel
  refine ⟨m, hm, ?_, ?_, ?_⟩
  · rw [hfinal]
    exact h.methodCfa.trans hmethod
  · rw [hfinal]
    exact h.methodId.trans (by rw [hmethod, methodIdOf_of_mem hm])
  · rw [contractId_stream hhost hstream hsel, hmethod, hfind]
    rfl

theorem method_mem_of_methodSupported (hhost : s.host.Compatible sdk) (hstream : sel.IsStream)
    (hsel : s.selector = sel.bytes) (h : s.MethodSupported sdk) :
    ∃ m ∈ cfaMethodCollection, window (innerWords sel s.words) 0 4 = m.method := by
  obtain ⟨m, hm, hmethod, -, -⟩ := h
  obtain ⟨a, t, t', hfinal⟩ := exists_final_eq hhost hstream hsel
  rw [hfinal] at hmethod
  exact ⟨m, hm, (streamParsed hhost hstream hsel).methodCfa.symm.trans hmethod⟩

/-- A session with an unknown method is handled as the start of a stream. -/
theorem hasRate_of_not_mem (hunknown : ∀ m ∈ cfaMethodCollection,
    window (innerWords sel s.words) 0 4 ≠ m.method) : s.HasRate sel := by
  have hnone : lookupMethod (window (innerWords sel s.words) 0 4) = none :=
    lookupMethod_eq_none_iff.mpr fun m hm => (hunknown m hm).symm
  refine Or.inr ?_
  rw [methodIdOf_of_lookup_eq_none hnone]
  decide

/-- A session answered with `OK` has a supported method exactly when its calldata has the selector
of a listed one where the parser reads it; a rate that does not fit makes it fail. -/
theorem methodSupported_of_allOk_iff (hhost : s.host.Compatible sdk) (hstream : sel.IsStream)
    (hsel : s.selector = sel.bytes) :
    (s.AllOk sdk → s.MethodSupported sdk) ↔
      (∃ m ∈ cfaMethodCollection, window (innerWords sel s.words) 0 4 = m.method) ∨
        2 ^ 64 ≤ s.rate sel * 2592000 := by
  rw [allOk_iff hhost hstream hsel]
  constructor
  · intro h
    by_cases hknown : ∃ m ∈ cfaMethodCollection, window (innerWords sel s.words) 0 4 = m.method
    · exact Or.inl hknown
    · refine Or.inr (Nat.le_of_not_lt fun hfit => hknown ?_)
      exact method_mem_of_methodSupported hhost hstream hsel (h fun _ => hfit)
  · rintro (⟨m, hm, hmethod⟩ | hbig) hfit
    · exact methodSupported_of_mem hhost hstream hsel hm hmethod
    · by_cases hknown : ∃ m ∈ cfaMethodCollection, window (innerWords sel s.words) 0 4 = m.method
      · obtain ⟨m, hm, hmethod⟩ := hknown
        exact methodSupported_of_mem hhost hstream hsel hm hmethod
      · have hrate : s.HasRate sel := hasRate_of_not_mem fun m hm hmethod =>
          hknown ⟨m, hm, hmethod⟩
        have := hfit hrate
        omega

/-- The sessions that come to the end of the parse and are `OK` only with a supported method are
those whose calldata, if it goes on to the end of the inner call, has the selector of a listed
method there, and those that fail for a rate that does not fit. -/
theorem method_supported_iff (s : Session) (sdk : EthPluginSdk) (sel : Selector)
    (hhost : s.host.Compatible sdk) (hstream : sel.IsStream) (hsel : s.selector = sel.bytes) :
    ((s.parsed sdk).nextParam = .none → s.AllOk sdk → s.MethodSupported sdk) ↔
      (CarriesInnerCall sel s.words →
        (∃ m ∈ cfaMethodCollection, window (innerWords sel s.words) 0 4 = m.method) ∨
          2 ^ 64 ≤ s.rate sel * 2592000) := by
  rw [(streamParsed hhost hstream hsel).nextParam, ← carriesInnerCall_iff hstream,
    methodSupported_of_allOk_iff hhost hstream hsel]

theorem method_supported_start :
    (callAgreementSession (referenceHost (zeros 20)) Context.zero (zeros 20)
      (startAsDai 0 1).encode []).MethodSupported referenceSdk := by
  have hs := presents_callAgreementSession (referenceHost (zeros 20)) Context.zero (zeros 20)
    (startAsDai 0 1) []
  exact (method_supported_iff _ referenceSdk .callAgreement (referenceHost_compatible _)
    (Or.inl rfl) rfl).mpr (fun _ => Or.inl ⟨_, (startAsDai 0 1).method_mem, hs.carries.method⟩)
    (hs.nextParam (referenceHost_compatible _))
    (allOk_startAsDai (referenceHost_compatible _) hs)

/-- A call with a selector of no method, and arguments that are all zero. -/
def unknownCall : List UInt8 := [0xde, 0xad, 0xbe, 0xef] ++ List.replicate 128 0

theorem method_unsupported_unknownCall :
    let s := callAgreementSession (referenceHost (zeros 20)) Context.zero (zeros 20) unknownCall []
    (s.parsed referenceSdk).nextParam = .none ∧ s.AllOk referenceSdk ∧
      (s.final referenceSdk).methodId = startStream ∧ ¬ s.MethodSupported referenceSdk := by
  intro s
  have hhost : s.host.Compatible referenceSdk := referenceHost_compatible _
  have hlen : unknownCall.length = 132 := by simp [unknownCall]
  have hwords : s.words = toWords (encodeCallAgreement (zeros 20) unknownCall []) :=
    words_callAgreementSession _ _ _ _ _
  have hmethod : window (innerWords .callAgreement s.words) 0 4 = #v[0xde, 0xad, 0xbe, 0xef] := by
    rw [hwords, window_encodeCallAgreement (zeros 20) unknownCall [] (by omega)]
    decide
  have hrate : s.rate .callAgreement = 0 := by
    have hslice : window (innerWords .callAgreement s.words) 68 32 = zeros 32 := by
      rw [hwords, window_encodeCallAgreement (zeros 20) unknownCall [] (by omega)]
      decide
    rw [rate, hslice]
    decide
  have hparsed := streamParsed hhost Selector.isStream_callAgreement rfl
  obtain ⟨a, t, t', hfinal⟩ := exists_final_eq hhost Selector.isStream_callAgreement rfl
  refine ⟨?_, ?_, ?_, ?_⟩
  · rw [hparsed.nextParam, hwords]
    exact length_innerWords_encodeCallAgreement (zeros 20) unknownCall [] (by omega)
  · refine (allOk_iff hhost Selector.isStream_callAgreement rfl).mpr fun _ => ?_
    rw [hrate]
    decide
  · simp only [hfinal]
    rw [hparsed.methodId, hmethod]
    decide
  · intro h
    obtain ⟨m, hm, hm'⟩ := method_mem_of_methodSupported hhost
      Selector.isStream_callAgreement rfl h
    rw [hmethod] at hm'
    revert m hm hm'
    decide

end Session

end Ricochet
