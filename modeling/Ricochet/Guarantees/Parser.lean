import Ricochet.Equiv.ParserInvariant
import Ricochet.Plugin.ReferenceSdk

/-!
# The parser after any messages

The application hands over the words in order, but nothing in the parser relies on it: whatever
words come, at whatever offsets, the control fields stay in the states the handlers know, and a
parser that has come to its end no longer changes (`parser_invariant`).
-/

namespace Ricochet

open CLib Machine

variable {sdk : EthPluginSdk}

/-- Every selector that is accepted, and any messages, in any order of offsets. -/
theorem parser_invariant (s : Session) (sdk : EthPluginSdk)
    (hinit : (s.init sdk).1.result = .ok) (msgs : List EthPluginProvideParameter) :
    let c := exec (handleProvideParameter sdk) msgs (s.init sdk).2
    c.valid = (s.init sdk).2.valid ∧
      c.selectorIndex = (s.init sdk).2.selectorIndex ∧
      c.methodId ∈ [startStream, updateStream, stopStream] ∧
      (s.selector = callAgreementSelector → CallAgreementInvariant c ∧
        ∀ m ∈ outputs (handleProvideParameter sdk) msgs (s.init sdk).2, m.result = .ok) ∧
      (s.selector = batchCallSelector → BatchCallInvariant c ∧
        ∀ m ∈ outputs (handleProvideParameter sdk) msgs (s.init sdk).2, m.result = .ok) ∧
      (c.nextParam = .none → ∀ later, exec (handleProvideParameter sdk) later c = c) := by
  obtain ⟨hhost, sel, hsel⟩ := Session.init_ok_iff.mp hinit
  rw [Session.init_eq_of_selector hhost hsel]
  intro c
  have hstart := ParserInvariant.initial s.host sel
  have h : ParserInvariant sel c := parserInvariant_exec s.host sel msgs
  refine ⟨?_, ?_, h.methodId, ?_, ?_, ?_⟩
  · rw [h.valid]
    exact hstart.valid.symm
  · rw [h.selectorIndex]
    exact hstart.selectorIndex.symm
  · intro hcall
    obtain rfl : sel = .callAgreement := Selector.bytes_injective (hsel.symm.trans hcall)
    exact ⟨h, ParserInvariant.forall_outputs_ok s.host (Or.inl rfl) msgs⟩
  · intro hbatch
    obtain rfl : sel = .batchCall := Selector.bytes_injective (hsel.symm.trans hbatch)
    exact ⟨h, ParserInvariant.forall_outputs_ok s.host (Or.inr rfl) msgs⟩
  · -- no message of a list changes the context, so neither does the list
    intro hnone later
    apply exec_eq_self
    exact fun msg _ => h.step_of_none hnone msg

/-- A message that repeats the first offset comes between two that are out of order. -/
theorem parser_invariant_unordered :
    BatchCallInvariant (exec (handleProvideParameter referenceSdk)
      [parameterMsg 7 (zeros 32), parameterMsg 0 (zeros 32), parameterMsg 0 (zeros 32)]
      ((⟨referenceHost (zeros 20), Context.zero, batchCallSelector, []⟩ : Session).init
        referenceSdk).2) := by
  have hinit : ((⟨referenceHost (zeros 20), Context.zero, batchCallSelector, []⟩ : Session).init
      referenceSdk).1.result = .ok :=
    Session.init_ok_iff.mpr ⟨referenceHost_compatible _, .batchCall, rfl⟩
  exact ((parser_invariant _ referenceSdk hinit _).2.2.2.2.1 rfl).1

end Ricochet
