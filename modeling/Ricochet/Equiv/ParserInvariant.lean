import Ricochet.Equiv.Contract
import Ricochet.Equiv.HandleInitContract

/-!
# Invariants of the parsers

What holds of the control fields after any messages, with any words at any offsets.  For
`callAgreement` nothing ever sets `go_to_offset`, and `skip` is set for one word only; for
`batchCall` `go_to_offset` is set in three states only, and is cleared before any of them is left.
Neither parser ever meets a parameter it does not support, so every message is answered with `OK`.
A parser that has come to its end has cleared both jump fields, and leaves everything alone.
-/

namespace Ricochet

open CLib Machine

variable {sdk : EthPluginSdk} {c : Context}

/-- What `handle_method_cfa` can do: the method is kept, or is one of the table's. -/
theorem handleMethodCfa_cases (msg : EthPluginProvideParameter) (c : Context) :
    ∃ m id, handleMethodCfa msg c = { c with methodCfa := m, methodId := id } ∧
      (id = c.methodId ∨ id ∈ cfaMethodCollection.map CfaMethod.methodId) := by
  rw [handleMethodCfa]
  dsimp only
  split
  · next e he =>
    exact ⟨_, _, rfl, Or.inr (List.mem_map_of_mem (List.mem_of_find?_eq_some he))⟩
  · exact ⟨_, _, rfl, Or.inl rfl⟩

theorem methodId_handleMethodCfa_mem (msg : EthPluginProvideParameter)
    (h : c.methodId ∈ [startStream, updateStream, stopStream]) :
    (handleMethodCfa msg c).methodId ∈ [startStream, updateStream, stopStream] := by
  obtain ⟨m, id, hcfa, rfl | hmem⟩ := handleMethodCfa_cases msg c
  · rw [hcfa]
    exact h
  · have hall : cfaMethodCollection.map CfaMethod.methodId ⊆
        [startStream, updateStream, stopStream] := by decide
    rw [hcfa]
    exact hall hmem

/-- Nothing that decides what the parser does next has changed, the parameter it expects apart. -/
structure KeepsControl (c c' : Context) : Prop where
  valid : c'.valid = c.valid
  selectorIndex : c'.selectorIndex = c.selectorIndex
  goToOffset : c'.goToOffset = c.goToOffset
  skip : c'.skip = c.skip
  methodId : c.methodId ∈ [startStream, updateStream, stopStream] →
    c'.methodId ∈ [startStream, updateStream, stopStream]

/-- What `callAgreement` does with a word while it reads the inner call. -/
theorem callAgreementSwitch_callData (sdk : EthPluginSdk) (hnext : c.nextParam = .callData)
    (msg : EthPluginProvideParameter) :
    ∃ c', callAgreementSwitch sdk msg c = (msg, c') ∧ KeepsControl c c' ∧
      (c'.nextParam = .callData ∨ c'.nextParam = .none) := by
  obtain ⟨m, i, hcfa, -⟩ := handleMethodCfa_cases msg c
  have hid := methodId_handleMethodCfa_mem (c := c) msg
  rw [hcfa] at hid
  rw [callAgreementSwitch, hnext]
  simp only [hcfa, handleTokenFirstPart, handleTokenSecondPart, handleSentAddressFirstPart,
    handleSentAddressSecondPart, handleFlowRateFirstPart, handleFlowRateSecondPart,
    handleReceiveAddressFirstPart, handleReceiveAddressSecondPart]
  by_cases h0 : msg.parameterOffset = c.offset + .ofNat selectorSize
  · -- the first word is the one that may change the method
    rw [if_pos h0]
    exact ⟨_, rfl, ⟨rfl, rfl, rfl, rfl, hid⟩, Or.inl rfl⟩
  rw [if_neg h0]
  by_cases h1 : msg.parameterOffset = c.offset + .ofNat selectorSize + .ofNat parameterLength
  · rw [if_pos h1]
    exact ⟨_, rfl, ⟨rfl, rfl, rfl, rfl, id⟩, Or.inl rfl⟩
  rw [if_neg h1]
  by_cases h2 : msg.parameterOffset = c.offset + .ofNat selectorSize + .ofNat (2 * parameterLength)
  · rw [if_pos h2]
    by_cases hstop : c.methodId = stopStream
    · simp only [hstop, if_true]
      exact ⟨_, rfl, ⟨rfl, rfl, rfl, rfl, fun h => hstop ▸ h⟩, Or.inl rfl⟩
    · simp only [hstop, if_false]
      exact ⟨_, rfl, ⟨rfl, rfl, rfl, rfl, id⟩, Or.inl rfl⟩
  rw [if_neg h2]
  by_cases h3 : msg.parameterOffset = c.offset + .ofNat selectorSize + .ofNat (3 * parameterLength)
  · rw [if_pos h3]
    by_cases hstop : c.methodId = stopStream
    · simp only [hstop, if_true]
      exact ⟨_, rfl, ⟨rfl, rfl, rfl, rfl, fun h => hstop ▸ h⟩, Or.inr rfl⟩
    · simp only [hstop, if_false]
      exact ⟨_, rfl, ⟨rfl, rfl, rfl, rfl, id⟩, Or.inr rfl⟩
  · rw [if_neg h3]
    exact ⟨_, rfl, ⟨rfl, rfl, rfl, rfl, id⟩, Or.inl rfl⟩

/-- What `batchCall` does with one. -/
theorem batchCallSwitch_inputData (sdk : EthPluginSdk) (hnext : c.nextParam = .inputData)
    (msg : EthPluginProvideParameter) :
    ∃ c', batchCallSwitch sdk msg c = (msg, c') ∧ KeepsControl c c' ∧
      (c'.nextParam = .inputData ∨ c'.nextParam = .none) := by
  obtain ⟨m, i, hcfa, -⟩ := handleMethodCfa_cases msg c
  have hid := methodId_handleMethodCfa_mem (c := c) msg
  rw [hcfa] at hid
  rw [batchCallSwitch, hnext]
  simp only [hcfa, handleSentAddressFirstPart, handleSentAddressSecondPart,
    handleReceiveAddressFirstPart, handleReceiveAddressSecondPart, handleFlowRateFirstPart,
    handleFlowRateSecondPart]
  split_ifs
  · exact ⟨_, rfl, ⟨rfl, rfl, rfl, rfl, hid⟩, Or.inl rfl⟩
  · exact ⟨_, rfl, ⟨rfl, rfl, rfl, rfl, id⟩, Or.inl rfl⟩
  · exact ⟨_, rfl, ⟨rfl, rfl, rfl, rfl, id⟩, Or.inl rfl⟩
  · exact ⟨_, rfl, ⟨rfl, rfl, rfl, rfl, id⟩, Or.inr rfl⟩
  · exact ⟨_, rfl, ⟨rfl, rfl, rfl, rfl, id⟩, Or.inl rfl⟩

/-! ### Messages that are neither skipped nor dropped -/

theorem handleProvideParameter_eq_callAgreementSwitch
    (hsel : c.selectorIndex = Selector.callAgreement.index) (hskip : c.skip = 0)
    (hgo : c.goToOffset ≠ 1) (msg : EthPluginProvideParameter) :
    handleProvideParameter sdk msg c = callAgreementSwitch sdk { msg with result := .ok } c := by
  simp only [handleProvideParameter, hskip, hsel, Selector.ofIndex?_index, ne_eq,
    not_true_eq_false, if_false, handleCallAgreement, if_neg hgo]

theorem handleProvideParameter_eq_handleBatchCall
    (hsel : c.selectorIndex = Selector.batchCall.index) (hskip : c.skip = 0)
    (msg : EthPluginProvideParameter) :
    handleProvideParameter sdk msg c = handleBatchCall sdk { msg with result := .ok } c := by
  simp only [handleProvideParameter, hskip, hsel, Selector.ofIndex?_index, ne_eq,
    not_true_eq_false, if_false]

theorem handleProvideParameter_eq_batchCallSwitch
    (hsel : c.selectorIndex = Selector.batchCall.index) (hskip : c.skip = 0)
    (hgo : c.goToOffset ≠ 1) (msg : EthPluginProvideParameter) :
    handleProvideParameter sdk msg c = batchCallSwitch sdk { msg with result := .ok } c := by
  rw [handleProvideParameter_eq_handleBatchCall hsel hskip, handleBatchCall, if_neg hgo]

/-! ### The parser of `callAgreement` -/

/-- The control fields of the parser of `callAgreement`. -/
structure CallAgreementInvariant (c : Context) : Prop where
  valid : c.valid = 1
  selectorIndex : c.selectorIndex = Selector.callAgreement.index
  nextParam : c.nextParam ∈
    [Param.agreementClass, .pathOffset, .pathLength, .callData, .none]
  goToOffset : c.goToOffset = 0
  skip : c.skip = 0 ∨ c.skip = 1 ∧ c.nextParam = .pathLength
  methodId : c.methodId ∈ [startStream, updateStream, stopStream]

theorem CallAgreementInvariant.switch (h : CallAgreementInvariant c) (sdk : EthPluginSdk)
    (hskip : c.skip = 0) (msg : EthPluginProvideParameter) :
    CallAgreementInvariant (callAgreementSwitch sdk msg c).2 ∧
      (callAgreementSwitch sdk msg c).1.result = msg.result := by
  obtain ⟨hvalid, hsel, hparam, hgo, -, hid⟩ := h
  cases hnext : c.nextParam with
  | agreementClass =>
    rw [callAgreementSwitch, hnext]
    unfold handleAgreementClass
    exact ⟨⟨hvalid, hsel, by simp, hgo, Or.inl hskip, hid⟩, rfl⟩
  | pathOffset =>
    -- the one place where `skip` is set
    rw [callAgreementSwitch, hnext]
    exact ⟨⟨hvalid, hsel, by simp, hgo, Or.inr ⟨by rw [hskip]; rfl, rfl⟩, hid⟩, rfl⟩
  | pathLength =>
    rw [callAgreementSwitch, hnext]
    exact ⟨⟨hvalid, hsel, by simp, hgo, Or.inl hskip, hid⟩, rfl⟩
  | callData =>
    obtain ⟨c', hswitch, hkeeps, hend⟩ := callAgreementSwitch_callData sdk hnext msg
    rw [hswitch]
    refine ⟨⟨hkeeps.valid.trans hvalid, hkeeps.selectorIndex.trans hsel, ?_,
      hkeeps.goToOffset.trans hgo, Or.inl (hkeeps.skip.trans hskip), hkeeps.methodId hid⟩, rfl⟩
    rcases hend with hend | hend <;> simp [hend]
  | none =>
    rw [callAgreementSwitch, hnext]
    exact ⟨⟨hvalid, hsel, hparam, hgo, Or.inl hskip, hid⟩, rfl⟩
  | _ =>
    rw [hnext] at hparam
    exact absurd hparam (by decide)

theorem CallAgreementInvariant.goToOffset_ne (h : CallAgreementInvariant c) : c.goToOffset ≠ 1 := by
  rw [h.goToOffset]
  decide

/-- The parser of `callAgreement` keeps its invariant and answers with `OK`, to any message. -/
theorem CallAgreementInvariant.step (h : CallAgreementInvariant c)
    (msg : EthPluginProvideParameter) :
    CallAgreementInvariant (handleProvideParameter sdk msg c).2 ∧
      (handleProvideParameter sdk msg c).1.result = .ok := by
  rcases h.skip with hskip | ⟨hskip, -⟩
  · rw [handleProvideParameter_eq_callAgreementSwitch h.selectorIndex hskip h.goToOffset_ne]
    exact h.switch sdk hskip _
  · -- a word to skip only counts `skip` down
    simp only [handleProvideParameter, hskip]
    rw [if_pos (by decide)]
    exact ⟨⟨h.valid, h.selectorIndex, h.nextParam, h.goToOffset,
      Or.inl (show (1 : UInt8) - 1 = 0 by decide), h.methodId⟩, rfl⟩

/-- At its end the parser of `callAgreement` leaves everything alone. -/
theorem CallAgreementInvariant.step_of_none (h : CallAgreementInvariant c)
    (hnone : c.nextParam = .none) (msg : EthPluginProvideParameter) :
    (handleProvideParameter sdk msg c).2 = c := by
  have hskip : c.skip = 0 := by
    apply h.skip.resolve_right
    rintro ⟨-, hlength⟩
    rw [hnone] at hlength
    cases hlength
  rw [handleProvideParameter_eq_callAgreementSwitch h.selectorIndex hskip h.goToOffset_ne,
    callAgreementSwitch, hnone]

theorem callAgreementInvariant_initial (host : Host) :
    CallAgreementInvariant (Session.initial host .callAgreement) :=
  ⟨rfl, rfl, by simp [Session.initial, Selector.firstParam], rfl, Or.inl rfl,
    by simp [Session.initial, Context.zero, startStream]⟩

/-! ### The parser of `batchCall` -/

/-- The control fields of the parser of `batchCall`. -/
structure BatchCallInvariant (c : Context) : Prop where
  valid : c.valid = 1
  selectorIndex : c.selectorIndex = Selector.batchCall.index
  nextParam : c.nextParam ∈
    [Param.pathOffset, .pathLength, .contractPathOffset, .operationType, .target, .bytesArrayLen,
      .inputData, .none]
  skip : c.skip = 0
  goToOffset : c.goToOffset = 0 ∨
    c.goToOffset = 1 ∧ c.nextParam ∈ [Param.contractPathOffset, .operationType, .bytesArrayLen]
  methodId : c.methodId ∈ [startStream, updateStream, stopStream]

theorem BatchCallInvariant.switch (h : BatchCallInvariant c) (sdk : EthPluginSdk)
    (hgo : c.goToOffset = 0) (msg : EthPluginProvideParameter) :
    BatchCallInvariant (batchCallSwitch sdk msg c).2 ∧
      (batchCallSwitch sdk msg c).1.result = msg.result := by
  obtain ⟨hvalid, hsel, hparam, hskip, -, hid⟩ := h
  cases hnext : c.nextParam with
  | pathOffset | operationType | bytesArrayLen =>
    rw [batchCallSwitch, hnext]
    exact ⟨⟨hvalid, hsel, by simp, hskip, Or.inl hgo, hid⟩, rfl⟩
  | pathLength | contractPathOffset | target =>
    -- the three jumps
    rw [batchCallSwitch, hnext]
    exact ⟨⟨hvalid, hsel, by simp, hskip, Or.inr ⟨rfl, by simp⟩, hid⟩, rfl⟩
  | inputData =>
    obtain ⟨c', hswitch, hkeeps, hend⟩ := batchCallSwitch_inputData sdk hnext msg
    rw [hswitch]
    refine ⟨⟨hkeeps.valid.trans hvalid, hkeeps.selectorIndex.trans hsel, ?_,
      hkeeps.skip.trans hskip, Or.inl (hkeeps.goToOffset.trans hgo), hkeeps.methodId hid⟩, rfl⟩
    rcases hend with hend | hend <;> simp [hend]
  | none =>
    rw [batchCallSwitch, hnext]
    exact ⟨⟨hvalid, hsel, hparam, hskip, Or.inl hgo, hid⟩, rfl⟩
  | _ =>
    rw [hnext] at hparam
    exact absurd hparam (by decide)

/-- The parser of `batchCall` keeps its invariant and answers with `OK`, whatever the message. -/
theorem BatchCallInvariant.step (h : BatchCallInvariant c) (msg : EthPluginProvideParameter) :
    BatchCallInvariant (handleProvideParameter sdk msg c).2 ∧
      (handleProvideParameter sdk msg c).1.result = .ok := by
  rw [handleProvideParameter_eq_handleBatchCall h.selectorIndex h.skip, handleBatchCall]
  by_cases hgo : c.goToOffset = 1
  · rw [if_pos hgo]
    by_cases hwait : msg.parameterOffset ≠ c.offset + .ofNat selectorSize
    · rw [if_pos hwait]
      exact ⟨h, rfl⟩
    · -- the jump has ended: its flag is cleared before the word is looked at
      have h' : BatchCallInvariant { c with goToOffset := 0 } :=
        ⟨h.valid, h.selectorIndex, h.nextParam, h.skip, Or.inl rfl, h.methodId⟩
      rw [if_neg hwait]
      exact h'.switch sdk rfl { msg with result := .ok }
  · rw [if_neg hgo]
    exact h.switch sdk (h.goToOffset.resolve_right fun h1 => hgo h1.1) _

/-- At its end the parser of `batchCall` leaves everything alone. -/
theorem BatchCallInvariant.step_of_none (h : BatchCallInvariant c) (hnone : c.nextParam = .none)
    (msg : EthPluginProvideParameter) : (handleProvideParameter sdk msg c).2 = c := by
  have hgo : c.goToOffset ≠ 1 := by
    intro hset
    rcases h.goToOffset with hzero | ⟨-, hjump⟩
    · rw [hzero] at hset
      cases hset
    · rw [hnone] at hjump
      exact absurd hjump (by decide)
  rw [handleProvideParameter_eq_batchCallSwitch h.selectorIndex h.skip hgo, batchCallSwitch, hnone]

theorem batchCallInvariant_initial (host : Host) :
    BatchCallInvariant (Session.initial host .batchCall) :=
  ⟨rfl, rfl, by simp [Session.initial, Selector.firstParam], rfl, Or.inl rfl,
    by simp [Session.initial, Context.zero, startStream]⟩

/-! ### All selectors -/

/-- The control fields of the other selectors, whose one state is the first. -/
structure SingleStateInvariant (sel : Selector) (c : Context) : Prop where
  valid : c.valid = 1
  selectorIndex : c.selectorIndex = sel.index
  nextParam : c.nextParam = sel.firstParam
  skip : c.skip = 0
  methodId : c.methodId = startStream

/-- What the parser of a selector keeps. -/
def ParserInvariant : Selector → Context → Prop
  | .callAgreement, c => CallAgreementInvariant c
  | .batchCall, c => BatchCallInvariant c
  | sel, c => SingleStateInvariant sel c

namespace ParserInvariant

variable {sel : Selector}

theorem initial (host : Host) (sel : Selector) :
    ParserInvariant sel (Session.initial host sel) := by
  cases sel with
  | callAgreement => exact callAgreementInvariant_initial host
  | batchCall => exact batchCallInvariant_initial host
  | _ => exact ⟨rfl, rfl, rfl, rfl, rfl⟩

theorem step (h : ParserInvariant sel c) (msg : EthPluginProvideParameter) :
    ParserInvariant sel (handleProvideParameter sdk msg c).2 := by
  cases sel with
  | callAgreement => exact (CallAgreementInvariant.step h msg).1
  | batchCall => exact (BatchCallInvariant.step h msg).1
  | _ =>
    obtain ⟨hvalid, hsel, hnext, hskip, hid⟩ := h
    simp only [handleProvideParameter, hskip, hsel, Selector.ofIndex?_index, ne_eq,
      not_true_eq_false, if_false]
    exact ⟨hvalid, hsel, hnext, hskip, hid⟩

/-- No selector's parser does anything after its end. -/
theorem step_of_none (h : ParserInvariant sel c) (hnone : c.nextParam = .none)
    (msg : EthPluginProvideParameter) : (handleProvideParameter sdk msg c).2 = c := by
  cases sel with
  | callAgreement => exact CallAgreementInvariant.step_of_none h hnone msg
  | batchCall => exact BatchCallInvariant.step_of_none h hnone msg
  | upgradeToEth =>
    simp only [handleProvideParameter, SingleStateInvariant.skip h,
      SingleStateInvariant.selectorIndex h, Selector.ofIndex?_index, ne_eq, not_true_eq_false,
      if_false]
  | _ => exact absurd ((SingleStateInvariant.nextParam h).symm.trans hnone) (by decide)

theorem valid (h : ParserInvariant sel c) : c.valid = 1 := by
  cases sel with
  | callAgreement => exact CallAgreementInvariant.valid h
  | batchCall => exact BatchCallInvariant.valid h
  | _ => exact SingleStateInvariant.valid h

theorem selectorIndex (h : ParserInvariant sel c) : c.selectorIndex = sel.index := by
  cases sel with
  | callAgreement => exact CallAgreementInvariant.selectorIndex h
  | batchCall => exact BatchCallInvariant.selectorIndex h
  | _ => exact SingleStateInvariant.selectorIndex h

theorem methodId (h : ParserInvariant sel c) :
    c.methodId ∈ [startStream, updateStream, stopStream] := by
  cases sel with
  | callAgreement => exact CallAgreementInvariant.methodId h
  | batchCall => exact BatchCallInvariant.methodId h
  | _ => exact List.mem_cons.mpr (Or.inl (SingleStateInvariant.methodId h))

/-- The selectors of the stream operations have every message answered with `OK`. -/
theorem forall_outputs_ok (host : Host) (hsel : sel.IsStream)
    (msgs : List EthPluginProvideParameter) :
    ∀ m ∈ outputs (handleProvideParameter sdk) msgs (Session.initial host sel),
      m.result = .ok := by
  rcases hsel with rfl | rfl
  · exact forall_outputs CallAgreementInvariant _ (fun m _ c hc => (hc.step m).1)
      (callAgreementInvariant_initial host) fun m _ c hc => (hc.step m).2
  · exact forall_outputs BatchCallInvariant _ (fun m _ c hc => (hc.step m).1)
      (batchCallInvariant_initial host) fun m _ c hc => (hc.step m).2

end ParserInvariant

/-- After every message the context satisfies the invariant of the selector's parser. -/
theorem parserInvariant_exec (host : Host) (sel : Selector)
    (msgs : List EthPluginProvideParameter) :
    ParserInvariant sel (exec (handleProvideParameter sdk) msgs (Session.initial host sel)) :=
  exec_invariant (ParserInvariant sel) (fun msg _ _ h => h.step msg) (.initial host sel)

end Ricochet
