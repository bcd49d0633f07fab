import Ricochet.Equiv.ParserInvariant
import Ricochet.Equiv.ShiftedArguments

/-!
# The parser of `callAgreement`

Words 0 to 3 are the agreement class, an offset, a word that is skipped and a length, and the inner
call is read from word 4 on whatever they hold: `callDataResult ws c` is what the parser has made of
the words `ws` of the inner call (`callDataResult_step`), and after four of them it is done
(`callDataResult_done`).  `parsed_callAgreement` puts the parser's context in closed form for
calldata of any length.
-/

namespace Ricochet

open CLib Abi Machine

variable {sdk : EthPluginSdk} {c : Context} {b : ℕ}

/-! ### The inner call -/

/-- What the parser makes of the words of the inner call. -/
def callDataResult (ws : List Word) (c : Context) : Context :=
  { c with
    methodCfa := window ws 0 4
    methodId := methodIdOf (window ws 0 4)
    tokenAddress := window ws 16 20
    contractAddressSent := if ws.length ≤ 1 then c.contractAddressSent else window ws 48 20
    amount := window ws 68 32
    contractAddressReceived :=
      if methodIdOf (window ws 0 4) = stopStream then window ws 80 20 else zeros 20
    nextParam := if 4 ≤ ws.length then .none else .callData }

theorem atBase_callDataResult (h : AtBase .callAgreement b c) (ws : List Word) :
    AtBase .callAgreement b (callDataResult ws c) := by
  unfold callDataResult
  exact ⟨h.selectorIndex, h.skip, h.goToOffset, h.offset⟩

theorem handleProvideParameter_callAgreement (h : AtBase .callAgreement b c)
    (msg : EthPluginProvideParameter) :
    handleProvideParameter sdk msg c = callAgreementSwitch sdk { msg with result := .ok } c :=
  handleProvideParameter_eq_callAgreementSwitch h.selectorIndex h.skip h.goToOffset_ne msg

/-- Word 0 of the inner call: the method and the start of the token. -/
private theorem callDataResult_step_zero (h : AtBase .callAgreement b c) (w : Word) :
    (handleProvideParameter sdk (parameterMsg (b + 0) w) (callDataResult [] c)).2 =
      callDataResult [w] c := by
  have h' := atBase_callDataResult h []
  have h0 := (h'.slot_zero_iff 0 w (by decide)).mpr rfl
  have hnext : (callDataResult [] c).nextParam = .callData := by simp [callDataResult]
  have hid : (callDataResult [] c).methodId = startStream := by simp [callDataResult]
  rw [handleProvideParameter_callAgreement h', callAgreementSwitch]
  simp only [hnext, if_pos h0]
  simp only [handleTokenFirstPart, handleMethodCfa_eq _ _ hid,
    addressFirstPart_eq _ [] _ (p := 16) rfl]
  simp [callDataResult, window_of_length_le, parameterMsg]

/-- Word 1: the end of the token and the start of the receiver. -/
private theorem callDataResult_step_one (h : AtBase .callAgreement b c) {ws : List Word}
    (hlen : ws.length = 1) (w : Word) :
    (handleProvideParameter sdk (parameterMsg (b + 1) w) (callDataResult ws c)).2 =
      callDataResult (ws ++ [w]) c := by
  have h' := atBase_callDataResult h ws
  have h0 := (h'.slot_zero_iff 1 w (by decide)).not.mpr (by decide)
  have h1 := (h'.slot_iff 1 1 w (by decide) (by decide)).mpr rfl
  rw [Nat.one_mul] at h1
  have hnext : (callDataResult ws c).nextParam = .callData := by simp [callDataResult, hlen]
  rw [handleProvideParameter_callAgreement h', callAgreementSwitch]
  simp only [hnext, if_neg h0, if_pos h1]
  simp only [handleTokenSecondPart, handleSentAddressFirstPart, callDataResult,
    addressFirstPart_eq _ ws _ (p := 48) (by omega), addressSecondPart_eq ws _ (p := 16) (by omega)]
  simp [hlen, window_of_length_le, window_append_of_le, parameterMsg]

/-- Word 2: the end of the receiver and the start of the rate, or for a stopped stream of its
receiver. -/
private theorem callDataResult_step_two (h : AtBase .callAgreement b c) {ws : List Word}
    (hlen : ws.length = 2) (w : Word) :
    (handleProvideParameter sdk (parameterMsg (b + 2) w) (callDataResult ws c)).2 =
      callDataResult (ws ++ [w]) c := by
  have h' := atBase_callDataResult h ws
  have h0 := (h'.slot_zero_iff 2 w (by decide)).not.mpr (by decide)
  have h1 := (h'.slot_iff 2 1 w (by decide) (by decide)).not.mpr (by decide)
  have h2 := (h'.slot_iff 2 2 w (by decide) (by decide)).mpr rfl
  rw [Nat.one_mul] at h1
  have hnext : (callDataResult ws c).nextParam = .callData := by simp [callDataResult, hlen]
  have hcfa : window (ws ++ [w]) 0 4 = window ws 0 4 := window_append_of_le ws [w] (by omega)
  rw [handleProvideParameter_callAgreement h', callAgreementSwitch]
  simp only [hnext, if_neg h0, if_neg h1, if_pos h2]
  simp only [handleSentAddressSecondPart, handleFlowRateFirstPart, handleReceiveAddressFirstPart,
    callDataResult, hlen, parameterMsg, Nat.reduceLeDiff, if_false,
    addressSecondPart_eq ws w (p := 48) (by omega), flowRateFirst_eq _ ws w (p := 68) (by omega),
    addressFirstPart_eq _ ws w (p := 80) (by omega)]
  -- the word is kept twice when the stream is stopped: as a rate and as a receiver
  by_cases hstop : methodIdOf (window ws 0 4) = stopStream
  · simp [hcfa, hstop, hlen, window_append_of_le]
  · simp [hcfa, hstop, hlen, window_append_of_le]

/-- Word 3: the end of the rate, or for a stopped stream of its receiver. -/
private theorem callDataResult_step_three (h : AtBase .callAgreement b c) {ws : List Word}
    (hlen : ws.length = 3) (w : Word) :
    (handleProvideParameter sdk (parameterMsg (b + 3) w) (callDataResult ws c)).2 =
      callDataResult (ws ++ [w]) c := by
  have h' := atBase_callDataResult h ws
  have h0 := (h'.slot_zero_iff 3 w (by decide)).not.mpr (by decide)
  have h1 := (h'.slot_iff 3 1 w (by decide) (by decide)).not.mpr (by decide)
  have h2 := (h'.slot_iff 3 2 w (by decide) (by decide)).not.mpr (by decide)
  have h3 := (h'.slot_iff 3 3 w (by decide) (by decide)).mpr rfl
  rw [Nat.one_mul] at h1
  have hnext : (callDataResult ws c).nextParam = .callData := by simp [callDataResult, hlen]
  have hcfa : window (ws ++ [w]) 0 4 = window ws 0 4 := window_append_of_le ws [w] (by omega)
  rw [handleProvideParameter_callAgreement h', callAgreementSwitch]
  simp only [hnext, if_neg h0, if_neg h1, if_neg h2, if_pos h3]
  simp only [handleFlowRateSecondPart, handleReceiveAddressSecondPart, callDataResult, hlen,
    parameterMsg, Nat.reduceLeDiff, if_false, flowRateSecond_eq ws w (p := 68) (by omega)]
  by_cases hstop : methodIdOf (window ws 0 4) = stopStream
  · simp [hcfa, hstop, hlen, window_append_of_le, addressSecondPart_eq ws w (p := 80)]
  · simp [hcfa, hstop, hlen, window_append_of_le]

/-- One word of the inner call read. -/
theorem callDataResult_step (h : AtBase .callAgreement b c) (ws : List Word) (w : Word)
    (hlen : ws.length < 4) :
    (handleProvideParameter sdk (parameterMsg (b + ws.length) w) (callDataResult ws c)).2 =
      callDataResult (ws ++ [w]) c := by
  rcases hk : ws.length with _ | _ | _ | _ | k
  · rw [List.length_eq_zero_iff.mp hk]
    exact callDataResult_step_zero h w
  · exact callDataResult_step_one h hk w
  · exact callDataResult_step_two h hk w
  · exact callDataResult_step_three h hk w
  · omega

/-- After the four words the context is final. -/
theorem callDataResult_done (h : AtBase .callAgreement b c) (ws : List Word)
    (hlen : ws.length = 4) (i : ℕ) (w : Word) :
    (handleProvideParameter sdk (parameterMsg i w) (callDataResult ws c)).2 =
      callDataResult ws c := by
  have hnext : (callDataResult ws c).nextParam = .none := by simp [callDataResult, hlen]
  rw [handleProvideParameter_callAgreement (atBase_callDataResult h ws), callAgreementSwitch]
  simp only [hnext]

/-! ### The four words before it -/

/-- The context when the inner call starts: of the words before it only the class is kept, in the
field that will hold the receiver. -/
def callDataStart (sdk : EthPluginSdk) (host : Host) (w₀ w₃ : Word) : Context :=
  { Session.initial host .callAgreement with
    contractAddressSent := window [w₀] 12 20
    arrayLen := sdk.u2be w₃ (parameterLength - 2)
    offset := .ofNat (32 * 4)
    nextParam := .callData }

theorem atBase_callDataStart (host : Host) (w₀ w₃ : Word) :
    AtBase .callAgreement 4 (callDataStart sdk host w₀ w₃) :=
  ⟨rfl, rfl, rfl, rfl⟩

theorem callDataResult_nil_callDataStart (host : Host) (w₀ w₃ : Word) :
    callDataResult [] (callDataStart sdk host w₀ w₃) = callDataStart sdk host w₀ w₃ := by
  simp [callDataResult, callDataStart, Session.initial, Context.zero, startStream, stopStream]

/-- The context after the agreement class. -/
def agreementClassRead (host : Host) (w₀ : Word) : Context :=
  { Session.initial host .callAgreement with
    contractAddressSent := window [w₀] 12 20
    nextParam := .pathOffset }

/-- The context after the offset of the inner call, which is not followed, with so many words still
to skip. -/
def pathOffsetRead (sdk : EthPluginSdk) (host : Host) (w₀ w₁ : Word) (skip : UInt8) : Context :=
  { agreementClassRead host w₀ with
    offset := (sdk.u2be w₁ (parameterLength - 4 + 2)).toUInt32
    nextParam := .pathLength
    skip := skip }

theorem step_agreementClass (host : Host) (i : ℕ) (w₀ : Word) :
    (handleProvideParameter sdk (parameterMsg i w₀) (Session.initial host .callAgreement)).2 =
      agreementClassRead host w₀ := by
  have hclass : memcpy (memset (zeros 20) 0) 0 w₀ (parameterLength - addressLength) addressLength =
      window [w₀] 12 20 :=
    memcpy_within (zeros 20) [] w₀ rfl (by decide) (by decide)
  rw [agreementClassRead, ← hclass]
  rfl

theorem step_pathOffset (host : Host) (i : ℕ) (w₀ w₁ : Word) :
    (handleProvideParameter sdk (parameterMsg i w₁) (agreementClassRead host w₀)).2 =
      pathOffsetRead sdk host w₀ w₁ 1 := rfl

theorem step_skip (host : Host) (i : ℕ) (w₀ w₁ w₂ : Word) :
    (handleProvideParameter sdk (parameterMsg i w₂) (pathOffsetRead sdk host w₀ w₁ 1)).2 =
      pathOffsetRead sdk host w₀ w₁ 0 := by
  simp [handleProvideParameter, pathOffsetRead]

theorem step_pathLength (host : Host) (w₀ w₁ w₃ : Word) :
    (handleProvideParameter sdk (parameterMsg 3 w₃) (pathOffsetRead sdk host w₀ w₁ 0)).2 =
      callDataStart sdk host w₀ w₃ := by
  have hoffset := offset_eq 3 1 w₃
  rw [Nat.one_mul] at hoffset
  rw [callDataStart, ← hoffset]
  rfl

theorem exec_callAgreement_start (host : Host) (w₀ w₁ w₂ w₃ : Word) (ws : List Word) :
    exec (handleProvideParameter sdk) (numbered parameterMsg 0 (w₀ :: w₁ :: w₂ :: w₃ :: ws))
      (Session.initial host .callAgreement) =
        callDataResult (ws.take 4) (callDataStart sdk host w₀ w₃) := by
  have hbase : AtBase .callAgreement 4 (callDataStart sdk host w₀ w₃) :=
    atBase_callDataStart host w₀ w₃
  have hrun := exec_numbered_take (handleProvideParameter sdk) parameterMsg
    (fun l => callDataResult l (callDataStart sdk host w₀ w₃)) 4 4
    (callDataResult_step hbase) (callDataResult_done hbase) ws
  rw [callDataResult_nil_callDataStart] at hrun
  simp only [numbered_cons, exec_cons, step_agreementClass, step_pathOffset, step_skip,
    Nat.zero_add, Nat.reduceAdd, step_pathLength]
  exact hrun

/-- What the parser has made of the calldata when it ends. -/
structure CallAgreementParsed (ws : List Word) (c : Context) : Prop where
  valid : c.valid = 1
  selectorIndex : c.selectorIndex = Selector.callAgreement.index
  tickerSent : c.tickerSent = ""
  tickerReceived : c.tickerReceived = ""
  methodCfa : c.methodCfa = window ws 128 4
  methodId : c.methodId = methodIdOf (window ws 128 4)
  tokenAddress : c.tokenAddress = window ws 144 20
  contractAddressSent :
    c.contractAddressSent = if ws.length ≤ 5 then window ws 12 20 else window ws 176 20
  contractAddressReceived :
    c.contractAddressReceived =
      if methodIdOf (window ws 128 4) = stopStream then window ws 208 20 else zeros 20
  amount : c.amount = window ws 196 32
  nextParam : c.nextParam = .none ↔ 8 ≤ ws.length

theorem callAgreementParsed_exec (host : Host) (ws : List Word) :
    CallAgreementParsed ws
      (exec (handleProvideParameter sdk) (numbered parameterMsg 0 ws)
        (Session.initial host .callAgreement)) := by
  -- fewer than four words end before the inner call, and leave its fields zero
  rcases ws with _ | ⟨w₀, _ | ⟨w₁, _ | ⟨w₂, _ | ⟨w₃, ws⟩⟩⟩⟩
  · constructor <;>
      simp [Session.initial, Context.zero, Selector.firstParam, startStream, stopStream]
  · simp only [numbered_cons, exec_cons, step_agreementClass]
    constructor <;>
      simp [agreementClassRead, Session.initial, Context.zero, startStream, stopStream,
        window_of_length_le]
  · simp only [numbered_cons, exec_cons, step_agreementClass, step_pathOffset]
    constructor <;>
      simp [pathOffsetRead, agreementClassRead, Session.initial, Context.zero, startStream,
        stopStream, window_of_length_le, window_cons_within w₀ [w₁] []]
  · simp only [numbered_cons, exec_cons, step_agreementClass, step_pathOffset, step_skip]
    constructor <;>
      simp [pathOffsetRead, agreementClassRead, Session.initial, Context.zero, startStream,
        stopStream, window_of_length_le, window_cons_within w₀ [w₁, w₂] []]
  · have hwin : ∀ {p n : ℕ}, p + n ≤ 32 * 4 →
        window (ws.take 4) p n = window (w₀ :: w₁ :: w₂ :: w₃ :: ws) (32 * 4 + p) n := by
      intro p n h
      rw [window_take_of_le ws h]
      exact window_drop (w₀ :: w₁ :: w₂ :: w₃ :: ws) 4 p n
    have hclass : window (w₀ :: w₁ :: w₂ :: w₃ :: ws) 12 20 = window [w₀] 12 20 :=
      window_cons_within w₀ _ _ (by decide)
    have hlen : (ws.take 4).length ≤ 1 ↔ (w₀ :: w₁ :: w₂ :: w₃ :: ws).length ≤ 5 := by
      simp only [List.length_take, List.length_cons]
      omega
    rw [exec_callAgreement_start, callDataResult, callDataStart]
    constructor
    case contractAddressSent => simp only [hlen, hclass, hwin (show 48 + 20 ≤ 32 * 4 by decide)]
    all_goals simp [Session.initial, Context.zero, hwin]

end Ricochet
