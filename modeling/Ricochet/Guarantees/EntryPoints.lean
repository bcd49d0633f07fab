import Ricochet.Guarantees.Token

/-!
# One operation, two entry points

What a session displays of an operation with a rate depends on the method, the receiver and the rate
alone (`Host.rateDisplay`), so a start or an update is displayed the same alone and as the last
operation of a batch.  The screens of a batch do not ask for the method, and take the arguments of a
stopped stream for those of a started one: there the displays differ, unless there is no room to
display anything (`entryPoints_display_iff`).
-/

namespace Ricochet

open CLib Abi

/-- What is displayed of a screen: the title, the text and the result. -/
abbrev View : Type := String × String × PluginResult

/-- What a session displays: the version, and the first view of each screen. -/
structure Display where
  version : String
  screen0 : View
  screen1 : View

def EthQueryContractUI.view (msg : EthQueryContractUI) : View := (msg.title, msg.msg, msg.result)

/-- The display at the end of a session. -/
def Session.display (s : Session) (sdk : EthPluginSdk) : Display :=
  ⟨(s.contractId sdk).version, (s.screen0 sdk).1.view, (s.screen1 sdk).1.view⟩

/-- The display of a rate per second to a receiver. -/
def Host.rateDisplay (host : Host) (sdk : EthPluginSdk) (method : Buffer 4) (receiver : Address)
    (rate : ℕ) : Display where
  version := (lookupMethod method).elim host.version
    fun m => strlcpy host.version m.methodName host.versionLength
  screen0 :=
    if rate * 2592000 < 2 ^ 64 then
      (strlcpy "" "From" host.titleLength,
        host.fromText sdk (tickerSentOf receiver) (some rate), .ok)
    else (strlcpy "" "From" host.titleLength, "", .error)
  screen1 :=
    (strlcpy "" "To" host.titleLength,
      strlcpy "" (tickerReceivedOf receiver) host.msgLength, .ok)

/-- The display of a stopped stream. -/
def Host.stopDisplay (host : Host) (method : Buffer 4) (receiver : Address) : Display where
  version := (lookupMethod method).elim host.version
    fun m => strlcpy host.version m.methodName host.versionLength
  screen0 :=
    (strlcpy "" "From" host.titleLength,
      strlcpy "" (tickerSentOf receiver) host.msgLength, .ok)
  screen1 :=
    (strlcpy "" "To" host.titleLength,
      strlcpy "" (tickerReceivedOf receiver) host.msgLength, .ok)

/-- A stopped stream that cannot be told from a rate: the texts have no room for a character, the
receiver passes for a rate, and that rate leaves no text either. -/
def Host.BlankStop (host : Host) (sdk : EthPluginSdk) : CfaCall → Prop
  | .deleteFlow _ sender receiver _ =>
    host.msgLength < 2 ∧ beNat receiver.toList * 2592000 < 2 ^ 64 ∧
      sdk.amountToString (beBytes 32 (beNat receiver.toList * 2592000)).toList defaultDecimal
        (tickerSentOf sender) host.msgLength = ""
  | _ => False

namespace Session

variable {s : Session} {sdk : EthPluginSdk} {sel : Selector}

theorem display_of_hasRate (hhost : s.host.Compatible sdk) (hstream : sel.IsStream)
    (hsel : s.selector = sel.bytes) (hrate : s.HasRate sel) :
    s.display sdk = s.host.rateDisplay sdk (window (innerWords sel s.words) 0 4)
      (receiverOf sel (s.parsed sdk)) (s.rate sel) := by
  unfold display Host.rateDisplay
  rw [contractId_stream hhost hstream hsel, screen0_of_hasRate hhost hstream hsel hrate,
    screen1_stream hhost hstream hsel]
  split_ifs <;> rfl

theorem display_of_not_hasRate (hhost : s.host.Compatible sdk) (hstream : sel.IsStream)
    (hsel : s.selector = sel.bytes) (hrate : ¬ s.HasRate sel) :
    s.display sdk = s.host.stopDisplay (window (innerWords sel s.words) 0 4)
      (receiverOf sel (s.parsed sdk)) := by
  unfold display Host.stopDisplay
  rw [contractId_stream hhost hstream hsel, screen0_of_not_hasRate hhost hstream hsel hrate,
    screen1_stream hhost hstream hsel]
  rfl

end Session

/-- A canonical operation with a rate is displayed by its method, receiver and rate. -/
theorem Presents.display_eq {s : Session} {sdk : EthPluginSdk} {sel : Selector} {call : CfaCall}
    (h : Presents s sel call) (hhost : s.host.Compatible sdk) {f : ℕ}
    (hf : call.flowRate? = some f) :
    s.display sdk = s.host.rateDisplay sdk call.method.method call.receiver
      (beNat (beBytes 32 f).toList) := by
  have hrate : s.HasRate sel := h.hasRate_iff.mpr (by rw [hf]; rfl)
  rw [Session.display_of_hasRate hhost h.isStream h.selector hrate, h.carries.method,
    h.receiver hhost, Session.rate, h.carries.flowRate f hf]

/-- One without a rate, alone, by its method and receiver. -/
theorem Presents.display_stop {s : Session} {sdk : EthPluginSdk} {sel : Selector} {call : CfaCall}
    (h : Presents s sel call) (hhost : s.host.Compatible sdk) (hstop : call.flowRate? = none) :
    s.display sdk = s.host.stopDisplay call.method.method call.receiver := by
  have hrate : ¬ s.HasRate sel := by
    rw [h.hasRate_iff, hstop]
    exact Bool.false_ne_true
  rw [Session.display_of_not_hasRate hhost h.isStream h.selector hrate, h.carries.method,
    h.receiver hhost]

/-! ### A stopped stream in a batch -/

/-- An address as a word has the value of the address. -/
theorem beNat_slice_addressWord (a : Address) :
    beNat (slice (addressWord a) 0 32).toList = beNat a.toList := by
  have hzeros : beNat (zeros 12).toList = 0 := by decide
  have hword : slice (addressWord a) 0 32 = zeros 12 ++ a := by
    rw [addressWord, ← Vector.toList_append, ← List.append_nil (Vector.toList _),
      slice_toList_append]
  rw [hword, Vector.toList_append, beNat_append, hzeros, Nat.zero_mul, Nat.zero_add]

/-- The words from which a batch's inner call is read are those of the last operation's data. -/
theorem window_encodeBatchCall (operations : List Operation) (last : Operation)
    (hlast : lastOffset operations < 65536) (p n : ℕ) :
    window (innerWords .batchCall (toWords (encodeBatchCall (operations ++ [last])))) p n =
      slice (pad last.data) (96 + p) n := by
  have hmod := lastOffset_mod operations
  obtain ⟨pre, hpre, hencode⟩ := encode_operation_eq last
  have hpos : 32 * (lastOffset operations / 32 + 2 + 7) + p =
      64 + lastOffset operations + (128 + (96 + p)) := by omega
  rw [innerWords, batchCallInner_of_landing (landing_encodeBatchCall operations last hlast),
    window_drop, window_toWords, hpos, ← slice_drop, drop_encodeBatchCall_lastOffset, hencode,
    ← hpre, slice_append_add]

/-- In a canonical operation they are the call data. -/
theorem slice_pad_encodeCallAgreementData (callData userData : List UInt8) {p n : ℕ}
    (h : p + n ≤ callData.length) :
    slice (pad (encodeCallAgreementData callData userData)) (96 + p) n = slice callData p n := by
  obtain ⟨pre, post, hpre, hdata⟩ := encodeCallAgreementData_split callData userData
  rw [hdata, pad, List.append_assoc, List.append_assoc, ← hpre, slice_append_add,
    slice_append_left h]

section

variable {sdk : EthPluginSdk} {host : Host}

/-- The display of a canonical batch, from the data of its last operation. -/
theorem Session.display_batchCallSession (hhost : host.Compatible sdk) (memory : Context)
    (operations : List Operation) (last : Operation) (hlast : lastOffset operations < 65536) :
    (batchCallSession host memory (operations ++ [last])).display sdk =
      host.rateDisplay sdk (slice (pad last.data) 96 4) (slice (pad last.data) 144 20)
        (beNat (slice (pad last.data) 164 32).toList) := by
  have hreceiver : receiverOf .batchCall
      ((batchCallSession host memory (operations ++ [last])).parsed sdk) =
        slice (pad last.data) 144 20 := by
    have h : BatchCallParsed _ ((batchCallSession host memory (operations ++ [last])).parsed sdk) :=
      parsed_batchCall hhost rfl
    refine h.contractAddressReceived.trans ?_
    exact window_encodeBatchCall operations last hlast 48 20
  rw [display_of_hasRate hhost Selector.isStream_batchCall rfl (hasRate_batchCall _), hreceiver,
    rate, words_batchCallSession, window_encodeBatchCall operations last hlast,
    window_encodeBatchCall operations last hlast]
  rfl

/-- A batch takes the sender of a stopped stream for its receiver, and the receiver for its rate. -/
theorem Session.display_batchCall_stop (hhost : host.Compatible sdk) (memory : Context)
    (operations : List Operation) (operationType : ℕ) (target : Address)
    (token sender receiver : Address) (ctx userData : List UInt8)
    (hlast : lastOffset operations < 65536) :
    (batchCallSession host memory (operations ++ [⟨operationType, target,
      encodeCallAgreementData (CfaCall.deleteFlow token sender receiver ctx).encode
        userData⟩])).display sdk =
      host.rateDisplay sdk (CfaCall.deleteFlow token sender receiver ctx).method.method sender
        (beNat receiver.toList) := by
  have hlen := length_encode (.deleteFlow token sender receiver ctx)
  have hfield : ∀ {p n : ℕ}, p + n ≤ 132 →
      slice (pad (encodeCallAgreementData (CfaCall.deleteFlow token sender receiver ctx).encode
        userData)) (96 + p) n = slice (CfaCall.deleteFlow token sender receiver ctx).encode p n :=
    fun h => slice_pad_encodeCallAgreementData _ _ (by omega)
  have hargs : (CfaCall.deleteFlow token sender receiver ctx).args =
      [.static (addressWord token), .static (addressWord sender)] ++
        .static (addressWord receiver) :: [.dynamic (bytes ctx)] := rfl
  have hmethod : slice (CfaCall.deleteFlow token sender receiver ctx).encode 0 4 =
      (CfaCall.deleteFlow token sender receiver ctx).method.method := slice_toList_append _ _
  have hsender : slice (CfaCall.deleteFlow token sender receiver ctx).encode 48 20 = sender :=
    slice_encode_address [.static (addressWord token)] rfl (by simp [Part.headLength])
  have hreceiver : slice (CfaCall.deleteFlow token sender receiver ctx).encode 68 32 =
      slice (addressWord receiver) 0 32 :=
    slice_encode hargs (p := 0) (by simp) (by simp [Part.headLength])
  rw [display_batchCallSession hhost memory operations _ hlast]
  show host.rateDisplay sdk (slice (pad (encodeCallAgreementData _ userData)) (96 + 0) 4)
    (slice (pad (encodeCallAgreementData _ userData)) (96 + 48) 20)
    (beNat (slice (pad (encodeCallAgreementData _ userData)) (96 + 68) 32).toList) = _
  rw [hfield (by decide), hfield (by decide), hfield (by decide), hmethod, hsender, hreceiver,
    beNat_slice_addressWord]

end

/-- No exchange contract has an address small enough to pass for a rate. -/
theorem tickerSentOf_of_lt {a : Address} (h : beNat a.toList * 2592000 < 2 ^ 64) :
    tickerSentOf a = "" := by
  have hlarge : ∀ e ∈ contractAddressCollection,
      2 ^ 64 ≤ beNat e.contractAddress.toList * 2592000 := by
    decide +kernel
  have hnone : lookupContract a = none := by
    apply lookupContract_eq_none_iff.mpr
    rintro e he rfl
    exact absurd h (Nat.not_lt.mpr (hlarge e he))
  rw [tickerSentOf, hnone, Option.elim_none]

/-- A receiver shown as such and as a rate: the rate fails, or leaves a text where the receiver has
no ticker. -/
theorem Host.stopDisplay_eq_rateDisplay_iff (host : Host) (sdk : EthPluginSdk) (method : Buffer 4)
    (sender receiver : Address) :
    host.stopDisplay method receiver = host.rateDisplay sdk method sender (beNat receiver.toList) ↔
      host.msgLength < 2 ∧ beNat receiver.toList * 2592000 < 2 ^ 64 ∧
        sdk.amountToString (beBytes 32 (beNat receiver.toList * 2592000)).toList defaultDecimal
          (tickerSentOf sender) host.msgLength = "" := by
  have hmonth : " per month" ≠ "" := by decide
  unfold stopDisplay rateDisplay
  constructor
  · intro heq
    have hscreen := congrArg Display.screen0 heq
    dsimp only at hscreen
    split_ifs at hscreen with hfit
    · have htext := congrArg (fun v => v.2.1) hscreen
      dsimp only at htext
      rw [tickerSentOf_of_lt hfit, strlcpy_empty_empty] at htext
      obtain ⟨hmsg, hamount⟩ := (strlcat_eq_empty_iff hmonth).mp htext.symm
      exact ⟨hmsg, hfit, hamount⟩
    · have hresult := congrArg (fun v => v.2.2) hscreen
      cases hresult
  · rintro ⟨hmsg, hfit, hamount⟩
    -- every text is empty
    have htext : host.fromText sdk (tickerSentOf sender) (some (beNat receiver.toList)) = "" :=
      (strlcat_eq_empty_iff hmonth).mpr ⟨hmsg, hamount⟩
    rw [if_pos hfit, htext]
    simp only [strlcpy_empty_of_lt_two _ hmsg]

/-! ### Both entry points -/

/-- Every host, agreement class, token, sender, receiver, rate, context and user data; every list of
operations before the last one, as long as the offset of the last is below 65536. -/
theorem entryPoints_display_iff (sdk : EthPluginSdk) (host : Host) (hhost : host.Compatible sdk)
    (memory memory' : Context) (agreementClass : Address) (call : CfaCall) (userData : List UInt8)
    (operations : List Operation) (hlast : lastOffset operations < 65536) :
    let alone := callAgreementSession host memory agreementClass call.encode userData
    let batched := batchCallSession host memory' (operations ++
      [⟨201, agreementClass, encodeCallAgreementData call.encode userData⟩])
    alone.display sdk = batched.display sdk ↔
      call.flowRate?.isSome ∨ host.BlankStop sdk call := by
  intro alone batched
  have halone : Presents alone .callAgreement call :=
    presents_callAgreementSession host memory agreementClass call userData
  -- an operation with a rate is displayed by its method, receiver and rate, whoever carries it
  have hsame : ∀ f, call.flowRate? = some f → alone.display sdk = batched.display sdk := by
    intro f hf
    have hbatched : Presents batched .batchCall call :=
      presents_batchCallSession host memory' operations 201 agreementClass call userData hlast
        (by rw [hf]; rfl)
    rw [halone.display_eq hhost hf, hbatched.display_eq hhost hf]
    rfl
  cases call with
  | createFlow token receiver flowRate ctx =>
    exact iff_of_true (hsame flowRate rfl) (Or.inl rfl)
  | updateFlow token receiver flowRate ctx =>
    exact iff_of_true (hsame flowRate rfl) (Or.inl rfl)
  | deleteFlow token sender receiver ctx =>
    have hbatched : batched.display sdk = _ := Session.display_batchCall_stop hhost memory'
      operations 201 agreementClass token sender receiver ctx userData hlast
    rw [halone.display_stop hhost rfl, hbatched]
    have hblank := host.stopDisplay_eq_rateDisplay_iff sdk
      (CfaCall.deleteFlow token sender receiver ctx).method.method sender receiver
    refine hblank.trans (or_iff_right ?_).symm
    exact Bool.false_ne_true

theorem entryPoints_display_start :
    (callAgreementSession (referenceHost (zeros 20)) Context.zero (zeros 20)
      (startAsDai 0 1).encode []).display referenceSdk =
    (batchCallSession (referenceHost (zeros 20)) Context.zero ([⟨1, zeros 20, [1, 2, 3]⟩] ++
      [⟨201, zeros 20, encodeCallAgreementData (startAsDai 0 1).encode []⟩])).display
        referenceSdk :=
  (entryPoints_display_iff referenceSdk (referenceHost (zeros 20)) (referenceHost_compatible _)
    Context.zero Context.zero (zeros 20) (startAsDai 0 1) [] [⟨1, zeros 20, [1, 2, 3]⟩]
    (by rw [lastOffset]; simp [length_encode_operation])).mpr (Or.inl rfl)

/-- The end of the stream that an operation is about. -/
def CfaCall.stop (call : CfaCall) (sender : Address) : CfaCall :=
  .deleteFlow call.token sender call.receiver []

/-- Alone it is shown with its ticker; in a batch the sending screen fails. -/
theorem entryPoints_display_stop :
    let stop := (startAsDai 0 1).stop (zeros 20)
    let alone := callAgreementSession (referenceHost (zeros 20)) Context.zero (zeros 20)
      stop.encode []
    let batched := batchCallSession (referenceHost (zeros 20)) Context.zero
      ([] ++ [⟨201, zeros 20, encodeCallAgreementData stop.encode []⟩])
    (alone.display referenceSdk).screen0 = ("From", "DAIx ", .ok) ∧
      (batched.display referenceSdk).screen0 = ("From", "", .error) ∧
      alone.display referenceSdk ≠ batched.display referenceSdk := by
  intro stop alone batched
  have hhost := referenceHost_compatible (zeros 20)
  have hpresents : Presents alone .callAgreement stop := presents_callAgreementSession _ _ _ _ _
  have halone : (alone.display referenceSdk).screen0 = ("From", "DAIx ", .ok) := by
    rw [hpresents.display_stop hhost rfl]
    decide +kernel
  have hbatched : (batched.display referenceSdk).screen0 = ("From", "", .error) := by
    have hdisplay : batched.display referenceSdk = _ := Session.display_batchCall_stop hhost
      Context.zero [] 201 (zeros 20) (startAsDai 0 1).token (zeros 20) (startAsDai 0 1).receiver []
      [] (by decide)
    rw [hdisplay, Host.rateDisplay]
    dsimp only
    rw [if_neg (by decide +kernel)]
    decide +kernel
  refine ⟨halone, hbatched, fun heq => ?_⟩
  rw [heq, hbatched] at halone
  cases congrArg (fun v => v.2.2) halone

end Ricochet
