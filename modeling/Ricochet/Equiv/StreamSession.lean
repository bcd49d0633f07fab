import Ricochet.Equiv.BatchCall
import Ricochet.Equiv.CallAgreement
import Ricochet.Equiv.ParserInvariant
import Ricochet.Equiv.StreamScreens

/-!
# Sessions of the two stream selectors

`innerWords sel ws` are the words the parser of `sel` reads the inner call from.  Of any calldata:
every word and the end of the arguments are answered with `OK` (`forall_parameterReplies_ok`,
`finalize_ok`); the context the screens start from is the parser's with the tickers filled in
(`exists_ready_eq`) and shows the tickers of the receiver; and the only call
that can fail is the sending screen, when it has a rate to show that does not fit in 64 bits
(`allOk_iff`).
-/

namespace Ricochet

open CLib Abi Machine

/-- The words the parser reads the inner call from. -/
def innerWords : Selector → List Word → List Word
  | .callAgreement, ws => ws.drop 4
  | .batchCall, ws => batchCallInner ws
  | _, _ => []

/-- The inner call is a tail of the calldata. -/
theorem exists_innerWords_eq_drop {sel : Selector} {ws : List Word} (h : innerWords sel ws ≠ []) :
    ∃ b, innerWords sel ws = ws.drop b := by
  cases sel with
  | callAgreement => exact ⟨4, rfl⟩
  | batchCall =>
    rw [innerWords, batchCallInner] at h ⊢
    cases hland : landing ws with
    | none =>
      rw [hland] at h
      exact absurd rfl h
    | some e => exact ⟨e + 7, rfl⟩
  | _ => exact absurd rfl h

/-- The receiver the screens are about. -/
def receiverOf (sel : Selector) (c : Context) : Address :=
  if sel = .callAgreement then callAgreementReceiver c else c.contractAddressReceived

/-- What both parsers have made of the calldata when they end. -/
structure StreamParsed (sel : Selector) (ws : List Word) (c : Context) : Prop where
  valid : c.valid = 1
  selectorIndex : c.selectorIndex = sel.index
  tickerSent : c.tickerSent = ""
  tickerReceived : c.tickerReceived = ""
  methodCfa : c.methodCfa = window (innerWords sel ws) 0 4
  methodId : c.methodId = methodIdOf (window (innerWords sel ws) 0 4)
  amount : c.amount = window (innerWords sel ws) 68 32
  nextParam : c.nextParam = .none ↔ 4 ≤ (innerWords sel ws).length

theorem CallAgreementParsed.streamParsed {ws : List Word} {c : Context}
    (h : CallAgreementParsed ws c) : StreamParsed .callAgreement ws c where
  valid := h.valid
  selectorIndex := h.selectorIndex
  tickerSent := h.tickerSent
  tickerReceived := h.tickerReceived
  methodCfa := by rw [h.methodCfa, innerWords, window_drop]
  methodId := by rw [h.methodId, innerWords, window_drop]
  amount := by rw [h.amount, innerWords, window_drop]
  nextParam := by
    rw [h.nextParam, innerWords, List.length_drop]
    omega

theorem BatchCallParsed.streamParsed {ws : List Word} {c : Context} (h : BatchCallParsed ws c) :
    StreamParsed .batchCall ws c :=
  ⟨h.valid, h.selectorIndex, h.tickerSent, h.tickerReceived, h.methodCfa, h.methodId, h.amount,
    h.nextParam⟩

namespace Session

variable {s : Session} {sdk : EthPluginSdk} {sel : Selector}

/-! ### The parsers -/

theorem parsed_callAgreement (hhost : s.host.Compatible sdk)
    (hsel : s.selector = Selector.bytes .callAgreement) :
    CallAgreementParsed s.words (s.parsed sdk) := by
  rw [parsed, init_eq_of_selector hhost hsel]
  exact callAgreementParsed_exec s.host s.words

theorem parsed_batchCall (hhost : s.host.Compatible sdk)
    (hsel : s.selector = Selector.bytes .batchCall) : BatchCallParsed s.words (s.parsed sdk) := by
  rw [parsed, init_eq_of_selector hhost hsel]
  exact batchCallParsed_exec s.host s.words

theorem streamParsed (hhost : s.host.Compatible sdk) (hstream : sel.IsStream)
    (hsel : s.selector = sel.bytes) : StreamParsed sel s.words (s.parsed sdk) := by
  rcases hstream with rfl | rfl
  · exact (parsed_callAgreement hhost hsel).streamParsed
  · exact (parsed_batchCall hhost hsel).streamParsed

theorem forall_parameterReplies_ok (hhost : s.host.Compatible sdk) (hstream : sel.IsStream)
    (hsel : s.selector = sel.bytes) : ∀ m ∈ s.parameterReplies sdk, m.result = .ok := by
  rw [parameterReplies, init_eq_of_selector hhost hsel]
  exact ParserInvariant.forall_outputs_ok s.host hstream _

/-! ### Finalization -/

/-- The end of the arguments is accepted however far the parser has come. -/
theorem finalize_ok (hhost : s.host.Compatible sdk) (hstream : sel.IsStream)
    (hsel : s.selector = sel.bytes) : (s.finalize sdk).result = .ok := by
  have h := streamParsed hhost hstream hsel
  have hvalid : (s.parsed sdk).valid ≠ 0 := by
    rw [h.valid]
    decide
  rw [finalize, handleFinalize, if_pos hvalid, h.selectorIndex, Selector.ofIndex?_index]
  rcases hstream with rfl | rfl <;> rfl

/-- For `callAgreement` token information is requested unless the receiver field holds the dummy
address of the chain's token. -/
theorem infoRequested_callAgreement (hhost : s.host.Compatible sdk)
    (hsel : s.selector = Selector.bytes .callAgreement) :
    s.infoRequested sdk = true ↔ (s.parsed sdk).contractAddressSent ≠ ricochetEthAddress := by
  have h := parsed_callAgreement hhost hsel
  have hvalid : (s.parsed sdk).valid ≠ 0 := by
    rw [h.valid]
    decide
  rw [infoRequested, finalize, handleFinalize, if_pos hvalid, h.selectorIndex,
    Selector.ofIndex?_index]
  simp only [handleSentAddressLookup]
  split_ifs with hsent <;> simp [hsent, finalizeMsg]

/-! ### Token information -/

/-- The screens look the receiver up in a field that is zero unless the stream is stopped, and find
nothing for the zero address. -/
theorem lookupContract_contractAddressReceived (hhost : s.host.Compatible sdk)
    (hsel : s.selector = Selector.bytes .callAgreement) :
    lookupContract (s.parsed sdk).contractAddressReceived = none ∨
      (s.parsed sdk).contractAddressReceived = callAgreementReceiver (s.parsed sdk) := by
  have h := parsed_callAgreement hhost hsel
  by_cases hstop : (s.parsed sdk).methodId = stopStream
  · exact Or.inr (by rw [callAgreementReceiver, if_pos hstop])
  · rw [h.contractAddressReceived, ← h.methodId, if_neg hstop]
    exact Or.inl lookupContract_zeros

/-- What `handle_cfa_tokens` leaves in the context. -/
theorem handleCfaTokens_parsed (hhost : s.host.Compatible sdk)
    (hsel : s.selector = Selector.bytes .callAgreement) :
    handleCfaTokens sdk (s.parsed sdk) =
      { s.parsed sdk with
        tickerSent := tickerSentOf (callAgreementReceiver (s.parsed sdk))
        tickerReceived := tickerReceivedOf (callAgreementReceiver (s.parsed sdk)) } := by
  have h := parsed_callAgreement hhost hsel
  have hid := methodIdOf_mem (window s.words 128 4)
  rw [← h.methodId] at hid
  rw [handleCfaTokens_eq _ hid, h.tickerSent, h.tickerReceived]
  rfl

/-- The tickers it leaves are those the screens find. -/
theorem showsReceiver_handleCfaTokens (hhost : s.host.Compatible sdk)
    (hsel : s.selector = Selector.bytes .callAgreement) :
    ShowsReceiver .callAgreement (callAgreementReceiver (s.parsed sdk))
      (handleCfaTokens sdk (s.parsed sdk)) := by
  have h := parsed_callAgreement hhost hsel
  rw [handleCfaTokens_parsed hhost hsel]
  refine ⟨h.selectorIndex, ?_, ?_⟩
  · rcases lookupContract_contractAddressReceived hhost hsel with hnone | heq
    · simp only [Context.sentTicker, hnone, Option.elim_none]
    · simp only [Context.sentTicker, heq, tickerSentOf]
      cases lookupContract (callAgreementReceiver (s.parsed sdk)) <;> rfl
  · rcases lookupContract_contractAddressReceived hhost hsel with hnone | heq
    · simp only [Context.receivedTicker, hnone, Option.elim_none]
    · simp only [Context.receivedTicker, heq, tickerReceivedOf]
      cases lookupContract (callAgreementReceiver (s.parsed sdk)) <;> rfl

/-- The context the screens start from, and the receiver they are about. -/
theorem ready_callAgreement (hhost : s.host.Compatible sdk)
    (hsel : s.selector = Selector.bytes .callAgreement) :
    ∃ t t', s.ready sdk = { s.parsed sdk with tickerSent := t, tickerReceived := t' } ∧
      ShowsReceiver .callAgreement (callAgreementReceiver (s.parsed sdk)) (s.ready sdk) := by
  have h := parsed_callAgreement hhost hsel
  by_cases hinfo : s.infoRequested sdk = true
  · have hready : s.ready sdk = handleCfaTokens sdk (s.parsed sdk) := by
      rw [ready, provideInfo, if_pos hinfo]
      simp only [handleProvideToken, h.selectorIndex, Selector.ofIndex?_index]
    rw [hready]
    exact ⟨_, _, handleCfaTokens_parsed hhost hsel, showsReceiver_handleCfaTokens hhost hsel⟩
  · have hready : s.ready sdk = s.parsed sdk := by
      rw [ready, provideInfo, if_neg hinfo]
    have hsent : (s.parsed sdk).contractAddressSent = ricochetEthAddress := by
      by_contra hne
      exact hinfo ((infoRequested_callAgreement hhost hsel).mpr hne)
    -- without token information the tickers are empty, and so must be those of the receiver
    have hunknown : lookupContract (s.parsed sdk).contractAddressReceived = none →
        lookupContract (callAgreementReceiver (s.parsed sdk)) = none := by
      intro hnone
      rw [callAgreementReceiver]
      split_ifs
      · exact hnone
      · rw [hsent, lookupContract_ricochetEthAddress]
    rw [hready]
    refine ⟨_, _, rfl, h.selectorIndex, ?_, ?_⟩
    · rw [Context.sentTicker, tickerSentOf, h.tickerSent]
      rcases lookupContract_contractAddressReceived hhost hsel with hnone | heq
      · rw [hnone, hunknown hnone]
      · rw [heq]
    · rw [Context.receivedTicker, tickerReceivedOf, h.tickerReceived]
      rcases lookupContract_contractAddressReceived hhost hsel with hnone | heq
      · rw [hnone, hunknown hnone]
      · rw [heq]

theorem ready_batchCall (hhost : s.host.Compatible sdk)
    (hsel : s.selector = Selector.bytes .batchCall) :
    s.ready sdk = s.parsed sdk ∧
      ShowsReceiver .batchCall (s.parsed sdk).contractAddressReceived (s.ready sdk) := by
  have h := parsed_batchCall hhost hsel
  have hready : s.ready sdk = s.parsed sdk := by
    rw [ready, provideInfo]
    split_ifs
    · simp only [handleProvideToken, h.selectorIndex, Selector.ofIndex?_index]
    · rfl
  rw [hready]
  refine ⟨rfl, h.selectorIndex, ?_, ?_⟩
  · rw [Context.sentTicker, h.tickerSent, tickerSentOf]
  · rw [Context.receivedTicker, h.tickerReceived, tickerReceivedOf]

/-- The context the screens start from is the parser's, but for the tickers, which are shown as
those of the receiver. -/
theorem exists_ready_eq (hhost : s.host.Compatible sdk) (hstream : sel.IsStream)
    (hsel : s.selector = sel.bytes) :
    ∃ t t', s.ready sdk = { s.parsed sdk with tickerSent := t, tickerReceived := t' } ∧
      ShowsReceiver sel (receiverOf sel (s.parsed sdk)) (s.ready sdk) := by
  rcases hstream with rfl | rfl
  · exact ready_callAgreement hhost hsel
  · obtain ⟨hready, hshows⟩ := ready_batchCall hhost hsel
    exact ⟨_, _, hready, hshows⟩

/-! ### Display -/

variable (s sel) in
/-- The rate per second the parser keeps. -/
def rate : ℕ := beNat (window (innerWords sel s.words) 68 32).toList

variable (s sel) in
/-- The sending screen has a rate to show: always for `batchCall`, and for `callAgreement` unless
the method is that of a stopped stream. -/
def HasRate : Prop :=
  sel = .batchCall ∨ methodIdOf (window (innerWords sel s.words) 0 4) ≠ stopStream

instance : Decidable (s.HasRate sel) := inferInstanceAs (Decidable (_ ∨ _))

theorem hasRate_batchCall (s : Session) : s.HasRate .batchCall := Or.inl rfl

theorem hasRate_callAgreement_iff (s : Session) :
    s.HasRate .callAgreement ↔ methodIdOf (window s.words 128 4) ≠ stopStream := by
  have hcfa : window (innerWords .callAgreement s.words) 0 4 = window s.words 128 4 :=
    window_drop s.words 4 0 4
  rw [HasRate, hcfa]
  exact or_iff_right (by decide)

/-- Where the two parsers find the receiver.  That of `callAgreement` starts with the agreement
class in the field of the receiver. -/
def receiver (s : Session) (sel : Selector) : Address :=
  if sel = .callAgreement then
    if methodIdOf (window s.words 128 4) = stopStream then window s.words 208 20
    else if s.words.length ≤ 5 then window s.words 12 20
    else window s.words 176 20
  else window (batchCallInner s.words) 48 20

theorem receiverOf_eq (hhost : s.host.Compatible sdk) (hstream : sel.IsStream)
    (hsel : s.selector = sel.bytes) : receiverOf sel (s.parsed sdk) = s.receiver sel := by
  rcases hstream with rfl | rfl
  · have h := parsed_callAgreement hhost hsel
    rw [receiverOf, if_pos rfl, callAgreementReceiver, receiver, if_pos rfl, h.methodId,
      h.contractAddressReceived, h.contractAddressSent]
    split_ifs <;> rfl
  · exact (parsed_batchCall hhost hsel).contractAddressReceived

/-- Where the receiver is in the words of the inner call, when there are more words than those of
the fixed part. -/
theorem receiver_eq_window (hstream : sel.IsStream)
    (hlen : sel = .callAgreement → 6 ≤ s.words.length) :
    s.receiver sel = window (innerWords sel s.words) (if s.HasRate sel then 48 else 80) 20 := by
  rcases hstream with rfl | rfl
  · have hlong : ¬ s.words.length ≤ 5 := by
      have := hlen rfl
      omega
    rw [receiver, if_pos rfl]
    by_cases hstop : methodIdOf (window s.words 128 4) = stopStream
    · have hrate : ¬ s.HasRate .callAgreement := fun h => (hasRate_callAgreement_iff s).mp h hstop
      rw [if_pos hstop, if_neg hrate]
      exact (window_drop s.words 4 80 20).symm
    · have hrate : s.HasRate .callAgreement := (hasRate_callAgreement_iff s).mpr hstop
      rw [if_neg hstop, if_neg hlong, if_pos hrate]
      exact (window_drop s.words 4 48 20).symm
  · rw [receiver, if_neg (by decide), if_pos (hasRate_batchCall s)]
    rfl

theorem receiverOf_parsed (hhost : s.host.Compatible sdk) (hstream : sel.IsStream)
    (hsel : s.selector = sel.bytes) (hlen : 4 ≤ (innerWords sel s.words).length) :
    receiverOf sel (s.parsed sdk) =
      window (innerWords sel s.words) (if s.HasRate sel then 48 else 80) 20 := by
  rw [receiverOf_eq hhost hstream hsel, receiver_eq_window hstream]
  rintro rfl
  rw [innerWords, List.length_drop] at hlen
  omega

theorem contractId_stream (hhost : s.host.Compatible sdk) (hstream : sel.IsStream)
    (hsel : s.selector = sel.bytes) :
    s.contractId sdk =
      { s.host.idMsg with
        name := strlcpy s.host.name pluginName s.host.nameLength
        version := (lookupMethod (window (innerWords sel s.words) 0 4)).elim s.host.version
          fun m => strlcpy s.host.version m.methodName s.host.versionLength
        result := .ok } := by
  have h := streamParsed hhost hstream hsel
  obtain ⟨t, t', hready, hshows⟩ := exists_ready_eq hhost hstream hsel
  have hcfa : (s.ready sdk).methodCfa = window (innerWords sel s.words) 0 4 := by
    rw [hready]
    exact h.methodCfa
  rw [contractId, handleQueryContractId, hshows.ofIndex?]
  rcases hstream with rfl | rfl
  · dsimp only
    rw [handleInitCfaScreen_eq, hcfa]
    rfl
  · dsimp only
    rw [handleInitCfaScreen_eq, hcfa]
    rfl

/-- What the screens start from, in terms of the calldata. -/
theorem methodId_ready (hhost : s.host.Compatible sdk) (hstream : sel.IsStream)
    (hsel : s.selector = sel.bytes) :
    (s.ready sdk).methodId = methodIdOf (window (innerWords sel s.words) 0 4) := by
  obtain ⟨t, t', hready, -⟩ := exists_ready_eq hhost hstream hsel
  rw [hready]
  exact (streamParsed hhost hstream hsel).methodId

theorem amount_ready (hhost : s.host.Compatible sdk) (hstream : sel.IsStream)
    (hsel : s.selector = sel.bytes) : beNat (s.ready sdk).amount.toList = s.rate sel := by
  obtain ⟨t, t', hready, -⟩ := exists_ready_eq hhost hstream hsel
  simp only [hready, (streamParsed hhost hstream hsel).amount, rate]

theorem showsRate_ready_iff (hhost : s.host.Compatible sdk) (hstream : sel.IsStream)
    (hsel : s.selector = sel.bytes) : ShowsRate sel (s.ready sdk) ↔ s.HasRate sel := by
  rw [ShowsRate, methodId_ready hhost hstream hsel, HasRate]
  rcases hstream with rfl | rfl <;> simp

theorem screen0_of_hasRate (hhost : s.host.Compatible sdk) (hstream : sel.IsStream)
    (hsel : s.selector = sel.bytes) (hrate : s.HasRate sel) :
    s.screen0 sdk =
      if s.rate sel * 2592000 < 2 ^ 64 then
        ({ s.host.uiMsg 0 with
            title := strlcpy "" "From" s.host.titleLength
            msg := strlcat (sdk.amountToString (beBytes 32 (s.rate sel * 2592000)).toList
              defaultDecimal (tickerSentOf (receiverOf sel (s.parsed sdk))) s.host.msgLength)
              " per month" s.host.msgLength
            result := .ok },
          { s.ready sdk with
            tickerSent := tickerSentOf (receiverOf sel (s.parsed sdk))
            amount := beBytes 32 (s.rate sel * 2592000) })
      else
        ({ s.host.uiMsg 0 with
            title := strlcpy "" "From" s.host.titleLength
            result := .error },
          { s.ready sdk with tickerSent := tickerSentOf (receiverOf sel (s.parsed sdk)) }) := by
  obtain ⟨t, t', -, hshows⟩ := exists_ready_eq hhost hstream hsel
  have hshown := (showsRate_ready_iff hhost hstream hsel).mpr hrate
  rw [screen0, screen0_of_rate hshows hshown rfl, amount_ready hhost hstream hsel]
  rfl

theorem screen0_of_not_hasRate (hhost : s.host.Compatible sdk) (hstream : sel.IsStream)
    (hsel : s.selector = sel.bytes) (hrate : ¬ s.HasRate sel) :
    s.screen0 sdk =
      ({ s.host.uiMsg 0 with
          title := strlcpy "" "From" s.host.titleLength
          msg := strlcpy "" (tickerSentOf (receiverOf sel (s.parsed sdk))) s.host.msgLength
          result := .ok },
        { s.ready sdk with tickerSent := tickerSentOf (receiverOf sel (s.parsed sdk)) }) := by
  obtain ⟨t, t', -, hshows⟩ := exists_ready_eq hhost hstream hsel
  obtain ⟨rfl, hstop⟩ := eq_stop_of_not_showsRate hstream
    (mt (showsRate_ready_iff hhost hstream hsel).mp hrate)
  rw [screen0, screen0_of_stop hshows hstop rfl]
  rfl

/-- The context after screen 0 shows the same receiver. -/
theorem showsReceiver_screen0 (hhost : s.host.Compatible sdk) (hstream : sel.IsStream)
    (hsel : s.selector = sel.bytes) :
    ShowsReceiver sel (receiverOf sel (s.parsed sdk)) (s.screen0 sdk).2 := by
  obtain ⟨t, t', hready, hshows⟩ := exists_ready_eq hhost hstream hsel
  by_cases hrate : s.HasRate sel
  · rw [screen0_of_hasRate hhost hstream hsel hrate]
    split_ifs
    · exact hshows.withTickerSent _
    · exact hshows.withTickerSent (s.ready sdk).amount
  · rw [screen0_of_not_hasRate hhost hstream hsel hrate]
    exact hshows.withTickerSent (s.ready sdk).amount

theorem screen1_stream (hhost : s.host.Compatible sdk) (hstream : sel.IsStream)
    (hsel : s.selector = sel.bytes) :
    s.screen1 sdk =
      ({ s.host.uiMsg 1 with
          title := strlcpy "" "To" s.host.titleLength
          msg := strlcpy "" (tickerReceivedOf (receiverOf sel (s.parsed sdk))) s.host.msgLength
          result := .ok },
        { (s.screen0 sdk).2 with
          tickerReceived := tickerReceivedOf (receiverOf sel (s.parsed sdk)) }) :=
  screen1_of_receiver (showsReceiver_screen0 hhost hstream hsel) hstream rfl

/-- The one call that can fail is the sending screen, when its rate does not fit. -/
theorem allOk_iff (hhost : s.host.Compatible sdk) (hstream : sel.IsStream)
    (hsel : s.selector = sel.bytes) :
    s.AllOk sdk ↔ (s.HasRate sel → s.rate sel * 2592000 < 2 ^ 64) := by
  have hinit : (s.init sdk).1.result = .ok := by rw [init_eq_of_selector hhost hsel]
  have hprepare := prepareResults_ok hinit (forall_parameterReplies_ok hhost hstream hsel)
    (finalize_ok hhost hstream hsel)
  have hid : (s.contractId sdk).result = .ok := by rw [contractId_stream hhost hstream hsel]
  have hscreen1 : (s.screen1 sdk).1.result = .ok := by rw [screen1_stream hhost hstream hsel]
  -- what remains is the sending screen
  have hscreen0 : (s.screen0 sdk).1.result = .ok ↔
      (s.HasRate sel → s.rate sel * 2592000 < 2 ^ 64) := by
    by_cases hrate : s.HasRate sel
    · rw [screen0_of_hasRate hhost hstream hsel hrate]
      split_ifs with hfit
      · exact iff_of_true rfl fun _ => hfit
      · exact iff_of_false (by decide) fun himp => hfit (himp hrate)
    · rw [screen0_of_not_hasRate hhost hstream hsel hrate]
      exact iff_of_true rfl fun h => absurd h hrate
  rw [← hscreen0]
  constructor
  · intro hall
    exact hall _ (by simp [results])
  · intro hok r hr
    simp only [results, List.mem_append, List.mem_cons, List.not_mem_nil, or_false] at hr
    rcases hr with hr | rfl | rfl | rfl
    · exact hprepare r hr
    · exact hid
    · exact hok
    · exact hscreen1

end Session

/-- The text of the sending screen: the rate per month of a stream, if it has one to show, or the
ticker alone. -/
def Host.fromText (host : Host) (sdk : EthPluginSdk) (ticker : String) : Option ℕ → String
  | some rate =>
    strlcat (sdk.amountToString (beBytes 32 (rate * 2592000)).toList 18 ticker host.msgLength)
      " per month" host.msgLength
  | none => strlcpy "" ticker host.msgLength

namespace Session

variable {s : Session} {sdk : EthPluginSdk} {sel : Selector}

/-- The two screens show a stream `From` one token `To` another. -/
structure ShowsStream (s : Session) (sdk : EthPluginSdk) (rate : Option ℕ)
    (tickerSent tickerReceived : String) : Prop where
  screen0 : (s.screen0 sdk).1 =
    { s.host.uiMsg 0 with
      title := strlcpy "" "From" s.host.titleLength
      msg := s.host.fromText sdk tickerSent rate
      result := .ok }
  screen1 : (s.screen1 sdk).1 =
    { s.host.uiMsg 1 with
      title := strlcpy "" "To" s.host.titleLength
      msg := strlcpy "" tickerReceived s.host.msgLength
      result := .ok }

/-- The rate the sending screen is about, if any. -/
def shownRate (s : Session) (sel : Selector) : Option ℕ :=
  if s.HasRate sel then some (s.rate sel) else none

/-- A session answered with `OK` shows the tickers found for the receiver. -/
theorem showsStream_of_allOk (hhost : s.host.Compatible sdk) (hstream : sel.IsStream)
    (hsel : s.selector = sel.bytes) (hok : s.AllOk sdk) :
    s.ShowsStream sdk (s.shownRate sel) (tickerSentOf (receiverOf sel (s.parsed sdk)))
      (tickerReceivedOf (receiverOf sel (s.parsed sdk))) := by
  have hfit := (allOk_iff hhost hstream hsel).mp hok
  refine ⟨?_, by rw [screen1_stream hhost hstream hsel]⟩
  by_cases hrate : s.HasRate sel
  · rw [screen0_of_hasRate hhost hstream hsel hrate, if_pos (hfit hrate), shownRate, if_pos hrate]
    rfl
  · rw [screen0_of_not_hasRate hhost hstream hsel hrate, shownRate, if_neg hrate]
    rfl

/-- The display changes no field but the amount and the tickers. -/
theorem exists_final_eq (hhost : s.host.Compatible sdk) (hstream : sel.IsStream)
    (hsel : s.selector = sel.bytes) :
    ∃ a t t', s.final sdk =
      { s.parsed sdk with amount := a, tickerSent := t, tickerReceived := t' } := by
  obtain ⟨t, t', hready, -⟩ := exists_ready_eq hhost hstream hsel
  rw [final, screen1_stream hhost hstream hsel]
  by_cases hrate : s.HasRate sel
  · rw [screen0_of_hasRate hhost hstream hsel hrate]
    split_ifs <;> simp only [hready] <;> exact ⟨_, _, _, rfl⟩
  · simp only [screen0_of_not_hasRate hhost hstream hsel hrate, hready]
    exact ⟨_, _, _, rfl⟩

end Session

end Ricochet
