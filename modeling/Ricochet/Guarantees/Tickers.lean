import Ricochet.Guarantees.CallAgreement

/-!
# The tickers after the token information

The tickers of a `callAgreement` are looked up when the token information comes, by the receiver of
the operation, and by both screens, by the field that holds the receiver of a stopped stream.  The
screens never change what the first lookup has found: for a stopped stream the keys are the same,
and for any other one the field is zero, which is no exchange contract (`tickers_settled`).
-/

namespace Ricochet

open CLib Abi Machine

/-- A context of `callAgreement` that holds the tickers of `r`, which are also those the screens
find. -/
structure TickersOf (r : Address) (c : Context) : Prop where
  showsReceiver : ShowsReceiver .callAgreement r c
  tickerSent : c.tickerSent = tickerSentOf r
  tickerReceived : c.tickerReceived = tickerReceivedOf r

variable {sdk : EthPluginSdk} {r : Address} {c : Context}

/-- No screen changes the tickers, one that does not exist included. -/
theorem TickersOf.step (h : TickersOf r c) (msg : EthQueryContractUI) :
    TickersOf r (handleQueryContractUi sdk msg c).2 := by
  have hshows := h.showsReceiver
  by_cases hsend : msg.screenIndex = 0
  · by_cases hstop : c.methodId = stopStream
    · rw [screen0_of_stop hshows hstop hsend]
      exact ⟨hshows.withTickerSent c.amount, rfl, h.tickerReceived⟩
    · rw [screen0_of_rate hshows (Or.inr ⟨rfl, hstop⟩) hsend]
      split_ifs
      · exact ⟨hshows.withTickerSent _, rfl, h.tickerReceived⟩
      · exact ⟨hshows.withTickerSent c.amount, rfl, h.tickerReceived⟩
  by_cases hreceive : msg.screenIndex = 1
  · rw [screen1_of_receiver hshows (Or.inl rfl) hreceive]
    exact ⟨hshows.withTickerReceived, h.tickerSent, rfl⟩
  · rw [handleQueryContractUi_outOfRange sdk c hsend hreceive]
    exact h

namespace Session

variable {s : Session}

/-- Token information settles the tickers. -/
theorem tickersOf_handleCfaTokens (hhost : s.host.Compatible sdk)
    (hsel : s.selector = Selector.bytes .callAgreement) :
    TickersOf (callAgreementReceiver (s.parsed sdk)) (handleCfaTokens sdk (s.parsed sdk)) := by
  refine ⟨showsReceiver_handleCfaTokens hhost hsel, ?_, ?_⟩
  · rw [handleCfaTokens_parsed hhost hsel]
  · rw [handleCfaTokens_parsed hhost hsel]

/-- Any words, complete or not; then the token information, which leaves the tickers of the
receiver, and any screens in any order. -/
theorem tickers_settled (s : Session) (sdk : EthPluginSdk) (hhost : s.host.Compatible sdk)
    (hsel : s.selector = callAgreementSelector) (info : EthPluginProvideInfo)
    (queries : List EthQueryContractUI) :
    let c := (handleProvideToken sdk info (s.parsed sdk)).2
    c = handleCfaTokens sdk (s.parsed sdk) ∧
      c.tickerSent = tickerSentOf (callAgreementReceiver (s.parsed sdk)) ∧
      c.tickerReceived = tickerReceivedOf (callAgreementReceiver (s.parsed sdk)) ∧
      (exec (handleQueryContractUi sdk) queries c).tickerSent = c.tickerSent ∧
      (exec (handleQueryContractUi sdk) queries c).tickerReceived = c.tickerReceived := by
  intro c
  have hc : c = handleCfaTokens sdk (s.parsed sdk) := by
    show (handleProvideToken sdk info (s.parsed sdk)).2 = _
    simp only [handleProvideToken, (parsed_callAgreement hhost hsel).selectorIndex,
      Selector.ofIndex?_index]
  have hsettled : TickersOf (callAgreementReceiver (s.parsed sdk)) c := by
    rw [hc]
    exact tickersOf_handleCfaTokens hhost hsel
  have hrun : TickersOf (callAgreementReceiver (s.parsed sdk))
      (exec (handleQueryContractUi sdk) queries c) :=
    exec_invariant (TickersOf _) (fun msg _ _ h => h.step msg) hsettled
  refine ⟨hc, hsettled.tickerSent, hsettled.tickerReceived, ?_, ?_⟩
  · rw [hrun.tickerSent, hsettled.tickerSent]
  · rw [hrun.tickerReceived, hsettled.tickerReceived]

/-- A stream is started, and the sending screen comes twice after the receiving one. -/
theorem tickers_settled_start :
    let s := callAgreementSession (referenceHost (zeros 20)) Context.zero (zeros 20)
      (startAsDai 0 1).encode []
    let c := (handleProvideToken referenceSdk ⟨s.host.txContent, .error⟩ (s.parsed referenceSdk)).2
    (exec (handleQueryContractUi referenceSdk) [s.host.uiMsg 1, s.host.uiMsg 0, s.host.uiMsg 0]
      c).tickerSent = c.tickerSent :=
  (tickers_settled _ referenceSdk (referenceHost_compatible _) rfl _ _).2.2.2.1

end Session

end Ricochet
