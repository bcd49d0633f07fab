import Ricochet.Equiv.SealedDisplay
import Ricochet.Plugin.ReferenceSdk

/-!
# What is displayed after any calls

The application may go on to call the plugin in any order.  A stream that has been parsed to its end
is displayed as it was, whatever is called but a new start (`Session.display_sealed`).  A transfer
is displayed with the last word of arguments and the last super token that the calls have named
(`transfer_after_calls`).
-/

namespace Ricochet

open CLib Abi Machine

/-! ### Streams -/

/-- Every session of a stream parsed to its end, and every list of later calls that does not start
the plugin anew: words at any offsets, ends of arguments, token information on any transaction,
refused starts.  The queries among them are answered as the viewer of the calldata answers them. -/
theorem Session.display_sealed (s : Session) (sdk : EthPluginSdk) (sel : Selector)
    (hhost : s.host.Compatible sdk) (hstream : sel.IsStream) (hsel : s.selector = sel.bytes)
    (hnone : (s.parsed sdk).nextParam = .none) (calls : List PluginCall)
    (hcalls : ∀ call ∈ calls, ¬ call.Restarts sdk) :
    (trace (dispatchPluginCalls sdk) calls (s.ready sdk)).filterMap
        (fun p => (Query.ofCall? p.1).map fun q => (q, p.2)) =
      trace (Viewer.step sdk) (calls.filterMap Query.ofCall?) (s.viewer sel) :=
  (sealed_simulation sdk sel).trace_eq hcalls
    ⟨sealed_ready hhost hstream hsel hnone, viewer_ready hhost hsel⟩

/-- A stream of eight words, and a word and token information on another contract after it. -/
theorem Session.display_sealed_eight :
    let s : Session :=
      ⟨referenceHost (zeros 20), Context.zero, callAgreementSelector, List.replicate 8 (zeros 32)⟩
    (trace (dispatchPluginCalls referenceSdk)
        [.provideParameter (parameterMsg 0 (Vector.replicate 32 1)),
          .provideInfo ⟨⟨zeros 32, 0, Vector.replicate 20 1⟩, .error⟩,
          .queryContractUi (s.host.uiMsg 0)] (s.ready referenceSdk)).filterMap
        (fun p => (Query.ofCall? p.1).map fun q => (q, p.2)) =
      trace (Viewer.step referenceSdk) [.contractUi (s.host.uiMsg 0)]
        (s.viewer .callAgreement) := by
  intro s
  have hhost : s.host.Compatible referenceSdk := referenceHost_compatible _
  have hnone : (s.parsed referenceSdk).nextParam = .none :=
    (streamParsed hhost Selector.isStream_callAgreement rfl).nextParam.mpr (by decide)
  refine Session.display_sealed s referenceSdk .callAgreement hhost
    Selector.isStream_callAgreement rfl hnone _ ?_
  intro call hcall
  simp only [List.mem_cons, List.not_mem_nil, or_false] at hcall
  rcases hcall with rfl | rfl | rfl <;> exact id

/-! ### Transfers -/

namespace PluginCall

/-- The word of arguments that a call brings. -/
def word? : PluginCall → Option Word
  | .provideParameter msg => some msg.parameter
  | _ => none

/-- The super token that a call brings token information on. -/
def superToken? : PluginCall → Option SuperTokenTicker
  | .provideInfo msg => lookupSuperToken msg.txContent.destination
  | _ => none

end PluginCall

variable {sdk : EthPluginSdk} {sel : Selector}

theorem selectorAfter_of_not_restarts {call : PluginCall} (h : ¬ call.Restarts sdk) :
    selectorAfter sdk call sel = sel := by
  cases call with
  | initContract msg => exact if_neg h
  | _ => rfl

theorem Running.dispatch_of_not_restarts {c : Context} (h : Running sel c) {call : PluginCall}
    (hcall : ¬ call.Restarts sdk) : Running sel (dispatchPluginCalls sdk call c).2 := by
  have hnext := h.dispatch sdk call
  rwa [selectorAfter_of_not_restarts hcall] at hnext

/-- The parser of a transfer never skips a word. -/
theorem Running.skip {c : Context} (h : Running sel c) (hsel : ¬ sel.IsStream) : c.skip = 0 := by
  cases sel with
  | callAgreement => exact absurd Selector.isStream_callAgreement hsel
  | batchCall => exact absurd Selector.isStream_batchCall hsel
  | _ => exact SingleStateInvariant.skip h.parser

/-- Only a word of arguments writes the amount. -/
theorem amount_dispatch {c : Context} (h : Running sel c) (hsel : ¬ sel.IsStream)
    (heth : sel ≠ .upgradeToEth) {call : PluginCall} (hcall : ¬ call.Restarts sdk) :
    (dispatchPluginCalls sdk call c).2.amount = call.word?.getD c.amount := by
  have hindex := h.parser.selectorIndex
  cases call with
  | initContract msg =>
    rw [dispatchPluginCalls]
    exact congrArg Context.amount (handleInitContract_of_not_accepts sdk hcall c)
  | provideParameter msg =>
    rw [dispatchPluginCalls, handleProvideParameter_amount (Selector.isAmount_iff.mpr ⟨hsel, heth⟩)
      (h.skip hsel) hindex msg]
    rfl
  | finalize msg => rfl
  | provideInfo msg =>
    obtain ⟨d, hinfo⟩ := handleProvideToken_transfer sdk hsel hindex msg
    rw [dispatchPluginCalls, hinfo]
    rfl
  | queryContractId msg => rfl
  | queryContractUi msg =>
    exact congrArg Context.amount (handleQueryContractUi_transfer sdk hsel hindex msg)

/-- Only token information on a super token writes the tickers. -/
theorem tickers_dispatch {c : Context} (h : Running sel c) (hsel : ¬ sel.IsStream)
    {call : PluginCall} (hcall : ¬ call.Restarts sdk) :
    ((dispatchPluginCalls sdk call c).2.tickerSent,
      (dispatchPluginCalls sdk call c).2.tickerReceived) =
      (call.superToken?.map fun t => (transferSent sel t, transferReceived sel t)).getD
        (c.tickerSent, c.tickerReceived) := by
  have hindex := h.parser.selectorIndex
  cases call with
  | initContract msg =>
    rw [dispatchPluginCalls, handleInitContract_of_not_accepts sdk hcall c]
    rfl
  | provideParameter msg =>
    obtain ⟨hsent, hreceived⟩ := keepsTickers_handleProvideParameter sdk msg c
    exact Prod.ext hsent hreceived
  | finalize msg => rfl
  | provideInfo msg =>
    obtain ⟨d, hinfo⟩ := handleProvideToken_transfer sdk hsel hindex msg
    rw [dispatchPluginCalls, hinfo, PluginCall.superToken?]
    cases lookupSuperToken msg.txContent.destination <;> rfl
  | queryContractId msg => rfl
  | queryContractUi msg =>
    rw [dispatchPluginCalls, handleQueryContractUi_transfer sdk hsel hindex msg]
    rfl

theorem viewer_eq_of_not_isStream {c : Context} (hsel : ¬ sel.IsStream) :
    c.viewer sel =
      .transfer (transferName sel) (if sel = .upgradeToEth then none else some c.amount)
        c.tickerSent c.tickerReceived := by
  cases sel with
  | callAgreement => exact absurd Selector.isStream_callAgreement hsel
  | batchCall => exact absurd Selector.isStream_batchCall hsel
  | _ => rfl

section

variable {c : Context} {calls : List PluginCall}

/-- After the calls, the amount is the last word among them. -/
theorem amount_exec_of_not_restarts (h : Running sel c) (hsel : ¬ sel.IsStream)
    (heth : sel ≠ .upgradeToEth) (hcalls : ∀ call ∈ calls, ¬ call.Restarts sdk) :
    (exec (dispatchPluginCalls sdk) calls c).amount =
      (calls.filterMap PluginCall.word?).getLast?.getD c.amount := by
  refine exec_lastWrite (Running sel) Context.amount PluginCall.word? ?_ ?_ h
  · exact fun call hcall c hc => hc.dispatch_of_not_restarts (hcalls call hcall)
  · exact fun call hcall c hc => amount_dispatch hc hsel heth (hcalls call hcall)

/-- The tickers are those of the last super token among them. -/
theorem tickers_exec_of_not_restarts (h : Running sel c) (hsel : ¬ sel.IsStream)
    (hcalls : ∀ call ∈ calls, ¬ call.Restarts sdk) :
    ((exec (dispatchPluginCalls sdk) calls c).tickerSent,
        (exec (dispatchPluginCalls sdk) calls c).tickerReceived) =
      ((calls.filterMap PluginCall.superToken?).getLast?.map fun t =>
        (transferSent sel t, transferReceived sel t)).getD (c.tickerSent, c.tickerReceived) := by
  rw [← List.getLast?_map, List.map_filterMap]
  refine exec_lastWrite (Running sel) (fun c => (c.tickerSent, c.tickerReceived))
    (fun call : PluginCall =>
      call.superToken?.map fun t => (transferSent sel t, transferReceived sel t)) ?_ ?_ h
  · exact fun call hcall c hc => hc.dispatch_of_not_restarts (hcalls call hcall)
  · exact fun call hcall c hc => tickers_dispatch hc hsel (hcalls call hcall)

end

/-- Every transfer, started on any memory, and every list of calls after that, in any order, that
does not start the plugin anew: the display is of the last word of arguments, if it is not of a
value, and of the last super token that token information has been provided on. -/
theorem transfer_after_calls (sdk : EthPluginSdk) (start : EthPluginInitContract)
    (hstart : start.Accepts sdk) (sel : Selector)
    (hsel : (Selector.ofBytes? start.selector).getD .downgrade = sel) (htransfer : ¬ sel.IsStream)
    (memory : Context) (calls : List PluginCall) (hcalls : ∀ call ∈ calls, ¬ call.Restarts sdk) :
    let word := (calls.filterMap PluginCall.word?).getLast?.getD (zeros 32)
    let token := (calls.filterMap PluginCall.superToken?).getLast?
    (exec (dispatchPluginCalls sdk) (.initContract start :: calls) memory).DisplayedAs sdk
      (.transfer (transferName sel) (if sel = .upgradeToEth then none else some word)
        (token.elim "" (transferSent sel)) (token.elim "" (transferReceived sel))) := by
  intro word token
  have hinit : (dispatchPluginCalls sdk (.initContract start) memory).2 =
      Session.initial start.host sel := by
    rw [dispatchPluginCalls, handleInitContract_of_accepts hstart, hsel]
  have hrunning : Running sel (Session.initial start.host sel) := .initial _ sel
  have hfinal :
      Running sel (exec (dispatchPluginCalls sdk) calls (Session.initial start.host sel)) :=
    exec_invariant (Running sel)
      (fun call hcall c hc => hc.dispatch_of_not_restarts (hcalls call hcall)) hrunning
  have hamount : sel ≠ .upgradeToEth →
      (exec (dispatchPluginCalls sdk) calls (Session.initial start.host sel)).amount = word := by
    intro heth
    -- only a value is in the context from the start
    have hzero : (Session.initial start.host sel).amount = zeros 32 := if_neg heth
    rw [amount_exec_of_not_restarts hrunning htransfer heth hcalls, hzero]
  have htickers := tickers_exec_of_not_restarts hrunning htransfer hcalls
  have hsent : (exec (dispatchPluginCalls sdk) calls (Session.initial start.host sel)).tickerSent =
      token.elim "" (transferSent sel) := by
    refine (congrArg Prod.fst htickers).trans ?_
    show Prod.fst ((token.map _).getD _) = _
    cases token <;> rfl
  have hreceived :
      (exec (dispatchPluginCalls sdk) calls (Session.initial start.host sel)).tickerReceived =
        token.elim "" (transferReceived sel) := by
    refine (congrArg Prod.snd htickers).trans ?_
    show Prod.snd ((token.map _).getD _) = _
    cases token <;> rfl
  have hviewer :
      (exec (dispatchPluginCalls sdk) calls (Session.initial start.host sel)).viewer sel =
      .transfer (transferName sel) (if sel = .upgradeToEth then none else some word)
        (token.elim "" (transferSent sel)) (token.elim "" (transferReceived sel)) := by
    rw [viewer_eq_of_not_isStream htransfer, hsent, hreceived]
    split_ifs with heth
    · rfl
    · rw [hamount heth]
  rw [exec_cons, hinit, ← hviewer]
  exact Context.displayedAs_viewer sdk hfinal.parser.selectorIndex

/-- The first super token of the table. -/
def knownDestination : Address := (superTokenCollection.head (by decide)).superTokenAddress

/-- An amount and another, and a token that is not known after one that is. -/
theorem transfer_after_calls_upgrade :
    let start := (referenceHost (zeros 20)).initMsg upgradeSelector
    (exec (dispatchPluginCalls referenceSdk)
      [.initContract start, .provideParameter (parameterMsg 0 (beBytes 32 1)),
        .provideInfo ⟨⟨zeros 32, 0, knownDestination⟩, .error⟩,
        .provideInfo ⟨⟨zeros 32, 0, Vector.replicate 20 1⟩, .error⟩,
        .provideParameter (parameterMsg 0 (beBytes 32 2))] Context.zero).DisplayedAs referenceSdk
      (.transfer "Upgrade" (some (beBytes 32 2)) "DAI " "DAIx ") := by
  intro start
  have hsel : (Selector.ofBytes? start.selector).getD .downgrade = .upgrade := by decide
  refine transfer_after_calls referenceSdk start (by decide) .upgrade hsel (by decide) Context.zero
    [.provideParameter (parameterMsg 0 (beBytes 32 1)),
      .provideInfo ⟨⟨zeros 32, 0, knownDestination⟩, .error⟩,
      .provideInfo ⟨⟨zeros 32, 0, Vector.replicate 20 1⟩, .error⟩,
      .provideParameter (parameterMsg 0 (beBytes 32 2))] ?_
  intro call hcall
  simp only [List.mem_cons, List.not_mem_nil, or_false] at hcall
  rcases hcall with rfl | rfl | rfl | rfl <;> exact id

end Ricochet
