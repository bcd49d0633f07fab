import Ricochet.Equiv.TransferSession

/-!
# The states a run can reach

An `INIT` that passes the checks of version and size starts the plugin, whatever the memory held
before (`handleInitContract_of_accepts`); with a selector that is not the plugin's it starts it all
the same, as it does for `downgrade`.  `Running sel c` is what holds from then on: the parser's
invariant, and tickers that are texts of the tables.  A `PluginState` carries it, so that a step of
the plugin is a step on such states (`PluginState.step`), and every call is answered with
`PluginState.result`.
-/

namespace Ricochet

open CLib Machine KeyedTable

variable {sdk : EthPluginSdk} {sel : Selector} {c : Context}

/-! ### Starting -/

/-- The application speaks the plugin's version of the interface and reserves enough memory. -/
def EthPluginInitContract.Accepts (msg : EthPluginInitContract) (sdk : EthPluginSdk) : Prop :=
  msg.interfaceVersion = sdk.interfaceVersionLatest ∧ sdk.sizeofContext ≤ msg.pluginContextLength

instance (msg : EthPluginInitContract) (sdk : EthPluginSdk) : Decidable (msg.Accepts sdk) :=
  inferInstanceAs (Decidable (_ ∧ _))

/-- The enumerator of four bytes. -/
def Selector.ofBytes? (b : Buffer 4) : Option Selector :=
  Selector.all.find? fun sel => sel.bytes = b

theorem Selector.ofBytes?_bytes (sel : Selector) : Selector.ofBytes? sel.bytes = some sel := by
  cases sel <;> decide

theorem Selector.ofBytes?_eq_some_iff {b : Buffer 4} :
    Selector.ofBytes? b = some sel ↔ b = sel.bytes := by
  constructor
  · intro h
    have hsel := List.find?_some h
    exact (of_decide_eq_true hsel).symm
  · rintro rfl
    exact ofBytes?_bytes sel

/-- An application that sends a given `INIT`. -/
def EthPluginInitContract.host (msg : EthPluginInitContract) : Host :=
  ⟨msg.interfaceVersion, msg.pluginContextLength, msg.txContent, "", 0, "", 0, 0, 0⟩

/-- An `INIT` that is refused leaves the memory alone. -/
theorem handleInitContract_of_not_accepts (sdk : EthPluginSdk) {msg : EthPluginInitContract}
    (h : ¬ msg.Accepts sdk) (c : Context) : (handleInitContract sdk msg c).2 = c := by
  rw [handleInitContract]
  by_cases hver : msg.interfaceVersion ≠ sdk.interfaceVersionLatest
  · rw [if_pos hver]
  · have hsize : msg.pluginContextLength < sdk.sizeofContext := by
      by_contra hle
      exact h ⟨not_not.mp hver, Nat.le_of_not_lt hle⟩
    rw [if_neg hver, if_pos hsize]

/-- One that is not starts the plugin for its selector, or for `downgrade`. -/
theorem handleInitContract_of_accepts {msg : EthPluginInitContract} (h : msg.Accepts sdk)
    (c : Context) :
    handleInitContract sdk msg c =
      ({ msg with
          result := if (Selector.ofBytes? msg.selector).isSome then .ok else .unavailable },
        Session.initial (msg.host) ((Selector.ofBytes? msg.selector).getD .downgrade)) := by
  obtain ⟨hver, hsize⟩ := h
  cases hsel : Selector.ofBytes? msg.selector with
  | some sel =>
    -- the session of a host that sends this message
    have hhost : msg.host.Compatible sdk := ⟨hver, hsize⟩
    exact Session.init_eq_of_selector (s := ⟨msg.host, c, msg.selector, []⟩) hhost
      (Selector.ofBytes?_eq_some_iff.mp hsel)
  | none =>
    have hfind : ricochetSelectors.findIdx? (fun selector => selector = msg.selector) = none := by
      cases hidx : ricochetSelectors.findIdx? fun selector => selector = msg.selector with
      | none => rfl
      | some i =>
        obtain ⟨sel, hbytes⟩ := Selector.exists_of_findIdx? hidx
        rw [Selector.ofBytes?_eq_some_iff.mpr hbytes] at hsel
        cases hsel
    -- the cleared context has the index of `downgrade`
    rw [handleInitContract, if_neg (not_not.mpr hver), if_neg (Nat.not_lt.mpr hsize), hfind]
    rfl

/-! ### What the handlers write -/

/-- The words of the arguments never touch the tickers. -/
structure KeepsTickers (c c' : Context) : Prop where
  tickerSent : c'.tickerSent = c.tickerSent
  tickerReceived : c'.tickerReceived = c.tickerReceived

theorem keepsTickers_callAgreementSwitch (sdk : EthPluginSdk) (msg : EthPluginProvideParameter)
    (c : Context) : KeepsTickers c (callAgreementSwitch sdk msg c).2 := by
  obtain ⟨m, i, hcfa, -⟩ := handleMethodCfa_cases msg c
  rw [callAgreementSwitch]
  cases hnext : c.nextParam with
  | callData =>
    simp only [hcfa, handleTokenFirstPart, handleTokenSecondPart, handleSentAddressFirstPart,
      handleSentAddressSecondPart, handleFlowRateFirstPart, handleFlowRateSecondPart,
      handleReceiveAddressFirstPart, handleReceiveAddressSecondPart]
    by_cases h0 : msg.parameterOffset = c.offset + .ofNat selectorSize
    · rw [if_pos h0]
      exact ⟨rfl, rfl⟩
    rw [if_neg h0]
    by_cases h1 : msg.parameterOffset = c.offset + .ofNat selectorSize + .ofNat parameterLength
    · rw [if_pos h1]
      exact ⟨rfl, rfl⟩
    rw [if_neg h1]
    -- the two words that a stopped stream has its receiver in
    by_cases h2 : msg.parameterOffset =
        c.offset + .ofNat selectorSize + .ofNat (2 * parameterLength)
    · rw [if_pos h2]
      by_cases hstop : c.methodId = stopStream
      · simp only [hstop, if_true]
        exact ⟨rfl, rfl⟩
      · simp only [hstop, if_false]
        exact ⟨rfl, rfl⟩
    rw [if_neg h2]
    by_cases h3 : msg.parameterOffset =
        c.offset + .ofNat selectorSize + .ofNat (3 * parameterLength)
    · rw [if_pos h3]
      by_cases hstop : c.methodId = stopStream
      · simp only [hstop, if_true]
        exact ⟨rfl, rfl⟩
      · simp only [hstop, if_false]
        exact ⟨rfl, rfl⟩
    · rw [if_neg h3]
      exact ⟨rfl, rfl⟩
  | _ => constructor <;> dsimp only [handleAgreementClass]

theorem keepsTickers_batchCallSwitch (sdk : EthPluginSdk) (msg : EthPluginProvideParameter)
    (c : Context) : KeepsTickers c (batchCallSwitch sdk msg c).2 := by
  obtain ⟨m, i, hcfa, -⟩ := handleMethodCfa_cases msg c
  rw [batchCallSwitch]
  cases hnext : c.nextParam with
  | inputData =>
    simp only [hcfa, handleSentAddressFirstPart, handleSentAddressSecondPart,
      handleReceiveAddressFirstPart, handleReceiveAddressSecondPart, handleFlowRateFirstPart,
      handleFlowRateSecondPart]
    split_ifs <;> constructor <;> dsimp only
  | _ => constructor <;> dsimp only

theorem keepsTickers_handleProvideParameter (sdk : EthPluginSdk) (msg : EthPluginProvideParameter)
    (c : Context) : KeepsTickers c (handleProvideParameter sdk msg c).2 := by
  rw [handleProvideParameter]
  dsimp only
  split_ifs with hskip
  · exact ⟨rfl, rfl⟩
  · split
    · exact ⟨rfl, rfl⟩
    · exact ⟨rfl, rfl⟩
    · exact ⟨rfl, rfl⟩
    · rw [handleCallAgreement]
      split_ifs
      · exact ⟨rfl, rfl⟩
      · obtain ⟨hsent, hreceived⟩ := keepsTickers_callAgreementSwitch sdk
          { msg with result := .ok } { c with goToOffset := 0 }
        exact ⟨hsent, hreceived⟩
      · exact keepsTickers_callAgreementSwitch sdk _ c
    · rw [handleBatchCall]
      split_ifs
      · exact ⟨rfl, rfl⟩
      · obtain ⟨hsent, hreceived⟩ := keepsTickers_batchCallSwitch sdk
          { msg with result := .ok } { c with goToOffset := 0 }
        exact ⟨hsent, hreceived⟩
      · exact keepsTickers_batchCallSwitch sdk _ c
    · exact ⟨rfl, rfl⟩

/-- Token information writes the received contract, the tickers of an entry and the decimals. -/
theorem handleProvideToken_writes (sdk : EthPluginSdk) (hindex : c.selectorIndex = sel.index)
    (hid : c.methodId ∈ [startStream, updateStream, stopStream]) (msg : EthPluginProvideInfo) :
    ∃ a t t' d, (handleProvideToken sdk msg c).2 =
        { c with
          contractAddressReceived := a
          tickerSent := t
          tickerReceived := t'
          decimals := d } ∧
      (t = c.tickerSent ∨ t ∈ tickers) ∧ (t' = c.tickerReceived ∨ t' ∈ tickers) := by
  by_cases hstream : sel.IsStream
  · rcases hstream with rfl | rfl
    · have hcfa : (handleProvideToken sdk msg c).2 = handleCfaTokens sdk c := by
        rw [handleProvideToken, ofIndex?_of_eq hindex]
      rw [hcfa, handleCfaTokens_eq c (by simpa using hid)]
      refine ⟨_, _, _, _, rfl, ?_⟩
      cases h : lookupContract (callAgreementReceiver c) with
      | none => exact ⟨Or.inl rfl, Or.inl rfl⟩
      | some e =>
        have he := ticker_mem_tickers (lookupContract_eq_some_iff.mp h).1
        exact ⟨Or.inr he.1, Or.inr he.2⟩
    · rw [handleProvideToken, ofIndex?_of_eq hindex]
      exact ⟨_, _, _, _, rfl, Or.inl rfl, Or.inl rfl⟩
  · obtain ⟨d, hinfo⟩ := handleProvideToken_transfer sdk hstream hindex msg
    rw [hinfo]
    refine ⟨_, _, _, _, rfl, ?_⟩
    cases h : lookupSuperToken msg.txContent.destination with
    | none => exact ⟨Or.inl rfl, Or.inl rfl⟩
    | some t =>
      obtain ⟨htoken, hsuper⟩ := superTicker_mem_tickers (lookupSuperToken_eq_some_iff.mp h).1
      have hsent : transferSent sel t ∈ tickers := by
        rw [transferSent]
        split_ifs <;> assumption
      have hreceived : transferReceived sel t ∈ tickers := by
        rw [transferReceived]
        split_ifs <;> assumption
      exact ⟨Or.inr hsent, Or.inr hreceived⟩

/-! ### The invariant -/

/-- What the parser keeps does not depend on what the other handlers write. -/
theorem ParserInvariant.withDisplay (h : ParserInvariant sel c) (amount : Buffer 32)
    (received : Address) (t t' : String) (d : UInt8) :
    ParserInvariant sel
      { c with
        amount := amount
        contractAddressReceived := received
        tickerSent := t
        tickerReceived := t'
        decimals := d } := by
  cases sel with
  | callAgreement =>
    obtain ⟨hvalid, hindex, hnext, hgo, hskip, hid⟩ := h
    exact ⟨hvalid, hindex, hnext, hgo, hskip, hid⟩
  | batchCall =>
    obtain ⟨hvalid, hindex, hnext, hskip, hgo, hid⟩ := h
    exact ⟨hvalid, hindex, hnext, hskip, hgo, hid⟩
  | _ =>
    obtain ⟨hvalid, hindex, hnext, hskip, hid⟩ := h
    exact ⟨hvalid, hindex, hnext, hskip, hid⟩

/-- What every call keeps, once the plugin has been started for `sel`. -/
structure Running (sel : Selector) (c : Context) : Prop where
  parser : ParserInvariant sel c
  tickerSent : c.tickerSent ∈ tickers
  tickerReceived : c.tickerReceived ∈ tickers

namespace Running

theorem initial (host : Host) (sel : Selector) : Running sel (Session.initial host sel) :=
  ⟨.initial host sel, empty_mem_tickers, empty_mem_tickers⟩

theorem provideParameter (h : Running sel c) (sdk : EthPluginSdk)
    (msg : EthPluginProvideParameter) :
    Running sel (handleProvideParameter sdk msg c).2 := by
  obtain ⟨hsent, hreceived⟩ := keepsTickers_handleProvideParameter sdk msg c
  exact ⟨h.parser.step msg, hsent ▸ h.tickerSent, hreceived ▸ h.tickerReceived⟩

theorem provideToken (h : Running sel c) (sdk : EthPluginSdk) (msg : EthPluginProvideInfo) :
    Running sel (handleProvideToken sdk msg c).2 := by
  obtain ⟨a, t, t', d, hwrites, ht, ht'⟩ :=
    handleProvideToken_writes sdk h.parser.selectorIndex h.parser.methodId msg
  rw [hwrites]
  refine ⟨h.parser.withDisplay c.amount a t t' d, ?_, ?_⟩
  · rcases ht with rfl | ht
    · exact h.tickerSent
    · exact ht
  · rcases ht' with rfl | ht'
    · exact h.tickerReceived
    · exact ht'

/-- The tickers the screens find are of the tables, too. -/
theorem sentTicker (h : Running sel c) : c.sentTicker ∈ tickers := by
  rw [Context.sentTicker]
  cases hfind : lookupContract c.contractAddressReceived with
  | none => exact h.tickerSent
  | some e => exact (ticker_mem_tickers (lookupContract_eq_some_iff.mp hfind).1).1

theorem receivedTicker (h : Running sel c) : c.receivedTicker ∈ tickers := by
  rw [Context.receivedTicker]
  cases hfind : lookupContract c.contractAddressReceived with
  | none => exact h.tickerReceived
  | some e => exact (ticker_mem_tickers (lookupContract_eq_some_iff.mp hfind).1).2

theorem queryContractUi (h : Running sel c) (sdk : EthPluginSdk) (msg : EthQueryContractUI) :
    Running sel (handleQueryContractUi sdk msg c).2 := by
  obtain ⟨a, t, t', hwrites, ht, ht'⟩ := (displayStep sdk h.parser.selectorIndex msg).writes
  rw [hwrites]
  refine ⟨h.parser.withDisplay a c.contractAddressReceived t t' c.decimals, ?_, ?_⟩
  · rcases ht with rfl | rfl
    · exact h.tickerSent
    · exact h.sentTicker
  · rcases ht' with rfl | rfl
    · exact h.tickerReceived
    · exact h.receivedTicker

end Running

/-- The selector the plugin is started for after a call: only an `INIT` that passes the checks
changes it. -/
def selectorAfter (sdk : EthPluginSdk) : PluginCall → Selector → Selector
  | .initContract msg, sel =>
    if msg.Accepts sdk then (Selector.ofBytes? msg.selector).getD .downgrade else sel
  | _, sel => sel

theorem Running.dispatch (h : Running sel c) (sdk : EthPluginSdk) (call : PluginCall) :
    Running (selectorAfter sdk call sel) (dispatchPluginCalls sdk call c).2 := by
  cases call with
  | initContract msg =>
    rw [selectorAfter, dispatchPluginCalls]
    split_ifs with haccepts
    · rw [handleInitContract_of_accepts haccepts]
      exact .initial _ _
    · rw [handleInitContract_of_not_accepts sdk haccepts]
      exact h
  | provideParameter msg => exact h.provideParameter sdk msg
  | finalize msg => exact h
  | provideInfo msg => exact h.provideToken sdk msg
  | queryContractId msg => exact h
  | queryContractUi msg => exact h.queryContractUi sdk msg

/-- A context in which the plugin has been started. -/
structure PluginState where
  context : Context
  selector : Selector
  running : Running selector context

namespace PluginState

/-- The state after an `INIT` that passes the checks. -/
def start (msg : EthPluginInitContract) : PluginState where
  context := Session.initial msg.host ((Selector.ofBytes? msg.selector).getD .downgrade)
  selector := (Selector.ofBytes? msg.selector).getD .downgrade
  running := .initial _ _

/-- `dispatch_plugin_calls` on such states. -/
def step (sdk : EthPluginSdk) (call : PluginCall) (p : PluginState) : PluginCall × PluginState :=
  ((dispatchPluginCalls sdk call p.context).1,
    { context := (dispatchPluginCalls sdk call p.context).2
      selector := selectorAfter sdk call p.selector
      running := p.running.dispatch sdk call })

variable (sdk) in
/-- Forgetting the invariant gives the plugin. -/
theorem simulation :
    Simulation (fun _ => True) (fun c p => p.context = c) some id (dispatchPluginCalls sdk)
      (step sdk) := by
  constructor
  · rintro call - _ ⟨⟩ _ p rfl
    rfl
  · rintro call - _ ⟨⟩ _ p rfl
    rfl
  · rintro call - ⟨⟩

variable (sdk) in
theorem context_exec (calls : List PluginCall) (p : PluginState) :
    (exec (step sdk) calls p).context = exec (dispatchPluginCalls sdk) calls p.context := by
  have hrel := (simulation sdk).exec_rel (fun call (_ : call ∈ calls) => trivial)
    (rfl : p.context = _)
  rwa [List.filterMap_some] at hrel

variable (sdk) in
theorem selector_exec (calls : List PluginCall) (p : PluginState) :
    (exec (step sdk) calls p).selector =
      calls.foldl (fun sel call => selectorAfter sdk call sel) p.selector := by
  induction calls generalizing p with
  | nil => rfl
  | cons call calls ih => exact ih _

/-- What a call is answered with. -/
def result (sdk : EthPluginSdk) (p : PluginState) : PluginCall → PluginResult
  | .initContract msg =>
    if msg.interfaceVersion ≠ sdk.interfaceVersionLatest then .unavailable
    else if msg.pluginContextLength < sdk.sizeofContext then .error
    else if (Selector.ofBytes? msg.selector).isSome then .ok
    else .unavailable
  | .provideParameter _ => if p.selector = .upgradeToEth then .error else .ok
  | .finalize _ | .provideInfo _ | .queryContractId _ => .ok
  | .queryContractUi msg =>
    if msg.screenIndex = 0 then (if (p.context.viewer p.selector).Overflows then .error else .ok)
    else if msg.screenIndex = 1 ∨ p.selector = .batchCall then .ok
    else .error

theorem result_initContract (sdk : EthPluginSdk) (msg : EthPluginInitContract) (p : PluginState) :
    (handleInitContract sdk msg p.context).1.result = p.result sdk (.initContract msg) := by
  rw [result]
  by_cases hver : msg.interfaceVersion ≠ sdk.interfaceVersionLatest
  · rw [if_pos hver, handleInitContract, if_pos hver]
  rw [if_neg hver]
  by_cases hsize : msg.pluginContextLength < sdk.sizeofContext
  · rw [if_pos hsize, handleInitContract, if_neg hver, if_pos hsize]
  · rw [if_neg hsize,
      handleInitContract_of_accepts ⟨not_not.mp hver, Nat.le_of_not_lt hsize⟩]

theorem result_provideParameter (sdk : EthPluginSdk) (msg : EthPluginProvideParameter)
    (p : PluginState) :
    (handleProvideParameter sdk msg p.context).1.result = p.result sdk (.provideParameter msg) := by
  obtain ⟨c, sel, ⟨hparser, -, -⟩⟩ := p
  rw [result]
  cases sel with
  | callAgreement => exact (CallAgreementInvariant.step hparser msg).2
  | batchCall => exact (BatchCallInvariant.step hparser msg).2
  | upgradeToEth =>
    rw [handleProvideParameter_upgradeToEth hparser.selectorIndex
      (SingleStateInvariant.skip hparser)]
    rfl
  | upgrade | downgrade | downgradeToEth =>
    rw [handleProvideParameter_amount (by simp [Selector.IsAmount])
      (SingleStateInvariant.skip hparser) hparser.selectorIndex]
    rfl

theorem result_finalize (msg : EthPluginFinalize) (p : PluginState) :
    (handleFinalize msg p.context).result = .ok := by
  obtain ⟨c, sel, ⟨hparser, -, -⟩⟩ := p
  have hvalid : c.valid ≠ 0 := by
    rw [hparser.valid]
    decide
  rw [handleFinalize, if_pos hvalid, ofIndex?_of_eq hparser.selectorIndex]
  cases sel <;> rfl

theorem result_queryContractUi (sdk : EthPluginSdk) (msg : EthQueryContractUI) (p : PluginState) :
    (handleQueryContractUi sdk msg p.context).1.result = p.result sdk (.queryContractUi msg) := by
  obtain ⟨c, sel, ⟨hparser, -, -⟩⟩ := p
  have hanswer := congrArg PluginCall.result (displayStep sdk hparser.selectorIndex msg).answer
  have hout : (c.viewer sel).outOfRange = if sel = .batchCall then .ok else .error := by
    cases sel with
    | callAgreement =>
      by_cases hstop : c.methodId = stopStream
      · rw [viewer_of_stop hstop]
        rfl
      · rw [viewer_of_rate (Or.inr ⟨rfl, hstop⟩)]
        rfl
    | _ => rfl
  rw [Viewer.result_step, hout] at hanswer
  rw [result]
  refine hanswer.trans ?_
  split_ifs <;> simp_all

/-- Every call is answered with it. -/
theorem result_step (sdk : EthPluginSdk) (call : PluginCall) (p : PluginState) :
    (p.step sdk call).1.result = p.result sdk call := by
  cases call with
  | initContract msg => exact result_initContract sdk msg p
  | provideParameter msg => exact result_provideParameter sdk msg p
  | finalize msg => exact result_finalize msg p
  | provideInfo msg => rfl
  | queryContractId msg =>
    exact congrArg EthQueryContractID.result
      (handleQueryContractId_eq p.running.parser.selectorIndex msg)
  | queryContractUi msg => exact result_queryContractUi sdk msg p

end PluginState

end Ricochet
