import Ricochet.Display.Viewer
import Ricochet.Equiv.HandleInitContract
import Ricochet.Equiv.StreamScreens

/-!
# The display

`Context.viewer` is what the context of a session is displayed as.  It holds of any context with the
index of a selector, whatever the parser has made of the calldata: the handlers of the two display
queries answer as the viewer does, and leave a context that is displayed as what the viewer goes on
with (`handleQueryContractId_eq`, `displayStep`).  So the display is a `Simulation`
(`viewer_simulation`), and a run of queries is answered as the viewer answers it
(`Context.displayedAs_viewer`).  The one amount that a query gives to `amountToString` is the one on
the viewer's screen (`amountCall?_eq`), so the handler returns when that can be written
(`uiReturns_iff`).
-/

namespace Ricochet

open CLib Machine KeyedTable

variable {sdk : EthPluginSdk} {sel : Selector} {c : Context}

/-- The name of a method, if it has one. -/
def methodNameOf (m : Buffer 4) : Option String := (lookupMethod m).map CfaMethod.methodName

namespace Context

/-- What the context of a session is displayed as. -/
def viewer (c : Context) : Selector → Viewer
  | .downgrade | .downgradeToEth =>
    .transfer "Downgrade" (some c.amount) c.tickerSent c.tickerReceived
  | .upgrade => .transfer "Upgrade" (some c.amount) c.tickerSent c.tickerReceived
  | .upgradeToEth => .transfer "Upgrade" none c.tickerSent c.tickerReceived
  | .callAgreement =>
    if c.methodId = stopStream then
      .stop (methodNameOf c.methodCfa) c.sentTicker c.receivedTicker
    else
      .stream false (methodNameOf c.methodCfa) c.sentTicker c.receivedTicker (beNat c.amount.toList)
  | .batchCall =>
    .stream true (methodNameOf c.methodCfa) c.sentTicker c.receivedTicker (beNat c.amount.toList)

/-- A ticker that the lookup has been written to is found again. -/
theorem sentTicker_eq_self (c : Context) (amount : Buffer 32) :
    sentTicker { c with tickerSent := c.sentTicker, amount := amount } = c.sentTicker := by
  unfold sentTicker
  cases lookupContract c.contractAddressReceived <;> rfl

/-- Each lookup leaves what the other one finds. -/
theorem receivedTicker_withSent (c : Context) (amount : Buffer 32) (ticker : String) :
    receivedTicker { c with tickerSent := ticker, amount := amount } = c.receivedTicker := by
  simp only [receivedTicker]

theorem sentTicker_withReceived (c : Context) (ticker : String) :
    sentTicker { c with tickerReceived := ticker } = c.sentTicker := by
  simp only [sentTicker]

theorem receivedTicker_eq_self (c : Context) :
    receivedTicker { c with tickerReceived := c.receivedTicker } = c.receivedTicker := by
  unfold receivedTicker
  cases lookupContract c.contractAddressReceived <;> rfl

end Context

/-! ### The identification query -/

theorem version_viewer_stream (hstream : sel.IsStream) (c : Context) :
    (c.viewer sel).version = methodNameOf c.methodCfa := by
  rcases hstream with rfl | rfl
  · unfold Context.viewer
    split_ifs <;> rfl
  · rfl

theorem handleQueryContractId_eq (hindex : c.selectorIndex = sel.index) (msg : EthQueryContractID) :
    handleQueryContractId msg c =
      { msg with
        name := strlcpy msg.name pluginName msg.nameLength
        version := (c.viewer sel).version.elim msg.version
          fun name => strlcpy msg.version name msg.versionLength
        result := .ok } := by
  rw [handleQueryContractId, ofIndex?_of_eq hindex]
  cases sel with
  | callAgreement =>
    dsimp only
    rw [handleInitCfaScreen_eq, version_viewer_stream Selector.isStream_callAgreement,
      methodNameOf, Option.elim_map]
    rfl
  | batchCall =>
    dsimp only
    rw [handleInitCfaScreen_eq, version_viewer_stream Selector.isStream_batchCall,
      methodNameOf, Option.elim_map]
    rfl
  | _ => rfl

/-! ### One query -/

variable {msg : EthQueryContractUI}

variable (sdk) in
/-- A screen that does not exist. -/
theorem screen_outOfRange (hindex : c.selectorIndex = sel.index) (h0 : msg.screenIndex ≠ 0)
    (h1 : msg.screenIndex ≠ 1) :
    handleQueryContractUi sdk msg c = (Viewer.blank msg (c.viewer sel).outOfRange, c) := by
  rw [handleQueryContractUi, ofIndex?_of_eq hindex, getScreen_error h0 h1]
  cases sel with
  | callAgreement =>
    unfold Context.viewer
    split_ifs <;> rfl
  | _ => rfl

/-- The display of a stream depends on the method, the tickers and the amount. -/
theorem viewer_stream_congr (hstream : sel.IsStream) {d : Context}
    (hcfa : d.methodCfa = c.methodCfa) (hid : d.methodId = c.methodId)
    (hsent : d.sentTicker = c.sentTicker) (hreceived : d.receivedTicker = c.receivedTicker)
    (hamount : d.amount = c.amount) : d.viewer sel = c.viewer sel := by
  rcases hstream with rfl | rfl
  · simp only [Context.viewer, hcfa, hid, hsent, hreceived, hamount]
  · simp only [Context.viewer, hcfa, hsent, hreceived, hamount]

theorem viewer_of_stop (hstop : c.methodId = stopStream) :
    c.viewer .callAgreement =
      .stop (methodNameOf c.methodCfa) c.sentTicker c.receivedTicker := by
  rw [Context.viewer, if_pos hstop]

theorem viewer_of_rate (hrate : ShowsRate sel c) :
    c.viewer sel =
      .stream (sel = .batchCall) (methodNameOf c.methodCfa) c.sentTicker c.receivedTicker
        (beNat c.amount.toList) := by
  rcases hrate with rfl | ⟨rfl, hid⟩
  · rfl
  · rw [Context.viewer, if_neg hid]
    rfl

/-- The same with another rate in the place of the one shown. -/
theorem viewer_of_month (hrate : ShowsRate sel c) {month : ℕ} (hmonth : month < 256 ^ 32) :
    Context.viewer { c with tickerSent := c.sentTicker, amount := beBytes 32 month } sel =
      .stream (sel = .batchCall) (methodNameOf c.methodCfa) c.sentTicker c.receivedTicker
        month := by
  have hrate' :
      ShowsRate sel { c with tickerSent := c.sentTicker, amount := beBytes 32 month } := by
    rwa [ShowsRate]
  rw [viewer_of_rate hrate', c.sentTicker_eq_self, c.receivedTicker_withSent]
  dsimp only
  rw [beNat_beBytes_of_lt hmonth]

/-- The queries write the amount and the tickers at most. -/
structure DisplayStep (sdk : EthPluginSdk) (sel : Selector) (msg : EthQueryContractUI)
    (c : Context) :
    Prop where
  /-- They are answered as the viewer answers them. -/
  answer : .queryContractUi (handleQueryContractUi sdk msg c).1 =
    (Viewer.step sdk (.contractUi msg) (c.viewer sel)).1
  /-- What is left is displayed as what the viewer goes on with. -/
  next : (handleQueryContractUi sdk msg c).2.viewer sel =
    (Viewer.step sdk (.contractUi msg) (c.viewer sel)).2
  writes : ∃ a t t', (handleQueryContractUi sdk msg c).2 =
    { c with amount := a, tickerSent := t, tickerReceived := t' } ∧
    (t = c.tickerSent ∨ t = c.sentTicker) ∧ (t' = c.tickerReceived ∨ t' = c.receivedTicker)

/-- The sending screen of a stream with a rate. -/
theorem displayStep_of_rate (hindex : c.selectorIndex = sel.index)
    (hrate : ShowsRate sel c)
    (hscreen : msg.screenIndex = 0) : DisplayStep sdk sel msg c := by
  have hstep : handleQueryContractUi sdk msg c = _ := screen0_eq_of_rate hindex hrate hscreen
  have hviewer := viewer_of_rate hrate
  by_cases hfit : beNat c.amount.toList * 2592000 < 2 ^ 64
  · rw [if_pos hfit] at hstep
    constructor
    · rw [hstep, hviewer, Viewer.step, if_pos hscreen, Viewer.send, if_pos hfit]
      rfl
    · -- the rate per month takes the place of the rate
      rw [hstep, hviewer, Viewer.step, if_pos hscreen, Viewer.sent, compound_of_lt hfit]
      exact viewer_of_month hrate (hfit.trans (by decide))
    · rw [hstep]
      exact ⟨_, _, _, rfl, Or.inr rfl, Or.inl rfl⟩
  · rw [if_neg hfit] at hstep
    constructor
    · rw [hstep, hviewer, Viewer.step, if_pos hscreen, Viewer.send, if_neg hfit]
      rfl
    · rw [hstep, hviewer, Viewer.step, if_pos hscreen, Viewer.sent,
        compound_of_le (Nat.le_of_not_lt hfit), ← hviewer]
      exact viewer_stream_congr hrate.isStream rfl rfl (c.sentTicker_eq_self c.amount)
        (c.receivedTicker_withSent c.amount _) rfl
    · rw [hstep]
      exact ⟨_, _, _, rfl, Or.inr rfl, Or.inl rfl⟩

/-- The sending screen of a stopped stream. -/
theorem displayStep_of_stop (hindex : c.selectorIndex = Selector.callAgreement.index)
    (hstop : c.methodId = stopStream) (hscreen : msg.screenIndex = 0) :
    DisplayStep sdk .callAgreement msg c := by
  have hstep : handleQueryContractUi sdk msg c = _ := screen0_eq_of_stop hindex hstop hscreen
  have hviewer := viewer_of_stop hstop
  constructor
  · rw [hstep, hviewer, Viewer.step, if_pos hscreen]
    rfl
  · rw [hstep, Viewer.step, if_pos hscreen, hviewer]
    show Context.viewer { c with tickerSent := c.sentTicker } .callAgreement = Viewer.stop _ _ _
    rw [← hviewer]
    exact viewer_stream_congr Selector.isStream_callAgreement rfl rfl
      (c.sentTicker_eq_self c.amount) (c.receivedTicker_withSent c.amount _) rfl
  · rw [hstep]
    exact ⟨_, _, _, rfl, Or.inr rfl, Or.inl rfl⟩

/-- The receiving screen of a stream. -/
theorem displayStep_receive (hstream : sel.IsStream)
    (hindex : c.selectorIndex = sel.index) (h0 : msg.screenIndex ≠ 0) (h1 : msg.screenIndex = 1) :
    DisplayStep sdk sel msg c := by
  have hstep : handleQueryContractUi sdk msg c = _ := screen1_eq hstream hindex h1
  have hanswer : ∀ v : Viewer, Viewer.step sdk (.contractUi msg) v =
      (.queryContractUi (v.receive sdk msg), v) := by
    intro v
    rw [Viewer.step, if_neg h0, if_pos h1]
  constructor
  · rw [hstep, hanswer]
    rcases hstream with rfl | rfl
    · unfold Context.viewer
      split_ifs <;> rfl
    · rfl
  · rw [hstep, hanswer]
    exact viewer_stream_congr hstream rfl rfl (c.sentTicker_withReceived _)
      c.receivedTicker_eq_self rfl
  · rw [hstep]
    exact ⟨_, _, _, rfl, Or.inl rfl, Or.inr rfl⟩

/-- A transfer's screens leave the context alone. -/
theorem handleQueryContractUi_transfer (sdk : EthPluginSdk)
    (hsel : ¬ sel.IsStream) (hindex : c.selectorIndex = sel.index)
    (msg : EthQueryContractUI) : (handleQueryContractUi sdk msg c).2 = c := by
  rw [handleQueryContractUi, ofIndex?_of_eq hindex]
  cases sel with
  | callAgreement => exact absurd Selector.isStream_callAgreement hsel
  | batchCall => exact absurd Selector.isStream_batchCall hsel
  | _ => dsimp only; split <;> rfl

/-- Both screens of a transfer. -/
theorem displayStep_transfer (hsel : ¬ sel.IsStream)
    (hindex : c.selectorIndex = sel.index) (hscreen : msg.screenIndex = 0 ∨ msg.screenIndex = 1) :
    DisplayStep sdk sel msg c := by
  have hsame := handleQueryContractUi_transfer sdk hsel hindex msg
  have hkeeps : (c.viewer sel).sent = c.viewer sel := by
    cases sel with
    | callAgreement => exact absurd Selector.isStream_callAgreement hsel
    | batchCall => exact absurd Selector.isStream_batchCall hsel
    | _ => rfl
  constructor
  · rw [handleQueryContractUi, ofIndex?_of_eq hindex]
    rcases hscreen with h0 | h1
    · rw [Viewer.step, if_pos h0, getScreen_send h0]
      cases sel with
      | callAgreement => exact absurd Selector.isStream_callAgreement hsel
      | batchCall => exact absurd Selector.isStream_batchCall hsel
      | _ => rfl
    · have h0 : msg.screenIndex ≠ 0 := by
        rw [h1]
        decide
      rw [Viewer.step, if_neg h0, if_pos h1, getScreen_receive h1]
      cases sel with
      | callAgreement => exact absurd Selector.isStream_callAgreement hsel
      | batchCall => exact absurd Selector.isStream_batchCall hsel
      | _ => rfl
  · -- neither the context nor the viewer goes on to anything else
    rw [hsame, Viewer.step]
    split_ifs <;> first | exact hkeeps.symm | rfl
  · rw [hsame]
    exact ⟨_, _, _, rfl, Or.inl rfl, Or.inl rfl⟩

/-- Every query of a screen. -/
theorem displayStep (sdk : EthPluginSdk) (hindex : c.selectorIndex = sel.index)
    (msg : EthQueryContractUI) : DisplayStep sdk sel msg c := by
  by_cases hother : msg.screenIndex ≠ 0 ∧ msg.screenIndex ≠ 1
  · obtain ⟨h0, h1⟩ := hother
    have hstep := screen_outOfRange sdk hindex h0 h1
    constructor
    · rw [hstep, Viewer.step, if_neg h0, if_neg h1]
    · rw [hstep, Viewer.step, if_neg h0, if_neg h1]
    · rw [hstep]
      exact ⟨_, _, _, rfl, Or.inl rfl, Or.inl rfl⟩
  have hscreen : msg.screenIndex = 0 ∨ msg.screenIndex = 1 := by
    by_contra hnot
    exact hother (not_or.mp hnot)
  by_cases hstream : sel.IsStream
  · rcases hscreen with h0 | h1
    · by_cases hrate : ShowsRate sel c
      · exact displayStep_of_rate hindex hrate h0
      · obtain ⟨rfl, hstop⟩ := eq_stop_of_not_showsRate hstream hrate
        exact displayStep_of_stop hindex hstop h0
    · exact displayStep_receive hstream hindex (by rw [h1]; decide) h1
  · exact displayStep_transfer hstream hindex hscreen

/-! ### The amounts on the screens -/

theorem showRatePerMonth_congr (msg : EthQueryContractUI) (c : Context)
    {f : List UInt8 → ℕ → String → ℕ → Option String}
    (hf : ∀ call ∈ monthCall? c, f call.1 defaultDecimal call.2 msg.msgLength =
      sdk.amountToString? call.1 defaultDecimal call.2 msg.msgLength) :
    showRatePerMonth { sdk with amountToString? := f } msg c = showRatePerMonth sdk msg c := by
  unfold showRatePerMonth
  unfold monthCall? at hf
  cases hrate : ratePerMonth c with
  | none => rfl
  | some value =>
    rw [hrate] at hf
    have hcall :
        f (decimalToAmount value c).amount.toList defaultDecimal c.tickerSent msg.msgLength = _ :=
      hf _ rfl
    simp only [EthPluginSdk.amountToString, decimalToAmount] at hcall ⊢
    rw [hcall]

/-- No other call of `amountToString` has a part in the answer. -/
theorem handleQueryContractUi_congr {f : List UInt8 → ℕ → String → ℕ → Option String}
    (hf : ∀ call ∈ amountCall? sdk msg c, f call.1 defaultDecimal call.2 msg.msgLength =
      sdk.amountToString? call.1 defaultDecimal call.2 msg.msgLength) :
    handleQueryContractUi { sdk with amountToString? := f } msg c =
      handleQueryContractUi sdk msg c := by
  have hsame : getScreen { msg with title := "", msg := "", result := .ok } = getScreen msg := rfl
  rw [amountCall?] at hf
  rw [handleQueryContractUi, handleQueryContractUi]
  cases hsel : Selector.ofIndex? c.selectorIndex with
  | none => rfl
  | some sel =>
    rw [hsel] at hf
    cases hscreen : getScreen msg with
    | error => cases sel <;> rw [hsame, hscreen]
    | receive =>
      rw [hscreen] at hf
      rw [hsame, hscreen]
      cases sel with
      | callAgreement => rfl
      | batchCall => rfl
      | _ =>
        simp only [setReceiveUi, setUpgradeToEthReceivedUi, setValueUi, EthPluginSdk.amountToString]
        rw [hf _ rfl]
    | send =>
      rw [hscreen] at hf
      rw [hsame, hscreen]
      cases sel with
      | callAgreement =>
        dsimp only at hf ⊢
        by_cases hstop : (lookupTickerSent sdk c).methodId ≠ stopStream
        · rw [if_pos hstop] at hf
          have hshow := showRatePerMonth_congr
            { msg with title := strlcpy "" "From" msg.titleLength, msg := "", result := .ok } _ hf
          exact congrArg setResult ((if_pos hstop).trans (hshow.trans (if_pos hstop).symm))
        · exact congrArg setResult ((if_neg hstop).trans (if_neg hstop).symm)
      | batchCall => exact congrArg setResult (showRatePerMonth_congr _ _ hf)
      | _ =>
        simp only [setAmountUi, setUpgradeToEthSendUi, setValueUi, EthPluginSdk.amountToString]
        rw [hf _ rfl]

/-- The rate per month that is written is the one on the viewer's sending screen. -/
theorem monthCall?_lookupTickerSent (sdk : EthPluginSdk) (hrate : ShowsRate sel c)
    (h0 : msg.screenIndex = 0) :
    monthCall? (lookupTickerSent sdk c) = (c.viewer sel).amountOn msg := by
  rw [lookupTickerSent_eq, monthCall?_eq, viewer_of_rate hrate, Viewer.amountOn]
  simp only [h0, true_and]

/-- The other screens of a stream have no amount. -/
theorem amountOn_viewer_of_ne (hstream : sel.IsStream) (h0 : msg.screenIndex ≠ 0) :
    (c.viewer sel).amountOn msg = none := by
  by_cases hrate : ShowsRate sel c
  · rw [viewer_of_rate hrate, Viewer.amountOn, if_neg fun h => h0 h.1]
  · obtain ⟨rfl, hstop⟩ := eq_stop_of_not_showsRate hstream hrate
    rw [viewer_of_stop hstop]
    rfl

/-- What is given to `amountToString` is the amount on the viewer's screen. -/
theorem amountCall?_eq (sdk : EthPluginSdk) (hindex : c.selectorIndex = sel.index)
    (msg : EthQueryContractUI) : amountCall? sdk msg c = (c.viewer sel).amountOn msg := by
  rw [amountCall?, ofIndex?_of_eq hindex, getScreen]
  by_cases h0 : msg.screenIndex = 0
  · rw [if_pos h0]
    cases sel with
    | callAgreement =>
      dsimp only
      by_cases hstop : c.methodId = stopStream
      · rw [lookupTickerSent_eq, if_neg (not_not.mpr hstop), viewer_of_stop hstop]
        rfl
      · have hrate : ShowsRate .callAgreement c := Or.inr ⟨rfl, hstop⟩
        rw [← monthCall?_lookupTickerSent sdk hrate h0, lookupTickerSent_eq, if_pos hstop]
    | batchCall => exact monthCall?_lookupTickerSent sdk (Or.inl rfl) h0
    | _ => exact (if_pos h0).symm
  · rw [if_neg h0]
    by_cases h1 : msg.screenIndex = 1
    · rw [if_pos h1]
      cases sel with
      | callAgreement => exact (amountOn_viewer_of_ne Selector.isStream_callAgreement h0).symm
      | batchCall => exact (amountOn_viewer_of_ne Selector.isStream_batchCall h0).symm
      | _ => exact ((if_neg h0).trans (if_pos h1)).symm
    · rw [if_neg h1]
      cases sel with
      | callAgreement => exact (amountOn_viewer_of_ne Selector.isStream_callAgreement h0).symm
      | batchCall => exact (amountOn_viewer_of_ne Selector.isStream_batchCall h0).symm
      | _ => exact ((if_neg h0).trans (if_neg h1)).symm

theorem uiReturns_iff (hindex : c.selectorIndex = sel.index) :
    uiReturns sdk msg c ↔ (c.viewer sel).Returns sdk msg := by
  rw [uiReturns, amountCall?_eq sdk hindex, Viewer.Returns]

/-! ### Any order of queries -/

/-- A call of the display, or the end of the arguments. -/
def PluginCall.IsDisplay : PluginCall → Prop
  | .queryContractId _ | .queryContractUi _ | .finalize _ => True
  | _ => False

/-- The display is that of the viewer. -/
theorem viewer_simulation (sdk : EthPluginSdk) (sel : Selector) :
    Simulation PluginCall.IsDisplay
      (fun c v => c.selectorIndex = sel.index ∧ c.viewer sel = v) Query.ofCall? id
      (dispatchPluginCalls sdk) (Viewer.step sdk) := by
  constructor
  · rintro call hcall q hq c v ⟨hindex, rfl⟩
    cases call with
    | queryContractId msg =>
      obtain rfl := Option.some.inj hq
      exact congrArg PluginCall.queryContractId (handleQueryContractId_eq hindex msg)
    | queryContractUi msg =>
      obtain rfl := Option.some.inj hq
      exact (displayStep sdk hindex msg).answer
    | _ => cases hq
  · rintro call hcall q hq c v ⟨hindex, rfl⟩
    cases call with
    | queryContractId msg =>
      obtain rfl := Option.some.inj hq
      exact ⟨hindex, rfl⟩
    | queryContractUi msg =>
      obtain rfl := Option.some.inj hq
      have hstep := displayStep sdk hindex msg
      refine ⟨?_, hstep.next⟩
      obtain ⟨a, t, t', hwrites, -⟩ := hstep.writes
      exact (congrArg Context.selectorIndex hwrites).trans hindex
    | _ => cases hq
  · rintro call hcall hnone c v ⟨hindex, rfl⟩
    cases call with
    | finalize msg => exact ⟨hindex, rfl⟩
    | queryContractId msg => cases hnone
    | queryContractUi msg => cases hnone
    | _ => exact absurd hcall id

/-- What is asked of the display, in whatever order, between whatever ends of arguments, with any
buffers, values and screen indices, is answered as the viewer answers it. -/
def Context.DisplayedAs (c : Context) (sdk : EthPluginSdk) (v : Viewer) : Prop :=
  ∀ calls : List PluginCall, (∀ call ∈ calls, call.IsDisplay) →
    (trace (dispatchPluginCalls sdk) calls c).filterMap
        (fun p => (Query.ofCall? p.1).map fun q => (q, p.2)) =
      trace (Viewer.step sdk) (calls.filterMap Query.ofCall?) v

theorem Context.displayedAs_viewer (sdk : EthPluginSdk) (hindex : c.selectorIndex = sel.index) :
    c.DisplayedAs sdk (c.viewer sel) :=
  fun _ hcalls => (viewer_simulation sdk sel).trace_eq hcalls ⟨hindex, rfl⟩

end Ricochet
