import Ricochet.Equiv.Amount
import Ricochet.Equiv.Contract
import Ricochet.Plugin.HandleProvideToken
import Ricochet.Plugin.HandleQueryContractId

/-!
# The screens of a stream

Tickers are looked up at three places, with different keys; each lookup is `lookupContract`
(`lookupTickerSent_eq`, `lookupTickerReceived_eq`, `handleCfaTokens_eq`).  Of whatever context,
`screen0_eq_of_stop`, `screen0_eq_of_rate` and `screen1_eq` say what the two screens show and what
they leave in the context, by the tickers their own lookups end with (`Context.sentTicker`,
`Context.receivedTicker`).  `ShowsReceiver sel r c` says that these are the tickers of receiver `r`,
from the table or from what the context holds.
-/

namespace Ricochet

open CLib KeyedTable

variable {sdk : EthPluginSdk}

/-! ### Tickers -/

/-- The ticker of the token sent to a receiver, empty when it is no exchange contract. -/
def tickerSentOf (r : Address) : String := (lookupContract r).elim "" (·.tickerSent)

/-- The ticker of the token received from it. -/
def tickerReceivedOf (r : Address) : String := (lookupContract r).elim "" (·.tickerReceived)

/-- The ticker that the sending screen of a stream ends with. -/
def Context.sentTicker (c : Context) : String :=
  (lookupContract c.contractAddressReceived).elim c.tickerSent (·.tickerSent)

/-- The ticker that the receiving screen ends with. -/
def Context.receivedTicker (c : Context) : String :=
  (lookupContract c.contractAddressReceived).elim c.tickerReceived (·.tickerReceived)

theorem strlcpy_ticker {dst src : String} (h : src.length < 8) :
    strlcpy dst src sdk.maxTickerLen = src :=
  strlcpy_of_length_lt (h.trans_le sdk.eight_le_maxTickerLen)

theorem find?_contract_eq (a : Address) :
    (contractAddressCollection.find? fun c => compareArray c.contractAddress a = 0) =
      lookupContract a := by
  simp only [compareArray_eq_zero]
  rfl

theorem lookupTickerSent_eq (c : Context) :
    lookupTickerSent sdk c = { c with tickerSent := c.sentTicker } := by
  rw [lookupTickerSent, find?_contract_eq, Context.sentTicker]
  cases h : lookupContract c.contractAddressReceived with
  | none => rfl
  | some e =>
    have hmem := (lookupContract_eq_some_iff.mp h).1
    simp only [Option.elim_some, strlcpy_ticker (length_ticker_lt_of_mem hmem).1]

theorem lookupTickerReceived_eq (c : Context) :
    lookupTickerReceived sdk c = { c with tickerReceived := c.receivedTicker } := by
  rw [lookupTickerReceived, find?_contract_eq, Context.receivedTicker]
  cases h : lookupContract c.contractAddressReceived with
  | none => rfl
  | some e =>
    have hmem := (lookupContract_eq_some_iff.mp h).1
    simp only [Option.elim_some, strlcpy_ticker (length_ticker_lt_of_mem hmem).2]

/-- The receiver of a `callAgreement` stream, which depends on the method. -/
def callAgreementReceiver (c : Context) : Address :=
  if c.methodId = stopStream then c.contractAddressReceived else c.contractAddressSent

theorem handleCfaTokens_eq (c : Context)
    (hid : c.methodId = startStream ∨ c.methodId = updateStream ∨ c.methodId = stopStream) :
    handleCfaTokens sdk c =
      { c with
        tickerSent := (lookupContract (callAgreementReceiver c)).elim c.tickerSent (·.tickerSent)
        tickerReceived :=
          (lookupContract (callAgreementReceiver c)).elim c.tickerReceived
            (·.tickerReceived) } := by
  have hfind : (contractAddressCollection.find? fun e =>
      (e.contractAddress = c.contractAddressReceived ∧ c.methodId = stopStream) ∨
      (e.contractAddress = c.contractAddressSent ∧
        (c.methodId = updateStream ∨ c.methodId = startStream))) =
      lookupContract (callAgreementReceiver c) := by
    rw [callAgreementReceiver, lookupContract, lookup]
    -- for each method one of the two conditions of the loop is false
    rcases hid with hid | hid | hid <;>
      simp [hid, startStream, updateStream, stopStream]
  rw [handleCfaTokens, hfind]
  cases h : lookupContract (callAgreementReceiver c) with
  | none => rfl
  | some e =>
    have hmem := (lookupContract_eq_some_iff.mp h).1
    simp only [Option.elim_some, strlcpy_ticker (length_ticker_lt_of_mem hmem).1,
      strlcpy_ticker (length_ticker_lt_of_mem hmem).2]

/-! ### The name of the method -/

theorem handleInitCfaScreen_eq (msg : EthQueryContractID) (c : Context) :
    handleInitCfaScreen msg c =
      { msg with
        version := (lookupMethod c.methodCfa).elim msg.version
          fun m => strlcpy msg.version m.methodName msg.versionLength } := by
  have hfind : (cfaMethodCollection.find? fun m => compareArray m.method c.methodCfa = 0) =
      lookupMethod c.methodCfa := by
    simp only [compareArray_eq_zero]
    rfl
  rw [handleInitCfaScreen, hfind]
  cases lookupMethod c.methodCfa <;> rfl

/-! ### Screens -/

variable {sel : Selector} {r : Address} {c : Context} {msg : EthQueryContractUI}

/-- The sending screen shows a rate. -/
def ShowsRate (sel : Selector) (c : Context) : Prop :=
  sel = .batchCall ∨ sel = .callAgreement ∧ c.methodId ≠ stopStream

theorem ShowsRate.isStream (h : ShowsRate sel c) : sel.IsStream := by
  rcases h with rfl | ⟨rfl, -⟩
  · exact Selector.isStream_batchCall
  · exact Selector.isStream_callAgreement

/-- Without a rate to show the stream is a stopped one. -/
theorem eq_stop_of_not_showsRate (hstream : sel.IsStream) (hrate : ¬ ShowsRate sel c) :
    sel = .callAgreement ∧ c.methodId = stopStream := by
  obtain ⟨hbatch, hstop⟩ := not_or.mp hrate
  obtain rfl := hstream.resolve_right hbatch
  exact ⟨rfl, by_contra fun hne => hstop ⟨rfl, hne⟩⟩

theorem ofIndex?_of_eq (hindex : c.selectorIndex = sel.index) :
    Selector.ofIndex? c.selectorIndex = some sel := by
  rw [hindex, Selector.ofIndex?_index]

theorem getScreen_send (hscreen : msg.screenIndex = 0) :
    getScreen { msg with title := "", msg := "", result := .ok } = .send := by
  rw [getScreen, if_pos hscreen]

theorem getScreen_receive (hscreen : msg.screenIndex = 1) :
    getScreen { msg with title := "", msg := "", result := .ok } = .receive := by
  rw [getScreen, if_neg (by rw [hscreen]; decide), if_pos hscreen]

theorem getScreen_error (h0 : msg.screenIndex ≠ 0) (h1 : msg.screenIndex ≠ 1) :
    getScreen { msg with title := "", msg := "", result := .ok } = .error := by
  rw [getScreen, if_neg h0, if_neg h1]

variable (sdk c) in
/-- A screen that does not exist changes nothing, for whatever selector index. -/
theorem handleQueryContractUi_outOfRange (h0 : msg.screenIndex ≠ 0) (h1 : msg.screenIndex ≠ 1) :
    (handleQueryContractUi sdk msg c).2 = c := by
  rw [handleQueryContractUi, getScreen_error h0 h1]
  dsimp only
  split <;> rfl

/-- The sending screen of a stopped stream. -/
theorem screen0_eq_of_stop (hindex : c.selectorIndex = Selector.callAgreement.index)
    (hstop : c.methodId = stopStream) (hscreen : msg.screenIndex = 0) :
    handleQueryContractUi sdk msg c =
      ({ msg with
          title := strlcpy "" "From" msg.titleLength
          msg := strlcpy "" c.sentTicker msg.msgLength
          result := .ok },
        { c with tickerSent := c.sentTicker }) := by
  rw [handleQueryContractUi, ofIndex?_of_eq hindex, getScreen_send hscreen]
  dsimp only
  rw [setCfaFromUi]
  dsimp only
  rw [lookupTickerSent_eq, if_neg (not_not.mpr hstop)]
  rfl

/-- The sending screen of a stream that is shown with its rate: the rate per month if it fits in 64
bits, and otherwise an error that changes the ticker at most. -/
theorem screen0_eq_of_rate (hindex : c.selectorIndex = sel.index) (hrate : ShowsRate sel c)
    (hscreen : msg.screenIndex = 0) :
    handleQueryContractUi sdk msg c =
      if beNat c.amount.toList * 2592000 < 2 ^ 64 then
        ({ msg with
            title := strlcpy "" "From" msg.titleLength
            msg := strlcat (sdk.amountToString (beBytes 32 (beNat c.amount.toList * 2592000)).toList
              defaultDecimal c.sentTicker msg.msgLength) " per month" msg.msgLength
            result := .ok },
          { c with
            tickerSent := c.sentTicker
            amount := beBytes 32 (beNat c.amount.toList * 2592000) })
      else
        ({ msg with
            title := strlcpy "" "From" msg.titleLength
            msg := ""
            result := .error },
          { c with tickerSent := c.sentTicker }) := by
  rw [handleQueryContractUi, ofIndex?_of_eq hindex, getScreen_send hscreen]
  rcases hrate with rfl | ⟨rfl, hid⟩
  · dsimp only
    rw [setBatchCallFromUi, lookupTickerSent_eq, showRatePerMonth_eq]
    split_ifs <;> rfl
  · dsimp only
    rw [setCfaFromUi]
    dsimp only
    rw [lookupTickerSent_eq, if_pos hid, showRatePerMonth_eq]
    split_ifs <;> rfl

/-- The receiving screen. -/
theorem screen1_eq (hstream : sel.IsStream) (hindex : c.selectorIndex = sel.index)
    (hscreen : msg.screenIndex = 1) :
    handleQueryContractUi sdk msg c =
      ({ msg with
          title := strlcpy "" "To" msg.titleLength
          msg := strlcpy "" c.receivedTicker msg.msgLength
          result := .ok },
        { c with tickerReceived := c.receivedTicker }) := by
  rw [handleQueryContractUi, ofIndex?_of_eq hindex, getScreen_receive hscreen]
  rcases hstream with rfl | rfl
  · dsimp only
    rw [setCfaToUi, setReceiverUi, lookupTickerReceived_eq]
  · dsimp only
    rw [setBatchCallToUi, setReceiverUi, lookupTickerReceived_eq]

/-! ### A receiver that is shown -/

/-- A stream context whose screens show the tickers of `r`. -/
structure ShowsReceiver (sel : Selector) (r : Address) (c : Context) : Prop where
  selectorIndex : c.selectorIndex = sel.index
  tickerSent : c.sentTicker = tickerSentOf r
  tickerReceived : c.receivedTicker = tickerReceivedOf r

theorem ShowsReceiver.ofIndex? (h : ShowsReceiver sel r c) :
    Selector.ofIndex? c.selectorIndex = some sel :=
  ofIndex?_of_eq h.selectorIndex

/-- Both screens leave a context that shows the same receiver. -/
theorem ShowsReceiver.withTickerSent (h : ShowsReceiver sel r c) (amount : Buffer 32) :
    ShowsReceiver sel r { c with tickerSent := tickerSentOf r, amount := amount } := by
  refine ⟨h.selectorIndex, ?_, h.tickerReceived⟩
  have hsent := h.tickerSent
  rw [Context.sentTicker] at hsent ⊢
  revert hsent
  cases lookupContract c.contractAddressReceived with
  | none => exact fun _ => rfl
  | some e => exact id

theorem ShowsReceiver.withTickerReceived (h : ShowsReceiver sel r c) :
    ShowsReceiver sel r { c with tickerReceived := tickerReceivedOf r } := by
  refine ⟨h.selectorIndex, h.tickerSent, ?_⟩
  have hreceived := h.tickerReceived
  rw [Context.receivedTicker] at hreceived ⊢
  revert hreceived
  cases lookupContract c.contractAddressReceived with
  | none => exact fun _ => rfl
  | some e => exact id

/-- The sending screen of a stopped stream. -/
theorem screen0_of_stop (h : ShowsReceiver .callAgreement r c) (hstop : c.methodId = stopStream)
    (hindex : msg.screenIndex = 0) :
    handleQueryContractUi sdk msg c =
      ({ msg with
          title := strlcpy "" "From" msg.titleLength
          msg := strlcpy "" (tickerSentOf r) msg.msgLength
          result := .ok },
        { c with tickerSent := tickerSentOf r }) := by
  rw [screen0_eq_of_stop h.selectorIndex hstop hindex, h.tickerSent]

/-- The sending screen of a stream that is shown with its rate. -/
theorem screen0_of_rate (h : ShowsReceiver sel r c) (hrate : ShowsRate sel c)
    (hindex : msg.screenIndex = 0) :
    handleQueryContractUi sdk msg c =
      if beNat c.amount.toList * 2592000 < 2 ^ 64 then
        ({ msg with
            title := strlcpy "" "From" msg.titleLength
            msg := strlcat (sdk.amountToString (beBytes 32 (beNat c.amount.toList * 2592000)).toList
              defaultDecimal (tickerSentOf r) msg.msgLength) " per month" msg.msgLength
            result := .ok },
          { c with
            tickerSent := tickerSentOf r
            amount := beBytes 32 (beNat c.amount.toList * 2592000) })
      else
        ({ msg with
            title := strlcpy "" "From" msg.titleLength
            msg := ""
            result := .error },
          { c with tickerSent := tickerSentOf r }) := by
  rw [screen0_eq_of_rate h.selectorIndex hrate hindex, h.tickerSent]

/-- The receiving screen of a stream. -/
theorem screen1_of_receiver (h : ShowsReceiver sel r c) (hstream : sel.IsStream)
    (hindex : msg.screenIndex = 1) :
    handleQueryContractUi sdk msg c =
      ({ msg with
          title := strlcpy "" "To" msg.titleLength
          msg := strlcpy "" (tickerReceivedOf r) msg.msgLength
          result := .ok },
        { c with tickerReceived := tickerReceivedOf r }) := by
  rw [screen1_eq hstream h.selectorIndex hindex, h.tickerReceived]

end Ricochet
