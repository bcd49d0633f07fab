import Ricochet.Plugin.Contract

/-!
# `handle_query_contract_ui.c`

Both stream screens look the receiver up again and write the ticker into the context; the sending
screen also replaces the rate per second kept in the context by the rate per month it shows.

The handler calls `amountToString` at most once, after everything it writes to the context
(`amountCall?`), and does not return where that throws (`uiReturns`).
-/

namespace Ricochet

open CLib

/-- The loop of `amountToDecimal` over the remaining bytes: stop before a product that would not
fit in 64 bits. -/
def amountToDecimalLoop : List UInt8 → UInt64 → Option UInt64
  | [], value => some value
  | b :: bytes, value =>
    if value > .ofNat ((2 ^ 64 - 1) / 256) then none
    else amountToDecimalLoop bytes (value * 256 + b.toUInt64)

/-- `amountToDecimal`, `none` for its return value `-1`. -/
def amountToDecimal (context : Context) (size : ℕ) : Option UInt64 :=
  amountToDecimalLoop (context.amount.toList.take size) 0

/-- The do-while loop of `decimalToAmount`, entered with `i` bytes already written. -/
def decimalToAmountLoop (value : UInt64) (amount : Buffer 32) (i : ℕ) : Buffer 32 :=
  let rem := (value % 256).toUInt8
  let value' := value / 256
  let amount := amount.setIfInBounds (int256Length - i - 1) rem
  if value' ≠ 0 then decimalToAmountLoop value' amount (i + 1) else amount
termination_by value.toNat
decreasing_by
  -- another turn means that something is left of the value
  rename_i h
  have hdiv : (value / 256).toNat = value.toNat / 256 := by simp
  have hne : (value / 256).toNat ≠ 0 := fun h0 => h (UInt64.toNat_inj.mp h0)
  omega

/-- `decimalToAmount`. -/
def decimalToAmount (value : UInt64) (context : Context) : Context :=
  { context with amount := decimalToAmountLoop value (memset context.amount 0) 0 }

/-- `__builtin_umulll_overflow`, `none` on overflow. -/
def umulllOverflow (a b : UInt64) : Option UInt64 :=
  if a.toNat * b.toNat < 2 ^ 64 then some (a * b) else none

/-- `set_amount_ui`. -/
def setAmountUi (sdk : EthPluginSdk) (msg : EthQueryContractUI) (context : Context) :
    EthQueryContractUI :=
  { msg with
    title := strlcpy msg.title "Send" msg.titleLength
    msg := sdk.amountToString context.amount.toList defaultDecimal context.tickerSent
      msg.msgLength }

/-- The lookup loop of the sending screens. -/
def lookupTickerSent (sdk : EthPluginSdk) (context : Context) : Context :=
  match contractAddressCollection.find? fun c =>
      compareArray c.contractAddress context.contractAddressReceived = 0 with
  | some currentTicker =>
    { context with
      tickerSent := strlcpy context.tickerSent currentTicker.tickerSent sdk.maxTickerLen }
  | none => context

/-- The lookup loop of the receiving screens. -/
def lookupTickerReceived (sdk : EthPluginSdk) (context : Context) : Context :=
  match contractAddressCollection.find? fun c =>
      compareArray c.contractAddress context.contractAddressReceived = 0 with
  | some currentTicker =>
    { context with
      tickerReceived :=
        strlcpy context.tickerReceived currentTicker.tickerReceived sdk.maxTickerLen }
  | none => context

/-- The factor from a rate per second to a rate per month, a month being thirty days. -/
def secondsPerMonth : UInt64 := 2592000

/-- The rate per month, `none` when either conversion does not fit in 64 bits. -/
def ratePerMonth (context : Context) : Option UInt64 := do
  let value ← amountToDecimal context int256Length
  umulllOverflow value secondsPerMonth

/-- The part of the sending screens that turns the rate per second into a rate per month and shows
it, or returns `-1`. -/
def showRatePerMonth (sdk : EthPluginSdk) (msg : EthQueryContractUI) (context : Context) :
    ℤ × EthQueryContractUI × Context :=
  match ratePerMonth context with
  | none => (-1, msg, context)
  | some value =>
    let context := decimalToAmount value context
    let text := sdk.amountToString context.amount.toList defaultDecimal context.tickerSent
      msg.msgLength
    (0, { msg with msg := strlcat text " per month" msg.msgLength }, context)

/-- `set_cfa_from_ui`. -/
def setCfaFromUi (sdk : EthPluginSdk) (msg : EthQueryContractUI) (context : Context) :
    ℤ × EthQueryContractUI × Context :=
  let msg := { msg with title := strlcpy msg.title "From" msg.titleLength }
  -- the lookup is keyed on a field that only a stopped stream fills
  let context := lookupTickerSent sdk context
  if context.methodId ≠ stopStream then showRatePerMonth sdk msg context
  else (0, { msg with msg := strlcpy msg.msg context.tickerSent msg.msgLength }, context)

/-- The receiving screen of a stream. -/
def setReceiverUi (sdk : EthPluginSdk) (msg : EthQueryContractUI) (context : Context) :
    EthQueryContractUI × Context :=
  let msg := { msg with title := strlcpy msg.title "To" msg.titleLength }
  let context := lookupTickerReceived sdk context
  ({ msg with msg := strlcpy msg.msg context.tickerReceived msg.msgLength }, context)

/-- `set_cfa_to_ui`. -/
def setCfaToUi (sdk : EthPluginSdk) (msg : EthQueryContractUI) (context : Context) :
    EthQueryContractUI × Context :=
  setReceiverUi sdk msg context

/-- `set_batch_call_from_ui`: the rate is converted whatever the method. -/
def setBatchCallFromUi (sdk : EthPluginSdk) (msg : EthQueryContractUI) (context : Context) :
    ℤ × EthQueryContractUI × Context :=
  let msg := { msg with title := strlcpy msg.title "From" msg.titleLength }
  showRatePerMonth sdk msg (lookupTickerSent sdk context)

/-- `set_batch_call_to_ui`. -/
def setBatchCallToUi (sdk : EthPluginSdk) (msg : EthQueryContractUI) (context : Context) :
    EthQueryContractUI × Context :=
  setReceiverUi sdk msg context

/-- A screen that shows the value sent along with the transaction. -/
def setValueUi (sdk : EthPluginSdk) (title ticker : String) (msg : EthQueryContractUI) :
    EthQueryContractUI :=
  { msg with
    title := strlcpy msg.title title msg.titleLength
    msg := sdk.amountToString (msg.txContent.value.toList.take msg.txContent.valueLength.toNat)
      defaultDecimal ticker msg.msgLength }

/-- `set_upgrade_to_eth_send_ui`. -/
def setUpgradeToEthSendUi (sdk : EthPluginSdk) (msg : EthQueryContractUI) (context : Context) :
    EthQueryContractUI :=
  setValueUi sdk "Send" context.tickerSent msg

/-- `set_upgrade_to_eth_received_ui`. -/
def setUpgradeToEthReceivedUi (sdk : EthPluginSdk) (msg : EthQueryContractUI)
    (context : Context) : EthQueryContractUI :=
  setValueUi sdk "Receive" context.tickerReceived msg

/-- `set_receive_ui`. -/
def setReceiveUi (sdk : EthPluginSdk) (msg : EthQueryContractUI) (context : Context) :
    EthQueryContractUI :=
  { msg with
    title := strlcpy msg.title "Receive" msg.titleLength
    msg := sdk.amountToString context.amount.toList defaultDecimal context.tickerReceived
      msg.msgLength }

/-- `get_screen`. -/
def getScreen (msg : EthQueryContractUI) : Screen :=
  if msg.screenIndex = 0 then .send else if msg.screenIndex = 1 then .receive else .error

/-- The result a sending screen of a stream leaves in the message. -/
def setResult (r : ℤ × EthQueryContractUI × Context) : EthQueryContractUI × Context :=
  if r.1 ≠ 0 then ({ r.2.1 with result := .error }, r.2.2) else r.2

/-- `handle_query_contract_ui`, where it returns.  The two text buffers are zeroed first; one of no
bytes is read as empty. -/
def handleQueryContractUi (sdk : EthPluginSdk) (msg : EthQueryContractUI) (context : Context) :
    EthQueryContractUI × Context :=
  let msg := { msg with title := "", msg := "", result := .ok }
  let screen := getScreen msg
  match Selector.ofIndex? context.selectorIndex with
  | some .downgrade | some .downgradeToEth | some .upgrade =>
    match screen with
    | .send => (setAmountUi sdk msg context, context)
    | .receive => (setReceiveUi sdk msg context, context)
    | .error => ({ msg with result := .error }, context)
  | some .callAgreement =>
    match screen with
    | .send => setResult (setCfaFromUi sdk msg context)
    | .receive => setCfaToUi sdk msg context
    | .error => ({ msg with result := .error }, context)
  | some .upgradeToEth =>
    match screen with
    | .send => (setUpgradeToEthSendUi sdk msg context, context)
    | .receive => (setUpgradeToEthReceivedUi sdk msg context, context)
    | .error => ({ msg with result := .error }, context)
  | some .batchCall =>
    match screen with
    | .send => setResult (setBatchCallFromUi sdk msg context)
    | .receive => setBatchCallToUi sdk msg context
    -- unlike above, an index out of range is answered with `OK`
    | .error => (msg, context)
  | none => ({ msg with result := .error }, context)

/-- The call of `amountToString` in `showRatePerMonth`: the amount and the ticker. -/
def monthCall? (context : Context) : Option (List UInt8 × String) :=
  (ratePerMonth context).map fun value =>
    ((decimalToAmount value context).amount.toList, context.tickerSent)

/-- The call of `amountToString` in `handle_query_contract_ui`, if it comes to one: the amount and
the ticker.  The decimals are always `DEFAULT_DECIMAL`, and the buffer is the message's. -/
def amountCall? (sdk : EthPluginSdk) (msg : EthQueryContractUI) (context : Context) :
    Option (List UInt8 × String) :=
  let value := msg.txContent.value.toList.take msg.txContent.valueLength.toNat
  match Selector.ofIndex? context.selectorIndex, getScreen msg with
  | some .downgrade, .send | some .downgradeToEth, .send | some .upgrade, .send =>
    some (context.amount.toList, context.tickerSent)
  | some .downgrade, .receive | some .downgradeToEth, .receive | some .upgrade, .receive =>
    some (context.amount.toList, context.tickerReceived)
  | some .upgradeToEth, .send => some (value, context.tickerSent)
  | some .upgradeToEth, .receive => some (value, context.tickerReceived)
  | some .callAgreement, .send =>
    let context := lookupTickerSent sdk context
    if context.methodId ≠ stopStream then monthCall? context else none
  | some .batchCall, .send => monthCall? (lookupTickerSent sdk context)
  | _, _ => none

/-- A call of `amountToString`, if any, returns. -/
def amountReturns (sdk : EthPluginSdk) (size : ℕ) (call : Option (List UInt8 × String)) : Bool :=
  call.all fun call => (sdk.amountToString? call.1 defaultDecimal call.2 size).isSome

/-- Whether `handle_query_contract_ui` returns. -/
def uiReturns (sdk : EthPluginSdk) (msg : EthQueryContractUI) (context : Context) : Bool :=
  amountReturns sdk msg.msgLength (amountCall? sdk msg context)

end Ricochet
