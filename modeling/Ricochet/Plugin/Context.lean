import Ricochet.Plugin.Sdk

/-!
# The plugin's header (`ricochet_plugin.h`)

The constants of the parser and the context the Ethereum application keeps for the plugin between
two messages.  `checkpoint`, `tokens_found` and `decimals_received` are read and written by no
handler and are left out.
-/

namespace Ricochet

open CLib

/-- `SELECTOR_SIZE`. -/
abbrev selectorSize : ℕ := 4

/-- `PARAMETER_LENGTH`. -/
abbrev parameterLength : ℕ := 32

/-- `ADDRESS_LENGTH`. -/
abbrev addressLength : ℕ := 20

/-- `INT256_LENGTH`. -/
abbrev int256Length : ℕ := 32

/-- `DEFAULT_DECIMAL`, the SDK's `WEI_TO_ETHER`. -/
abbrev defaultDecimal : ℕ := 18

/-- `PLUGIN_NAME`. -/
def pluginName : String := "Ricochet"

/-- `selector_t`, in the order of its values. -/
inductive Selector
  | downgrade
  | downgradeToEth
  | callAgreement
  | upgrade
  | upgradeToEth
  | batchCall
  deriving DecidableEq, Repr

namespace Selector

/-- The enumerators by value. -/
def all : List Selector :=
  [downgrade, downgradeToEth, callAgreement, upgrade, upgradeToEth, batchCall]

/-- The value of an enumerator, as the `uint8_t selectorIndex` stores it. -/
def index : Selector → UInt8
  | downgrade => 0
  | downgradeToEth => 1
  | callAgreement => 2
  | upgrade => 3
  | upgradeToEth => 4
  | batchCall => 5

/-- The enumerator a `switch (selectorIndex)` takes, `none` for its `default` branch. -/
def ofIndex? (i : UInt8) : Option Selector := all[i.toNat]?

@[simp]
theorem ofIndex?_index (s : Selector) : ofIndex? s.index = some s := by
  cases s <;> rfl

theorem index_injective : Function.Injective index := by
  intro s t h
  have := congrArg ofIndex? h
  rwa [ofIndex?_index, ofIndex?_index, Option.some.injEq] at this

end Selector

/-- The field expected next by the parser, the values of `next_param`. -/
inductive Param
  | amount
  | none
  | agreementClass
  | pathOffset
  | userData
  | pathLength
  | callData
  | contractPathOffset
  | operationType
  | target
  | bytesArrayLen
  | inputData
  deriving DecidableEq, Repr

/-- `START_STREAM`. -/
def startStream : UInt8 := 0

/-- `UPDATE_STREAM`. -/
def updateStream : UInt8 := 1

/-- `STOP_STREAM`. -/
def stopStream : UInt8 := 2

/-- `screens_t`. -/
inductive Screen
  | send
  | receive
  | error
  deriving DecidableEq, Repr

/-- `context_t`. -/
structure Context where
  amount : Buffer 32
  contractAddressSent : Address
  contractAddressReceived : Address
  tokenAddress : Address
  tickerSent : String
  tickerReceived : String
  methodCfa : Buffer 4
  methodId : UInt8
  offset : UInt32
  goToOffset : UInt16
  nextParam : Param
  valid : UInt8
  decimals : UInt8
  selectorIndex : UInt8
  arrayLen : UInt16
  skip : UInt8
  deriving DecidableEq

/-- `memset(context, 0, sizeof(*context))`. -/
def Context.zero : Context where
  amount := zeros 32
  contractAddressSent := zeros 20
  contractAddressReceived := zeros 20
  tokenAddress := zeros 20
  tickerSent := ""
  tickerReceived := ""
  methodCfa := zeros 4
  methodId := 0
  offset := 0
  goToOffset := 0
  nextParam := .amount
  valid := 0
  decimals := 0
  selectorIndex := 0
  arrayLen := 0
  skip := 0

end Ricochet
