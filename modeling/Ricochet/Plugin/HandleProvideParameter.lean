import Ricochet.Plugin.Contract

/-!
# `handle_provide_parameter.c`

The parser.  Every message carries one word of calldata.  `handleCallAgreement` and
`handleBatchCall` are state machines on `nextParam`; while `goToOffset` is set they drop every
message but the one at `offset`.  The inner call starts four bytes into a word, so its arguments
arrive in two pieces, one from each of two consecutive messages.

All offset arithmetic is that of `uint32_t`.
-/

namespace Ricochet

open CLib

/-- `handle_amount`. -/
def handleAmount (sdk : EthPluginSdk) (msg : EthPluginProvideParameter) (context : Context) :
    Context :=
  { context with amount := sdk.copyParameter context.amount msg.parameter int256Length }

/-- `handle_agreement_class`. -/
def handleAgreementClass (msg : EthPluginProvideParameter) (context : Context) : Context :=
  { context with
    contractAddressSent :=
      memcpy (memset context.contractAddressSent 0) 0
        msg.parameter (parameterLength - addressLength) addressLength }

/-- `handle_method_cfa`; `methodId` is kept when no method has the selector. -/
def handleMethodCfa (msg : EthPluginProvideParameter) (context : Context) : Context :=
  let context :=
    { context with
      methodCfa := memcpy (memset context.methodCfa 0) 0 msg.parameter 0 selectorSize }
  match cfaMethodCollection.find? fun m => compareArray m.method context.methodCfa = 0 with
  | some cfaMethod => { context with methodId := cfaMethod.methodId }
  | none => context

/-- The first sixteen bytes of an address, taken from the end of the parameter. -/
def addressFirstPart (dst : Address) (parameter : Buffer 32) : Address :=
  memcpy (memset dst 0) 0
    parameter (parameterLength - addressLength + selectorSize) (addressLength - selectorSize)

/-- The last four bytes of an address, taken from the start of the parameter. -/
def addressSecondPart (dst : Address) (parameter : Buffer 32) : Address :=
  memcpy dst (addressLength - selectorSize) parameter 0 selectorSize

/-- `handle_token_first_part`. -/
def handleTokenFirstPart (msg : EthPluginProvideParameter) (context : Context) : Context :=
  { context with tokenAddress := addressFirstPart context.tokenAddress msg.parameter }

/-- `handle_token_second_part`. -/
def handleTokenSecondPart (msg : EthPluginProvideParameter) (context : Context) : Context :=
  { context with tokenAddress := addressSecondPart context.tokenAddress msg.parameter }

/-- `handle_sent_address_first_part`. -/
def handleSentAddressFirstPart (msg : EthPluginProvideParameter) (context : Context) : Context :=
  { context with
    contractAddressSent := addressFirstPart context.contractAddressSent msg.parameter }

/-- `handle_sent_address_second_part`. -/
def handleSentAddressSecondPart (msg : EthPluginProvideParameter) (context : Context) : Context :=
  { context with
    contractAddressSent := addressSecondPart context.contractAddressSent msg.parameter }

/-- `handle_receive_address_first_part`. -/
def handleReceiveAddressFirstPart (msg : EthPluginProvideParameter) (context : Context) :
    Context :=
  { context with
    contractAddressReceived := addressFirstPart context.contractAddressReceived msg.parameter }

/-- `handle_receive_address_second_part`. -/
def handleReceiveAddressSecondPart (msg : EthPluginProvideParameter) (context : Context) :
    Context :=
  { context with
    contractAddressReceived := addressSecondPart context.contractAddressReceived msg.parameter }

/-- `handle_flow_rate_first_part`. -/
def handleFlowRateFirstPart (msg : EthPluginProvideParameter) (context : Context) : Context :=
  { context with
    amount :=
      memcpy (memset context.amount 0) 0
        msg.parameter selectorSize (int256Length - selectorSize) }

/-- `handle_flow_rate_second_part`. -/
def handleFlowRateSecondPart (msg : EthPluginProvideParameter) (context : Context) : Context :=
  { context with
    amount := memcpy context.amount (int256Length - selectorSize) msg.parameter 0 selectorSize }

/-- The `switch` of `handle_call_agreement`. -/
def callAgreementSwitch (sdk : EthPluginSdk) (msg : EthPluginProvideParameter)
    (context : Context) : EthPluginProvideParameter × Context :=
  match context.nextParam with
  | .agreementClass =>
    (msg, { handleAgreementClass msg context with nextParam := .pathOffset })
  | .pathOffset =>
    -- the offset is not followed: one word is skipped, and the next taken for the length
    (msg,
      { context with
        offset := (sdk.u2be msg.parameter (parameterLength - 4 + 2)).toUInt32
        nextParam := .pathLength
        skip := context.skip + 1 })
  | .pathLength =>
    (msg,
      { context with
        arrayLen := sdk.u2be msg.parameter (parameterLength - 2)
        offset := msg.parameterOffset - .ofNat selectorSize + .ofNat parameterLength
        nextParam := .callData })
  | .callData =>
    -- the arguments of the inner call, four bytes off the word boundaries
    if msg.parameterOffset = context.offset + .ofNat selectorSize then
      let context := handleTokenFirstPart msg (handleMethodCfa msg context)
      (msg, { context with nextParam := .callData })
    else if msg.parameterOffset =
        context.offset + .ofNat selectorSize + .ofNat parameterLength then
      let context := handleSentAddressFirstPart msg (handleTokenSecondPart msg context)
      (msg, { context with nextParam := .callData })
    else if msg.parameterOffset =
        context.offset + .ofNat selectorSize + .ofNat (2 * parameterLength) then
      let context := handleFlowRateFirstPart msg (handleSentAddressSecondPart msg context)
      let context :=
        if context.methodId = stopStream then handleReceiveAddressFirstPart msg context
        else context
      (msg, { context with nextParam := .callData })
    else if msg.parameterOffset =
        context.offset + .ofNat selectorSize + .ofNat (3 * parameterLength) then
      let context := handleFlowRateSecondPart msg context
      let context :=
        if context.methodId = stopStream then handleReceiveAddressSecondPart msg context
        else context
      (msg, { context with nextParam := .none })
    else (msg, { context with nextParam := .callData })
  | .none => (msg, context)
  | _ => ({ msg with result := .error }, context)

/-- `handle_call_agreement`. -/
def handleCallAgreement (sdk : EthPluginSdk) (msg : EthPluginProvideParameter)
    (context : Context) : EthPluginProvideParameter × Context :=
  if context.goToOffset = 1 then
    if msg.parameterOffset ≠ context.offset + .ofNat selectorSize then (msg, context)
    else callAgreementSwitch sdk msg { context with goToOffset := 0 }
  else callAgreementSwitch sdk msg context

/-- The `switch` of `handle_batch_call`. -/
def batchCallSwitch (sdk : EthPluginSdk) (msg : EthPluginProvideParameter) (context : Context) :
    EthPluginProvideParameter × Context :=
  match context.nextParam with
  | .pathOffset =>
    (msg,
      { context with
        offset := (sdk.u2be msg.parameter (parameterLength - 4 + 2)).toUInt32
        nextParam := .pathLength })
  | .pathLength =>
    -- the last entry of the table of offsets is as many words on as there are operations
    let arrayLen := sdk.u2be msg.parameter (parameterLength - 2)
    (msg,
      { context with
        arrayLen := arrayLen
        offset :=
          msg.parameterOffset - .ofNat selectorSize + .ofNat parameterLength * arrayLen.toUInt32
        goToOffset := 1
        nextParam := .contractPathOffset })
  | .contractPathOffset =>
    (msg,
      { context with
        offset :=
          (sdk.u2be msg.parameter (parameterLength - 4 + 2)).toUInt32 +
            .ofNat (parameterLength * 2)
        goToOffset := 1
        nextParam := .operationType })
  | .operationType => (msg, { context with nextParam := .target })
  | .target =>
    -- the five structural words between the target and the length of the call data are passed
    (msg,
      { context with
        nextParam := .bytesArrayLen
        offset := msg.parameterOffset - .ofNat selectorSize + .ofNat (5 * parameterLength)
        goToOffset := 1 })
  | .bytesArrayLen =>
    (msg,
      { context with
        arrayLen := sdk.u2be msg.parameter (parameterLength - 2)
        nextParam := .inputData
        offset := msg.parameterOffset - .ofNat selectorSize + .ofNat parameterLength })
  | .inputData =>
    if msg.parameterOffset = context.offset + .ofNat selectorSize then
      let context := handleSentAddressFirstPart msg (handleMethodCfa msg context)
      (msg, { context with nextParam := .inputData })
    else if msg.parameterOffset =
        context.offset + .ofNat selectorSize + .ofNat parameterLength then
      let context := handleReceiveAddressFirstPart msg (handleSentAddressSecondPart msg context)
      (msg, { context with nextParam := .inputData })
    else if msg.parameterOffset =
        context.offset + .ofNat selectorSize + .ofNat (2 * parameterLength) then
      let context := handleFlowRateFirstPart msg (handleReceiveAddressSecondPart msg context)
      (msg, { context with nextParam := .inputData })
    else if msg.parameterOffset =
        context.offset + .ofNat selectorSize + .ofNat (3 * parameterLength) then
      (msg, { handleFlowRateSecondPart msg context with nextParam := .none })
    else (msg, { context with nextParam := .inputData })
  | .none => (msg, context)
  | _ => ({ msg with result := .error }, context)

/-- `handle_batch_call`. -/
def handleBatchCall (sdk : EthPluginSdk) (msg : EthPluginProvideParameter) (context : Context) :
    EthPluginProvideParameter × Context :=
  if context.goToOffset = 1 then
    if msg.parameterOffset ≠ context.offset + .ofNat selectorSize then (msg, context)
    else batchCallSwitch sdk msg { context with goToOffset := 0 }
  else batchCallSwitch sdk msg context

/-- `handle_provide_parameter`. -/
def handleProvideParameter (sdk : EthPluginSdk) (msg : EthPluginProvideParameter)
    (context : Context) : EthPluginProvideParameter × Context :=
  let msg := { msg with result := .ok }
  -- a word to skip is not looked at
  if context.skip ≠ 0 then (msg, { context with skip := context.skip - 1 })
  else
    match Selector.ofIndex? context.selectorIndex with
    | some .downgrade | some .downgradeToEth | some .upgrade =>
      (msg, handleAmount sdk msg context)
    | some .callAgreement => handleCallAgreement sdk msg context
    | some .batchCall => handleBatchCall sdk msg context
    | _ => ({ msg with result := .error }, context)

end Ricochet
