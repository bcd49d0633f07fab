import Ricochet.Plugin.Contract

/-!
# `handle_init_contract.c`
-/

namespace Ricochet

open CLib

/-- `handle_amount_value`. -/
def handleAmountValue (sdk : EthPluginSdk) (msg : EthPluginInitContract) (context : Context) :
    Context :=
  { context with amount := sdk.copyParameter context.amount msg.txContent.value int256Length }

/-- `handle_init_contract`: the context is cleared before the selector is looked up, so it is left
cleared and valid when the selector is unknown. -/
def handleInitContract (sdk : EthPluginSdk) (msg : EthPluginInitContract) (context : Context) :
    EthPluginInitContract × Context :=
  if msg.interfaceVersion ≠ sdk.interfaceVersionLatest then
    ({ msg with result := .unavailable }, context)
  else if msg.pluginContextLength < sdk.sizeofContext then
    ({ msg with result := .error }, context)
  else
    let context := { Context.zero with valid := 1 }
    match ricochetSelectors.findIdx? fun selector => selector = msg.selector with
    | none => ({ msg with result := .unavailable }, context)
    | some i =>
      let context := { context with selectorIndex := UInt8.ofNat i }
      match Selector.ofIndex? context.selectorIndex with
      | some .downgrade | some .upgrade | some .downgradeToEth =>
        ({ msg with result := .ok }, { context with nextParam := .amount })
      | some .upgradeToEth =>
        ({ msg with result := .ok },
          { handleAmountValue sdk msg context with nextParam := .none })
      | some .callAgreement =>
        ({ msg with result := .ok }, { context with nextParam := .agreementClass })
      | some .batchCall =>
        ({ msg with result := .ok }, { context with nextParam := .pathOffset })
      | none => ({ msg with result := .error }, context)

end Ricochet
