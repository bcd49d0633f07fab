import Ricochet.Plugin.Contract

/-!
# `handle_finalize.c`
-/

namespace Ricochet

/-- `handle_sent_address_lookup`. -/
def handleSentAddressLookup (msg : EthPluginFinalize) (context : Context) : EthPluginFinalize :=
  if context.contractAddressSent ≠ ricochetEthAddress then
    { msg with tokenLookup1 := some context.contractAddressSent }
  else { msg with tokenLookup1 := none }

/-- `handle_receive_address_lookup`. -/
def handleReceiveAddressLookup (msg : EthPluginFinalize) (context : Context) :
    EthPluginFinalize :=
  if context.contractAddressReceived ≠ ricochetEthAddress then
    { msg with tokenLookup2 := some context.contractAddressReceived }
  else { msg with tokenLookup2 := none }

/-- `handle_finalize`; the context is only read. -/
def handleFinalize (msg : EthPluginFinalize) (context : Context) : EthPluginFinalize :=
  if context.valid ≠ 0 then
    let msg := { msg with numScreens := 2 }
    match Selector.ofIndex? context.selectorIndex with
    | some .downgrade | some .downgradeToEth =>
      { handleReceiveAddressLookup msg context with uiType := some .generic, result := .ok }
    | some .upgrade | some .upgradeToEth | some .callAgreement =>
      { handleSentAddressLookup msg context with uiType := some .generic, result := .ok }
    | some .batchCall =>
      { handleReceiveAddressLookup (handleSentAddressLookup msg context) context with
        uiType := some .generic, result := .ok }
    | none => { msg with result := .error }
  else { msg with result := .fallback }

end Ricochet
