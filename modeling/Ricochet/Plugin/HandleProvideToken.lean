import Ricochet.Plugin.Contract

/-!
# `handle_provide_token.c`
-/

namespace Ricochet

open CLib

/-- `handle_downgrade_tokens`. -/
def handleDowngradeTokens (sdk : EthPluginSdk) (context : Context) : Context :=
  match superTokenCollection.find? fun t =>
      t.superTokenAddress = context.contractAddressReceived with
  | some currentToken =>
    { context with
      tickerSent := strlcpy context.tickerSent currentToken.tickerSuperToken sdk.maxTickerLen
      tickerReceived := strlcpy context.tickerReceived currentToken.tickerToken sdk.maxTickerLen }
  | none => context

/-- `handle_upgrade_tokens`. -/
def handleUpgradeTokens (sdk : EthPluginSdk) (context : Context) : Context :=
  match superTokenCollection.find? fun t =>
      t.superTokenAddress = context.contractAddressReceived with
  | some currentToken =>
    { context with
      tickerSent := strlcpy context.tickerSent currentToken.tickerToken sdk.maxTickerLen
      tickerReceived :=
        strlcpy context.tickerReceived currentToken.tickerSuperToken sdk.maxTickerLen }
  | none => context

/-- `handle_cfa_tokens`: the receiver is `contract_address_received` for a stopped stream and
`contract_address_sent` for a started or updated one. -/
def handleCfaTokens (sdk : EthPluginSdk) (context : Context) : Context :=
  match contractAddressCollection.find? fun c =>
      (c.contractAddress = context.contractAddressReceived ∧ context.methodId = stopStream) ∨
      (c.contractAddress = context.contractAddressSent ∧
        (context.methodId = updateStream ∨ context.methodId = startStream)) with
  | some currentContract =>
    { context with
      tickerSent := strlcpy context.tickerSent currentContract.tickerSent sdk.maxTickerLen
      tickerReceived :=
        strlcpy context.tickerReceived currentContract.tickerReceived sdk.maxTickerLen }
  | none => context

/-- `handle_received_address`. -/
def handleReceivedAddress (msg : EthPluginProvideInfo) (context : Context) : Context :=
  { context with
    contractAddressReceived :=
      memcpy (memset context.contractAddressReceived 0) 0
        msg.txContent.destination 0 addressLength (Nat.le_refl addressLength)
        (Nat.le_refl addressLength) }

/-- `handle_provide_token`, the handler of `ETH_PLUGIN_PROVIDE_INFO`. -/
def handleProvideToken (sdk : EthPluginSdk) (msg : EthPluginProvideInfo) (context : Context) :
    EthPluginProvideInfo × Context :=
  let context :=
    match Selector.ofIndex? context.selectorIndex with
    | some .downgrade | some .downgradeToEth =>
      handleDowngradeTokens sdk
        (handleReceivedAddress msg { context with decimals := .ofNat defaultDecimal })
    | some .upgrade | some .upgradeToEth =>
      handleUpgradeTokens sdk (handleReceivedAddress msg context)
    | some .callAgreement => handleCfaTokens sdk context
    | some .batchCall => context
    | none => context
  ({ msg with result := .ok }, context)

end Ricochet
