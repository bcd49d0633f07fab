import Ricochet.Abi.Calldata
import Ricochet.Machine.Run
import Ricochet.Plugin.Main

/-!
# A session with the Ethereum application

The order in which the application calls the plugin for one transaction: the contract call's
selector, its arguments word by word, the end of the arguments, the token information if the plugin
asked for some, then the queries for what to display.  Each stage is a handler applied to the
context the stage before it left.

The application's part is an assumption of this development: word `i` comes with the offset
`4 + 32 * i` as a `uint32_t`, messages are zeroed before they are filled in, and the sizes of the
display buffers do not change during a session.
-/

namespace Ricochet

open CLib Abi Machine

/-- What the application fixes for a session: the versions and sizes it announces, the transaction,
and its display buffers with what the two text buffers of the identification query held before. -/
structure Host where
  interfaceVersion : ℕ
  pluginContextLength : ℕ
  txContent : TxContent
  name : String
  nameLength : ℕ
  version : String
  versionLength : ℕ
  titleLength : ℕ
  msgLength : ℕ

/-- The application speaks the plugin's version of the interface and reserves enough memory for
its context. -/
structure Host.Compatible (host : Host) (sdk : EthPluginSdk) : Prop where
  interfaceVersion_eq : host.interfaceVersion = sdk.interfaceVersionLatest
  sizeofContext_le : sdk.sizeofContext ≤ host.pluginContextLength

namespace Host

variable (host : Host)

/-- The parameters of `ETH_PLUGIN_INIT_CONTRACT`. -/
def initMsg (selector : Buffer 4) : EthPluginInitContract :=
  ⟨host.interfaceVersion, host.pluginContextLength, selector, host.txContent, .error⟩

/-- The parameters of `ETH_PLUGIN_QUERY_CONTRACT_ID`. -/
def idMsg : EthQueryContractID :=
  ⟨host.name, host.nameLength, host.version, host.versionLength, .error⟩

/-- The parameters of `ETH_PLUGIN_QUERY_CONTRACT_UI`. -/
def uiMsg (screenIndex : UInt8) : EthQueryContractUI :=
  ⟨host.txContent, screenIndex, "", host.titleLength, "", host.msgLength, .error⟩

end Host

/-- The parameters of `ETH_PLUGIN_PROVIDE_PARAMETER` for word `i` of the arguments. -/
def parameterMsg (i : ℕ) (w : Word) : EthPluginProvideParameter :=
  ⟨w, .ofNat (selectorSize + parameterLength * i), .error⟩

/-- The parameters of `ETH_PLUGIN_FINALIZE`. -/
def finalizeMsg : EthPluginFinalize := ⟨none, none, 0, none, .error⟩

/-- A transaction presented to the plugin: the application's choices, what the context's memory
holds beforehand, and the calldata, the selector apart. -/
structure Session where
  host : Host
  memory : Context
  selector : Buffer 4
  words : List Word

namespace Session

variable (s : Session) (sdk : EthPluginSdk)

/-- `ETH_PLUGIN_INIT_CONTRACT`. -/
def init : EthPluginInitContract × Context :=
  handleInitContract sdk (s.host.initMsg s.selector) s.memory

/-- The answers to `ETH_PLUGIN_PROVIDE_PARAMETER`. -/
def parameterReplies : List EthPluginProvideParameter :=
  outputs (handleProvideParameter sdk) (numbered parameterMsg 0 s.words) (s.init sdk).2

/-- The context after the last word. -/
def parsed : Context :=
  exec (handleProvideParameter sdk) (numbered parameterMsg 0 s.words) (s.init sdk).2

/-- `ETH_PLUGIN_FINALIZE`. -/
def finalize : EthPluginFinalize := handleFinalize finalizeMsg (s.parsed sdk)

/-- The application provides token information when the plugin left it an address to look up. -/
def infoRequested : Bool :=
  (s.finalize sdk).tokenLookup1.isSome || (s.finalize sdk).tokenLookup2.isSome

/-- `ETH_PLUGIN_PROVIDE_INFO`, if requested. -/
def provideInfo : Option EthPluginProvideInfo × Context :=
  if s.infoRequested sdk then
    let r := handleProvideToken sdk ⟨s.host.txContent, .error⟩ (s.parsed sdk)
    (some r.1, r.2)
  else (none, s.parsed sdk)

/-- The context the display queries start from. -/
def ready : Context := (s.provideInfo sdk).2

/-- `ETH_PLUGIN_QUERY_CONTRACT_ID`. -/
def contractId : EthQueryContractID := handleQueryContractId s.host.idMsg (s.ready sdk)

/-- The first `ETH_PLUGIN_QUERY_CONTRACT_UI` of screen 0. -/
def screen0 : EthQueryContractUI × Context :=
  handleQueryContractUi sdk (s.host.uiMsg 0) (s.ready sdk)

/-- The first `ETH_PLUGIN_QUERY_CONTRACT_UI` of screen 1, after screen 0. -/
def screen1 : EthQueryContractUI × Context :=
  handleQueryContractUi sdk (s.host.uiMsg 1) (s.screen0 sdk).2

/-- The context at the end of the session. -/
def final : Context := (s.screen1 sdk).2

/-- The results up to `ETH_PLUGIN_FINALIZE`. -/
def parseResults : List PluginResult :=
  (s.init sdk).1.result :: (s.parameterReplies sdk).map (·.result) ++ [(s.finalize sdk).result]

/-- The results up to `ETH_PLUGIN_PROVIDE_INFO`. -/
def prepareResults : List PluginResult :=
  s.parseResults sdk ++ ((s.provideInfo sdk).1.map (·.result)).toList

/-- The results of all calls of the session, in order. -/
def results : List PluginResult :=
  s.prepareResults sdk ++
    [(s.contractId sdk).result, (s.screen0 sdk).1.result, (s.screen1 sdk).1.result]

/-- Every message of the session ends with `OK` as its result.  That of a screen is set before its
text is written. -/
def AllOk : Prop := ∀ r ∈ s.results sdk, r = .ok

/-- The two screens are written: `amountToString` does not throw. -/
def Returns : Prop :=
  uiReturns sdk (s.host.uiMsg 0) (s.ready sdk) ∧ uiReturns sdk (s.host.uiMsg 1) (s.screen0 sdk).2

/-- Every call of the session returns, and with `OK`. -/
def Succeeds : Prop := s.AllOk sdk ∧ s.Returns sdk

end Session

end Ricochet
