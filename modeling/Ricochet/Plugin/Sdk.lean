import Ricochet.CLib.CString
import Ricochet.CLib.BigEndian

/-!
# The Ethereum plugin SDK

The messages the Ethereum application exchanges with a plugin, and what the plugin uses of the SDK
it is linked with (`eth_internals.h`, `eth_plugin_interface.h`).  The SDK is a submodule, so it
enters as a parameter: `EthPluginSdk` collects the functions and constants the handlers call on,
and its last four fields say what the handlers rely on.

A message is modelled by the fields a handler reads or writes; a handler takes it with the
plugin's context and returns both.
-/

namespace Ricochet

open CLib

/-- `uint8_t[ADDRESS_LENGTH]`. -/
abbrev Address : Type := Buffer 20

/-- `eth_plugin_result_t`, the values the plugin answers with. -/
inductive PluginResult
  | error
  | unavailable
  | ok
  | fallback
  deriving DecidableEq, Repr

/-- `eth_ui_type_t`, the one value the plugin asks for. -/
inductive UiType
  | generic
  deriving DecidableEq, Repr

/-- `txContent_t`: the value sent along, of which `valueLength` bytes are in use, and the called
contract. -/
structure TxContent where
  value : Buffer 32
  valueLength : UInt8
  destination : Address
  deriving DecidableEq

/-- `ethPluginInitContract_t`. -/
structure EthPluginInitContract where
  interfaceVersion : ℕ
  pluginContextLength : ℕ
  selector : Buffer 4
  txContent : TxContent
  result : PluginResult

/-- `ethPluginProvideParameter_t`: one word of calldata and its offset in the calldata, the
selector included. -/
structure EthPluginProvideParameter where
  parameter : Buffer 32
  parameterOffset : UInt32
  result : PluginResult

/-- `ethPluginFinalize_t`; a token lookup is the address it points to, `none` for `NULL`. -/
structure EthPluginFinalize where
  tokenLookup1 : Option Address
  tokenLookup2 : Option Address
  numScreens : UInt8
  uiType : Option UiType
  result : PluginResult
  deriving DecidableEq

/-- `ethPluginProvideInfo_t`. -/
structure EthPluginProvideInfo where
  txContent : TxContent
  result : PluginResult

/-- `ethQueryContractID_t`: the two text buffers with their sizes. -/
structure EthQueryContractID where
  name : String
  nameLength : ℕ
  version : String
  versionLength : ℕ
  result : PluginResult
  deriving DecidableEq

/-- `ethQueryContractUI_t`: the screen asked for and the two text buffers with their sizes. -/
structure EthQueryContractUI where
  txContent : TxContent
  screenIndex : UInt8
  title : String
  titleLength : ℕ
  msg : String
  msgLength : ℕ
  result : PluginResult
  deriving DecidableEq

/-- What the plugin uses of the SDK. -/
structure EthPluginSdk where
  /-- `ETH_PLUGIN_INTERFACE_VERSION_LATEST`. -/
  interfaceVersionLatest : ℕ
  /-- `MAX_TICKER_LEN`, the size of a ticker buffer. -/
  maxTickerLen : ℕ
  /-- `sizeof(context_t)` on the target. -/
  sizeofContext : ℕ
  /-- `U2BE(buf, off)`. -/
  u2be : Buffer 32 → ℕ → UInt16
  /-- What `dst` holds after `copy_parameter(dst, parameter, size)`. -/
  copyParameter : Buffer 32 → Buffer 32 → ℕ → Buffer 32
  /-- The text `amountToString(amount, amount_size, decimals, ticker, out, out_size)` leaves in a
  zeroed `out`, `none` where it throws; the amount is given by its `amount_size` bytes. -/
  amountToString? : List UInt8 → ℕ → String → ℕ → Option String
  /-- The tickers of the plugin's tables fit their buffers. -/
  eight_le_maxTickerLen : 8 ≤ maxTickerLen
  /-- The plugin's static assertion. -/
  sizeofContext_le : sizeofContext ≤ 5 * 32
  /-- `U2BE` is the big-endian value of two bytes. -/
  u2be_toNat : ∀ (b : Buffer 32) (off : ℕ) (h : off + 1 < 32),
    (u2be b off).toNat = b[off].toNat * 256 + b[off + 1].toNat
  /-- Copying 32 bytes copies the word. -/
  copyParameter_eq : ∀ dst parameter : Buffer 32, copyParameter dst parameter 32 = parameter

/-- The text `amountToString` leaves.  Where it throws, the handler that calls it and the program
are left (`uiReturns`, `Exit.exception`), so the text is nobody's. -/
def EthPluginSdk.amountToString (sdk : EthPluginSdk) (amount : List UInt8) (decimals : ℕ)
    (ticker : String) (size : ℕ) : String :=
  (sdk.amountToString? amount decimals ticker size).getD ""

end Ricochet
