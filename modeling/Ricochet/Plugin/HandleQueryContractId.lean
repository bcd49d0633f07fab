import Ricochet.Plugin.Contract

/-!
# `handle_query_contract_id.c`
-/

namespace Ricochet

open CLib

/-- `handle_init_cfa_screen`; the version buffer is kept when no method has the selector. -/
def handleInitCfaScreen (msg : EthQueryContractID) (context : Context) : EthQueryContractID :=
  match cfaMethodCollection.find? fun m => compareArray m.method context.methodCfa = 0 with
  | some cfaMethod =>
    { msg with version := strlcpy msg.version cfaMethod.methodName msg.versionLength }
  | none => msg

/-- `handle_query_contract_id`; the context is only read. -/
def handleQueryContractId (msg : EthQueryContractID) (context : Context) : EthQueryContractID :=
  let msg := { msg with name := strlcpy msg.name pluginName msg.nameLength }
  match Selector.ofIndex? context.selectorIndex with
  | some .downgrade | some .downgradeToEth =>
    { msg with version := strlcpy msg.version "Downgrade" msg.versionLength, result := .ok }
  | some .callAgreement | some .batchCall => { handleInitCfaScreen msg context with result := .ok }
  | some .upgrade | some .upgradeToEth =>
    { msg with version := strlcpy msg.version "Upgrade" msg.versionLength, result := .ok }
  | none => { msg with result := .error }

end Ricochet
