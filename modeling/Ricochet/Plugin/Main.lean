import Ricochet.Plugin.HandleInitContract
import Ricochet.Plugin.HandleProvideParameter
import Ricochet.Plugin.HandleFinalize
import Ricochet.Plugin.HandleProvideToken
import Ricochet.Plugin.HandleQueryContractId
import Ricochet.Plugin.HandleQueryContractUi

/-!
# The plugin's entry point (`main.c`)
-/

namespace Ricochet

/-- A call of the Ethereum application: the message's code together with its parameters.  Other
codes have no handler (`Invocation.unhandled`). -/
inductive PluginCall
  | initContract (msg : EthPluginInitContract)
  | provideParameter (msg : EthPluginProvideParameter)
  | finalize (msg : EthPluginFinalize)
  | provideInfo (msg : EthPluginProvideInfo)
  | queryContractId (msg : EthQueryContractID)
  | queryContractUi (msg : EthQueryContractUI)

/-- The result in a call's parameters. -/
def PluginCall.result : PluginCall → PluginResult
  | initContract msg => msg.result
  | provideParameter msg => msg.result
  | finalize msg => msg.result
  | provideInfo msg => msg.result
  | queryContractId msg => msg.result
  | queryContractUi msg => msg.result

/-- `dispatch_plugin_calls`: the parameters as the handler leaves them, and the context. -/
def dispatchPluginCalls (sdk : EthPluginSdk) :
    PluginCall → Context → PluginCall × Context
  | .initContract msg, context =>
    let r := handleInitContract sdk msg context
    (.initContract r.1, r.2)
  | .provideParameter msg, context =>
    let r := handleProvideParameter sdk msg context
    (.provideParameter r.1, r.2)
  | .provideInfo msg, context =>
    let r := handleProvideToken sdk msg context
    (.provideInfo r.1, r.2)
  | .finalize msg, context => (.finalize (handleFinalize msg context), context)
  | .queryContractId msg, context => (.queryContractId (handleQueryContractId msg context), context)
  | .queryContractUi msg, context =>
    let r := handleQueryContractUi sdk msg context
    (.queryContractUi r.1, r.2)

end Ricochet
