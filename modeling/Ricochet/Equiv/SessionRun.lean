import Ricochet.Equiv.PluginState

/-!
# A session is a run

The stages of a session are the answers of `dispatch_plugin_calls` to a list of calls
(`outputs_calls`, `exec_calls`), one of which depends on the answer to another: token information is
provided when the end of the arguments asked for it.  In a compatible application none of the
answers depends on what the memory held before (`replies_withMemory`).
-/

namespace Ricochet

open CLib Abi Machine

/-! ### One kind of call -/

section

variable {sdk : EthPluginSdk}

/-- The words of the arguments are a run of one handler. -/
theorem outputs_provideParameter (msgs : List EthPluginProvideParameter) (c : Context) :
    outputs (dispatchPluginCalls sdk) (msgs.map .provideParameter) c =
      (outputs (handleProvideParameter sdk) msgs c).map .provideParameter := by
  induction msgs generalizing c with
  | nil => rfl
  | cons msg msgs ih =>
    rw [List.map_cons, outputs_cons, outputs_cons, List.map_cons, ← ih]
    rfl

theorem exec_provideParameter (msgs : List EthPluginProvideParameter) (c : Context) :
    exec (dispatchPluginCalls sdk) (msgs.map .provideParameter) c =
      exec (handleProvideParameter sdk) msgs c := by
  induction msgs generalizing c with
  | nil => rfl
  | cons msg msgs ih => exact ih _

end

namespace Session

variable (s : Session) (sdk : EthPluginSdk)

/-- The application provides token information only when it has been asked for. -/
def infoCalls : List PluginCall :=
  if s.infoRequested sdk then [.provideInfo ⟨s.host.txContent, .error⟩] else []

/-- The calls of a session. -/
def calls : List PluginCall :=
  .initContract (s.host.initMsg s.selector) ::
    ((numbered parameterMsg 0 s.words).map .provideParameter ++
      (.finalize finalizeMsg :: (s.infoCalls sdk ++
        [.queryContractId s.host.idMsg, .queryContractUi (s.host.uiMsg 0),
          .queryContractUi (s.host.uiMsg 1)])))

/-- Their answers, stage by stage. -/
def replies : List PluginCall :=
  .initContract (s.init sdk).1 ::
    ((s.parameterReplies sdk).map .provideParameter ++
      (.finalize (s.finalize sdk) :: (((s.provideInfo sdk).1.map .provideInfo).toList ++
        [.queryContractId (s.contractId sdk), .queryContractUi (s.screen0 sdk).1,
          .queryContractUi (s.screen1 sdk).1])))

theorem outputs_infoCalls :
    outputs (dispatchPluginCalls sdk) (s.infoCalls sdk) (s.parsed sdk) =
      ((s.provideInfo sdk).1.map .provideInfo).toList := by
  unfold infoCalls provideInfo
  split_ifs <;> rfl

theorem exec_infoCalls :
    exec (dispatchPluginCalls sdk) (s.infoCalls sdk) (s.parsed sdk) = s.ready sdk := by
  unfold infoCalls ready provideInfo
  split_ifs <;> rfl

/-- The calls are answered stage by stage. -/
theorem outputs_calls :
    outputs (dispatchPluginCalls sdk) (s.calls sdk) s.memory = s.replies sdk := by
  have hparsed : exec (dispatchPluginCalls sdk)
      ((numbered parameterMsg 0 s.words).map .provideParameter) (s.init sdk).2 = s.parsed sdk :=
    exec_provideParameter _ _
  -- one stage after the other, each from the context it begins with
  rw [calls, replies, outputs_cons]
  refine congrArg₂ List.cons rfl ?_
  show outputs (dispatchPluginCalls sdk) _ (s.init sdk).2 = _
  rw [outputs_append, hparsed, outputs_provideParameter, outputs_cons]
  refine congrArg₂ _ rfl (congrArg₂ List.cons rfl ?_)
  show outputs (dispatchPluginCalls sdk) _ (s.parsed sdk) = _
  rw [outputs_append, outputs_infoCalls, exec_infoCalls]
  rfl

theorem exec_calls : exec (dispatchPluginCalls sdk) (s.calls sdk) s.memory = s.final sdk := by
  have hparsed : exec (dispatchPluginCalls sdk)
      ((numbered parameterMsg 0 s.words).map .provideParameter) (s.init sdk).2 = s.parsed sdk :=
    exec_provideParameter _ _
  rw [calls, exec_cons]
  show exec (dispatchPluginCalls sdk) _ (s.init sdk).2 = _
  rw [exec_append, hparsed, exec_cons]
  show exec (dispatchPluginCalls sdk) _ (s.parsed sdk) = _
  rw [exec_append, exec_infoCalls]
  rfl

theorem map_result_replies : (s.replies sdk).map PluginCall.result = s.results sdk := by
  simp only [replies, results, prepareResults, parseResults, List.map_cons, List.map_append,
    List.map_map, List.map_nil]
  cases (s.provideInfo sdk).1 <;> simp [PluginCall.result, Function.comp_def]

theorem forall_replies_ok_iff : (∀ call ∈ s.replies sdk, call.result = .ok) ↔ s.AllOk sdk := by
  rw [AllOk, ← map_result_replies, List.forall_mem_map]

/-! ### What the memory held -/

variable {s sdk}

/-- The checks of `INIT` are on what the application announces. -/
theorem accepts_of_compatible (hhost : s.host.Compatible sdk) :
    (s.host.initMsg s.selector).Accepts sdk :=
  ⟨hhost.interfaceVersion_eq, hhost.sizeofContext_le⟩

variable (hhost : s.host.Compatible sdk) (memory : Context)

include hhost

theorem init_withMemory : init { s with memory := memory } sdk = s.init sdk := by
  have haccepts := accepts_of_compatible hhost
  rw [init, init, handleInitContract_of_accepts haccepts, handleInitContract_of_accepts haccepts]

theorem parsed_withMemory : parsed { s with memory := memory } sdk = s.parsed sdk := by
  rw [parsed, parsed, init_withMemory hhost]

theorem infoRequested_withMemory :
    infoRequested { s with memory := memory } sdk = s.infoRequested sdk := by
  simp only [infoRequested, finalize, parsed_withMemory hhost]

theorem provideInfo_withMemory :
    provideInfo { s with memory := memory } sdk = s.provideInfo sdk := by
  rw [provideInfo, provideInfo, infoRequested_withMemory hhost, parsed_withMemory hhost]

theorem ready_withMemory : ready { s with memory := memory } sdk = s.ready sdk := by
  rw [ready, ready, provideInfo_withMemory hhost]

theorem screen0_withMemory : screen0 { s with memory := memory } sdk = s.screen0 sdk := by
  rw [screen0, screen0, ready_withMemory hhost]

theorem calls_withMemory : calls { s with memory := memory } sdk = s.calls sdk := by
  simp only [calls, infoCalls, infoRequested_withMemory hhost]

/-- No answer of a session depends on what the memory held. -/
theorem replies_withMemory : replies { s with memory := memory } sdk = s.replies sdk := by
  simp only [replies, parameterReplies, finalize, contractId, screen1, init_withMemory hhost,
    parsed_withMemory hhost, provideInfo_withMemory hhost, ready_withMemory hhost,
    screen0_withMemory hhost]

/-- Nor does the context it ends with. -/
theorem final_withMemory : final { s with memory := memory } sdk = s.final sdk := by
  simp only [final, screen1, screen0_withMemory hhost]

/-- So a session can be run on any memory. -/
theorem outputs_calls_memory :
    outputs (dispatchPluginCalls sdk) (s.calls sdk) memory = s.replies sdk := by
  have h := outputs_calls { s with memory := memory } sdk
  rwa [calls_withMemory hhost, replies_withMemory hhost] at h

theorem exec_calls_memory :
    exec (dispatchPluginCalls sdk) (s.calls sdk) memory = s.final sdk := by
  have h := exec_calls { s with memory := memory } sdk
  rwa [calls_withMemory hhost, final_withMemory hhost] at h

end Session

end Ricochet
