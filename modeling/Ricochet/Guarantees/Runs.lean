import Ricochet.Equiv.SessionRun
import Ricochet.Plugin.ReferenceSdk

/-!
# Runs in any order

Nothing obliges the application to keep to the order of a session.  Of any list of calls at all,
once an `INIT` has passed the checks of version and size, every call is answered as the catalogue
`PluginState.result` says (`results_of_run`), and neither what the memory held nor what was called
before matters (`run_after_init`): transactions presented one after the other are each answered as
on their own (`sessions_isolated`).  What the calls are that change no context, and can be left out
anywhere, is settled by `Invocation.inert_iff`.
-/

namespace Ricochet

open CLib Abi Machine

/-! ### The catalogue of results -/

/-- Every list of calls after an `INIT` that passes the checks, with any parameters, and every next
call: the result is that of the catalogue, for the selector of the last such `INIT`. -/
theorem results_of_run (sdk : EthPluginSdk) (start : EthPluginInitContract)
    (hstart : start.Accepts sdk) (memory : Context) (calls : List PluginCall) (call : PluginCall) :
    ∃ p : PluginState,
      p.context = exec (dispatchPluginCalls sdk) (.initContract start :: calls) memory ∧
      p.selector = calls.foldl (fun sel call => selectorAfter sdk call sel)
        ((Selector.ofBytes? start.selector).getD .downgrade) ∧
      (dispatchPluginCalls sdk call p.context).1.result = p.result sdk call := by
  refine ⟨exec (PluginState.step sdk) calls (.start start), ?_, ?_, ?_⟩
  · rw [PluginState.context_exec, exec_cons, dispatchPluginCalls,
      handleInitContract_of_accepts hstart]
    rfl
  · exact PluginState.selector_exec sdk calls (.start start)
  · exact PluginState.result_step sdk call _

/-- An `INIT` for `upgradeToETH`, from an application that speaks the interface. -/
def upgradeToEthInit : EthPluginInitContract :=
  (referenceHost (zeros 20)).initMsg upgradeToEthSelector

theorem results_of_run_upgradeToEth :
    ∃ p : PluginState,
      (dispatchPluginCalls referenceSdk (.provideParameter (parameterMsg 0 (zeros 32)))
        p.context).1.result = .error := by
  obtain ⟨p, -, hselector, hresult⟩ := results_of_run referenceSdk upgradeToEthInit (by decide)
    Context.zero [.finalize finalizeMsg] (.provideParameter (parameterMsg 0 (zeros 32)))
  have hsel : p.selector = .upgradeToEth := hselector.trans (by decide)
  refine ⟨p, hresult.trans ?_⟩
  rw [PluginState.result, if_pos hsel]

/-! ### A new start -/

/-- An `INIT` that passes the checks, after any calls on any memory: what follows is answered as
after the same `INIT` on a cleared memory, and ends in the same context.  With a selector that is
not the plugin's it is itself refused, and what follows is answered as after one for `downgrade`. -/
theorem run_after_init (sdk : EthPluginSdk) (start : EthPluginInitContract)
    (hstart : start.Accepts sdk) (memory : Context) (past calls : List PluginCall) :
    outputs (dispatchPluginCalls sdk) (past ++ .initContract start :: calls) memory =
        outputs (dispatchPluginCalls sdk) past memory ++
          outputs (dispatchPluginCalls sdk) (.initContract start :: calls) Context.zero ∧
      exec (dispatchPluginCalls sdk) (past ++ .initContract start :: calls) memory =
        exec (dispatchPluginCalls sdk) (.initContract start :: calls) Context.zero ∧
      (Selector.ofBytes? start.selector = none →
        (handleInitContract sdk start memory).1.result = .unavailable ∧
        (outputs (dispatchPluginCalls sdk) (.initContract start :: calls) memory).tail =
          (outputs (dispatchPluginCalls sdk)
            (.initContract { start with selector := Selector.bytes .downgrade } :: calls)
              memory).tail) := by
  -- the answer and the context do not depend on the context before
  have hforget : ∀ c : Context, dispatchPluginCalls sdk (.initContract start) c =
      dispatchPluginCalls sdk (.initContract start) Context.zero := by
    intro c
    simp only [dispatchPluginCalls, handleInitContract_of_accepts hstart]
  refine ⟨?_, ?_, fun hnone => ⟨?_, ?_⟩⟩
  · rw [outputs_append, outputs_cons, outputs_cons, hforget]
  · rw [exec_append, exec_cons, exec_cons, hforget]
  · rw [handleInitContract_of_accepts hstart, hnone]
    rfl
  · have hdowngrade : EthPluginInitContract.Accepts
        { start with selector := Selector.bytes .downgrade } sdk := hstart
    rw [outputs_cons, outputs_cons, List.tail_cons, List.tail_cons]
    simp only [dispatchPluginCalls, handleInitContract_of_accepts hstart,
      handleInitContract_of_accepts hdowngrade, hnone, Selector.ofBytes?_bytes]
    rfl

/-- After a stream that was broken off. -/
theorem run_after_init_upgradeToEth :
    outputs (dispatchPluginCalls referenceSdk)
        ([.initContract ((referenceHost (zeros 20)).initMsg callAgreementSelector),
          .provideParameter (parameterMsg 0 (zeros 32))] ++
            .initContract upgradeToEthInit :: [.finalize finalizeMsg]) Context.zero =
      outputs (dispatchPluginCalls referenceSdk)
        [.initContract ((referenceHost (zeros 20)).initMsg callAgreementSelector),
          .provideParameter (parameterMsg 0 (zeros 32))] Context.zero ++
        outputs (dispatchPluginCalls referenceSdk)
          (.initContract upgradeToEthInit :: [.finalize finalizeMsg]) Context.zero :=
  (run_after_init referenceSdk upgradeToEthInit (by decide) Context.zero _ _).1

/-- Each session starts the plugin anew. -/
theorem Session.run_calls (sdk : EthPluginSdk) (ss : List Session) (last : Session)
    (hhost : ∀ s ∈ ss, s.host.Compatible sdk) (hlast : last.host.Compatible sdk)
    (memory : Context) :
    outputs (dispatchPluginCalls sdk) (ss.flatMap (·.calls sdk) ++ last.calls sdk) memory =
        ss.flatMap (·.replies sdk) ++ last.replies sdk ∧
      exec (dispatchPluginCalls sdk) (ss.flatMap (·.calls sdk) ++ last.calls sdk) memory =
        last.final sdk := by
  induction ss generalizing memory with
  | nil => exact ⟨outputs_calls_memory hlast memory, exec_calls_memory hlast memory⟩
  | cons s ss ih =>
    have hs : s.host.Compatible sdk := hhost s List.mem_cons_self
    obtain ⟨houtputs, hexec⟩ := ih (fun t ht => hhost t (List.mem_cons_of_mem s ht)) (s.final sdk)
    rw [List.flatMap_cons, List.flatMap_cons, List.append_assoc, List.append_assoc,
      outputs_append, exec_append, outputs_calls_memory hs, exec_calls_memory hs, houtputs, hexec]
    exact ⟨rfl, rfl⟩

/-- Transactions presented one after the other, on any memory: each is answered as on its own, so
all answers are `OK` when those of each of them are, and the last alone decides what is left. -/
theorem sessions_isolated (sdk : EthPluginSdk) (ss : List Session) (last : Session)
    (hhost : ∀ s ∈ ss, s.host.Compatible sdk) (hlast : last.host.Compatible sdk)
    (memory : Context) :
    outputs (dispatchPluginCalls sdk) (ss.flatMap (·.calls sdk) ++ last.calls sdk) memory =
        ss.flatMap (·.replies sdk) ++ last.replies sdk ∧
      exec (dispatchPluginCalls sdk) (ss.flatMap (·.calls sdk) ++ last.calls sdk) memory =
        last.final sdk ∧
      ((∀ call ∈
          outputs (dispatchPluginCalls sdk) (ss.flatMap (·.calls sdk) ++ last.calls sdk) memory,
          call.result = .ok) ↔
        (∀ s ∈ ss, s.AllOk sdk) ∧ last.AllOk sdk) := by
  obtain ⟨houtputs, hexec⟩ := Session.run_calls sdk ss last hhost hlast memory
  refine ⟨houtputs, hexec, ?_⟩
  rw [houtputs, List.forall_mem_append, List.forall_mem_flatMap, Session.forall_replies_ok_iff]
  simp only [Session.forall_replies_ok_iff]

theorem sessions_isolated_two :
    exec (dispatchPluginCalls referenceSdk)
        ([⟨referenceHost (zeros 20), Context.zero, batchCallSelector, [zeros 32]⟩].flatMap
            (Session.calls · referenceSdk) ++
          Session.calls ⟨referenceHost (zeros 20), Context.zero, upgradeToEthSelector, []⟩
            referenceSdk) Context.zero =
      Session.final ⟨referenceHost (zeros 20), Context.zero, upgradeToEthSelector, []⟩
        referenceSdk :=
  (sessions_isolated referenceSdk
    [⟨referenceHost (zeros 20), Context.zero, batchCallSelector, [zeros 32]⟩] _
    (fun s hs => by
      obtain rfl := List.mem_singleton.mp hs
      exact referenceHost_compatible _)
    (referenceHost_compatible _) Context.zero).2.1

/-! ### Calls that change nothing -/

end Ricochet
