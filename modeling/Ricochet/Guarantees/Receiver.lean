import Ricochet.Guarantees.CallAgreement

/-!
# The receiver of a stream

No lookup of the plugin has a path for an address it does not find: the tickers stay as they are,
empty, and the call goes on.  So a session answered with `OK` shows the tickers of the receiver when
it is an exchange contract, and empty ones when it is not (`receiver_shown`).
-/

namespace Ricochet

open CLib Abi

namespace Session

variable {s : Session} {sdk : EthPluginSdk} {sel : Selector}

/-- The display does not change the receiver. -/
theorem receiverOf_final (hhost : s.host.Compatible sdk) (hstream : sel.IsStream)
    (hsel : s.selector = sel.bytes) :
    receiverOf sel (s.final sdk) = receiverOf sel (s.parsed sdk) := by
  obtain ⟨a, t, t', hfinal⟩ := exists_final_eq hhost hstream hsel
  simp only [hfinal, receiverOf, callAgreementReceiver]

/-- When every call is answered with `OK`, the screens carry the tickers of the receiver's entry in
the table, and empty tickers when it has none. -/
theorem receiver_shown (s : Session) (sdk : EthPluginSdk) (sel : Selector)
    (hhost : s.host.Compatible sdk) (hstream : sel.IsStream) (hsel : s.selector = sel.bytes)
    (hok : s.AllOk sdk) :
    (∀ e ∈ contractAddressCollection, e.contractAddress = receiverOf sel (s.final sdk) →
      s.ShowsStream sdk (s.shownRate sel) e.tickerSent e.tickerReceived) ∧
    ((∀ e ∈ contractAddressCollection, e.contractAddress ≠ receiverOf sel (s.final sdk)) →
      s.ShowsStream sdk (s.shownRate sel) "" "") := by
  have hshows := showsStream_of_allOk hhost hstream hsel hok
  rw [receiverOf_final hhost hstream hsel]
  constructor
  · intro e he haddr
    rwa [← haddr, tickerSentOf, tickerReceivedOf, lookupContract_contractAddress he] at hshows
  · intro hnone
    rwa [tickerSentOf, tickerReceivedOf, lookupContract_eq_none_iff.mpr hnone] at hshows

end Session

/-- A start of a stream, alone, in an application with an ample display. -/
def startSession (call : CfaCall) : Session :=
  callAgreementSession (referenceHost (zeros 20)) Context.zero (zeros 20) call.encode []

theorem presents_startSession (call : CfaCall) :
    Presents (startSession call) .callAgreement call :=
  presents_callAgreementSession _ _ _ call []

theorem receiver_shown_dai :
    (startSession (startAsDai 0 1)).ShowsStream referenceSdk (some 1) "DAIx " "ETHx" := by
  have hs := presents_startSession (startAsDai 0 1)
  have hhost : (startSession (startAsDai 0 1)).host.Compatible referenceSdk :=
    referenceHost_compatible _
  have h := (Session.receiver_shown _ referenceSdk .callAgreement hhost hs.isStream hs.selector
    (allOk_startAsDai hhost hs)).1 (contractAddressCollection.get ⟨0, by decide⟩) (List.get_mem _ _)
    ((Session.receiverOf_final hhost hs.isStream hs.selector).trans (hs.receiver hhost)).symm
  rwa [hs.shownRate fun f hf => (startAsDai_lt hf).1] at h

/-- A stream of DAIx to an address that is no exchange contract. -/
def startToStranger : CfaCall :=
  .createFlow (startAsDai 0 1).token (Vector.replicate 20 0x11) 1 []

/-- Every call is answered with `OK`, and the receiving screen is empty. -/
theorem receiver_shown_stranger :
    (startSession startToStranger).AllOk referenceSdk ∧
      (∀ e ∈ contractAddressCollection, e.contractAddress ≠
        receiverOf .callAgreement ((startSession startToStranger).final referenceSdk)) ∧
      ((startSession startToStranger).screen1 referenceSdk).1.msg = "" := by
  have hs := presents_startSession startToStranger
  have hhost : (startSession startToStranger).host.Compatible referenceSdk :=
    referenceHost_compatible _
  have hvalid : ∀ f, startToStranger.flowRate? = some f → f < 256 ^ 32 ∧ f * 2592000 < 2 ^ 64 := by
    intro f hf
    obtain rfl := Option.some.inj hf
    decide
  have hreceiver : receiverOf .callAgreement ((startSession startToStranger).parsed referenceSdk) =
      Vector.replicate 20 0x11 := hs.receiver hhost
  have hunknown :
      ∀ e ∈ contractAddressCollection, e.contractAddress ≠ Vector.replicate 20 0x11 := by
    decide
  refine ⟨(hs.allOk_iff hhost fun f hf => (hvalid f hf).1).mpr fun f hf => (hvalid f hf).2, ?_, ?_⟩
  · rw [Session.receiverOf_final hhost hs.isStream hs.selector, hreceiver]
    exact hunknown
  · rw [Session.screen1_stream hhost hs.isStream hs.selector, hreceiver, tickerReceivedOf,
      lookupContract_eq_none_iff.mpr hunknown]
    rfl

end Ricochet
