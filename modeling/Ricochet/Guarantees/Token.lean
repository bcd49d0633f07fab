import Ricochet.Guarantees.BatchCall

/-!
# The token of a stream

The token of an operation is parsed and kept, but no later step reads it: the ticker of the sending
screen is that of the receiver's entry, whatever the token is (`token_shown`).
-/

namespace Ricochet

open CLib Abi

/-- The sessions of the canonical encodings of a stream operation: alone, or as the last of a batch
whose parser comes to it. -/
inductive CanonicalStream : Session → Selector → CfaCall → Prop
  | callAgreement (host : Host) (memory : Context) (agreementClass : Address) (call : CfaCall)
      (userData : List UInt8) (hvalid : call.Valid) :
      CanonicalStream (callAgreementSession host memory agreementClass call.encode userData)
        .callAgreement call
  | batchCall (host : Host) (memory : Context) (operations : List Operation) (operationType : ℕ)
      (target : Address) (call : CfaCall) (userData : List UInt8) (hvalid : call.Valid)
      (hlast : lastOffset operations < 65536) (hrate : call.flowRate?.isSome) :
      CanonicalStream (batchCallSession host memory (operations ++
        [⟨operationType, target, encodeCallAgreementData call.encode userData⟩])) .batchCall call

namespace CanonicalStream

variable {s : Session} {sdk : EthPluginSdk} {sel : Selector} {call : CfaCall}

theorem presents (h : CanonicalStream s sel call) : Presents s sel call := by
  cases h with
  | callAgreement host memory agreementClass call userData _ =>
    exact presents_callAgreementSession host memory agreementClass call userData
  | batchCall host memory operations operationType target call userData _ hlast hrate =>
    exact presents_batchCallSession host memory operations operationType target call userData hlast
      hrate

theorem valid (h : CanonicalStream s sel call) : call.Valid := by
  cases h <;> assumption

end CanonicalStream

/-- The sending screen leaves the ticker it has used in the context. -/
theorem Presents.tickerSent_screen0 {s : Session} {sdk : EthPluginSdk} {sel : Selector}
    {call : CfaCall} (h : Presents s sel call) (hhost : s.host.Compatible sdk)
    {e : ContractAddressTicker} (he : e ∈ contractAddressCollection)
    (hreceiver : call.receiver = e.contractAddress) :
    (s.screen0 sdk).2.tickerSent = e.tickerSent := by
  have hticker : tickerSentOf (receiverOf sel (s.parsed sdk)) = e.tickerSent := by
    rw [h.receiver hhost, hreceiver, tickerSentOf, lookupContract_contractAddress he]
    rfl
  by_cases hrate : s.HasRate sel
  · rw [Session.screen0_of_hasRate hhost h.isStream h.selector hrate]
    split_ifs <;> exact hticker
  · rw [Session.screen0_of_not_hasRate hhost h.isStream h.selector hrate]
    exact hticker

/-- Whether all answers are `OK` does not depend on the token.  When they are, the sending screen
uses the ticker of the receiver's entry, which is that of the token exactly when the entry is for
that token. -/
theorem token_shown (s : Session) (sdk : EthPluginSdk) (sel : Selector) (call : CfaCall)
    (h : CanonicalStream s sel call) (hhost : s.host.Compatible sdk)
    (e : ContractAddressTicker) (he : e ∈ contractAddressCollection)
    (hreceiver : call.receiver = e.contractAddress) :
    (s.AllOk sdk ↔ ∀ f, call.flowRate? = some f → f * 2592000 < 2 ^ 64) ∧
    (s.AllOk sdk →
      s.ShowsStream sdk call.flowRate? e.tickerSent e.tickerReceived ∧
      ∀ t ∈ superTokenCollection, call.token = t.superTokenAddress →
        ((s.screen0 sdk).2.tickerSent = t.tickerSuperToken ↔
          e.tickerSent = t.tickerSuperToken)) := by
  have hs := h.presents
  have hword := h.valid.lt_word
  refine ⟨hs.allOk_iff hhost hword, fun hok => ⟨hs.showsStream hhost hword hok he hreceiver, ?_⟩⟩
  intro t _ _
  rw [hs.tickerSent_screen0 hhost he hreceiver]

theorem canonicalStream_startAsDai (i : Fin 9) :
    CanonicalStream (callAgreementSession (referenceHost (zeros 20)) Context.zero (zeros 20)
      (startAsDai i 1).encode []) .callAgreement (startAsDai i 1) :=
  .callAgreement _ _ _ _ _ fun f hf => by
    obtain rfl := Option.some.inj hf
    decide

theorem token_shown_dai :
    ((callAgreementSession (referenceHost (zeros 20)) Context.zero (zeros 20)
      (startAsDai 0 1).encode []).screen0 referenceSdk).2.tickerSent = "DAIx " := by
  have h := token_shown _ referenceSdk .callAgreement (startAsDai 0 1)
    (canonicalStream_startAsDai 0) (referenceHost_compatible _)
    (contractAddressCollection.get ⟨0, by decide⟩) (List.get_mem _ _) rfl
  have hok := h.1.mpr fun f hf => (startAsDai_lt hf).2
  exact ((h.2 hok).2 (superTokenCollection.get ⟨0, by decide⟩) (List.get_mem _ _) rfl).mpr rfl

/-- USDCx is streamed, every answer is `OK`, and the sending screen says DAIx. -/
theorem token_shown_usdc_as_dai :
    let s := callAgreementSession (referenceHost (zeros 20)) Context.zero (zeros 20)
      (startAsDai 1 1).encode []
    s.AllOk referenceSdk ∧
      (startAsDai 1 1).token = (superTokenCollection.get ⟨1, by decide⟩).superTokenAddress ∧
      (superTokenCollection.get ⟨1, by decide⟩).tickerSuperToken = "USDCx " ∧
      (s.screen0 referenceSdk).2.tickerSent = "DAIx " := by
  intro s
  have h := canonicalStream_startAsDai 1
  refine ⟨?_, rfl, rfl, ?_⟩
  · exact allOk_startAsDai (referenceHost_compatible _) h.presents
  · have hreceiver : (startAsDai 1 1).receiver =
        (contractAddressCollection.get ⟨0, by decide⟩).contractAddress := rfl
    have hticker := h.presents.tickerSent_screen0 (referenceHost_compatible _) (List.get_mem _ _)
      hreceiver
    rw [hticker]
    rfl

end Ricochet
