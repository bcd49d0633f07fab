import Ricochet.Plugin.ReferenceSdk
import Ricochet.Superfluid.Sessions

/-!
# `callAgreement`, end to end

A canonical `callAgreement` of a stream operation towards an exchange contract is parsed to its end
and shown as what it is (`callAgreement_shown`).
-/

namespace Ricochet

open CLib Abi

variable {sdk : EthPluginSdk}

/-- The session of a canonical `callAgreement`. -/
def callAgreementSession (host : Host) (memory : Context) (agreementClass : Address)
    (callData userData : List UInt8) : Session :=
  ⟨host, memory, callAgreementSelector,
    toWords (encodeCallAgreement agreementClass callData userData)⟩

theorem words_callAgreementSession (host : Host) (memory : Context) (agreementClass : Address)
    (callData userData : List UInt8) :
    (callAgreementSession host memory agreementClass callData userData).words =
      toWords (encodeCallAgreement agreementClass callData userData) := rfl

theorem presents_callAgreementSession (host : Host) (memory : Context) (agreementClass : Address)
    (call : CfaCall) (userData : List UInt8) :
    Presents (callAgreementSession host memory agreementClass call.encode userData) .callAgreement
      call where
  selector := rfl
  isStream := Or.inl rfl
  carries := carries_encodeCallAgreement agreementClass call userData
  hasRate := fun h => absurd h (by decide)

/-- Every agreement class, token, sender, context and user data; every exchange contract and every
rate that can be shown. -/
theorem callAgreement_shown (sdk : EthPluginSdk) (host : Host) (hhost : host.Compatible sdk)
    (memory : Context) (agreementClass : Address) (call : CfaCall) (userData : List UInt8)
    (e : ContractAddressTicker) (he : e ∈ contractAddressCollection)
    (hreceiver : call.receiver = e.contractAddress)
    (hrate : ∀ f, call.flowRate? = some f → f * 2592000 < 2 ^ 64) :
    let s := callAgreementSession host memory agreementClass call.encode userData
    s.AllOk sdk ∧
      (s.final sdk).nextParam = .none ∧
      (s.final sdk).tokenAddress = call.token ∧
      (s.contractId sdk).version = strlcpy host.version call.method.methodName host.versionLength ∧
      s.ShowsStream sdk call.flowRate? e.tickerSent e.tickerReceived := by
  intro s
  have hs : Presents s .callAgreement call :=
    presents_callAgreementSession host memory agreementClass call userData
  have hword : ∀ f, call.flowRate? = some f → f < 256 ^ 32 := by
    intro f hf
    have := hrate f hf
    omega
  have hok : s.AllOk sdk := (hs.allOk_iff hhost hword).mpr hrate
  obtain ⟨a, t, t', hfinal⟩ := Session.exists_final_eq hhost hs.isStream hs.selector
  refine ⟨hok, ?_, ?_, hs.version hhost, hs.showsStream hhost hword hok he hreceiver⟩
  · rw [hfinal]
    exact hs.nextParam hhost
  · rw [hfinal]
    exact hs.token hhost

/-- A stream of the super token `i` of the table to the exchange contract that takes DAIx. -/
def startAsDai (i : Fin 9) (flowRate : ℕ) : CfaCall :=
  .createFlow (superTokenCollection.get i).superTokenAddress
    (contractAddressCollection.get ⟨0, by decide⟩).contractAddress flowRate []

theorem callAgreement_shown_start :
    (callAgreementSession (referenceHost (zeros 20)) Context.zero (zeros 20) (startAsDai 0 1).encode
      []).ShowsStream referenceSdk (some 1) "DAIx " "ETHx" :=
  (callAgreement_shown referenceSdk (referenceHost (zeros 20)) (referenceHost_compatible _)
    Context.zero (zeros 20) (startAsDai 0 1) [] (contractAddressCollection.get ⟨0, by decide⟩)
    (List.get_mem _ _) rfl (fun f hf => by obtain rfl := Option.some.inj hf; decide)).2.2.2.2

theorem startAsDai_lt {i : Fin 9} {f : ℕ} (hf : (startAsDai i 1).flowRate? = some f) :
    f < 256 ^ 32 ∧ f * 2592000 < 2 ^ 64 := by
  obtain rfl := Option.some.inj hf
  decide

theorem allOk_startAsDai {s : Session} {sel : Selector} {i : Fin 9} (hhost : s.host.Compatible sdk)
    (h : Presents s sel (startAsDai i 1)) : s.AllOk sdk :=
  (h.allOk_iff hhost fun _ hf => (startAsDai_lt hf).1).mpr fun _ hf => (startAsDai_lt hf).2

theorem showsStream_startAsDai {s : Session} {sel : Selector} {i : Fin 9}
    (hhost : s.host.Compatible sdk) (h : Presents s sel (startAsDai i 1)) :
    s.ShowsStream sdk (some 1) "DAIx " "ETHx" :=
  h.showsStream hhost (fun _ hf => (startAsDai_lt hf).1) (allOk_startAsDai hhost h)
    (e := contractAddressCollection.get ⟨0, by decide⟩) (List.get_mem _ _) rfl

end Ricochet
