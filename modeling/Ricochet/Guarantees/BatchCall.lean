import Ricochet.Guarantees.CallAgreement

/-!
# `batchCall`, end to end

A canonical batch whose last operation starts or updates a stream towards an exchange contract is
parsed to its end and shown as that operation, whatever the operations before it
(`batchCall_shown`).
-/

namespace Ricochet

open CLib Abi

variable {sdk : EthPluginSdk}

/-- The session of a canonical `batchCall`. -/
def batchCallSession (host : Host) (memory : Context) (operations : List Operation) : Session :=
  ⟨host, memory, batchCallSelector, toWords (encodeBatchCall operations)⟩

theorem words_batchCallSession (host : Host) (memory : Context) (operations : List Operation) :
    (batchCallSession host memory operations).words = toWords (encodeBatchCall operations) := rfl

theorem presents_batchCallSession (host : Host) (memory : Context) (operations : List Operation)
    (operationType : ℕ) (target : Address) (call : CfaCall) (userData : List UInt8)
    (hlast : lastOffset operations < 65536) (hrate : call.flowRate?.isSome) :
    Presents (batchCallSession host memory (operations ++
      [⟨operationType, target, encodeCallAgreementData call.encode userData⟩]))
      .batchCall call where
  selector := rfl
  isStream := Or.inr rfl
  carries := carries_encodeBatchCall operations operationType target call userData hlast
  hasRate := fun _ => hrate

/-- Every list of operations before the last one, whatever they are, as long as the offset of the
last is below 65536; every token, context and user data; every exchange contract and every rate that
can be shown. -/
theorem batchCall_shown (sdk : EthPluginSdk) (host : Host) (hhost : host.Compatible sdk)
    (memory : Context) (operations : List Operation) (operationType : ℕ) (target : Address)
    (call : CfaCall) (userData : List UInt8) (hlast : lastOffset operations < 65536)
    (e : ContractAddressTicker) (he : e ∈ contractAddressCollection)
    (hreceiver : call.receiver = e.contractAddress)
    (f : ℕ) (hf : call.flowRate? = some f) (hrate : f * 2592000 < 2 ^ 64) :
    let s := batchCallSession host memory (operations ++
      [⟨operationType, target, encodeCallAgreementData call.encode userData⟩])
    s.AllOk sdk ∧
      (s.final sdk).nextParam = .none ∧
      (s.final sdk).contractAddressSent = call.token ∧
      (s.final sdk).contractAddressReceived = e.contractAddress ∧
      (s.contractId sdk).version = strlcpy host.version call.method.methodName host.versionLength ∧
      s.ShowsStream sdk (some f) e.tickerSent e.tickerReceived := by
  intro s
  have hs : Presents s .batchCall call :=
    presents_batchCallSession host memory operations operationType target call userData hlast
      (by rw [hf]; rfl)
  have hrate' : ∀ g, call.flowRate? = some g → g * 2592000 < 2 ^ 64 := by
    intro g hg
    obtain rfl := Option.some.inj (hf.symm.trans hg)
    exact hrate
  have hword : ∀ g, call.flowRate? = some g → g < 256 ^ 32 := by
    intro g hg
    have := hrate' g hg
    omega
  have hok : s.AllOk sdk := (hs.allOk_iff hhost hword).mpr hrate'
  have hshows := hs.showsStream hhost hword hok he hreceiver
  obtain ⟨a, t, t', hfinal⟩ := Session.exists_final_eq hhost hs.isStream hs.selector
  refine ⟨hok, ?_, ?_, ?_, hs.version hhost, by rwa [hf] at hshows⟩
  · rw [hfinal]
    exact hs.nextParam hhost
  · rw [hfinal]
    exact hs.token_batchCall hhost
  · rw [hfinal, ← hreceiver]
    exact hs.receiver hhost

/-- One operation before the stream, of another size. -/
theorem batchCall_shown_start :
    (batchCallSession (referenceHost (zeros 20)) Context.zero ([⟨1, zeros 20, [1, 2, 3]⟩] ++
      [⟨201, zeros 20, encodeCallAgreementData (startAsDai 0 1).encode []⟩])).ShowsStream
        referenceSdk
        (some 1) "DAIx " "ETHx" :=
  (batchCall_shown referenceSdk (referenceHost (zeros 20)) (referenceHost_compatible _)
    Context.zero [⟨1, zeros 20, [1, 2, 3]⟩] 201 (zeros 20) (startAsDai 0 1) []
    (by rw [lastOffset]; simp [length_encode_operation])
    (contractAddressCollection.get ⟨0, by decide⟩) (List.get_mem _ _) rfl 1 rfl
    (by decide)).2.2.2.2.2

end Ricochet
