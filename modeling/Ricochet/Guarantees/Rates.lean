import Ricochet.Guarantees.Layout
import Ricochet.Guarantees.Receiver
import Ricochet.Guarantees.Token
import Ricochet.Superfluid.Decode

/-!
# The rates that can be displayed

The protocol admits rates of up to 95 bits and the field of the rate has 256, but the sending screen
computes the rate per month in 64.  It refuses a rate whose month does not fit, with its text left
empty, and shows every other one (`rate_displayed_iff`).

A batch is one that the parser finds the last operation of.  It keeps two bytes of the last offset,
so of a batch that is larger than that it lands short of the last operation; `carries_of_wrapped` is
the case in which it lands on the first one, and `longOperation` fills a batch of two up to that
size.
-/

namespace Ricochet

open CLib Abi

variable {s : Session} {sdk : EthPluginSdk} {sel : Selector} {call : CfaCall}

/-- The sending screen of an operation with a rate, towards an exchange contract. -/
theorem Presents.screen0_eq (h : Presents s sel call) (hhost : s.host.Compatible sdk) {f : ℕ}
    (hf : call.flowRate? = some f) (hlt : f < 256 ^ 32) {e : ContractAddressTicker}
    (he : e ∈ contractAddressCollection) (hreceiver : call.receiver = e.contractAddress) :
    s.screen0 sdk =
      if f * 2592000 < 2 ^ 64 then
        ({ s.host.uiMsg 0 with
            title := strlcpy "" "From" s.host.titleLength
            msg := s.host.fromText sdk e.tickerSent (some f)
            result := .ok },
          { s.ready sdk with tickerSent := e.tickerSent, amount := beBytes 32 (f * 2592000) })
      else
        ({ s.host.uiMsg 0 with
            title := strlcpy "" "From" s.host.titleLength
            result := .error },
          { s.ready sdk with tickerSent := e.tickerSent }) := by
  have hrate : s.HasRate sel := h.hasRate_iff.mpr (by rw [hf]; rfl)
  have hticker : tickerSentOf (receiverOf sel (s.parsed sdk)) = e.tickerSent := by
    rw [h.receiver hhost, hreceiver, tickerSentOf, lookupContract_contractAddress he]
    rfl
  rw [Session.screen0_of_hasRate hhost h.isStream h.selector hrate, h.rate hf hlt, hticker]
  rfl

/-- Every canonical session that carries a rate the protocol admits, towards every exchange
contract. -/
theorem rate_displayed_iff (s : Session) (sdk : EthPluginSdk) (sel : Selector) (call : CfaCall)
    (h : CanonicalStream s sel call) (hhost : s.host.Compatible sdk) (f : ℕ)
    (hf : call.flowRate? = some f) (e : ContractAddressTicker)
    (he : e ∈ contractAddressCollection) (hreceiver : call.receiver = e.contractAddress) :
    ((s.screen0 sdk).1.result = .ok ↔ f * 2592000 < 2 ^ 64) ∧
    (f * 2592000 < 2 ^ 64 →
      (s.screen0 sdk).1.msg = s.host.fromText sdk e.tickerSent (some f) ∧
        beNat (s.screen0 sdk).2.amount.toList = f * 2592000) ∧
    (¬ f * 2592000 < 2 ^ 64 →
      (s.screen0 sdk).1.result = .error ∧ (s.screen0 sdk).1.msg = "" ∧
        (s.screen0 sdk).2.amount = (s.ready sdk).amount) := by
  have hscreen := h.presents.screen0_eq hhost hf (h.valid.lt_word f hf) he hreceiver
  by_cases hfit : f * 2592000 < 2 ^ 64
  · rw [if_pos hfit] at hscreen
    rw [hscreen]
    refine ⟨iff_of_true rfl hfit, ?_, fun hover => absurd hfit hover⟩
    intro _
    exact ⟨rfl, beNat_beBytes_of_lt (hfit.trans (by decide))⟩
  · rw [if_neg hfit] at hscreen
    rw [hscreen]
    refine ⟨iff_of_false (fun hok => by cases hok) hfit, fun hlt => absurd hlt hfit, ?_⟩
    intro _
    exact ⟨rfl, rfl, rfl⟩

theorem rate_displayed_dai :
    ((callAgreementSession (referenceHost (zeros 20)) Context.zero (zeros 20)
      (startAsDai 0 1).encode []).screen0 referenceSdk).1.result = .ok := by
  have h := rate_displayed_iff _ referenceSdk .callAgreement (startAsDai 0 1)
    (canonicalStream_startAsDai 0) (referenceHost_compatible _) 1 rfl
    (contractAddressCollection.get ⟨0, by decide⟩) (List.get_mem _ _) rfl
  exact h.1.mpr (by decide)

/-! ### A last offset of more than two bytes -/

/-- The parser of `batchCall` reads the call from the first operation's data when the last offset,
as far as it is kept, is that of the first operation. -/
theorem carries_of_wrapped (first : Operation) (operations : List Operation) (last : Operation)
    (call : CfaCall) {pre post : List UInt8} (hpre : pre.length = 96)
    (hdata : first.data = pre ++ (call.encode ++ post)) (hcount : operations.length + 2 < 65536)
    (hwrap : lastOffset (first :: operations) % 65536 = 32 * (operations.length + 2)) :
    CarriesCall (innerWords .batchCall
      (toWords (encodeBatchCall (first :: operations ++ [last])))) call := by
  obtain ⟨pre', post', hpre', hencode⟩ := encode_operation_split first
  have hland := landing_encodeBatchCall_mod (first :: operations) last
    (by rw [List.length_cons]; omega) (by rw [hwrap, List.length_cons])
  have hword : lastOffset (first :: operations) % 65536 / 32 + 2 = operations.length + 4 := by omega
  have hpos : 64 + 32 * (operations.length + 2) = 32 * (operations.length + 4) := by omega
  have hdrop := drop_encodeBatchCall_first (operations ++ [last]) first
  rw [List.length_append, List.length_singleton, hpos, hencode, hdata, List.append_assoc,
    List.append_assoc, List.append_assoc, List.append_assoc, ← List.append_assoc pre'] at hdrop
  rw [innerWords, batchCallInner_of_landing hland, hword, List.cons_append]
  exact carriesCall_of_drop hdrop (by rw [List.length_append, hpre, hpre'])

/-- An operation with enough user data for the next one to be `65536` bytes after it, but for the
table of a batch of two. -/
def longOperation (operationType : ℕ) (target : Address) (callData : List UInt8) : Operation :=
  ⟨operationType, target, encodeCallAgreementData callData (List.replicate 65088 0)⟩

theorem lastOffset_longOperation (operationType : ℕ) (target : Address) {callData : List UInt8}
    (hlen : callData.length = 164) :
    lastOffset [longOperation operationType target callData] = 65536 + 64 := by
  simp only [lastOffset, List.length_singleton, List.map_singleton, List.sum_singleton,
    length_encode_operation, longOperation, length_encodeCallAgreementData, List.length_replicate,
    hlen]

/-- A batch of two whose second operation is not reached. -/
theorem carries_longOperation (operationType : ℕ) (target : Address) (call : CfaCall)
    (last : Operation) (hlen : call.encode.length = 164) :
    CarriesCall (innerWords .batchCall (toWords (encodeBatchCall
      ([longOperation operationType target call.encode] ++ [last])))) call := by
  obtain ⟨pre, post, hpre, hdata⟩ :=
    encodeCallAgreementData_split call.encode (List.replicate 65088 0)
  have hwrap := lastOffset_longOperation operationType target hlen
  exact carries_of_wrapped (longOperation operationType target call.encode) [] last call hpre hdata
    (by decide) (by rw [hwrap]; rfl)

/-- A batch whose second operation is too far for two bytes presents the first one. -/
theorem presents_longOperation (host : Host) (memory : Context) (operationType : ℕ)
    (target : Address) (call : CfaCall) (last : Operation) (hlen : call.encode.length = 164)
    (hrate : call.flowRate?.isSome) :
    Presents (batchCallSession host memory
      ([longOperation operationType target call.encode] ++ [last])) .batchCall call where
  selector := rfl
  isStream := Or.inr rfl
  carries := carries_longOperation operationType target call last hlen
  hasRate := fun _ => hrate

/-- The first rate that is refused, some eighteen tokens a month; and a batch whose last operation
carries a rate of two, and which shows the rate of its first operation. -/
theorem rate_refused_above_limit :
    (7116799411154 < 2 ^ 95 ∧ 7116799411154 * 2592000 < 256 ^ 32 ∧
      (startAsDai 0 7116799411154).receiver =
        (contractAddressCollection.get ⟨0, by decide⟩).contractAddress ∧
      ((startSession (startAsDai 0 7116799411154)).screen0 referenceSdk).1.result = .error) ∧
    (batchCallSession (referenceHost (zeros 20)) Context.zero
      ([longOperation 201 (zeros 20) (startAsDai 0 1).encode] ++
        [⟨201, zeros 20, encodeCallAgreementData (startAsDai 0 2).encode []⟩])).ShowsStream
          referenceSdk (some 1) "DAIx " "ETHx" := by
  have hscreen : (startSession (startAsDai 0 7116799411154)).screen0 referenceSdk = _ :=
    (presents_startSession _).screen0_eq (referenceHost_compatible _) rfl (by decide)
      (List.get_mem contractAddressCollection ⟨0, by decide⟩) rfl
  rw [if_neg (by decide)] at hscreen
  refine ⟨⟨by decide, by decide, rfl, by rw [hscreen]⟩, ?_⟩
  apply showsStream_startAsDai (referenceHost_compatible _)
  exact presents_longOperation _ _ _ _ _ _ length_startAsDai rfl

end Ricochet
