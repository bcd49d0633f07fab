import Ricochet.Equiv.StreamSession
import Ricochet.Plugin.ReferenceSdk

/-!
# The end of the arguments

`ETH_PLUGIN_FINALIZE` refuses a context that is not `valid`, and nothing ever clears `valid`, so it
accepts any calldata.  What it accepts has been parsed completely exactly when the calldata carries
the inner call where the parser looks for it (`finalize_complete_iff`).
-/

namespace Ricochet

open CLib Abi

/-- The calldata goes on to the end of the inner call: for `callAgreement` it has eight words, for
`batchCall` the parser's jumps land and eleven words follow. -/
def CarriesInnerCall : Selector → List Word → Prop
  | .callAgreement, ws => 8 ≤ ws.length
  | .batchCall, ws => ∃ e, landing ws = some e ∧ e + 11 ≤ ws.length
  | _, _ => False

theorem carriesInnerCall_iff {sel : Selector} (hstream : sel.IsStream) (ws : List Word) :
    CarriesInnerCall sel ws ↔ 4 ≤ (innerWords sel ws).length := by
  rcases hstream with rfl | rfl
  · rw [CarriesInnerCall, innerWords, List.length_drop]
    omega
  · rw [CarriesInnerCall, innerWords, batchCallInner]
    cases landing ws with
    | none => simp
    | some e =>
      rw [Option.elim_some, List.length_drop]
      constructor
      · rintro ⟨e', he, hlen⟩
        obtain rfl := Option.some.inj he
        omega
      · intro hlen
        exact ⟨e, rfl, by omega⟩

namespace Session

/-- Parsing has completed, and what the screens depend on was written whole from bytes of the
calldata: the method, the receiver, and the rate where it is shown. -/
structure FullyParsed (s : Session) (sdk : EthPluginSdk) (sel : Selector) : Prop where
  nextParam : (s.parsed sdk).nextParam = .none
  written : ∃ p, p + 128 ≤ (bytesOf s.words).length ∧
    (s.parsed sdk).methodCfa.toList = ((bytesOf s.words).drop p).take 4 ∧
    (receiverOf sel (s.parsed sdk)).toList =
      ((bytesOf s.words).drop (p + if s.HasRate sel then 48 else 80)).take 20 ∧
    (s.HasRate sel → (s.parsed sdk).amount.toList = ((bytesOf s.words).drop (p + 68)).take 32)

variable {s : Session} {sdk : EthPluginSdk} {sel : Selector}

/-- A parser that has come to its end has read the inner call whole. -/
theorem fullyParsed_of_length (hhost : s.host.Compatible sdk) (hstream : sel.IsStream)
    (hsel : s.selector = sel.bytes) (hlen : 4 ≤ (innerWords sel s.words).length) :
    s.FullyParsed sdk sel := by
  have h := streamParsed hhost hstream hsel
  have hne : innerWords sel s.words ≠ [] := by
    intro hnil
    rw [hnil] at hlen
    exact absurd hlen (by decide)
  obtain ⟨b, hb⟩ := exists_innerWords_eq_drop hne
  have hend : 32 * b + 128 ≤ 32 * s.words.length := by
    rw [hb, List.length_drop] at hlen
    omega
  have hslice : ∀ {p n : ℕ}, p + n ≤ 128 → (window (innerWords sel s.words) p n).toList =
      ((bytesOf s.words).drop (32 * b + p)).take n := by
    intro p n hpn
    rw [hb, window_drop, toList_window (by omega)]
  refine ⟨h.nextParam.mpr hlen, 32 * b, by rwa [length_bytesOf], ?_, ?_, fun _ => ?_⟩
  · rw [h.methodCfa, hslice (by decide), Nat.add_zero]
  · rw [receiverOf_parsed hhost hstream hsel hlen, hslice (by split_ifs <;> decide)]
  · rw [h.amount, hslice (by decide)]

/-- The end of the arguments is accepted only after a complete parse exactly when the calldata
carries the inner call. -/
theorem finalize_complete_iff (s : Session) (sdk : EthPluginSdk) (sel : Selector)
    (hhost : s.host.Compatible sdk) (hstream : sel.IsStream) (hsel : s.selector = sel.bytes) :
    ((s.finalize sdk).result = .ok → s.FullyParsed sdk sel) ↔ CarriesInnerCall sel s.words := by
  rw [carriesInnerCall_iff hstream]
  constructor
  · intro h
    have hparsed := h (finalize_ok hhost hstream hsel)
    exact (streamParsed hhost hstream hsel).nextParam.mp hparsed.nextParam
  · intro hlen _
    exact fullyParsed_of_length hhost hstream hsel hlen

/-- Calldata of `callAgreement`, in a transaction to no contract of the tables. -/
def callAgreementWith (words : List Word) : Session :=
  ⟨referenceHost (zeros 20), Context.zero, callAgreementSelector, words⟩

theorem finalize_complete_of_eight_words :
    (callAgreementWith (List.replicate 8 (zeros 32))).FullyParsed referenceSdk .callAgreement :=
  (finalize_complete_iff (callAgreementWith (List.replicate 8 (zeros 32))) referenceSdk
    .callAgreement (referenceHost_compatible _) (Or.inl rfl) rfl).mpr
    (show 8 ≤ (List.replicate 8 (zeros 32)).length by decide)
    (finalize_ok (referenceHost_compatible _) Selector.isStream_callAgreement rfl)

/-- Calldata without a word is accepted. -/
theorem finalize_incomplete_of_no_words :
    ((callAgreementWith []).finalize referenceSdk).result = .ok ∧
      ((callAgreementWith []).parsed referenceSdk).nextParam ≠ .none := by
  refine ⟨finalize_ok (referenceHost_compatible _) Selector.isStream_callAgreement rfl, ?_⟩
  have hselector : (callAgreementWith []).selector = Selector.bytes .callAgreement := rfl
  rw [parsed, init_eq_of_selector (referenceHost_compatible _) hselector]
  decide

end Session

end Ricochet
