import Ricochet.Plugin.Session

/-!
# `handle_init_contract`

`init_eq_of_selector`: in a compatible application, a known selector gives a cleared, valid context
with the selector's index and the first parameter to parse.  `init_ok_iff`: no other call is
accepted.  `prepareResults_ok`: which calls of a session have to be accepted before it displays
anything.
-/

namespace Ricochet

open CLib

namespace Selector

/-- The four bytes of a selector. -/
def bytes : Selector → Buffer 4
  | downgrade => downgradeSelector
  | downgradeToEth => downgradeToEthSelector
  | callAgreement => callAgreementSelector
  | upgrade => upgradeSelector
  | upgradeToEth => upgradeToEthSelector
  | batchCall => batchCallSelector

/-- The first parameter to parse. -/
def firstParam : Selector → Param
  | downgrade | downgradeToEth | upgrade => .amount
  | upgradeToEth => .none
  | callAgreement => .agreementClass
  | batchCall => .pathOffset

theorem findIdx?_bytes (sel : Selector) :
    ricochetSelectors.findIdx? (fun selector => selector = sel.bytes) = some sel.index.toNat := by
  cases sel <;> decide

/-- No two selectors share their bytes. -/
theorem bytes_injective : Function.Injective bytes := by
  intro sel sel' h
  have hfind := findIdx?_bytes sel
  rw [h, findIdx?_bytes sel', Option.some.injEq] at hfind
  exact (index_injective (UInt8.toNat_inj.mp hfind)).symm

theorem exists_of_findIdx? {b : Buffer 4} {i : ℕ}
    (h : ricochetSelectors.findIdx? (fun selector => selector = b) = some i) :
    ∃ sel : Selector, b = sel.bytes := by
  obtain ⟨hi, hb, -⟩ := List.findIdx?_eq_some_iff_getElem.mp h
  have hall : ricochetSelectors = all.map bytes := rfl
  have hmem : b ∈ ricochetSelectors := of_decide_eq_true hb ▸ List.getElem_mem hi
  rw [hall] at hmem
  obtain ⟨sel, -, hsel⟩ := List.mem_map.mp hmem
  exact ⟨sel, hsel.symm⟩

end Selector

namespace Session

variable {s : Session} {sdk : EthPluginSdk}

/-- The context a session starts from. -/
def initial (host : Host) (sel : Selector) : Context :=
  { Context.zero with
    valid := 1
    selectorIndex := sel.index
    nextParam := sel.firstParam
    amount := if sel = .upgradeToEth then host.txContent.value else zeros 32 }

theorem init_eq_of_selector (hhost : s.host.Compatible sdk) {sel : Selector}
    (hsel : s.selector = sel.bytes) :
    s.init sdk = ({ s.host.initMsg s.selector with result := .ok }, initial s.host sel) := by
  have hver : ¬ (s.host.initMsg s.selector).interfaceVersion ≠ sdk.interfaceVersionLatest :=
    fun h => h hhost.interfaceVersion_eq
  have hsize : ¬ (s.host.initMsg s.selector).pluginContextLength < sdk.sizeofContext :=
    Nat.not_lt.mpr hhost.sizeofContext_le
  have hfind : ricochetSelectors.findIdx?
      (fun selector => selector = (s.host.initMsg s.selector).selector) = some sel.index.toNat := by
    rw [show (s.host.initMsg s.selector).selector = sel.bytes from hsel]
    exact sel.findIdx?_bytes
  rw [init, handleInitContract, if_neg hver, if_neg hsize, hfind]
  -- the one selector whose amount is not among the arguments
  cases sel with
  | upgradeToEth =>
    simp only [Selector.index, handleAmountValue, sdk.copyParameter_eq]
    rfl
  | _ => rfl

theorem init_ok_iff :
    (s.init sdk).1.result = .ok ↔
      s.host.Compatible sdk ∧ ∃ sel : Selector, s.selector = sel.bytes := by
  constructor
  · intro h
    rw [init, handleInitContract] at h
    by_cases hver : (s.host.initMsg s.selector).interfaceVersion ≠ sdk.interfaceVersionLatest
    · rw [if_pos hver] at h
      cases h
    rw [if_neg hver] at h
    by_cases hsize : (s.host.initMsg s.selector).pluginContextLength < sdk.sizeofContext
    · rw [if_pos hsize] at h
      cases h
    rw [if_neg hsize] at h
    refine ⟨⟨not_not.mp hver, Nat.le_of_not_lt hsize⟩, ?_⟩
    cases hfind : ricochetSelectors.findIdx?
        (fun selector => selector = (s.host.initMsg s.selector).selector) with
    | none =>
      rw [hfind] at h
      cases h
    | some i => exact Selector.exists_of_findIdx? hfind
  · rintro ⟨hhost, sel, hsel⟩
    rw [init_eq_of_selector hhost hsel]

/-! ### The results before the display -/

/-- Token information is never refused. -/
theorem provideInfo_ok (s : Session) (sdk : EthPluginSdk) :
    ∀ r ∈ ((s.provideInfo sdk).1.map (·.result)).toList, r = .ok := by
  rw [provideInfo]
  split_ifs
  · simp [handleProvideToken]
  · simp

theorem prepareResults_ok (hinit : (s.init sdk).1.result = .ok)
    (hparams : ∀ m ∈ s.parameterReplies sdk, m.result = .ok)
    (hfinal : (s.finalize sdk).result = .ok) : ∀ r ∈ s.prepareResults sdk, r = .ok := by
  intro r hr
  simp only [prepareResults, parseResults, List.mem_append, List.mem_cons, List.not_mem_nil,
    or_false] at hr
  rcases hr with ((rfl | hr) | rfl) | hr
  · exact hinit
  · obtain ⟨m, hm, rfl⟩ := List.mem_map.mp hr
    exact hparams m hm
  · exact hfinal
  · exact provideInfo_ok s sdk r hr

end Session

end Ricochet
