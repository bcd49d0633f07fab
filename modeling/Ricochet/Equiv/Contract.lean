import Mathlib.Data.List.Nodup
import Ricochet.Plugin.Contract

/-!
# The tables

A loop over a table that stops at the first entry with a given key is `List.find?`.  When the keys
of the table are distinct the entry found is the only one with its key, whatever the order of the
table (`KeyedTable.lookup_eq_some_iff`).

Keys are distinct in every table, so each of the plugin's loops finds the one entry with the key it
looks for (`lookupContract_eq_some_iff`, `lookupMethod_eq_some_iff`,
`lookupSuperToken_eq_some_iff`). No exchange contract has the zero address, which stands for an
address not parsed, or the dummy address of the chain's token, for which the application provides no
token information.  Every text of the tables fits the buffer it is copied to.
-/

namespace KeyedTable

variable {α κ : Type*} [DecidableEq κ] {key : α → κ} {table : List α}

/-- The first entry of the table with key `k`. -/
def lookup (key : α → κ) (table : List α) (k : κ) : Option α := table.find? fun a => key a = k

theorem lookup_eq_some_iff (hnodup : (table.map key).Nodup) {k : κ} {a : α} :
    lookup key table k = some a ↔ a ∈ table ∧ key a = k := by
  constructor
  · intro h
    exact ⟨List.mem_of_find?_eq_some h, by simpa using List.find?_some h⟩
  · rintro ⟨ha, rfl⟩
    cases hfind : lookup key table (key a) with
    | none =>
      have := List.find?_eq_none.mp hfind a ha
      simp at this
    | some b =>
      have hb : b ∈ table := List.mem_of_find?_eq_some hfind
      have hkey : key b = key a := by simpa using List.find?_some hfind
      rw [List.inj_on_of_nodup_map hnodup hb ha hkey]

theorem lookup_eq_none_iff {k : κ} : lookup key table k = none ↔ ∀ a ∈ table, key a ≠ k := by
  simp [lookup, List.find?_eq_none]

end KeyedTable

namespace Ricochet

open CLib KeyedTable

/-- The exchange contract with an address. -/
def lookupContract (a : Address) : Option ContractAddressTicker :=
  lookup ContractAddressTicker.contractAddress contractAddressCollection a

/-- The inner method with a selector. -/
def lookupMethod (m : Buffer 4) : Option CfaMethod := lookup CfaMethod.method cfaMethodCollection m

/-- The super token with an address. -/
def lookupSuperToken (a : Address) : Option SuperTokenTicker :=
  lookup SuperTokenTicker.superTokenAddress superTokenCollection a

/-- The `method_id` a parser keeps for an inner selector: that of its method, and the one of the
cleared context when there is none. -/
def methodIdOf (m : Buffer 4) : UInt8 := ((lookupMethod m).map CfaMethod.methodId).getD startStream

set_option maxRecDepth 4000 in
theorem nodup_contractAddress :
    (contractAddressCollection.map ContractAddressTicker.contractAddress).Nodup := by decide

theorem nodup_method : (cfaMethodCollection.map CfaMethod.method).Nodup := by decide

set_option maxRecDepth 4000 in
theorem nodup_superTokenAddress :
    (superTokenCollection.map SuperTokenTicker.superTokenAddress).Nodup := by decide

theorem lookupContract_eq_some_iff {a : Address} {e : ContractAddressTicker} :
    lookupContract a = some e ↔ e ∈ contractAddressCollection ∧ e.contractAddress = a :=
  lookup_eq_some_iff nodup_contractAddress

theorem lookupContract_eq_none_iff {a : Address} :
    lookupContract a = none ↔ ∀ e ∈ contractAddressCollection, e.contractAddress ≠ a :=
  lookup_eq_none_iff

theorem lookupMethod_eq_some_iff {m : Buffer 4} {e : CfaMethod} :
    lookupMethod m = some e ↔ e ∈ cfaMethodCollection ∧ e.method = m :=
  lookup_eq_some_iff nodup_method

theorem lookupMethod_eq_none_iff {m : Buffer 4} :
    lookupMethod m = none ↔ ∀ e ∈ cfaMethodCollection, e.method ≠ m :=
  lookup_eq_none_iff

theorem lookupSuperToken_eq_some_iff {a : Address} {e : SuperTokenTicker} :
    lookupSuperToken a = some e ↔ e ∈ superTokenCollection ∧ e.superTokenAddress = a :=
  lookup_eq_some_iff nodup_superTokenAddress

theorem lookupContract_contractAddress {e : ContractAddressTicker}
    (he : e ∈ contractAddressCollection) : lookupContract e.contractAddress = some e :=
  lookupContract_eq_some_iff.mpr ⟨he, rfl⟩

/-- An address that was never parsed is no exchange contract. -/
@[simp]
theorem lookupContract_zeros : lookupContract (zeros 20) = none := by decide

/-- The dummy address of the chain's token is no exchange contract. -/
@[simp]
theorem lookupContract_ricochetEthAddress : lookupContract ricochetEthAddress = none := by decide

theorem length_ticker_lt_of_mem {e : ContractAddressTicker} (he : e ∈ contractAddressCollection) :
    e.tickerSent.length < 8 ∧ e.tickerReceived.length < 8 := by
  have h : ∀ e ∈ contractAddressCollection,
      e.tickerSent.length < 8 ∧ e.tickerReceived.length < 8 := by
    decide
  exact h e he

theorem length_superTicker_lt_of_mem {t : SuperTokenTicker} (ht : t ∈ superTokenCollection) :
    t.tickerToken.length < 8 ∧ t.tickerSuperToken.length < 8 := by
  have h : ∀ t ∈ superTokenCollection,
      t.tickerToken.length < 8 ∧ t.tickerSuperToken.length < 8 := by
    decide
  exact h t ht

/-! ### The selectors -/

/-- A selector of a stream operation. -/
def Selector.IsStream (sel : Selector) : Prop := sel = .callAgreement ∨ sel = .batchCall

instance (sel : Selector) : Decidable sel.IsStream := inferInstanceAs (Decidable (_ ∨ _))

theorem Selector.isStream_callAgreement : Selector.IsStream .callAgreement := Or.inl rfl

theorem Selector.isStream_batchCall : Selector.IsStream .batchCall := Or.inr rfl

/-! ### The inner methods -/

theorem methodIdOf_of_mem {m : CfaMethod} (hm : m ∈ cfaMethodCollection) :
    methodIdOf m.method = m.methodId := by
  rw [methodIdOf, lookupMethod_eq_some_iff.mpr ⟨hm, rfl⟩]
  rfl

theorem methodIdOf_of_lookup_eq_none {m : Buffer 4} (h : lookupMethod m = none) :
    methodIdOf m = startStream := by
  rw [methodIdOf, h]
  rfl

/-- The kept method is one of the three. -/
theorem methodIdOf_mem (m : Buffer 4) :
    methodIdOf m = startStream ∨ methodIdOf m = updateStream ∨ methodIdOf m = stopStream := by
  cases h : lookupMethod m with
  | none => exact Or.inl (methodIdOf_of_lookup_eq_none h)
  | some e =>
    obtain ⟨he, rfl⟩ := lookupMethod_eq_some_iff.mp h
    rw [methodIdOf_of_mem he]
    have hall : ∀ e ∈ cfaMethodCollection,
        e.methodId = startStream ∨ e.methodId = updateStream ∨ e.methodId = stopStream := by decide
    exact hall e he

@[simp]
theorem methodIdOf_zeros : methodIdOf (zeros 4) = startStream := by decide

/-! ### The tickers -/

/-- The texts of the tables. -/
def tickers : List String :=
  superTokenCollection.flatMap (fun t => [t.tickerToken, t.tickerSuperToken]) ++
    contractAddressCollection.flatMap fun e => [e.tickerSent, e.tickerReceived]

/-- The last row of the super tokens has no texts. -/
theorem empty_mem_tickers : "" ∈ tickers := by decide

theorem superTicker_mem_tickers {t : SuperTokenTicker} (ht : t ∈ superTokenCollection) :
    t.tickerToken ∈ tickers ∧ t.tickerSuperToken ∈ tickers := by
  constructor
  · exact List.mem_append_left _ (List.mem_flatMap.mpr ⟨t, ht, by simp⟩)
  · exact List.mem_append_left _ (List.mem_flatMap.mpr ⟨t, ht, by simp⟩)

theorem ticker_mem_tickers {e : ContractAddressTicker} (he : e ∈ contractAddressCollection) :
    e.tickerSent ∈ tickers ∧ e.tickerReceived ∈ tickers := by
  constructor
  · exact List.mem_append_right _ (List.mem_flatMap.mpr ⟨e, he, by simp⟩)
  · exact List.mem_append_right _ (List.mem_flatMap.mpr ⟨e, he, by simp⟩)

end Ricochet
