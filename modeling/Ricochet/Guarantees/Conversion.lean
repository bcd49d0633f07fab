import Ricochet.Equiv.StreamScreens
import Ricochet.Plugin.ReferenceSdk

/-!
# Rates per second and per month

The sending screens read the 32-byte rate into 64 bits, multiply, and write it back.  Reading and
writing are inverse on what fits in 64 bits, and no step of the reading wraps around
(`conversions_inverse`).  Together with the guarded product they are exact or refuse, with nothing
written, at `2 ^ 64` months (`rate_exact_or_refused`).
-/

namespace Ricochet

open CLib

variable {c : Context}

/-- Reading succeeds when the bytes fit. -/
theorem amountToDecimal_ne_none_iff (c : Context) (size : ℕ) :
    amountToDecimal c size ≠ none ↔ beNat (c.amount.toList.take size) < 2 ^ 64 := by
  rw [amountToDecimal_eq]
  split_ifs with hfit
  · exact iff_of_true (by simp) hfit
  · exact iff_of_false (by simp) hfit

/-- What reading gives is the value of the bytes. -/
theorem toNat_of_amountToDecimal {size : ℕ} {value : UInt64}
    (h : amountToDecimal c size = some value) :
    value.toNat = beNat (c.amount.toList.take size) := by
  rw [amountToDecimal_eq] at h
  split_ifs at h with hfit
  obtain rfl := Option.some.inj h
  rw [UInt64.toNat_ofNat', Nat.mod_eq_of_lt hfit]

theorem take_amount (c : Context) : c.amount.toList.take 32 = c.amount.toList :=
  List.take_of_length_le (by simp)

/-- What was written is read back. -/
theorem amountToDecimal_decimalToAmount (value : UInt64) (c : Context) :
    amountToDecimal (decimalToAmount value c) 32 = some value := by
  have hlt := value.toNat_lt
  have hvalue : beNat (decimalToAmount value c).amount.toList = value.toNat := by
    rw [decimalToAmount_eq]
    exact beNat_beBytes_of_lt (hlt.trans (by decide))
  rw [amountToDecimal_eq, take_amount, hvalue, if_pos hlt, UInt64.ofNat_toNat]

/-- What was read is written back. -/
theorem decimalToAmount_of_amountToDecimal {value : UInt64}
    (h : amountToDecimal c 32 = some value) : decimalToAmount value c = c := by
  have hvalue := toNat_of_amountToDecimal h
  rw [take_amount] at hvalue
  rw [decimalToAmount_eq, hvalue, beBytes_beNat]

/-- Every amount, every size, every 64-bit value. -/
theorem conversions_inverse (c : Context) (size : ℕ) (hsize : size ≤ 32) (v : UInt64) :
    (amountToDecimal c size ≠ none ↔ beNat (c.amount.toList.take size) < 2 ^ 64) ∧
    (∀ value, amountToDecimal c size = some value →
      value.toNat = beNat (c.amount.toList.take size)) ∧
    (∀ i (hi : i < size) value, amountToDecimal c i = some value →
      ¬ value > .ofNat ((2 ^ 64 - 1) / 256) →
        amountToDecimal c (i + 1) = some (value * 256 + c.amount[i].toUInt64) ∧
        value.toNat * 256 + c.amount[i].toNat < 2 ^ 64) ∧
    (decimalToAmount v c).amount = decimalToAmountLoop v (zeros 32) 0 ∧
    (∀ (amount : Buffer 32) j (hj : j < 24), (decimalToAmountLoop v amount 0)[j] = amount[j]) ∧
    amountToDecimal (decimalToAmount v c) 32 = some v ∧
    (beNat c.amount.toList < 2 ^ 64 →
      ∃ value, amountToDecimal c 32 = some value ∧ decimalToAmount value c = c) := by
  refine ⟨amountToDecimal_ne_none_iff c size, fun value => toNat_of_amountToDecimal, ?_, rfl, ?_,
    amountToDecimal_decimalToAmount v c, ?_⟩
  · intro i hi value hvalue hguard
    refine ⟨?_, mul_add_lt_of_not_gt hguard _⟩
    rw [amountToDecimal_succ c (by omega), hvalue, Option.bind_some, if_neg hguard]
  · -- eight bytes are enough for 64 bits
    intro amount j hj
    apply getElem_decimalToAmountLoop_of_lt 7
    · exact v.toNat_lt
    · omega
  · intro hfit
    rw [← take_amount, ← amountToDecimal_ne_none_iff] at hfit
    obtain ⟨value, hvalue⟩ := Option.ne_none_iff_exists'.mp hfit
    exact ⟨value, hvalue, decimalToAmount_of_amountToDecimal hvalue⟩

/-- A value with a zero byte between two others. -/
theorem conversions_inverse_interior_zero :
    amountToDecimal (decimalToAmount 0x010001 Context.zero) 32 = some 0x010001 :=
  (conversions_inverse Context.zero 32 (Nat.le_refl 32) 0x010001).2.2.2.2.2.1

/-- Every context whose sending screen has a rate to show, of whatever value. -/
theorem rate_exact_or_refused (sdk : EthPluginSdk) (msg : EthQueryContractUI) (c : Context)
    (hrate : c.selectorIndex = Selector.callAgreement.index ∧ c.methodId ≠ stopStream ∨
      c.selectorIndex = Selector.batchCall.index)
    (hindex : msg.screenIndex = 0) :
    let month := beNat c.amount.toList * 2592000
    let r := handleQueryContractUi sdk msg c
    (r.1.result = .ok ↔ month < 2 ^ 64) ∧
    (month < 2 ^ 64 →
      r.2.amount = beBytes 32 month ∧ beNat r.2.amount.toList = month ∧
        r.1.msg = strlcat (sdk.amountToString r.2.amount.toList defaultDecimal r.2.tickerSent
          msg.msgLength) " per month" msg.msgLength) ∧
    (¬ month < 2 ^ 64 → r.1.result = .error ∧ r.2.amount = c.amount ∧ r.1.msg = "") ∧
    ∃ amount ticker, r.2 = { c with amount := amount, tickerSent := ticker } := by
  intro month r
  obtain ⟨sel, hsel, hshows⟩ : ∃ sel : Selector, c.selectorIndex = sel.index ∧ ShowsRate sel c := by
    rcases hrate with ⟨hsel, hid⟩ | hsel
    · exact ⟨.callAgreement, hsel, Or.inr ⟨rfl, hid⟩⟩
    · exact ⟨.batchCall, hsel, Or.inl rfl⟩
  have hscreen : r = _ := screen0_eq_of_rate hsel hshows hindex
  by_cases hfit : month < 2 ^ 64
  · rw [if_pos hfit] at hscreen
    rw [hscreen]
    refine ⟨iff_of_true rfl hfit, ?_, fun hover => absurd hfit hover, _, _, rfl⟩
    intro _
    exact ⟨rfl, beNat_beBytes_of_lt (hfit.trans (by decide)), rfl⟩
  · rw [if_neg hfit] at hscreen
    rw [hscreen]
    refine ⟨iff_of_false (fun hok => by cases hok) hfit, fun h => absurd h hfit, ?_, _, _, rfl⟩
    intro _
    exact ⟨rfl, rfl, rfl⟩

/-- The largest rate that can be shown, in a batch. -/
theorem rate_exact_at_limit :
    (handleQueryContractUi referenceSdk ((referenceHost (zeros 20)).uiMsg 0)
      { Context.zero with
        selectorIndex := Selector.batchCall.index
        amount := beBytes 32 7116799411153 }).1.result = .ok := by
  have hvalue : beNat (beBytes 32 7116799411153).toList = 7116799411153 :=
    beNat_beBytes_of_lt (by decide)
  refine (rate_exact_or_refused referenceSdk ((referenceHost (zeros 20)).uiMsg 0) _ (Or.inr rfl)
    rfl).1.mpr ?_
  rw [hvalue]
  decide

end Ricochet
