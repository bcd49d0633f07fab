import Ricochet.Plugin.HandleQueryContractUi

/-!
# The conversion of the sending screens

`amountToDecimal` reads a big-endian amount into 64 bits and refuses one that does not fit
(`amountToDecimal_eq`); `decimalToAmount` writes 64 bits back (`decimalToAmount_eq`).  Together with
the guarded product they turn a rate per second into a rate per month, or refuse it, exactly at
`2 ^ 64` (`showRatePerMonth_eq`).
-/

namespace Ricochet

open CLib

variable {sdk : EthPluginSdk}

/-! ### Reading -/

/-- The guard of the loop asks whether one more byte would not fit. -/
theorem amount_guard_iff (value : UInt64) :
    value > .ofNat ((2 ^ 64 - 1) / 256) ↔ 2 ^ 56 ≤ value.toNat := by
  have hbound : (UInt64.ofNat ((2 ^ 64 - 1) / 256)).toNat = 2 ^ 56 - 1 := by decide
  show UInt64.ofNat ((2 ^ 64 - 1) / 256) < value ↔ _
  rw [UInt64.lt_iff_toNat_lt, hbound]
  omega

/-- The loop holds the value of the bytes it has read, and stops when that of all of them does not
fit. -/
theorem amountToDecimalLoop_eq (bytes : List UInt8) (value : UInt64) :
    amountToDecimalLoop bytes value =
      if value.toNat * 256 ^ bytes.length + beNat bytes < 2 ^ 64 then
        some (.ofNat (value.toNat * 256 ^ bytes.length + beNat bytes))
      else none := by
  induction bytes generalizing value with
  | nil =>
    have hlt := value.toNat_lt
    simp only [List.length_nil, pow_zero, Nat.mul_one, beNat_nil, Nat.add_zero, if_pos hlt,
      UInt64.ofNat_toNat]
    rfl
  | cons b bytes ih =>
    have hb := b.toNat_lt
    have hexpand : value.toNat * 256 ^ (b :: bytes).length + beNat (b :: bytes) =
        (value.toNat * 256 + b.toNat) * 256 ^ bytes.length + beNat bytes := by
      rw [List.length_cons, beNat_cons, pow_succ]
      ring
    rw [amountToDecimalLoop, hexpand]
    by_cases hstop : value > .ofNat ((2 ^ 64 - 1) / 256)
    · -- the value is too large already, and what follows only adds to it
      have hle : 2 ^ 56 ≤ value.toNat := (amount_guard_iff value).mp hstop
      have hpow : 1 ≤ 256 ^ bytes.length := Nat.one_le_pow _ _ (by decide)
      have hbig : 2 ^ 64 ≤ (value.toNat * 256 + b.toNat) * 256 ^ bytes.length :=
        calc 2 ^ 64 ≤ (value.toNat * 256 + b.toNat) * 1 := by omega
          _ ≤ _ := Nat.mul_le_mul_left _ hpow
      rw [if_pos hstop, if_neg (by omega)]
    · have hlt : value.toNat < 2 ^ 56 := Nat.lt_of_not_le ((amount_guard_iff value).not.mp hstop)
      have hnext : (value * 256 + b.toUInt64).toNat = value.toNat * 256 + b.toNat := by
        rw [UInt64.toNat_add, UInt64.toNat_mul, UInt8.toNat_toUInt64,
          show (256 : UInt64).toNat = 256 from rfl]
        omega
      rw [if_neg hstop, ih, hnext]

theorem amountToDecimal_eq (c : Context) (size : ℕ) :
    amountToDecimal c size =
      if beNat (c.amount.toList.take size) < 2 ^ 64 then
        some (.ofNat (beNat (c.amount.toList.take size)))
      else none := by
  rw [amountToDecimal, amountToDecimalLoop_eq, UInt64.toNat_zero, Nat.zero_mul, Nat.zero_add]

/-- One more byte: the guard, then the product and the sum. -/
theorem amountToDecimalLoop_concat (bytes : List UInt8) (b : UInt8) (value : UInt64) :
    amountToDecimalLoop (bytes ++ [b]) value =
      (amountToDecimalLoop bytes value).bind fun value =>
        if value > .ofNat ((2 ^ 64 - 1) / 256) then none else some (value * 256 + b.toUInt64) := by
  induction bytes generalizing value with
  | nil => rfl
  | cons b' bytes ih =>
    rw [List.cons_append, amountToDecimalLoop, amountToDecimalLoop]
    split_ifs with hstop
    · rfl
    · exact ih _

/-- The value the loop has at byte `i` is what it returns for a size of `i`. -/
theorem amountToDecimal_succ (c : Context) {i : ℕ} (hi : i < 32) :
    amountToDecimal c (i + 1) =
      (amountToDecimal c i).bind fun value =>
        if value > .ofNat ((2 ^ 64 - 1) / 256) then none
        else some (value * 256 + c.amount[i].toUInt64) := by
  have htake : c.amount.toList.take (i + 1) = c.amount.toList.take i ++ [c.amount[i]] := by
    rw [List.take_succ_eq_append_getElem (by simpa using hi), Vector.getElem_toList]
  rw [amountToDecimal, htake, amountToDecimalLoop_concat]
  rfl

/-- Below the guard neither the product nor the sum wraps around. -/
theorem mul_add_lt_of_not_gt {value : UInt64} (hguard : ¬ value > .ofNat ((2 ^ 64 - 1) / 256))
    (b : UInt8) : value.toNat * 256 + b.toNat < 2 ^ 64 := by
  have hb := b.toNat_lt
  rw [amount_guard_iff] at hguard
  omega

/-! ### Writing -/

theorem toUInt8_mod_256 (value : UInt64) : (value % 256).toUInt8 = UInt8.ofNat value.toNat := by
  rw [← UInt8.toNat_inj, UInt64.toNat_toUInt8, UInt64.toNat_mod, UInt8.toNat_ofNat',
    show (256 : UInt64).toNat = 2 ^ 8 from rfl, Nat.mod_mod]

theorem toNat_div_256 (value : UInt64) : (value / 256).toNat = value.toNat / 256 := by
  rw [UInt64.toNat_div, show (256 : UInt64).toNat = 256 from rfl]

/-- The loop writes the value from byte `31 - i` backwards. -/
theorem getElem_decimalToAmountLoop (value : UInt64) (amount : Buffer 32) (i : ℕ) (hi : i < 32)
    (hvalue : value.toNat < 256 ^ (32 - i))
    (hzero : ∀ j (hj : j < 32), j < 32 - i → amount[j] = 0) (j : ℕ) (hj : j < 32) :
    (decimalToAmountLoop value amount i)[j] =
      if j < 32 - i then UInt8.ofNat (value.toNat / 256 ^ (31 - i - j)) else amount[j] := by
  induction value, amount, i using decimalToAmountLoop.induct with
  | case1 value amount i rem value' amount' hne ih =>
    have hpos : value.toNat / 256 ≠ 0 := by
      intro h0
      exact hne (UInt64.toNat_inj.mp ((toNat_div_256 value).trans h0))
    have hi' : i + 1 < 32 := by
      by_contra hge
      rw [show 32 - i = 1 by omega] at hvalue
      omega
    have hpow : 256 ^ (32 - i) = 256 ^ (32 - (i + 1)) * 256 := by
      rw [← pow_succ]
      congr 1
      omega
    have hget : ∀ k (hk : k < 32), amount'[k] = if 32 - i - 1 = k then rem else amount[k] :=
      fun k hk => Vector.getElem_setIfInBounds hk
    have hrun := ih hi' (by rw [toNat_div_256]; exact Nat.div_lt_of_lt_mul (by omega)) (by
      intro k hk hlt
      rw [hget, if_neg (by omega), hzero k hk (by omega)])
    rw [decimalToAmountLoop, if_pos hne]
    rw [hrun, toNat_div_256, hget]
    by_cases hlt : j < 32 - (i + 1)
    · rw [if_pos hlt, if_pos (by omega), Nat.div_div_eq_div_mul, ← pow_succ',
        show 31 - (i + 1) - j + 1 = 31 - i - j by omega]
    · by_cases heq : 32 - i - 1 = j
      · rw [if_neg hlt, if_pos heq, if_pos (by omega), show 31 - i - j = 0 by omega, pow_zero,
          Nat.div_one]
        exact toUInt8_mod_256 value
      · rw [if_neg hlt, if_neg heq, if_neg (by omega)]
  | case2 value amount i value' heq =>
    have hlast : value.toNat / 256 = 0 := by
      rw [← toNat_div_256, show value / 256 = 0 from not_not.mp heq, UInt64.toNat_zero]
    rw [decimalToAmountLoop, if_neg heq, Vector.getElem_setIfInBounds hj, toUInt8_mod_256,
      int256Length]
    by_cases heq : 32 - i - 1 = j
    · rw [if_pos heq, if_pos (by omega), show 31 - i - j = 0 by omega, pow_zero, Nat.div_one]
    · rw [if_neg heq]
      by_cases hlt : j < 32 - i
      · obtain ⟨k, hk⟩ : ∃ k, 31 - i - j = k + 1 := ⟨31 - i - j - 1, by omega⟩
        rw [if_pos hlt, hzero j hj hlt, hk, pow_succ', ← Nat.div_div_eq_div_mul, hlast,
          Nat.zero_div]
        rfl
      · rw [if_neg hlt]

/-- A value of `k + 1` bytes leaves the bytes before those it writes alone. -/
theorem getElem_decimalToAmountLoop_of_lt (k : ℕ) (value : UInt64) (amount : Buffer 32) (i : ℕ)
    (hvalue : value.toNat < 256 ^ (k + 1)) (j : ℕ) (hj : j + k + i < 31) :
    (decimalToAmountLoop value amount i)[j] = amount[j] := by
  have hget : ∀ rem, (amount.setIfInBounds (int256Length - i - 1) rem)[j] = amount[j] := by
    intro rem
    rw [Vector.getElem_setIfInBounds (by omega), if_neg (by rw [int256Length]; omega)]
  induction k generalizing value amount i with
  | zero =>
    have hlast : ¬ value / 256 ≠ 0 := by
      rw [not_not, ← UInt64.toNat_inj, toNat_div_256, UInt64.toNat_zero]
      omega
    rw [decimalToAmountLoop, if_neg hlast, hget]
  | succ k ih =>
    rw [decimalToAmountLoop]
    split_ifs with hmore
    · have hnext : (value / 256).toNat < 256 ^ (k + 1) := by
        rw [toNat_div_256]
        exact Nat.div_lt_of_lt_mul (by rw [← pow_succ']; exact hvalue)
      rw [ih _ _ (i + 1) hnext (by omega), hget]
      intro rem
      rw [Vector.getElem_setIfInBounds (by omega), if_neg (by rw [int256Length]; omega)]
    · exact hget _

theorem decimalToAmount_eq (value : UInt64) (c : Context) :
    decimalToAmount value c = { c with amount := beBytes 32 value.toNat } := by
  have hbytes : decimalToAmountLoop value (memset c.amount 0) 0 = beBytes 32 value.toNat := by
    refine Vector.ext fun j hj => ?_
    have hvalue : value.toNat < 256 ^ (32 - 0) :=
      value.toNat_lt.trans (by decide)
    rw [getElem_decimalToAmountLoop value _ 0 (by decide) hvalue
      (fun k hk _ => getElem_memset c.amount 0 k hk) j hj, if_pos (by omega), beBytes,
      Vector.getElem_ofFn]
  rw [decimalToAmount, hbytes]

/-! ### The rate shown -/

theorem ratePerMonth_eq (c : Context) :
    ratePerMonth c =
      if beNat c.amount.toList * 2592000 < 2 ^ 64 then
        some (.ofNat (beNat c.amount.toList * 2592000))
      else none := by
  have htake : c.amount.toList.take int256Length = c.amount.toList :=
    List.take_of_length_le (by simp)
  have hfactor : secondsPerMonth.toNat = 2592000 := rfl
  rw [ratePerMonth, amountToDecimal_eq, htake]
  by_cases hfit : beNat c.amount.toList < 2 ^ 64
  · have hvalue : (UInt64.ofNat (beNat c.amount.toList)).toNat = beNat c.amount.toList := by
      rw [UInt64.toNat_ofNat', Nat.mod_eq_of_lt hfit]
    rw [if_pos hfit, Option.bind_eq_bind, Option.bind_some, umulllOverflow, hvalue, hfactor,
      ← hfactor, UInt64.ofNat_mul, UInt64.ofNat_toNat]
  · rw [if_neg hfit, Option.bind_eq_bind, Option.bind_none, if_neg (by omega)]

/-- The bytes of a rate per month that fits. -/
theorem decimalToAmount_ofNat {month : ℕ} (hfit : month < 2 ^ 64) (c : Context) :
    decimalToAmount (.ofNat month) c = { c with amount := beBytes 32 month } := by
  rw [decimalToAmount_eq, UInt64.toNat_ofNat', Nat.mod_eq_of_lt hfit]

/-- The sending screens show thirty days of the rate if that fits in 64 bits, and keep it; otherwise
they fail and change nothing. -/
theorem showRatePerMonth_eq (msg : EthQueryContractUI) (c : Context) :
    showRatePerMonth sdk msg c =
      if beNat c.amount.toList * 2592000 < 2 ^ 64 then
        (0,
          { msg with
            msg := strlcat (sdk.amountToString (beBytes 32 (beNat c.amount.toList * 2592000)).toList
              defaultDecimal c.tickerSent msg.msgLength) " per month" msg.msgLength },
          { c with amount := beBytes 32 (beNat c.amount.toList * 2592000) })
      else (-1, msg, c) := by
  rw [showRatePerMonth, ratePerMonth_eq]
  split_ifs with hfit
  · simp only [decimalToAmount_ofNat hfit]
  · rfl

theorem monthCall?_eq (c : Context) :
    monthCall? c =
      if beNat c.amount.toList * 2592000 < 2 ^ 64 then
        some ((beBytes 32 (beNat c.amount.toList * 2592000)).toList, c.tickerSent)
      else none := by
  rw [monthCall?, ratePerMonth_eq]
  split_ifs with hfit
  · rw [Option.map_some, decimalToAmount_ofNat hfit]
  · rfl

end Ricochet
