import Ricochet.Plugin.Session

/-!
# An SDK

`referenceSdk` is an SDK with which a session can be run: its functions read and copy words as the
plugin relies on, and write an amount as the ticker and its decimals, or throw where there is no
room for all the digits.  `referenceHost` is an application that uses it.  Nothing else depends on
either: the results hold for any SDK.
-/

namespace Ricochet

open CLib

/-- The digits of `v` after the point, trailing zeros included. -/
def fractionDigits (v decimals : ℕ) : List Char :=
  (List.range decimals).map fun i => Nat.digitChar (v / 10 ^ (decimals - 1 - i) % 10)

/-- The same without the trailing zeros. -/
def fractionText (v decimals : ℕ) : String :=
  String.ofList ((fractionDigits v decimals).reverse.dropWhile (· = '0')).reverse

/-- An amount with a decimal point. -/
def decimalText (v decimals : ℕ) : String :=
  let fraction := fractionText v decimals
  let whole := toString (v / 10 ^ decimals)
  if fraction = "" then whole else whole ++ "." ++ fraction

/-- The bytes `v` takes before its trailing zeros are dropped: its digits or the decimals and a
zero, whichever are more, with the point and the end of the text.  Zero is written as it is. -/
def decimalRoom (v decimals : ℕ) : ℕ :=
  if v = 0 then 2 else max ((Nat.toDigits 10 v).length + 2) (decimals + 3)

/-- The SDK. -/
def referenceSdk : EthPluginSdk where
  interfaceVersionLatest := 4
  maxTickerLen := 12
  sizeofContext := 144
  u2be b off := if h : off + 1 < 32 then .ofNat (b[off].toNat * 256 + b[off + 1].toNat) else 0
  copyParameter dst parameter size := Vector.ofFn fun i => if i < size then parameter[i] else dst[i]
  amountToString? amount decimals ticker size :=
    if amount.length ≤ 32 ∧ ticker.length + 1 + decimalRoom (beNat amount) decimals ≤ size then
      some (ticker ++ decimalText (beNat amount) decimals)
    else none
  eight_le_maxTickerLen := by decide
  sizeofContext_le := by decide
  u2be_toNat b off h := by
    have h₁ := b[off].toNat_lt
    have h₂ := b[off + 1].toNat_lt
    rw [dif_pos h, UInt16.toNat_ofNat', Nat.mod_eq_of_lt (by omega)]
  copyParameter_eq dst parameter := by
    refine Vector.ext fun i hi => ?_
    rw [Vector.getElem_ofFn, if_pos hi]
    rfl

/-- An application with a display of ample size, for a transaction to `destination`. -/
def referenceHost (destination : Address) : Host where
  interfaceVersion := 4
  pluginContextLength := 160
  txContent := ⟨zeros 32, 0, destination⟩
  name := ""
  nameLength := 30
  version := ""
  versionLength := 30
  titleLength := 30
  msgLength := 79

theorem referenceHost_compatible (destination : Address) :
    (referenceHost destination).Compatible referenceSdk :=
  ⟨rfl, (by decide : 144 ≤ 160)⟩

/-- Half a token with eighteen decimals, and an amount of as many digits as there is no room for. -/
example :
    referenceSdk.amountToString? [0x06, 0xf0, 0x5b, 0x59, 0xd3, 0xb2, 0x00, 0x00] 18 "DAIx " 79 =
      some "DAIx 0.5" ∧
    referenceSdk.amountToString? (List.replicate 32 0xff) 18 "DAIx " 79 = none := by decide +kernel

end Ricochet
