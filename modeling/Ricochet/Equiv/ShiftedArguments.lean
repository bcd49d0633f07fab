import Ricochet.Equiv.Contract
import Ricochet.Plugin.Session

/-!
# Arguments that straddle two words

The arguments of the inner call start four bytes into a word, and a handler glues each of them from
the end of one message and the start of the next.  Over the words read so far, laid end to end, both
halves are one window: `addressFirstPart_eq`, `addressSecondPart_eq` for addresses,
`flowRateFirst_eq`, `flowRateSecond_eq` for the rate.  A value whose second half has not arrived is
the window over words that end there, filled up with zeros.

`parameterOffset_eq_iff` says which message a parser waiting for an offset is waiting for, and
`AtBase.slot_iff` which of the four words of the inner call a message carries.
-/

namespace Ricochet

open CLib Abi

/-! ### The two halves -/

theorem addressFirstPart_eq (dst : Address) (ws : List Word) (w : Word) {p : ℕ}
    (hp : p = 32 * ws.length + 16) : addressFirstPart dst w = window (ws ++ [w]) p 20 :=
  memcpy_first_half dst ws w hp (by decide) (by decide) (by decide)

theorem addressSecondPart_eq (ws : List Word) (w : Word) {p : ℕ}
    (hp : p + 16 = 32 * ws.length) :
    addressSecondPart (window ws p 20) w = window (ws ++ [w]) p 20 :=
  memcpy_second_half ws w hp (by decide) (by decide) (by decide)

theorem flowRateFirst_eq (dst : Buffer 32) (ws : List Word) (w : Word) {p : ℕ}
    (hp : p = 32 * ws.length + 4) :
    memcpy (memset dst 0) 0 w selectorSize (int256Length - selectorSize) =
      window (ws ++ [w]) p 32 :=
  memcpy_first_half dst ws w hp (by decide) (by decide) (by decide)

theorem flowRateSecond_eq (ws : List Word) (w : Word) {p : ℕ} (hp : p + 28 = 32 * ws.length) :
    memcpy (window ws p 32) (int256Length - selectorSize) w 0 selectorSize =
      window (ws ++ [w]) p 32 :=
  memcpy_second_half ws w hp (by decide) (by decide) (by decide)

/-- The first message of the inner call fixes the method; an unknown selector leaves the method of
the cleared context. -/
theorem handleMethodCfa_eq (msg : EthPluginProvideParameter) (c : Context)
    (hid : c.methodId = startStream) :
    handleMethodCfa msg c =
      { c with
        methodCfa := window [msg.parameter] 0 4
        methodId := methodIdOf (window [msg.parameter] 0 4) } := by
  have hcopy : memcpy (memset c.methodCfa 0) 0 msg.parameter 0 selectorSize =
      window [msg.parameter] 0 4 :=
    memcpy_within c.methodCfa [] msg.parameter rfl (by decide) (by decide)
  have hfind : cfaMethodCollection.find? (fun m =>
      compareArray m.method (window [msg.parameter] 0 4) = 0) =
      lookupMethod (window [msg.parameter] 0 4) := by
    simp only [compareArray_eq_zero]
    rfl
  simp only [handleMethodCfa, hcopy, hfind, methodIdOf]
  cases lookupMethod (window [msg.parameter] 0 4) with
  | none => simp [hid]
  | some m => rfl

/-! ### Offsets -/

/-- A parser waiting for offset `o` is waiting for the words `i` with `32 * i = o` as
`uint32_t`. -/
theorem parameterOffset_eq_iff (i : ℕ) (w : Word) (o : UInt32) :
    (parameterMsg i w).parameterOffset = o + .ofNat selectorSize ↔
      32 * i % 2 ^ 32 = o.toNat := by
  have ho := o.toNat_lt
  rw [← UInt32.toNat_inj, UInt32.toNat_add]
  simp only [parameterMsg, selectorSize, parameterLength, UInt32.toNat_ofNat']
  omega

/-- The base offset a parser computes from the present word is that of a later word. -/
theorem offset_eq (i k : ℕ) (w : Word) :
    (parameterMsg i w).parameterOffset - .ofNat selectorSize + .ofNat (k * parameterLength) =
      .ofNat (32 * (i + k)) := by
  rw [← UInt32.toNat_inj, UInt32.toNat_add, UInt32.toNat_sub]
  simp only [parameterMsg, selectorSize, parameterLength, UInt32.toNat_ofNat']
  omega

/-- A parser that reads the inner call from word `b` on. -/
structure AtBase (sel : Selector) (b : ℕ) (c : Context) : Prop where
  selectorIndex : c.selectorIndex = sel.index
  skip : c.skip = 0
  goToOffset : c.goToOffset = 0
  offset : c.offset = .ofNat (32 * b)

section

variable {sel : Selector} {b : ℕ} {c : Context}

theorem AtBase.goToOffset_ne (h : AtBase sel b c) : c.goToOffset ≠ 1 := by
  rw [h.goToOffset]
  decide

/-- The comparisons of the parser on the words of the inner call. -/
theorem AtBase.slot_iff (h : AtBase sel b c) (k j : ℕ) (w : Word) (hk : k < 4) (hj : j < 4) :
    (parameterMsg (b + k) w).parameterOffset =
        c.offset + .ofNat selectorSize + .ofNat (j * parameterLength) ↔ k = j := by
  rw [h.offset, ← UInt32.toNat_inj, UInt32.toNat_add, UInt32.toNat_add]
  simp only [parameterMsg, selectorSize, parameterLength, UInt32.toNat_ofNat']
  omega

/-- The first of these comparisons, written without an addend. -/
theorem AtBase.slot_zero_iff (h : AtBase sel b c) (k : ℕ) (w : Word) (hk : k < 4) :
    (parameterMsg (b + k) w).parameterOffset = c.offset + .ofNat selectorSize ↔ k = 0 := by
  rw [h.offset, ← UInt32.toNat_inj, UInt32.toNat_add]
  simp only [parameterMsg, selectorSize, parameterLength, UInt32.toNat_ofNat']
  omega

end

end Ricochet
