import Mathlib.Algebra.Order.Ring.Nat
import Mathlib.Logic.Function.Iterate
import Ricochet.CLib.CString
import Ricochet.Machine.Simulation
import Ricochet.Plugin.Main

/-!
# What the user sees

A transaction ready to be displayed, reduced to what its screens are about (`Viewer`), and how it
answers the application's queries (`Viewer.step`).  This is a statement of the purpose of the
plugin's display, not a translation: it has no context, no parser state and no table.  The one thing
the queries change is the rate, which is multiplied by the seconds of a month whenever it is shown
(`Viewer.exec_stream`).  A screen can only be written if there is room for the amount on it
(`Viewer.amountOn`, `Viewer.Returns`).

That is a product which is only taken while it is below a bound, `compound factor bound`.  After `n`
times there is room for one more factor exactly when `v * factor ^ (n + 1)` fits
(`iterate_compound_mul_lt_iff`), and with it the product is just that
(`iterate_compound_mul_of_lt`).
-/

namespace Machine

/-- One more factor, if the product is below the bound. -/
def compound (factor bound v : ℕ) : ℕ := if v * factor < bound then v * factor else v

variable {factor bound v : ℕ}

theorem compound_of_lt (h : v * factor < bound) : compound factor bound v = v * factor := if_pos h

theorem compound_of_le (h : bound ≤ v * factor) : compound factor bound v = v :=
  if_neg (Nat.not_lt.mpr h)

/-- As long as one more factor fits, the product has had one for each time. -/
theorem iterate_compound_mul_of_lt (hfactor : 0 < factor) {n : ℕ}
    (h : v * factor ^ (n + 1) < bound) :
    (compound factor bound)^[n] v * factor = v * factor ^ (n + 1) := by
  induction n generalizing v with
  | zero => rw [Function.iterate_zero_apply, Nat.zero_add, pow_one]
  | succ n ih =>
    have hpow : v * factor * factor ^ (n + 1) = v * factor ^ (n + 1 + 1) := by
      rw [Nat.mul_assoc, ← pow_succ']
    have hle : v * factor ≤ v * factor * factor ^ (n + 1) :=
      Nat.le_mul_of_pos_right _ (pow_pos hfactor _)
    have hlt : v * factor < bound := by omega
    rw [Function.iterate_succ_apply, compound_of_lt hlt, ih (by omega), hpow]

/-- There is room for one more factor after `n` messages exactly when the product with one more
fits; once it does not, it never does again. -/
theorem iterate_compound_mul_lt_iff (hfactor : 0 < factor) (n : ℕ) :
    (compound factor bound)^[n] v * factor < bound ↔ v * factor ^ (n + 1) < bound := by
  induction n generalizing v with
  | zero => rw [Function.iterate_zero_apply, Nat.zero_add, pow_one]
  | succ n ih =>
    rw [Function.iterate_succ_apply, ih]
    by_cases hlt : v * factor < bound
    · rw [compound_of_lt hlt, Nat.mul_assoc, ← pow_succ']
    · -- without room for one factor there is none for more
      have hmore : ∀ m, bound ≤ v * factor ^ (m + 1) := by
        intro m
        calc bound ≤ v * factor := Nat.le_of_not_lt hlt
          _ ≤ v * factor * factor ^ m := Nat.le_mul_of_pos_right _ (pow_pos hfactor m)
          _ = v * factor ^ (m + 1) := by rw [Nat.mul_assoc, ← pow_succ']
      rw [compound_of_le (Nat.le_of_not_lt hlt)]
      exact iff_of_false (Nat.not_lt.mpr (hmore n)) (Nat.not_lt.mpr (hmore (n + 1)))

end Machine

namespace Ricochet

open CLib Machine

/-- A query of the display. -/
inductive Query
  | contractId (msg : EthQueryContractID)
  | contractUi (msg : EthQueryContractUI)

namespace Query

/-- The query a call makes, if any. -/
def ofCall? : PluginCall → Option Query
  | .queryContractId msg => some (.contractId msg)
  | .queryContractUi msg => some (.contractUi msg)
  | _ => none

/-- A query of the sending screen. -/
def IsSend : Query → Bool
  | contractId _ => false
  | contractUi msg => msg.screenIndex = 0

end Query

/-- What a transaction is displayed as. -/
inductive Viewer
  /-- An amount of one token for one of another; `none` for the value sent along. -/
  | transfer (version : String) (amount : Option (Buffer 32)) (sent received : String)
  /-- A stream that ends; the version is `none` when the method has no name. -/
  | stop (version : Option String) (sent received : String)
  /-- A stream at a rate per second, possibly from a batch. -/
  | stream (batch : Bool) (version : Option String) (sent received : String) (rate : ℕ)
  deriving DecidableEq

namespace Viewer

/-- A screen with a title and a text. -/
def screen (msg : EthQueryContractUI) (title text : String) : EthQueryContractUI :=
  { msg with title := strlcpy "" title msg.titleLength, msg := text, result := .ok }

/-- A screen with nothing on it. -/
def blank (msg : EthQueryContractUI) (result : PluginResult) : EthQueryContractUI :=
  { msg with title := "", msg := "", result := result }

/-- The bytes of an amount. -/
def amountBytes (msg : EthQueryContractUI) (amount : Option (Buffer 32)) : List UInt8 :=
  amount.elim (msg.txContent.value.toList.take msg.txContent.valueLength.toNat) Vector.toList

/-- The text of an amount of a token. -/
def amountText (sdk : EthPluginSdk) (msg : EthQueryContractUI) (amount : Option (Buffer 32))
    (ticker : String) : String :=
  sdk.amountToString (amountBytes msg amount) defaultDecimal ticker msg.msgLength

/-- The text of a rate per month. -/
def monthText (sdk : EthPluginSdk) (msg : EthQueryContractUI) (ticker : String) (month : ℕ) :
    String :=
  strlcat (sdk.amountToString (beBytes 32 month).toList defaultDecimal ticker msg.msgLength)
    " per month" msg.msgLength

/-- The name of what the transaction does. -/
def version : Viewer → Option String
  | transfer version .. => some version
  | stop version .. | stream _ version .. => version

/-- The sending screen. -/
def send (sdk : EthPluginSdk) (msg : EthQueryContractUI) : Viewer → EthQueryContractUI
  | transfer _ amount sent _ => screen msg "Send" (amountText sdk msg amount sent)
  | stop _ sent _ => screen msg "From" (strlcpy "" sent msg.msgLength)
  | stream _ _ sent _ rate =>
    -- the rate is multiplied in 64 bits, though it is written with 256
    if rate * 2592000 < 2 ^ 64 then
      screen msg "From" (monthText sdk msg sent (rate * 2592000))
    else { screen msg "From" "" with result := .error }

/-- The receiving screen. -/
def receive (sdk : EthPluginSdk) (msg : EthQueryContractUI) : Viewer → EthQueryContractUI
  | transfer _ amount _ received => screen msg "Receive" (amountText sdk msg amount received)
  | stop _ _ received | stream _ _ _ received _ =>
    screen msg "To" (strlcpy "" received msg.msgLength)

/-- The rate per month does not fit in 64 bits. -/
def Overflows : Viewer → Prop
  | stream _ _ _ _ rate => 2 ^ 64 ≤ rate * 2592000
  | _ => False

instance : (v : Viewer) → Decidable v.Overflows
  | stream _ _ _ _ rate => inferInstanceAs (Decidable (2 ^ 64 ≤ rate * 2592000))
  | transfer .. | stop .. => .isFalse id

/-- The amount on a screen, with its ticker: a stopped stream has none, and the others have one on
each screen or, if it fits, on the sending screen. -/
def amountOn (msg : EthQueryContractUI) : Viewer → Option (List UInt8 × String)
  | transfer _ amount sent received =>
    if msg.screenIndex = 0 then some (amountBytes msg amount, sent)
    else if msg.screenIndex = 1 then some (amountBytes msg amount, received)
    else none
  | stop .. => none
  | stream _ _ sent _ rate =>
    if msg.screenIndex = 0 ∧ rate * 2592000 < 2 ^ 64 then
      some ((beBytes 32 (rate * 2592000)).toList, sent)
    else none

/-- The amount on a screen, if any, can be written there. -/
def Returns (sdk : EthPluginSdk) (msg : EthQueryContractUI) (v : Viewer) : Prop :=
  amountReturns sdk msg.msgLength (v.amountOn msg)

instance (sdk : EthPluginSdk) (msg : EthQueryContractUI) (v : Viewer) :
    Decidable (v.Returns sdk msg) :=
  inferInstanceAs (Decidable (_ = true))

/-- A screen that does not exist is refused, but not for a batch. -/
def outOfRange : Viewer → PluginResult
  | stream true .. => .ok
  | _ => .error

/-- What is left after the sending screen. -/
def sent : Viewer → Viewer
  | stream batch version sent received rate =>
    stream batch version sent received (compound 2592000 (2 ^ 64) rate)
  | v => v

/-- The answer to a query, and what is displayed afterwards. -/
def step (sdk : EthPluginSdk) : Query → Viewer → PluginCall × Viewer
  | .contractId msg, v =>
    (.queryContractId
      { msg with
        name := strlcpy msg.name pluginName msg.nameLength
        version := v.version.elim msg.version fun name => strlcpy msg.version name msg.versionLength
        result := .ok }, v)
  | .contractUi msg, v =>
    if msg.screenIndex = 0 then (.queryContractUi (v.send sdk msg), v.sent)
    else if msg.screenIndex = 1 then (.queryContractUi (v.receive sdk msg), v)
    else (.queryContractUi (blank msg v.outOfRange), v)

variable {sdk : EthPluginSdk}

theorem step_send {msg : EthQueryContractUI} (h0 : msg.screenIndex = 0) (v : Viewer) :
    step sdk (.contractUi msg) v = (.queryContractUi (v.send sdk msg), v.sent) := by
  rw [step, if_pos h0]

theorem step_receive {msg : EthQueryContractUI} (h0 : msg.screenIndex ≠ 0)
    (h1 : msg.screenIndex = 1) (v : Viewer) :
    step sdk (.contractUi msg) v = (.queryContractUi (v.receive sdk msg), v) := by
  rw [step, if_neg h0, if_pos h1]

/-- What the sending screen changes is not on the receiving screen. -/
@[simp]
theorem receive_sent (msg : EthQueryContractUI) (v : Viewer) :
    v.sent.receive sdk msg = v.receive sdk msg := by
  cases v <;> simp only [sent, receive]

theorem returns_sent {msg : EthQueryContractUI} (h0 : msg.screenIndex ≠ 0) (v : Viewer) :
    v.sent.Returns sdk msg ↔ v.Returns sdk msg := by
  have hamount : v.sent.amountOn msg = v.amountOn msg := by
    cases v with
    | stream batch version sent received rate =>
      simp only [Viewer.sent, amountOn, h0, false_and, if_false]
    | transfer => rfl
    | stop => rfl
  rw [Returns, Returns, hamount]

/-- There is nothing on a screen that does not exist. -/
theorem returns_of_outOfRange {msg : EthQueryContractUI} (h0 : msg.screenIndex ≠ 0)
    (h1 : msg.screenIndex ≠ 1) (v : Viewer) : v.Returns sdk msg := by
  have hnone : v.amountOn msg = none := by
    cases v <;> simp only [amountOn, h0, h1, false_and, if_false]
  rw [Returns, hnone]
  rfl

/-- Only the sending screen changes what is displayed. -/
theorem step_snd (q : Query) (v : Viewer) : (step sdk q v).2 = if q.IsSend then v.sent else v := by
  cases q with
  | contractId msg => rfl
  | contractUi msg =>
    unfold step Query.IsSend
    by_cases hsend : msg.screenIndex = 0
    · simp [hsend]
    · simp only [if_neg hsend]
      split_ifs <;> simp_all

/-- The sending screen fails for a rate that does not fit. -/
theorem result_send (msg : EthQueryContractUI) (v : Viewer) :
    (v.send sdk msg).result = if v.Overflows then .error else .ok := by
  cases v with
  | stream batch version sent received rate =>
    by_cases hfit : rate * 2592000 < 2 ^ 64
    · have hno : ¬ Overflows (stream batch version sent received rate) := by
        simp only [Overflows]
        omega
      rw [if_neg hno, send, if_pos hfit, screen]
    · have hover : Overflows (stream batch version sent received rate) := by
        simp only [Overflows]
        omega
      rw [if_pos hover, send, if_neg hfit]
  | transfer => rfl
  | stop => rfl

theorem result_receive (msg : EthQueryContractUI) (v : Viewer) :
    (v.receive sdk msg).result = .ok := by
  cases v <;> rfl

/-- The results of all screens. -/
theorem result_step (msg : EthQueryContractUI) (v : Viewer) :
    (step sdk (.contractUi msg) v).1.result =
      if msg.screenIndex = 0 then (if v.Overflows then .error else .ok)
      else if msg.screenIndex = 1 then .ok
      else v.outOfRange := by
  rw [step]
  by_cases h0 : msg.screenIndex = 0
  · rw [if_pos h0, if_pos h0]
    exact result_send msg v
  · rw [if_neg h0, if_neg h0]
    by_cases h1 : msg.screenIndex = 1
    · rw [if_pos h1, if_pos h1]
      exact result_receive msg v
    · rw [if_neg h1, if_neg h1]
      rfl

/-- After any queries the rate has been multiplied for each that was for the sending screen, while
that was possible. -/
theorem exec_stream (qs : List Query) (batch : Bool) (version : Option String)
    (sent received : String) (r : ℕ) :
    exec (step sdk) qs (stream batch version sent received r) =
      stream batch version sent received
        ((compound 2592000 (2 ^ 64))^[qs.countP Query.IsSend] r) := by
  induction qs generalizing r with
  | nil => rfl
  | cons q qs ih =>
    rw [exec_cons, step_snd]
    by_cases hsend : q.IsSend
    · rw [if_pos hsend, List.countP_cons_of_pos hsend, Function.iterate_succ_apply]
      exact ih _
    · rw [if_neg hsend, List.countP_cons_of_neg hsend]
      exact ih r

end Viewer

end Ricochet
