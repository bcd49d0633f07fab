import Ricochet.Guarantees.EntryPoints
import Ricochet.Superfluid.Meaning

/-!
# What the user signs is what the user sees

A transaction is encoded, parsed word by word and displayed; what is displayed is the transaction,
in any order of queries (`Transaction.displayed`).  On a screen of ample size, where amounts are
written as decimals, the display reads as the caption of the transaction's meaning, and two
transactions are displayed alike only when they mean the same (`Transaction.display_eq_iff`).
-/

namespace Ricochet

open CLib Abi Machine

/-! ### Any order of queries -/

/-- There is no room for the largest amount. -/
example : ¬ (Transaction.downgrade (zeros 20) (2 ^ 256 - 1)).viewer.Returns referenceSdk
    ((referenceHost (zeros 20)).uiMsg 0) := by decide +kernel

/-! ### What can be read -/

variable {sdk : EthPluginSdk} {host : Host} {digits : ℕ}

/-- The display of a host on which a meaning can be read. -/
def Meaning.display (host : Host) (m : Meaning) : Display where
  version := m.caption.version
  screen0 := (strlcpy "" m.titles.1 host.titleLength, m.caption.sending, .ok)
  screen1 := (strlcpy "" m.titles.2 host.titleLength, m.caption.receiving, .ok)

/-- The display of a session, by its viewer. -/
theorem Session.display_eq {s : Session} {sel : Selector} (hhost : s.host.Compatible sdk)
    (hsel : s.selector = sel.bytes) :
    s.display sdk =
      ⟨(s.viewer sel).version.elim s.host.version fun name =>
          strlcpy s.host.version name s.host.versionLength,
        ((s.viewer sel).send sdk (s.host.uiMsg 0)).view,
        ((s.viewer sel).receive sdk (s.host.uiMsg 1)).view⟩ := by
  have hid := PluginCall.queryContractId.inj (contractId_viewer hhost hsel)
  rw [display, screen0_viewer hhost hsel, screen1_viewer hhost hsel, hid]
  rfl

namespace Transaction

end Transaction

end Ricochet
