import Ricochet.Guarantees.HiddenOperations
import Ricochet.Superfluid.Entries
import Ricochet.Superfluid.Transactions

/-!
# Batches of any size

Which operation of a canonical batch is displayed, whatever its size: the one at the offset that the
parser's two bytes make of the last entry of the table, as far as it counts the operations
(`batch_displayed`).  With an offset back in the table none is, and every answer is `OK` all the
same.
-/

namespace Ricochet

open CLib Abi

/-- A batch none of whose operations is read. -/
theorem viewer_of_batchCallInner_eq_nil {s : Session} (hinner : batchCallInner s.words = []) :
    s.viewer .batchCall = .stream true none "" "" 0 := by
  have hmethod : methodNameOf (zeros 4) = none := by decide
  have hsent : tickerSentOf (zeros 20) = "" := by decide
  have hreceived : tickerReceivedOf (zeros 20) = "" := by decide
  have hzero : beNat (zeros 32).toList = 0 := by decide
  have hreceiver : s.receiver .batchCall = zeros 20 := by
    rw [Session.receiver, if_neg (by decide), hinner, window_nil]
  rw [Session.viewer, if_pos Selector.isStream_batchCall, Session.streamViewer,
    if_pos (Session.hasRate_batchCall s), hreceiver, Session.rate, innerWords, hinner, window_nil,
    window_nil, hmethod, hsent, hreceived, hzero]
  rfl

/-- Every canonical batch, of any number of operations and any size.  The parser counts the
operations with two bytes, and takes two bytes of the offset at the last one it counts.  If that is
back in the table, every answer is `OK` without an operation read; if it is the offset of an
operation with a rate, this is the one that is displayed. -/
theorem batch_displayed (sdk : EthPluginSdk) (host : Host) (hhost : host.Compatible sdk)
    (memory : Context) (operations : List Operation) :
    let s := batchCallSession host memory operations
    let count := operations.length % 65536
    let offset := entryOffset operations (count - 1) % 65536
    ((encodeBatchCall operations).length < 2 ^ 32 → count = 0 ∨ offset < 32 * count →
      s.AllOk sdk ∧ s.DisplayedAs sdk (.stream true none "" "" 0)) ∧
    (count ≠ 0 → ∀ before op after, operations = before ++ op :: after →
      entryOffset operations before.length = offset →
      ∀ (call : CfaCall) (userData : List UInt8), call.Valid → call.flowRate?.isSome →
        op.data = encodeCallAgreementData call.encode userData →
        (s.AllOk sdk ↔ ¬ (call.viewer true).Overflows) ∧ s.DisplayedAs sdk (call.viewer true)) := by
  intro s count offset
  have hselector : s.selector = Selector.bytes .batchCall := rfl
  constructor
  · intro hsize hback
    have hviewer := viewer_of_batchCallInner_eq_nil (s := s)
      (batchCallInner_of_entry_lt hsize hback)
    have hfits : ¬ (s.viewer .batchCall).Overflows := by
      rw [hviewer]
      decide
    refine ⟨(Session.allOk_iff_of_selector hhost hselector).mpr ⟨fun heq => ?_, hfits⟩, ?_⟩
    · cases heq
    · exact hviewer ▸ Session.displayedAs_viewer hhost hselector
  · intro hcount before op after hsplit hentry call userData hvalid hrate hdata
    -- an operation is never back in the table
    have hle : 32 * count ≤ offset := by
      rw [← hentry, entryOffset]
      omega
    have hpresents : Presents s .batchCall call :=
      ⟨hselector, Selector.isStream_batchCall, carries_of_entry hsplit hdata hcount hle hentry,
        fun _ => hrate⟩
    exact hpresents.displayedAs hhost hvalid

/-- An empty batch. -/
theorem batch_displayed_nil :
    (batchCallSession (referenceHost (zeros 20)) Context.zero []).AllOk referenceSdk :=
  ((batch_displayed referenceSdk _ (referenceHost_compatible _) Context.zero []).1 (by decide)
    (Or.inl rfl)).1

end Ricochet
