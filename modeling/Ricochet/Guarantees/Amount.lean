import Ricochet.Equiv.SessionViewer
import Ricochet.Plugin.ReferenceSdk

/-!
# The amount of a wrapped or unwrapped token

The contract takes the first word of the arguments for the amount and ignores what follows.  The
plugin takes every word for it, so it shows the last one: the two agree exactly when the last word
is the first (`amount_shown_iff`).  What is shown is what `amountToString` writes; where that
throws, no screen shows any word (`uiReturns`).
-/

namespace Ricochet

open CLib Abi

namespace Session

variable {s : Session} {sdk : EthPluginSdk} {sel : Selector}

/-- Every call up to the token information returns `OK`. -/
theorem prepareResults_ok_amount (hhost : s.host.Compatible sdk) (hsel : sel.IsAmount)
    (hselector : s.selector = sel.bytes) : ∀ r ∈ s.prepareResults sdk, r = .ok := by
  obtain ⟨hstream, hne⟩ := Selector.isAmount_iff.mp hsel
  refine prepareResults_ok ?_ ((parameterReplies_ok_iff hhost hselector).mpr fun h => absurd h hne)
    (finalize_transfer hhost hstream hselector).1
  rw [init_eq_of_selector hhost hselector]

/-- The amount kept is `w`, and both screens show it with the tickers of `t`. -/
structure ShowsAmount (s : Session) (sdk : EthPluginSdk) (sel : Selector) (t : SuperTokenTicker)
    (w : Word) : Prop where
  amount : (s.ready sdk).amount = w
  screen0 : (s.screen0 sdk).1 =
    { s.host.uiMsg 0 with
      title := strlcpy "" "Send" s.host.titleLength
      msg := sdk.amountToString w.toList 18 (transferSent sel t) s.host.msgLength
      result := .ok }
  screen1 : (s.screen1 sdk).1 =
    { s.host.uiMsg 1 with
      title := strlcpy "" "Receive" s.host.titleLength
      msg := sdk.amountToString w.toList 18 (transferReceived sel t) s.host.msgLength
      result := .ok }

/-- What is kept and shown is the last word. -/
theorem showsAmount_getLast (hhost : s.host.Compatible sdk) (hsel : sel.IsAmount)
    (hselector : s.selector = sel.bytes) {w₀ : Word} {ws : List Word} (hwords : s.words = w₀ :: ws)
    {t : SuperTokenTicker} (ht : t ∈ superTokenCollection)
    (hdest : s.host.txContent.destination = t.superTokenAddress) :
    s.ShowsAmount sdk sel t ((w₀ :: ws).getLast (List.cons_ne_nil w₀ ws)) := by
  obtain ⟨hstream, hne⟩ := Selector.isAmount_iff.mp hsel
  have hlast : s.words.getLast?.getD (zeros 32) = (w₀ :: ws).getLast (List.cons_ne_nil w₀ ws) := by
    rw [hwords, List.getLast?_eq_some_getLast]
    rfl
  have hticker : ∀ ticker : SuperTokenTicker → String, s.transferTicker ticker = ticker t := by
    intro ticker
    rw [transferTicker, hdest, lookupSuperToken_eq_some_iff.mpr ⟨ht, rfl⟩]
    rfl
  obtain ⟨d, hready⟩ := ready_transfer hhost hstream hselector
  have hviewer : s.viewer sel =
      .transfer (transferName sel) (some ((w₀ :: ws).getLast (List.cons_ne_nil w₀ ws)))
        (transferSent sel t) (transferReceived sel t) := by
    rw [viewer, if_neg hstream, transferViewer, if_neg hne, hlast, hticker, hticker]
  refine ⟨?_, ?_, ?_⟩
  · rw [hready]
    show s.transferAmount sel = _
    rw [transferAmount, if_neg hne, hlast]
  · rw [screen0_viewer hhost hselector, hviewer]
    rfl
  · rw [screen1_viewer hhost hselector, hviewer]
    rfl

/-- The amount shown is the amount executed exactly when no word after the first is another amount
left for last. -/
theorem amount_shown_iff (s : Session) (sdk : EthPluginSdk) (sel : Selector)
    (hhost : s.host.Compatible sdk) (hsel : sel.IsAmount) (hselector : s.selector = sel.bytes)
    (w₀ : Word) (ws : List Word) (hwords : s.words = w₀ :: ws)
    (t : SuperTokenTicker) (ht : t ∈ superTokenCollection)
    (hdest : s.host.txContent.destination = t.superTokenAddress) :
    ((∀ r ∈ s.prepareResults sdk, r = .ok) → s.ShowsAmount sdk sel t w₀) ↔
      (w₀ :: ws).getLast (List.cons_ne_nil w₀ ws) = w₀ := by
  have hshows := showsAmount_getLast hhost hsel hselector hwords ht hdest
  constructor
  · intro h
    rw [← hshows.amount, (h (prepareResults_ok_amount hhost hsel hselector)).amount]
  · intro hlast _
    rwa [hlast] at hshows

/-- A transaction that wraps some DAI. -/
def upgradeDai (words : List Word) : Session :=
  ⟨referenceHost (superTokenCollection.get ⟨0, by decide⟩).superTokenAddress, Context.zero,
    upgradeSelector, words⟩

theorem amount_shown_of_one_word :
    (upgradeDai [beBytes 32 1]).ShowsAmount referenceSdk .upgrade
      (superTokenCollection.get ⟨0, by decide⟩) (beBytes 32 1) :=
  (amount_shown_iff (upgradeDai [beBytes 32 1]) referenceSdk .upgrade
    (referenceHost_compatible _) (Or.inl rfl) rfl (beBytes 32 1) [] rfl _
    (List.get_mem _ _) rfl).mpr rfl
    (prepareResults_ok_amount (referenceHost_compatible _) (Or.inl rfl) rfl)

/-- A second word is shown in place of the first. -/
theorem amount_shown_of_two_words :
    (∀ r ∈ (upgradeDai [beBytes 32 1, beBytes 32 2]).prepareResults referenceSdk, r = .ok) ∧
      ¬ (upgradeDai [beBytes 32 1, beBytes 32 2]).ShowsAmount referenceSdk .upgrade
        (superTokenCollection.get ⟨0, by decide⟩) (beBytes 32 1) := by
  refine ⟨prepareResults_ok_amount (referenceHost_compatible _) Selector.isAmount_upgrade rfl,
    fun h => ?_⟩
  have hlast := showsAmount_getLast (s := upgradeDai [beBytes 32 1, beBytes 32 2])
    (referenceHost_compatible _) Selector.isAmount_upgrade rfl rfl
    (List.get_mem superTokenCollection ⟨0, by decide⟩) rfl
  have heq : beBytes 32 2 = beBytes 32 1 := hlast.amount.symm.trans h.amount
  exact absurd heq (by decide)

end Session

end Ricochet
