import Ricochet.Equiv.Amount
import Ricochet.Plugin.ReferenceSdk
import Ricochet.Superfluid.Decode
import Ricochet.Superfluid.Swapped
import Ricochet.Guarantees.CallAgreement
import Ricochet.Guarantees.BatchCall
import Ricochet.Guarantees.Screens
import Ricochet.Guarantees.Amount
import Ricochet.Guarantees.Layout
import Ricochet.Guarantees.Finalize
import Ricochet.Guarantees.Token
import Ricochet.Guarantees.Receiver
import Ricochet.Guarantees.Method
import Ricochet.Guarantees.Parser
import Ricochet.Guarantees.Acceptance
import Ricochet.Guarantees.Conversion
import Ricochet.Guarantees.Tickers
import Ricochet.Guarantees.Rates
import Ricochet.Guarantees.EntryPoints
import Ricochet.Guarantees.HiddenOperations
import Ricochet.Guarantees.Runs
import Ricochet.Guarantees.Viewing
import Ricochet.Guarantees.Interleavings
import Ricochet.Guarantees.Transactions
import Ricochet.Guarantees.Batches
import Ricochet.Guarantees.MaskedOperations
