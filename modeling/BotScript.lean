import BotScript.LogLevel
import BotScript.Rehearsal
import BotScript.Routine
import BotScript.Proofs.Builtin.Budget
import BotScript.Proofs.Exposure
import BotScript.Proofs.Runs
import BotScript.Proofs.Ledger.Counts
import BotScript.Proofs.Sorting.KeyOrder
import BotScript.Proofs.Sorting.Flat
import BotScript.Proofs.Equality.Laws
import BotScript.Proofs.BagCopies
import BotScript.Proofs.Acts
import BotScript.Proofs.Builtin.Spending
import BotScript.Proofs.Budgets
import BotScript.Proofs.Ledger.Sleep
import BotScript.Proofs.Pattern.Cached
import BotScript.Proofs.Pattern.Applied
import BotScript.Proofs.Delivery
import BotScript.Proofs.Isolation
import BotScript.Proofs.Builtin.Untouched
import BotScript.Proofs.Spreading
import BotScript.Proofs.Builtin.RoleReplacement
import BotScript.Proofs.Builtin.RoleDelay
import BotScript.Proofs.Builtin.ReactionPrefix
import BotScript.Proofs.MapsBelow
import BotScript.Proofs.Unstarted
import BotScript.Proofs.Builtin.SingleCall
import BotScript.Proofs.Sorting.Twice
import BotScript.Proofs.Sorting.OptionNames
import BotScript.Proofs.Intents
import BotScript.Proofs.Containers.Building
import BotScript.Proofs.Containers.DictHistory
import BotScript.Proofs.Json
import BotScript.Proofs.HexNumber
import BotScript.Proofs.Duration.ReadBack
import BotScript.Proofs.Membership
import BotScript.Proofs.Wrappers
import BotScript.Proofs.Builtin.Ids
import BotScript.Proofs.Pattern.Matches
