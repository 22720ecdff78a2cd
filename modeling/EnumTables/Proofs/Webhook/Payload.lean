import EnumTables.Proofs.Json.Shape
import EnumTables.Proofs.Results
import EnumTables.Webhook.Dispatch

/-!
# Payloads

Which payloads set off a sync, and of which commit, said without the order in which the program
looks into them.
-/

namespace EnumTables

namespace Webhook

open Json (valueOf?)

variable {settings : Settings} {members : List (RawText × Json)} {target : PushTarget}

/-! ## The commit that a payload names -/

end Webhook

end EnumTables
