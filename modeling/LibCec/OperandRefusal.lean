import LibCec.AbsentOperands

/-! The functions that turn a command down when operands are missing.

    `TurnsDown` is what the handler of such a command should do: return an abort reason and leave
    everything as it was, or do nothing at all. The functions that look at the size before anything
    else do that, whatever else they would have done:

        parameters.size ──too few──▶ an abort reason
               └──────────────────▶ the function

    LG's handler asks first whether it suppresses the command, which changes nothing either. -/

namespace CEC
open Schemes Procedure

namespace Received

variable {c : Received}

end Received

namespace Interaction

/-! ### Turning a command down -/

variable {react : Reaction → Proc Unit} {h : Handler} {c : Received} {s : Interaction}

end Interaction

end CEC
