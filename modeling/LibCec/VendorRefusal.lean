import LibCec.OperandRefusal

/-! Vendor commands with an id that end early.

    The id says whose command it is, and the vendor's handler reads on behind it. What ends before is
    left to the base handler, which turns it down once it knows the vendor, and takes it as news
    otherwise:

        00 80 45, 00 80 45 06 ──Panasonic──┐
        00 00 F0 ───────────────Samsung────┼──▶ HandleDeviceVendorCommandWithId ──▶ the vendor is known
        00 00 39 44 ────────────Toshiba────┘ -/

namespace CEC
open Schemes Procedure

namespace Received

variable {c : Received}

end Received

namespace Interaction

variable {react : Reaction → Proc Unit} {h : Handler} {c : Received} {s : Interaction}

/-! ### Vendor commands with an id -/

end Interaction

end CEC
