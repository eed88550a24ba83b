import LibCec.CommandFrame
import LibCec.TvPower
import LibCec.VendorRefusal

/-! Which commands are turned down when operands are missing.

    The functions that look at the size first turn such a command down. The others read a zero, have
    done something already, or are left to the base handler:

        MENU_REQUEST, USER_CONTROL_PRESSED, 00 80 45 20 ──▶ act on the zero
        SET_MENU_LANGUAGE, DEVICE_VENDOR_ID ──────────────▶ the sender is on, whatever it sent
        00 80 45, 00 00 F0, 00 00 39 44 ──────────────────▶ the sender's vendor is known now

    `refusesAbsent_iff` is when nothing of this happens. -/

namespace CEC
open Schemes Procedure

namespace Interaction

variable {react : Reaction → Proc Unit} {h : Handler} {c : Received} {s : Interaction}

/-! ### Menu requests -/

/-- Device 4 is one of libCEC's and has a client; the TV has the handler `h`, and no key was ever
    pressed. -/
def idle (h : Handler) : Interaction where
  session :=
    let w := World.start (fun _ => .clear) fun _ => .silent
    .start { (w.updateDevice 4 (·.handle vendorPulseEight)).updateDevice 0
        fun d => { d with handler := h } with clients := fun a => if a = 4 then some 0 else none }
  menuState _ := .deactivated
  menuCallbacks := []
  menuAnswer _ := 1
  keys _ := .reset
  now := 1000
  lastKeyCode _ := keyUnknown
  powerUpEventReceived _ := 0

end Interaction

end CEC
