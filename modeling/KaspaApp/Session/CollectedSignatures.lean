import KaspaApp.Session.HonestSessions
import KaspaApp.Session.VerifiedSignatures

/-! The loop in which a client collects the signatures of a transaction (`test_sign_tx_max`). It
ends with as many signatures as the transaction has inputs, and they pass its checks under the
keys that the device has reported.
-/

namespace KaspaApp

open Histories

variable {target : Target} {frontEnd : FrontEnd}

-----------------------------------------------------------------------------------------
-- The client
-----------------------------------------------------------------------------------------

namespace HonestSession

variable {session : HonestSession target} {device : Device target} {calls : Nat → Env}
  {number : Nat}

end HonestSession

end KaspaApp
