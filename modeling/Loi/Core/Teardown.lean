import Loi.Core.RunLoop
import Loi.Core.SpawnCleanup
import Loi.Foundation.Typestate

/-! What a run of the loop leaves for `Drop`, however it ended: the processes that the
statuses have told of and that have not exited since, each detached and waited for once. -/

set_option autoImplicit false

namespace Loi.Core

open Nix Foundation Spawn

end Loi.Core
