import AtomicCss.Proofs.Pass.Flushed

/-! # Isolated passes

What a step gives, its notices, and what it leaves of the sheet are given by the settings and the sheet
of its pass. Steps on other passes change neither. So what is seen of a pass in a session is what would
be seen if only its own steps were taken, even though entering and leaving change which pass is active
for all of them. -/

namespace AtomicCss.Session

variable {settings : Settings} {index : Nat} {sheet : Sheet} {session session' : Session}

/-! ## One step -/

end AtomicCss.Session
