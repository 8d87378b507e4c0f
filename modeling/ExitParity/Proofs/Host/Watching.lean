import ExitParity.Proofs.Host.Polling

namespace ExitParity

namespace Host

end Host

namespace Machine

end Machine

namespace Watch

variable {watch : Watch}

end Watch

namespace Tool

variable {started closing : Host} {last : Invocation.Poll} {before after : List Invocation.Poll}

end Tool
end ExitParity
