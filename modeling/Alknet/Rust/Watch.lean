/-!
# `tokio::sync::watch`
-/

namespace Alknet.Rust

/-- A watch channel as one receiver sees it. `changed` is set by a send that the receiver has not
marked as seen, and `senders` says whether a sender exists. -/
structure Watch where
  value : Bool
  changed : Bool
  senders : Bool
deriving DecidableEq

def Watch.send (watch : Watch) (value : Bool) : Watch :=
  { watch with value := value, changed := true }

/-- Whether `changed()` returns. It returns an error when all senders are gone. -/
def Watch.ready (watch : Watch) : Bool := watch.changed || !watch.senders

end Alknet.Rust
