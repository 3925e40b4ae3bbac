import Mathlib.Algebra.Group.Nat.Defs

/-!
# The waits of the two reconnect loops, `client/channel_manager.rs` and `client/connect.rs`

An attempt takes the counter of its loop and gives the wait it chooses and the counter after it.
There is none after a panic, which ends the loop. A second of sleep and a look at the session, which
are between two attempts, change no counter.
-/

namespace Alknet

/-- How `establish_session` ends. -/
inductive SessionAttempt where
  | connected
  | failed
deriving DecidableEq

/-- Overflow checks, and whether warnings are logged: only then their arguments are computed. -/
structure ReconnectBuild where
  overflow_checks : Bool
  warnings : Bool

namespace ReconnectBuild

/-- `n + 1` -/
def add_one (build : ReconnectBuild) (n : UInt32) : Option UInt32 :=
  if build.overflow_checks ∧ n.toNat + 1 = 2 ^ 32 then none else some (n + 1)

/-- The number of the attempt in the warning. -/
def warn (build : ReconnectBuild) (attempts : UInt32) : Option Unit :=
  if build.warnings then (build.add_one attempts).map fun _ => () else some ()

end ReconnectBuild

/-- The table of both loops, in seconds. -/
def backoff_secs (attempt : UInt32) : Nat :=
  match attempt.toNat with
  | 0 => 1
  | 1 => 2
  | 2 => 4
  | 3 => 8
  | 4 => 16
  | _ => 30

namespace ChannelManager

def backoff_duration (attempt : UInt32) : Nat := backoff_secs attempt

/-- The shared counter counts an attempt before it is made. -/
def reconnect (build : ReconnectBuild) (attempts : UInt32) (outcome : SessionAttempt) :
    Nat × Option UInt32 :=
  let attempt_num := attempts
  let backoff := backoff_duration attempt_num
  (backoff, do
    let attempts ← build.add_one attempts
    build.warn attempt_num
    match outcome with
    | .connected => some 0
    | .failed => some attempts)

end ChannelManager

namespace ClientSession

def backoff_duration (attempt : UInt32) : Nat := backoff_secs attempt

/-- The monitor counts an attempt after it failed. -/
def reconnect_monitor (build : ReconnectBuild) (attempts : UInt32) (outcome : SessionAttempt) :
    Nat × Option UInt32 :=
  let backoff := backoff_duration attempts
  (backoff, do
    build.warn attempts
    match outcome with
    | .connected => some 0
    | .failed => build.add_one attempts)

end ClientSession

end Alknet
