import Alknet.Code.Secret.Service
import Alknet.Lib.Actor

/-!
# service.rs: the actor, and protocol.rs

`SecretServiceActor` runs as a task. It takes messages out of a bounded channel, makes the call that
a message stands for on its `SecretServiceHandle`, and spawns a task that sends the result back.
Other holders of the handle call it at the same time. A call holds the lock for its whole body, so
the calls of all of them are atomic.
-/

open Alknet.Rust Alknet.Lib

namespace Alknet.Secret

/-- `SecretProtocol`. The reply channel of a message is known by the number of the message. -/
inductive SecretMessage
  | DeriveEd25519 (path : String)
  | DeriveEncryptionKey (path : String)
  | DeriveEthereumKey (path : String)
  | DerivePassword (path : String) (length : Nat)
  | Encrypt (plaintext : String) (key_version : UInt32)
  | Decrypt (encrypted : EncryptedData)
  | Lock
  | Unlock (mnemonic : String) (passphrase : Option String)
  deriving DecidableEq, Repr

/-- The time of a call and the random bytes that `encrypt` draws. -/
structure Drawn where
  clock : Clock
  iv_bytes : List.Vector UInt8 12
  salt_bytes : List.Vector UInt8 32

/-- The result that is sent back. A call that panicked has none. -/
def reply_of {α : Type} : Outcome SecretServiceError α → Option (Except SecretServiceError α)
  | .ok a => some (.ok a)
  | .error (.err e) => some (.error e)
  | .error (.panic _) => none

abbrev SecretServiceActor :=
  Actor SecretServiceHandle (Clock × Call) SecretMessage (Except SecretServiceError Reply)

namespace SecretServiceActor

/-- The call that `handle_message` makes. -/
def handle_message : SecretMessage → Drawn → Clock × Call
  | .DeriveEd25519 path, drawn => (drawn.clock, .derive_ed25519 path)
  | .DeriveEncryptionKey path, drawn => (drawn.clock, .derive_encryption_key path)
  | .DeriveEthereumKey path, drawn => (drawn.clock, .derive_ethereum_key path)
  | .DerivePassword path length, drawn => (drawn.clock, .derive_password path length)
  | .Encrypt plaintext key_version, drawn =>
    (drawn.clock, .encrypt plaintext key_version drawn.iv_bytes drawn.salt_bytes)
  | .Decrypt encrypted, drawn => (drawn.clock, .decrypt encrypted)
  | .Lock, drawn => (drawn.clock, .lock)
  | .Unlock mnemonic passphrase, drawn => (drawn.clock, .unlock mnemonic passphrase)

def call (env : Env) (handle : SecretServiceHandle) (at_call : Clock × Call) :
    Option (Except SecretServiceError Reply) × SecretServiceHandle :=
  ((handle.call env at_call.1 at_call.2).map reply_of id)

/-- `tokio::sync::mpsc::channel(64)` -/
def CHANNEL_CAPACITY : Nat := 64

def spawn (handle : SecretServiceHandle) : SecretServiceActor := Actor.new handle

/-- A step of `run`, of a task that it has spawned, of a client, or of someone else who has the
handle. -/
def step (env : Env) :
    SecretServiceActor → ActorStep (Clock × Call) SecretMessage Drawn → Option SecretServiceActor :=
  Actor.step CHANNEL_CAPACITY (call env) handle_message

end SecretServiceActor

end Alknet.Secret
