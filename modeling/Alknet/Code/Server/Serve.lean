import Alknet.Rust.Watch

/-!
# `Server::run_stream`, `server/serve.rs`

The accept loop, the tasks that it spawns for connections, and the shutdown at its end. The session
of a connection is a task of `russh`, and `join` is a task that waits for it. It is entered in the
list of sessions after both were spawned, and only the shutdown takes entries out.
-/

open Alknet.Rust

namespace Alknet

/-- Where `handle_connection` is. -/
inductive ConnectionPhase where
  -- in `detect_protocol` or in `run_stream` of `russh`
  | setup
  -- the session is spawned, in `sessions.lock()`
  | pushing
  | finished
deriving DecidableEq

inductive TaskState where
  | unspawned
  | running
  | ended
deriving DecidableEq

structure ServedConnection where
  phase : ConnectionPhase
  session : TaskState
  join : TaskState
deriving DecidableEq

inductive Setup where
  | session
  | http
  | failed

/-- What comes out of the setup. Only a stealth listener on TLS looks for HTTP. -/
def ServedConnection.set_up (stealth transport_is_tls : Bool) (connection : ServedConnection) :
    Setup → Option ServedConnection
  | .session => some ⟨.pushing, .running, .running⟩
  | .http =>
    if stealth && transport_is_tls then some { connection with phase := .finished } else none
  | .failed => some { connection with phase := .finished }

/-- `join.abort()` stops the task that waits. The session goes on: its handle is dropped with that
task, and a dropped handle detaches. -/
def ServedConnection.abort (connection : ServedConnection) : ServedConnection :=
  { connection with join := .ended }

/-- Where `run_stream` and, from `send_shutdown` on, `shutdown` are. -/
inductive ServePhase where
  -- at the head of the accept loop
  | checking
  -- in `acceptor.accept()` and `shutdown_rx.changed()`
  | selecting
  | send_shutdown
  -- in `sessions.lock()`
  | wait_sessions
  -- has the sessions, and disconnects the one with this index
  | disconnecting (index : Nat)
  | draining
  | returned
deriving DecidableEq

/-- An entry of `sessions` is the index of its connection. -/
structure Serving where
  stealth : Bool
  transport_is_tls : Bool
  shutdown : Watch
  phase : ServePhase
  connections : List ServedConnection
  sessions : List Nat

inductive ServeStep where
  | check
  -- a connection, unless `accept` failed or the limiter refused it
  | accept (allowed : Bool)
  | changed
  | send_shutdown
  | lock_sessions
  | disconnect
  | drain
  | setup (index : Nat) (outcome : Setup)
  | push (index : Nat)
  | session_ends (index : Nat)
  | join_ends (index : Nat)
  -- by a clone from `shutdown_sender` or by the signal listener
  | send (value : Bool)

def Server.run_stream (stealth transport_is_tls : Bool) (shutdown : Watch) : Serving :=
  ⟨stealth, transport_is_tls, shutdown, .checking, [], []⟩

namespace Serving

/-- The lock of the sessions is held over an await only while `shutdown` disconnects them. -/
def sessions_locked (s : Serving) : Bool :=
  match s.phase with
  | .disconnecting _ => true
  | _ => false

def step (s : Serving) : ServeStep → Option Serving
  | .check =>
    if s.phase = .checking then
      some { s with phase := if s.shutdown.value then .send_shutdown else .selecting }
    else none
  | .accept allowed =>
    if s.phase = .selecting then
      if allowed then
        some { s with
          phase := .checking
          connections := s.connections ++ [⟨.setup, .unspawned, .unspawned⟩] }
      else some { s with phase := .checking }
    else none
  | .changed =>
    if s.phase = .selecting ∧ s.shutdown.ready then some { s with phase := .send_shutdown }
    else none
  | .send_shutdown =>
    if s.phase = .send_shutdown then
      some { s with phase := .wait_sessions, shutdown := s.shutdown.send true }
    else none
  | .lock_sessions =>
    if s.phase = .wait_sessions then some { s with phase := .disconnecting 0 } else none
  | .disconnect =>
    match s.phase with
    | .disconnecting index =>
      if index < s.sessions.length then some { s with phase := .disconnecting (index + 1) }
      else some { s with phase := .draining }
    | _ => none
  | .drain =>
    if s.phase = .draining then
      some { s with
        phase := .returned
        connections := s.connections.mapIdx fun index connection =>
          if index ∈ s.sessions then connection.abort else connection
        sessions := [] }
    else none
  | .setup index outcome =>
    match s.connections[index]? with
    | some connection =>
      if connection.phase = .setup then
        (connection.set_up s.stealth s.transport_is_tls outcome).map fun connection =>
          { s with connections := s.connections.set index connection }
      else none
    | none => none
  | .push index =>
    match s.connections[index]? with
    | some connection =>
      if connection.phase = .pushing ∧ s.sessions_locked = false then
        some { s with
          connections := s.connections.set index { connection with phase := .finished }
          sessions := s.sessions ++ [index] }
      else none
    | none => none
  | .session_ends index =>
    match s.connections[index]? with
    | some connection =>
      if connection.session = .running then
        some { s with connections := s.connections.set index { connection with session := .ended } }
      else none
    | none => none
  | .join_ends index =>
    match s.connections[index]? with
    | some connection =>
      if connection.session = .ended ∧ connection.join = .running then
        some { s with connections := s.connections.set index { connection with join := .ended } }
      else none
    | none => none
  | .send value => some { s with shutdown := s.shutdown.send value }

end Serving

end Alknet
