import Mathlib.Data.List.AList

/-!
# Pending requests, `call/pending.rs`

The map owns the sending ends of its channels and names them. What has gone through a channel, and
whether its receiver is still there, is the state of the channels. Times are numbers.
-/

namespace Alknet

/-- A `tokio::sync::oneshot` channel, seen from its receiver. -/
structure Oneshot (α : Type) where
  value : Option α
  receiver_open : Bool

/-- A `tokio::sync::mpsc` channel, seen from its receiver. -/
structure Mpsc (α : Type) where
  queue : List α
  capacity : Nat
  receiver_open : Bool

def Oneshot.send {α : Type} (value : α) (channel : Oneshot α) : Oneshot α :=
  if channel.receiver_open then { channel with value := some value } else channel

def Mpsc.has_room {α : Type} (channel : Mpsc α) : Bool :=
  channel.receiver_open && decide (channel.queue.length < channel.capacity)

inductive PendingEntry where
  | Call (tx : Nat) (timeout : Nat)
  | Subscribe (tx : Nat) (timeout : Option Nat)
deriving DecidableEq

def PendingEntry.expired (now : Nat) : PendingEntry → Bool
  | .Call _ timeout => decide (timeout ≤ now)
  | .Subscribe _ timeout => timeout.any (· ≤ now)

/-- The map, and the channels that its entries name. -/
structure PendingRequestMap (α : Type) where
  pending : AList fun _ : String => PendingEntry
  oneshots : Nat → Oneshot α
  mpscs : Nat → Mpsc α

variable {α : Type}

def PendingRequestMap.new (oneshots : Nat → Oneshot α) (mpscs : Nat → Mpsc α) :
    PendingRequestMap α :=
  ⟨∅, oneshots, mpscs⟩

def PendingRequestMap.insert (map : PendingRequestMap α) (request_id : String)
    (entry : PendingEntry) : PendingRequestMap α :=
  { map with pending := map.pending.insert request_id entry }

def PendingRequestMap.insert_call (map : PendingRequestMap α) (request_id : String) (tx : Nat)
    (timeout : Nat) : PendingRequestMap α :=
  map.insert request_id (.Call tx timeout)

def PendingRequestMap.insert_subscribe (map : PendingRequestMap α) (request_id : String)
    (tx : Nat) (timeout : Option Nat) : PendingRequestMap α :=
  map.insert request_id (.Subscribe tx timeout)

/-- The entry is removed before its kind is looked at. -/
def PendingRequestMap.resolve_call (map : PendingRequestMap α) (request_id : String) (value : α) :
    Bool × PendingRequestMap α :=
  let pending := map.pending.erase request_id
  match map.pending.lookup request_id with
  | some (.Call tx _) =>
    (true, { map with
      pending
      oneshots := Function.update map.oneshots tx ((map.oneshots tx).send value) })
  | _ => (false, { map with pending })

def PendingRequestMap.push_subscribe (map : PendingRequestMap α) (request_id : String)
    (value : α) : Bool × PendingRequestMap α :=
  match map.pending.lookup request_id with
  | some (.Subscribe tx _) =>
    let channel := map.mpscs tx
    if channel.has_room then
      (true, { map with
        mpscs := Function.update map.mpscs tx
          { channel with queue := channel.queue ++ [value] } })
    else (false, map)
  | _ => (false, map)

def PendingRequestMap.remove (map : PendingRequestMap α) (request_id : String) :
    Bool × PendingRequestMap α :=
  ((map.pending.lookup request_id).isSome, { map with pending := map.pending.erase request_id })

/-- It does not look at the kind of the entry. -/
def PendingRequestMap.complete_subscribe (map : PendingRequestMap α) (request_id : String) :
    Bool × PendingRequestMap α :=
  map.remove request_id

def PendingRequestMap.abort (map : PendingRequestMap α) (request_id : String) :
    Bool × PendingRequestMap α :=
  map.remove request_id

def PendingRequestMap.sweep_expired (map : PendingRequestMap α) (now : Nat) :
    Nat × PendingRequestMap α :=
  let expired := (map.pending.entries.filter fun entry => entry.2.expired now).map (·.1)
  let pending := expired.foldl (fun pending id => pending.erase id) map.pending
  (expired.length, { map with pending })

/-! ## Operations -/

inductive PendingOp (α : Type) where
  | insert_call (request_id : String) (tx : Nat) (timeout : Nat)
  | insert_subscribe (request_id : String) (tx : Nat) (timeout : Option Nat)
  | resolve_call (request_id : String) (value : α)
  | push_subscribe (request_id : String) (value : α)
  | complete_subscribe (request_id : String)
  | abort (request_id : String)
  | sweep_expired (now : Nat)
  /-- A receiver takes a value, or goes away. -/
  | receive (tx : Nat)
  | close (tx : Nat)

inductive PendingReply where
  | done
  | answer (found : Bool)
  | count (n : Nat)
deriving DecidableEq

def PendingRequestMap.apply (map : PendingRequestMap α) :
    PendingOp α → PendingReply × PendingRequestMap α
  | .insert_call request_id tx timeout => (.done, map.insert_call request_id tx timeout)
  | .insert_subscribe request_id tx timeout => (.done, map.insert_subscribe request_id tx timeout)
  | .resolve_call request_id value => (map.resolve_call request_id value).map .answer id
  | .push_subscribe request_id value => (map.push_subscribe request_id value).map .answer id
  | .complete_subscribe request_id => (map.complete_subscribe request_id).map .answer id
  | .abort request_id => (map.abort request_id).map .answer id
  | .sweep_expired now => (map.sweep_expired now).map .count id
  | .receive tx =>
    (.done, { map with
      mpscs := Function.update map.mpscs tx
        { map.mpscs tx with queue := (map.mpscs tx).queue.drop 1 } })
  | .close tx =>
    (.done, { map with
      mpscs := Function.update map.mpscs tx { map.mpscs tx with receiver_open := false } })

def PendingRequestMap.run (map : PendingRequestMap α) (ops : List (PendingOp α)) :
    PendingRequestMap α :=
  ops.foldl (fun map op => (map.apply op).2) map

/-- A response as `call-protocol.md` describes its dispatch: a call first, then a subscription. -/
def PendingRequestMap.dispatch (map : PendingRequestMap α) (request_id : String) (value : α) :
    Bool × PendingRequestMap α :=
  let (found, map) := map.resolve_call request_id value
  if found then (true, map) else map.push_subscribe request_id value

end Alknet
