import DeskUnlock.Foundation.Text
import DeskUnlock.Pairing.PairTransaction

/-!
# The confirmation broker

`syauth-transport/src/pairing.rs`: the channel between the daemon and the GUI
on which the operator's decisions travel.  A confirmation call goes to the
registered in-process GUI if there is one, and else over the GUI socket.

Any number of calls may be under way at once.  A call is its request, how far
it has come, and the content of the oneshot channel on which its answer
arrives.  One step of the broker is what one task does between two of its
suspensions.
-/

namespace DeskUnlock.Pairing

open Texts

/-- BlueZ numeric-comparison confirmation (transport). -/
structure PairingRequest where
  id : UInt64
  peer : Text
  passkey : UInt32
deriving DecidableEq

/-- DeskUnlock application-level confirmation (trust). -/
structure OobRequest where
  id : UInt64
  peer : Text
  hostPubkey : Pubkey
  phonePubkey : Pubkey
deriving DecidableEq

/-- Terminal notice: the transaction reached `TrustEstablished`. -/
structure BondedNotice where peer : Text
deriving DecidableEq

/-- What the GUI is sent. -/
inductive GuiEvent where
  | lesc (req : PairingRequest)
  | oob (req : OobRequest)
  | bonded (notice : BondedNotice)
deriving DecidableEq

def PAIR_CONFIRMATION_MAGIC : Bytes := utf8 "SYPC".toList

def PAIR_OOB_MAGIC : Bytes := utf8 "SYPO".toList

def PAIR_BONDED_MAGIC : Bytes := utf8 "SYPN".toList

def MAX_PEER_BYTES : Nat := 256

def encodePeer (peer : Text) : Option (Bytes × Bytes) :=
  let bytes := utf8 peer
  if bytes.length < 2 ^ 16 ∧ bytes.length ≤ MAX_PEER_BYTES then
    some (BigEndian.encode 2 bytes.length, bytes)
  else none

def GuiEvent.encode : GuiEvent → Option Bytes
  | .lesc req => do
      let (length, peer) ← encodePeer req.peer
      return PAIR_CONFIRMATION_MAGIC ++ BigEndian.encode 8 req.id.toNat ++
        BigEndian.encode 4 req.passkey.toNat ++ length ++ peer
  | .oob req => do
      let (length, peer) ← encodePeer req.peer
      return PAIR_OOB_MAGIC ++ BigEndian.encode 8 req.id.toNat ++ length ++
        peer ++ req.hostPubkey.toList ++ req.phonePubkey.toList
  | .bonded notice => do
      let (length, peer) ← encodePeer notice.peer
      return PAIR_BONDED_MAGIC ++ length ++ peer

def GuiEvent.withId (id : UInt64) : GuiEvent → GuiEvent
  | .lesc req => .lesc { req with id }
  | .oob req => .oob { req with id }
  | .bonded notice => .bonded notice

/-- How far a call has come. -/
inductive CallProgress where
  /-- About to look for an in-process GUI. -/
  | entering
  /-- Registered as pending, waiting for a place in the GUI's queue. -/
  | sending (id : UInt64)
  /-- Delivered to the GUI, waiting for its answer. -/
  | awaiting (id : UInt64)
  /-- The wait is over without an answer, and the entry still there. -/
  | expired (id : UInt64)
  /-- About to claim the GUI socket. -/
  | dialing
  /-- Holds the GUI socket and has this payload to deliver. -/
  | exchanging (payload : Bytes)
  | returned (accepted : Bool)
deriving DecidableEq

/-- A call of the engine, up to its return. -/
structure Call where
  request : GuiEvent
  progress : CallProgress
  /-- What was sent through the oneshot channel of the call. -/
  slot : Option Bool

/-- The receiving end of its channel is still there. -/
@[simp]
def Call.listens (call : Call) : Bool :=
  match call.progress with
  | .sending _ | .awaiting _ => true
  | _ => false

/-- What `sender.send` makes of the call. -/
def Call.answer (accepted : Bool) (call : Call) : Call :=
  if call.listens then { call with slot := some accepted } else call

/-- The shared state, and the calls that were made so far. -/
structure PairingBroker where
  gui : Bool
  pending : List (UInt64 × Nat)
  nextId : UInt64
  socketActive : Bool
  calls : Nat → Option Call
  opened : Nat

inductive BrokerEvent where
  | registerGui
  | unregisterGui
  | begin (req : GuiEvent)
  | enter (call : Nat)
  | send (call : Nat) (delivered : Bool)
  | respond (id : UInt64) (accepted : Bool)
  | resolve (call : Nat)
  /-- The wait for the answer ends. -/
  | timeout (call : Nat)
  /-- The call gets the lock again and removes its entry. -/
  | forget (call : Nat)
  | dial (call : Nat)
  /-- The exchange ended; the byte is the response, if one was read. -/
  | hangUp (call : Nat) (resp : Option UInt8)

namespace PairingBroker

def idle : PairingBroker where
  gui := false
  pending := []
  nextId := 0
  socketActive := false
  calls := fun _ => none
  opened := 0

def update (broker : PairingBroker) (call : Nat) (change : Call → Call) :
    PairingBroker :=
  { broker with calls := Function.update broker.calls call ((broker.calls call).map change) }

theorem update_calls {broker : PairingBroker} {target : Nat}
    {change : Call → Call} {handle : Nat} : (broker.update target change).calls handle =
    if handle = target then (broker.calls handle).map change else broker.calls handle := by
  by_cases same : handle = target
  · subst same
    simp [update]
  · simp [update, same]

variable (broker : PairingBroker)

def proceed (call : Nat) (progress : CallProgress) : PairingBroker :=
  broker.update call fun state => { state with progress }

def unregisterGui : PairingBroker :=
  { broker with
    gui := false, pending := []
    calls := fun call =>
      if broker.pending.any (fun entry => entry.2 = call) then
        (broker.calls call).map (Call.answer false)
      else broker.calls call }

def begin (req : GuiEvent) : PairingBroker :=
  { broker with
    calls :=
      Function.update broker.calls broker.opened
        (some
          { request := req
            progress :=
              match req with
              | .bonded _ => .dialing
              | _ => .entering
            slot := none })
    opened := broker.opened + 1 }

/-- The locked part of `request_via_gui`. -/
def enter (call : Nat) : PairingBroker :=
  if !broker.gui then broker.proceed call .dialing
  else if broker.pending ≠ [] then broker.proceed call (.returned false)
  else
    let id := broker.nextId
    { broker with
      pending := [(id, call)]
      nextId := id + 1 }.update call fun state =>
        { request := state.request.withId id, progress := .sending id, slot := none }

def remove (id : UInt64) : PairingBroker :=
  { broker with pending := broker.pending.filter fun entry => entry.1 ≠ id }

/-- The second result says whether the answer has reached a call. -/
def respond (id : UInt64) (accepted : Bool) : PairingBroker × Bool :=
  match broker.pending.lookup id with
  | none => (broker, false)
  | some call =>
    ((broker.remove id).update call (Call.answer accepted), (broker.calls call).any Call.listens)

/-- The payload of a call that goes over the socket, and the claim on it. -/
def dial (call : Nat) (req : GuiEvent) : PairingBroker :=
  match req.encode with
  | none => broker.proceed call (.returned false)
  | some payload =>
    if broker.socketActive then broker.proceed call (.returned false)
    else { broker with socketActive := true }.proceed call (.exchanging payload)

/-- A single `1` byte means accepted; a notice expects no response. -/
def verdict (req : GuiEvent) (resp : Option UInt8) : Bool :=
  match req with
  | .bonded _ => resp.isSome
  | _ => resp = some 1

/-- An event for a call at another stage changes nothing. -/
def step (broker : PairingBroker) : BrokerEvent → PairingBroker
  | .registerGui => { broker with gui := true }
  | .unregisterGui => broker.unregisterGui
  | .begin req => broker.begin req
  | .enter call =>
    match broker.calls call with
    | some ⟨_, .entering, _⟩ => broker.enter call
    | _ => broker
  | .send call delivered =>
    match broker.calls call with
    | some ⟨_, .sending id, _⟩ =>
      if delivered then broker.proceed call (.awaiting id)
      else broker.unregisterGui.proceed call (.returned false)
    | _ => broker
  | .respond id accepted => (broker.respond id accepted).1
  | .resolve call =>
    match broker.calls call with
    | some ⟨_, .awaiting _, some accepted⟩ => broker.proceed call (.returned accepted)
    | _ => broker
  | .timeout call =>
    match broker.calls call with
    | some ⟨_, .awaiting id, none⟩ => broker.proceed call (.expired id)
    | _ => broker
  | .forget call =>
    match broker.calls call with
    | some ⟨_, .expired id, _⟩ => (broker.remove id).proceed call (.returned false)
    | _ => broker
  | .dial call =>
    match broker.calls call with
    | some ⟨req, .dialing, _⟩ => broker.dial call req
    | _ => broker
  | .hangUp call resp =>
    match broker.calls call with
    | some ⟨req, .exchanging _, _⟩ =>
      { broker with socketActive := false }.proceed call (.returned (verdict req resp))
    | _ => broker

end PairingBroker

end DeskUnlock.Pairing
