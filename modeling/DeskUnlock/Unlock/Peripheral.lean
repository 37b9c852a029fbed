import Mathlib.Data.List.AList
import DeskUnlock.Foundation.Runs
import DeskUnlock.Unlock.Orchestrator

/-!
# The registered GATT application

`PersistentPeripheral` of `syauth-transport/src/peripheral.rs`.  BlueZ holds one
registered application for the daemon, a snapshot of services that is only ever
replaced as a whole.  Adding a peer, removing a peer and rebuilding the
registration of a peer each replace it.
-/

namespace DeskUnlock.Unlock

open Texts Runs List
open Pairing (Bytes)
open Recovery (BondKey)

abbrev Uuid := BitVec 128

def SYAUTH_CHALLENGE_CHAR_UUID : Uuid := 0x5a4e8e3c1c4c4a179c81d518a55a0002#128

def SYAUTH_RESPONSE_CHAR_UUID : Uuid := 0x5a4e8e3c1c4c4a179c81d518a55a0003#128

def SYAUTH_PAIR_SERVICE_UUID : Uuid := 0x5a4e8e3c1c4c4a179c81d518a55a0101#128

def SYAUTH_PAIR_HOST_PUBKEY_CHAR_UUID : Uuid := 0x5a4e8e3c1c4c4a179c81d518a55a0102#128

def SYAUTH_PAIR_PHONE_PUBKEY_CHAR_UUID : Uuid := 0x5a4e8e3c1c4c4a179c81d518a55a0103#128

def SYAUTH_PAIR_HOST_NAME_V1_CHAR_UUID : Uuid := 0x5a4e8e3c1c4c4a179c81d518a55a0104#128

def SYAUTH_PAIR_V2_CONTROL_CHAR_UUID : Uuid := 0x5a4e8e3c1c4c4a179c81d518a55a0105#128

def SYAUTH_PAIR_V2_STATUS_CHAR_UUID : Uuid := 0x5a4e8e3c1c4c4a179c81d518a55a0106#128

/-- How a characteristic can be used. -/
inductive CharacteristicAccess where
  | notify
  /-- A write, with or without a response. -/
  | write
  | authenticatedRead
  | authenticatedWrite
deriving DecidableEq

structure Characteristic where
  uuid : Uuid
  access : CharacteristicAccess
deriving DecidableEq

structure Service where
  uuid : Uuid
  characteristics : List Characteristic
deriving DecidableEq

def pairService : Service where
  uuid := SYAUTH_PAIR_SERVICE_UUID
  characteristics :=
    [⟨SYAUTH_PAIR_HOST_NAME_V1_CHAR_UUID, .authenticatedRead⟩,
      ⟨SYAUTH_PAIR_HOST_PUBKEY_CHAR_UUID, .authenticatedRead⟩,
      ⟨SYAUTH_PAIR_V2_STATUS_CHAR_UUID, .authenticatedRead⟩,
      ⟨SYAUTH_PAIR_V2_CONTROL_CHAR_UUID, .authenticatedWrite⟩,
      ⟨SYAUTH_PAIR_PHONE_PUBKEY_CHAR_UUID, .authenticatedWrite⟩]

def SESSION_UUID_BYTES : Nat := 16

def HKDF_INFO_SESSION_V1 : Bytes := utf8 "syauth-session-v1".toList

/-- `i64::to_be_bytes`. -/
def minuteBytes (minute : Int) : Bytes :=
  [56, 48, 40, 32, 24, 16, 8, 0].map fun shift =>
    UInt8.ofNat ((BitVec.ofInt 64 minute).toNat >>> shift)

/-- The bytes of an UUID, the most significant first. -/
def uuidFromBytes (bytes : List.Vector UInt8 SESSION_UUID_BYTES) : Uuid :=
  bytes.toList.foldl (fun uuid byte => uuid <<< 8 ||| byte.toBitVec.zeroExtend 128) 0

/-- HKDF-SHA256 without salt, expanded to the width of a session UUID. -/
abbrev SessionHkdf := BondKey → Bytes → Option (List.Vector UInt8 SESSION_UUID_BYTES)

section

variable (expand : SessionHkdf)

/-- An error of the expansion gives zeros. -/
def sessionUuidFor (bondKey : BondKey) (minute : Int) : List.Vector UInt8 SESSION_UUID_BYTES :=
  (expand bondKey (HKDF_INFO_SESSION_V1 ++ minuteBytes minute)).getD (List.Vector.replicate _ 0)

/-- The service UUID of a bond does not rotate. -/
def peerServiceUuid (bondKey : BondKey) : Uuid := uuidFromBytes (sessionUuidFor expand bondKey 0)

def peerService (bondKey : BondKey) : Service where
  uuid := peerServiceUuid expand bondKey
  characteristics := [⟨SYAUTH_CHALLENGE_CHAR_UUID, .notify⟩, ⟨SYAUTH_RESPONSE_CHAR_UUID, .write⟩]

/-- The state of the characteristics of one peer. -/
structure PeerCharSet where
  bondKey : BondKey
  /-- What waits in the response channel, the oldest first. -/
  responses : List Bytes
  /-- The phone has subscribed to the challenge characteristic. -/
  subscribed : Bool
  /-- The task that serves the characteristics has not been aborted. -/
  serving : Bool
  /-- What the phone has written and the task has not taken. -/
  unread : List Bytes

def PeerCharSet.new (bondKey : BondKey) : PeerCharSet where
  bondKey := bondKey
  responses := []
  subscribed := false
  serving := true
  unread := []

/-- The registered peers, and what BlueZ has of them. -/
structure PersistentPeripheral where
  peers : AList fun _ : Text => PeerCharSet
  /-- The services of the application that BlueZ holds. -/
  application : Option (List Service)

namespace PersistentPeripheral

def serveError (error : Text) : PeripheralError :=
  .backend ("serve_gatt_application: ".toList ++ error)

def rebuildApplication (periph : PersistentPeripheral)
    (peerServices : List Service) (served : Except Text Unit) :
    PersistentPeripheral × Except PeripheralError Unit :=
  match served with
  | .error error => ({ periph with application := none }, .error (serveError error))
  | .ok () => ({ periph with application := some (pairService :: peerServices) }, .ok ())

/-- The part of `new` after the adapter was opened. -/
def new (served : Except Text Unit) : Except PeripheralError PersistentPeripheral :=
  let (periph, reply) := rebuildApplication ⟨∅, none⟩ [] served
  reply.map fun () => periph

section

variable (periph : PersistentPeripheral)

/-- Register the service of one peer, as the whole application. -/
def buildAndRegisterPeer (bondKey : BondKey) (served : Except Text Unit) :
    PersistentPeripheral × Except PeripheralError PeerCharSet :=
  match served with
  | .error error => (periph, .error (serveError error))
  | .ok () =>
    ({ periph with application := some [peerService expand bondKey] }, .ok (.new bondKey))

def registerPeer (peerId : Text) (bondKey : BondKey) (served : Except Text Unit) :
    PersistentPeripheral × Except PeripheralError Unit :=
  match buildAndRegisterPeer expand periph bondKey served with
  | (periph, .error error) => (periph, .error error)
  | (periph, .ok chars) =>
    ({ periph with peers := periph.peers.insert peerId chars }, .ok ())

def addPeer (peerId : Text) (bondKey : BondKey) (served : Except Text Unit) :
    PersistentPeripheral × Except PeripheralError Unit :=
  if peerId ∈ periph.peers then (periph, .error (.peerAlreadyAdded peerId))
  else registerPeer expand { periph with application := none } peerId bondKey served

def removePeer (peerId : Text) : PersistentPeripheral × Except PeripheralError Unit :=
  if peerId ∈ periph.peers then
    ({ peers := periph.peers.erase peerId, application := none }, .ok ())
  else (periph, .error (.unknownPeer peerId))

def rebuildPeerRegistration (peerId : Text) (served : Except Text Unit) :
    PersistentPeripheral × Except PeripheralError Unit :=
  match periph.peers.lookup peerId with
  | none => (periph, .error (.unknownPeer peerId))
  | some entry =>
    registerPeer expand
      { peers :=
          periph.peers.insert peerId { entry with serving := false }
        application := none }
      peerId entry.bondKey served

/-- A call, with what BlueZ makes of the registration in it. -/
inductive Call where
  | addPeer (peerId : Text) (bondKey : BondKey) (served : Except Text Unit)
  | removePeer (peerId : Text)
  | rebuildPeerRegistration (peerId : Text) (served : Except Text Unit)

def call :
    Call → PersistentPeripheral × Except PeripheralError Unit
  | .addPeer peerId bondKey served => periph.addPeer expand peerId bondKey served
  | .removePeer peerId => periph.removePeer peerId
  | .rebuildPeerRegistration peerId served =>
    periph.rebuildPeerRegistration expand peerId served

end

def step (periph : PersistentPeripheral) (call : Call) :
    PersistentPeripheral :=
  (periph.call expand call).1

/-- The peer map alone refuses the call. -/
def Refused (periph : PersistentPeripheral) : Call → Prop
  | .addPeer peerId _ _ => peerId ∈ periph.peers
  | .removePeer peerId => peerId ∉ periph.peers
  | .rebuildPeerRegistration peerId _ => peerId ∉ periph.peers

/--
The registered application has the pair service, and for each peer of the map
one challenge and response service.
-/
def Complete (periph : PersistentPeripheral) : Prop :=
  ∃ services,
    periph.application = some services ∧
      pairService ∈ services ∧
      ∀ peer ∈ periph.peers.entries, services.count (peerService expand peer.2.bondKey) = 1

variable {expand} {periph : PersistentPeripheral}

/-- The pair service is not the service of any peer. -/
theorem pairService_ne_peerService {bondKey : BondKey} :
    pairService ≠ peerService expand bondKey := by
  intro same
  have sized := congrArg (·.characteristics.length) same
  exact absurd sized (by simp [pairService, peerService])

/-- Where a peer is registered, the pair service is not. -/
theorem not_complete_registerPeer {peerId : Text}
    {bondKey : BondKey} {served : Except Text Unit} (unregistered : periph.application = none) :
    ¬ (registerPeer expand periph peerId bondKey served).1.Complete expand := by
  rintro ⟨services, registered, paired, -⟩
  cases served with
  | error error => cases unregistered.symm.trans registered
  | ok _ =>
    obtain rfl := Option.some.inj registered
    exact pairService_ne_peerService (mem_singleton.mp paired)

theorem step_of_refused {call : Call} (refused : periph.Refused call) :
    periph.step expand call = periph := by
  cases call with
  | addPeer peerId bondKey served =>
    have known : peerId ∈ periph.peers := refused
    simp only [step, call, addPeer, if_pos known]
  | removePeer peerId =>
    have unknown : peerId ∉ periph.peers := refused
    simp only [step, call, removePeer, if_neg unknown]
  | rebuildPeerRegistration peerId served =>
    have unknown : periph.peers.lookup peerId = none := AList.lookup_eq_none.mpr refused
    simp only [step, call, rebuildPeerRegistration, unknown]

/-- Every call that the peer map lets through drops the pair service. -/
theorem not_complete_step {call : Call} (allowed : ¬ periph.Refused call) :
    ¬ (periph.step expand call).Complete expand := by
  cases call with
  | addPeer peerId bondKey served =>
    have unknown : peerId ∉ periph.peers := allowed
    simp only [step, call, addPeer, if_neg unknown]
    exact not_complete_registerPeer rfl
  | removePeer peerId =>
    have known : peerId ∈ periph.peers := not_not.mp allowed
    simp only [step, call, removePeer, if_pos known]
    rintro ⟨services, registered, -⟩
    cases registered
  | rebuildPeerRegistration peerId served =>
    obtain ⟨entry, known⟩ : ∃ entry, periph.peers.lookup peerId = some entry :=
      Option.isSome_iff_exists.mp (AList.lookup_isSome.mpr (not_not.mp allowed))
    simp only [step, call, rebuildPeerRegistration, known]
    exact not_complete_registerPeer rfl

/--
The registered application stays complete exactly as long as every call is
refused by the peer map; no call makes it complete again.
-/
theorem complete_iff_refused {served : Except Text Unit}
    (created : new served = .ok periph) (calls : List Call) :
    (run (step expand) periph calls).Complete expand ↔
      Along (step expand) Refused periph calls := by
  have initial : periph.Complete expand := by
    cases served with
    | error error => cases created
    | ok _ =>
      obtain rfl := Except.ok.inj created
      exact ⟨_, rfl, mem_singleton_self _, nofun⟩
  apply @last_iff_along _ _ (step _) _ (fun _ => True) (Complete _)
  · exact fun _ _ _ => trivial
  · intro periph call _ complete
    constructor
    · intro kept
      by_contra allowed
      exact not_complete_step allowed kept
    · intro refused
      rw [step_of_refused refused]
      exact complete
  · intro periph call _ incomplete
    by_cases refused : periph.Refused call
    · rw [step_of_refused refused]
      exact incomplete
    · exact not_complete_step refused
  · exact trivial
  · exact initial

def fresh : PersistentPeripheral where
  peers := ∅
  application := some [pairService]

def firstPhone : Call := .addPeer "first".toList (.replicate 32 5) (.ok ())

def secondPhone : Call := .addPeer "second".toList (.replicate 32 6) (.ok ())

def sampleHkdf : SessionHkdf := fun bondKey _ => some (.replicate _ (bondKey.toList.headD 0))

/--
After two phones were added, only the service of the second is registered: no
phone can pair, and the first cannot be challenged.
-/
theorem second_phone_alone :
    (fresh.call sampleHkdf firstPhone).2 = .ok () ∧
      ((fresh.step sampleHkdf firstPhone).call sampleHkdf secondPhone).2 = .ok () ∧
      let both := run (step sampleHkdf) fresh [firstPhone, secondPhone]
      "first".toList ∈ both.peers ∧
        both.application = some [peerService sampleHkdf (.replicate 32 6)] ∧
        pairService ∉ [peerService sampleHkdf (.replicate 32 6)] ∧
        peerService sampleHkdf (.replicate 32 5) ∉ [peerService sampleHkdf (.replicate 32 6)] := by
  decide +kernel

/-- A removal of a phone that is not there leaves everything registered. -/
theorem refused_removal_complete :
    (run (step sampleHkdf) fresh [.removePeer "first".toList]).Complete sampleHkdf := by
  have created : new (.ok ()) = .ok fresh := rfl
  refine (complete_iff_refused created _).mpr ⟨?_, trivial⟩
  exact AList.notMem_empty _

end PersistentPeripheral

end

end DeskUnlock.Unlock
