import DeskUnlock.Pairing.PhoneExchange
import DeskUnlock.Pairing.PhoneRecovery

/-!
# The pairing screen of the phone

`pair/PairingViewModel.kt` and `pair/impl/RealPairBackend.kt` in
`syauth-android`, with the callbacks that `MainActivity` installs.

The handlers of the user's taps, of the companion picker and of the broadcast
receivers run on the main thread, one after the other, and each of them is one
step.  Beside them run the exchange threads, of which a picked peer and every
broadcast of its bond start one, the coroutine of a confirmed transaction and
the coroutine that recovers the transaction of an earlier process.  These take
a step for each call that they wait for.

An exchange thread delivers its result by calling `onLescResult` itself, so
that the main thread may go on between the check of the state there and what
follows it; the check and the rest are two steps.  Nothing stops an exchange
thread when its attempt is cancelled.
-/

namespace DeskUnlock.Pairing.Phone

open Texts

/-! ## The view model -/

structure PeerHandle where
  id : Text
  name : Text

/-- The record of `pair/api/BondPersister.kt` that the screen hands to its persister. -/
structure BondRecord where
  peerId : Text
  peerName : Text
  bondKey : Bytes
  keystoreAlias : Text
  phonePubkey : Bytes
deriving DecidableEq

inductive PickPeerResult where
  | lescStarted (code : Text)
  | lescUnsupported (adapterName : Text)
  | failed (reason : Text)
deriving DecidableEq

inductive LescResult where
  | bonded (res : LescBonded)
  | failed (reason : Text)

/-- What the screen shows. -/
inductive PairingState where
  | idle
  | scanning
  | lescNegotiating (code : Text)
  | oobConfirming (code : Text)
  | finalizing
  | uncertain (reason : Text)
  | bonded (name : Text)
  | failed (reason : Text)
deriving DecidableEq

def PairingState.negotiating : PairingState → Bool
  | .lescNegotiating _ => true
  | _ => false

/-- What the view model asks of the backend and of the bond remover. -/
inductive ScreenCall where
  | startScan
  | stopScan
  | abortTransaction (cancel : Bool)
  | abandonProvisionalAssociation
  | commitProvisionalAssociation
  | persistBond (record : BondRecord)
  | removeBond (peerId : Text)
  | cleanup
deriving DecidableEq

def ADAPTER_NO_LESC_PREFIX : Text := "adapter ".toList

def ADAPTER_NO_LESC_SUFFIX : Text := " does not support LE Secure Connections".toList

def OOB_MISMATCH : Text := "OOB code did not match — peer might be a relay attacker".toList

def PERSIST_PREFIX : Text := "could not persist bond: ".toList

/-- The state, with the stash of the exchange. -/
structure ViewModel where
  state : PairingState
  pickedPeer : Option PeerHandle
  stashedBondKey : Option Bytes
  stashedKeystoreAlias : Text
  stashedPhonePubkey : Bytes

namespace ViewModel

def init : ViewModel := ⟨.idle, none, none, [], []⟩

variable (viewModel : ViewModel)

def onStartScanTapped : ViewModel × List ScreenCall :=
  match viewModel.state with
  | .idle => ({ viewModel with state := .scanning }, [.startScan])
  | _ => (viewModel, [])

def onCancelTapped : ViewModel × List ScreenCall :=
  match viewModel.state with
  | .scanning | .lescNegotiating _ | .oobConfirming _ =>
    ({ viewModel with pickedPeer := none, state := .idle },
      [.stopScan, .abortTransaction true, .abandonProvisionalAssociation])
  | _ => (viewModel, [])

/-- `onPeerPicked` in `Scanning`, with what `pickPeer` returned. -/
def onPeerPicked (peer : PeerHandle) :
    PickPeerResult → ViewModel × List ScreenCall
  | .lescStarted code =>
    ({ viewModel with pickedPeer := some peer, state := .lescNegotiating code }, [])
  | .lescUnsupported adapterName =>
    ({ viewModel with
        pickedPeer := some peer
        state := .failed (ADAPTER_NO_LESC_PREFIX ++ adapterName ++ ADAPTER_NO_LESC_SUFFIX) },
      [.abandonProvisionalAssociation])
  | .failed reason =>
    ({ viewModel with
        pickedPeer := some peer, state := .failed reason }, [.abandonProvisionalAssociation])

def onPairingCode (code : Text) : ViewModel :=
  match viewModel.state with
  | .lescNegotiating _ => { viewModel with state := .lescNegotiating code }
  | _ => viewModel

def removeBondBestEffort : List ScreenCall :=
  viewModel.pickedPeer.toList.map fun peer => .removeBond peer.id

/-- `onLescResult` after its check that the state is `LescNegotiating`. -/
def onLescResult (compute : Bytes → Text) :
    LescResult → ViewModel × List ScreenCall
  | .bonded res =>
    match viewModel.pickedPeer with
    | none =>
      ({ viewModel with
          state := .failed "pairing peer selection was lost".toList },
        [.abandonProvisionalAssociation])
    | some peer =>
      ({ state := .oobConfirming (compute res.bondKey)
         pickedPeer := some { peer with name := res.peerName }
         stashedBondKey := some res.bondKey, stashedKeystoreAlias := res.keystoreAlias
         stashedPhonePubkey := res.phonePubkey }, [])
  | .failed reason =>
    ({ viewModel with state := .failed reason },
      .abandonProvisionalAssociation :: viewModel.removeBondBestEffort)

def onOobYesTapped : Option (Text × PeerHandle × Bytes) :=
  match viewModel.state, viewModel.pickedPeer, viewModel.stashedBondKey with
  | .oobConfirming code, some peer, some bondKey => some (code, peer, bondKey)
  | _, _, _ => none

def bondRecord (peer : PeerHandle) (bondKey : Bytes) : BondRecord where
  peerId := peer.id
  peerName := peer.name
  bondKey := bondKey
  keystoreAlias := viewModel.stashedKeystoreAlias
  phonePubkey := viewModel.stashedPhonePubkey

/-- The end of the transaction that `onOobYesTapped` has launched. -/
def onTransactionEnded (peer : PeerHandle) (persistFailure : Option Text) :
    Except Text Text → ViewModel × List ScreenCall
  | .ok _ => ({ viewModel with state := .bonded peer.name }, [.commitProvisionalAssociation])
  | .error msg =>
    if "UNCERTAIN:".toList.isPrefixOf msg then
      ({ viewModel with state := .uncertain ((msg.dropPrefix? "UNCERTAIN: ".toList).getD msg) }, [])
    else
      ({ viewModel with
          state := .failed ((persistFailure.map (PERSIST_PREFIX ++ ·)).getD msg) },
        [.abandonProvisionalAssociation])

def onOobNoTapped : ViewModel × List ScreenCall :=
  match viewModel.state with
  | .oobConfirming _ =>
    ({ viewModel with state := .failed OOB_MISMATCH },
      [.abortTransaction false, .abandonProvisionalAssociation] ++ viewModel.removeBondBestEffort)
  | _ => (viewModel, [])

/-- What the `init` block does with the outcome of a recovery. -/
def onRecovered (bonded : Bool) : ViewModel :=
  { viewModel with
    state :=
      if bonded then .bonded [] else .uncertain "authenticated recovery is incomplete".toList }

def onCleared : List ScreenCall :=
  match viewModel.state with
  | .idle | .scanning | .lescNegotiating _ | .oobConfirming _
  | .failed _ => [.abandonProvisionalAssociation, .cleanup]
  | .finalizing | .uncertain _ | .bonded _ => [.cleanup]

end ViewModel

/-! ## The backend -/

def ADAPTER_MISSING_REASON : Text := "no Bluetooth adapter available on this device".toList

def PEER_LOOKUP_FAILED_REASON : Text :=
  "could not look up BluetoothDevice for the chosen peer".toList

def LESC_PENDING_PLACEHOLDER : Text := "(awaiting OS pairing request)".toList

def LESC_CODE_DIGITS : Nat := 6

def PAIRING_VARIANT_PASSKEY_CONFIRMATION : Int := 2

def BOND_NONE : Int := 10

def BOND_BONDING : Int := 11

def BOND_BONDED : Int := 12

/-- What the Bluetooth stack answers while a peer is picked. -/
structure DeviceAnswers where
  /-- Whether `getRemoteDevice` found the device. -/
  found : Bool
  bondState : Int
  createBond : Bool

structure PairBackend extends Backend where
  /-- Whether there is a Bluetooth adapter. -/
  adapter : Bool
  /-- Whether a GATT exchange is wired. -/
  gattExchange : Bool
  pickedName : Text
  lastPairingCode : Text
  /-- What `lescResultDeferred` was completed with; the first one counts. -/
  lescResultDeferred : List LescResult
  /-- The bond state that the receiver has seen last. -/
  lastState : Int
  cleanedUp : Bool

namespace PairBackend

def init (preferences : Preferences) (adapter gattExchange : Bool) :
    PairBackend where
  toBackend := .init preferences
  adapter := adapter
  gattExchange := gattExchange
  pickedName := []
  lastPairingCode := LESC_PENDING_PLACEHOLDER
  lescResultDeferred := []
  lastState := BOND_NONE
  cleanedUp := false

variable (back : PairBackend)

def complete (res : LescResult) : PairBackend :=
  { back with lescResultDeferred := back.lescResultDeferred ++ [res] }

def pick (peer : PeerHandle) : PairBackend :=
  { back with
    pickedAddress := some peer.id, pickedName := peer.name
    preferences := { back.preferences with peerAddress := some peer.id }
    lastPairingCode := LESC_PENDING_PLACEHOLDER }

/-- Pick a peer; the last component are the exchanges that it starts. -/
def pickPeer (peer : PeerHandle) (device : DeviceAnswers) :
    PairBackend × PickPeerResult × List Text :=
  if !back.adapter then (back, .failed ADAPTER_MISSING_REASON, [])
  else if back.cleanedUp then (back, .failed "backend has been cleaned up".toList, [])
  else if !device.found then (back, .failed PEER_LOOKUP_FAILED_REASON, [])
  else if device.bondState = BOND_BONDED then
    (back.pick peer, .lescStarted LESC_PENDING_PLACEHOLDER, [peer.id])
  else if device.createBond then (back.pick peer, .lescStarted LESC_PENDING_PLACEHOLDER, [])
  else
    (back.pick peer,
      .failed
        ("BluetoothDevice.createBond(TRANSPORT_LE) refused (bondState=".toList
          ++ (toString device.bondState).toList ++ [')']), [])

def pairingCode (passkey : Int) : Text := (toString passkey).toList.leftpad LESC_CODE_DIGITS '0'

def onPairingRequest (variant passkey : Int) : PairBackend × Option Text :=
  if variant = PAIRING_VARIANT_PASSKEY_CONFIRMATION then
    ({ back with lastPairingCode := pairingCode passkey }, some (pairingCode passkey))
  else
    (back.complete
      (.failed ("OS pairing variant rejected: ".toList ++ (toString variant).toList)), none)

/-- The addresses with which `onBondedFromReceiver` starts an exchange. -/
def onBondedFromReceiver (addr : Text) : List Text :=
  match back.pickedAddress with
  | some picked => if picked = addr then [addr] else []
  | none => [addr]

def onBondStateChanged (newState : Int) (previous : Option Int)
    (addr : Option Text) : PairBackend × List Text :=
  let seen := { back with lastState := newState }
  if newState = BOND_BONDED then (seen, addr.toList.flatMap back.onBondedFromReceiver)
  else if newState = BOND_NONE ∧
      previous.getD back.lastState = BOND_BONDING then
    (seen.complete (.failed "OS bond cancelled or failed (BOND_BONDING -> BOND_NONE)".toList), [])
  else (seen, [])

def onCapability (capability : Option Bytes) : PairBackend :=
  match offeredTransaction capability with
  | .error _ => back
  | .ok id =>
    { back with
      transactionId := some id.toList
      transactionState :=
        if transactionStateBelongsToAttempt back.preferences.state
            id then
          back.preferences.state
        else back.transactionState }

def coordinate : PairBackend × PhoneProgram (Except Text Text) :=
  if !back.gattExchange then (back, .done (.error GATT_EXCHANGE_MISSING_REASON))
  else
    match back.transactionId with
    | none => (back, .done (.error "pairing protocol v2 unavailable".toList))
    | some bytes =>
      let forgotten := { back with transactionState := none, preferences := ⟨none, none⟩ }
      if sized : bytes.length = 16 then
        (if transactionStateBelongsToAttempt back.transactionState
            ⟨bytes, sized⟩ then
          back
        else
          forgotten,
          coordinateTransaction ⟨bytes, sized⟩ back.pickedName back.transactionState)
      else (forgotten, .done (.error "Rust pairing transaction unavailable".toList))

def save (state : Bytes) : PairBackend :=
  { back with
    transactionState := some state
    preferences := { back.preferences with state := some state } }

def forget (succeeded : Bool) : PairBackend :=
  if succeeded then { back with preferences := { back.preferences with state := none } }
  else back

def cleanup : PairBackend :=
  if back.cleanedUp then back
  else
    { back with
      cleanedUp := true
      lescResultDeferred :=
        if back.lescResultDeferred = [] then [.failed "backend cleanup".toList]
        else back.lescResultDeferred }

/-- What a recovery that has asked before makes of the answer. -/
def onStatus (asked : Backend) (exchange : StatusExchange) : PairBackend × Option Bool :=
  match asked.queryStatus exchange with
  | .error _ => (back, none)
  | .ok updated =>
    let phase := (pairTransactionPhase updated).toOption.getD 8
    let preferences :=
      if phase = 6 || phase = 7 then ⟨none, none⟩
      else { back.preferences with state := some updated }
    ({ back with transactionState := some updated, preferences }, some (phase = 6))

end PairBackend

/-! ## The threads beside the main thread -/

namespace PhoneProgram

variable {Value : Type}

def afterRead (reply : Option Bytes) : PhoneProgram Value → PhoneProgram Value
  | .read next => next reply
  | prog => prog

def afterWrite (reported : Bool) : PhoneProgram Value → PhoneProgram Value
  | .write _ next => next reported
  | prog => prog

def afterPersist (succeeded : Bool) :
    PhoneProgram Value → PhoneProgram Value
  | .persist next => next succeeded
  | prog => prog

end PhoneProgram

inductive WorkerStage where
  /-- Up to the return of `exchangePubkeys`. -/
  | connecting
  /-- The name of the peer is read last, so the program depends on it. -/
  | exchanging (prog : Text → PhoneProgram (Except Text (TransactionId × LescBonded)))
  /-- The callback was called with the result. -/
  | resolved (res : LescBonded)
  /-- `onLescResult` has found the state it needs. -/
  | checked (res : LescBonded)
  | ended

/-- A thread that runs `runPostBondExchange`. -/
structure Worker where
  /-- How many peers had been picked when it was started. -/
  attempt : Nat
  address : Text
  stage : WorkerStage

inductive TransactionStage where
  | launched
  | running (prog : PhoneProgram (Except Text Text))
  | ended

/-- The coroutine that `onOobYesTapped` launches. -/
structure TransactionRun where
  /-- The attempt whose code was confirmed, and that code. -/
  attempt : Nat
  code : Text
  peer : PeerHandle
  bondKey : Bytes
  persistFailure : Option Text
  stage : TransactionStage

/-- The coroutine that the `init` block launches. -/
inductive RecoveryStage where
  | launched
  | asked (back : Backend)
  | answered (bonded : Bool)
  | ended

/-- A key exchange that was completed. -/
structure Exchange where
  attempt : Nat
  address : Text
  result : LescBonded

/-- A call of `persistBond`, and the confirmation that it goes back to. -/
structure Persisted where
  attempt : Nat
  code : Text
  record : BondRecord

/-- The screen, its threads and coroutines. -/
structure Screen where
  viewModel : ViewModel
  backend : PairBackend
  workers : List Worker
  transactions : List TransactionRun
  recovery : RecoveryStage
  /-- How many peers were picked. -/
  attempts : Nat
  calls : List ScreenCall
  /-- What `onLescResult` was called with. -/
  results : List LescResult
  exchanges : List Exchange
  persisted : List Persisted

inductive ScreenEvent where
  | startScanTapped
  /-- Also the callback of a scan that failed. -/
  | cancelTapped
  | peerPicked (peer : PeerHandle) (device : DeviceAnswers)
  | pairingRequested (variant passkey : Int)
  | bondStateChanged (newState : Int) (previous : Option Int) (addr : Option Text)
  | oobYesTapped
  | oobNoTapped
  | cleared
  /-- A worker has made its key and exchanged it. -/
  | connected (i : Nat) (material : Except Text (Option Bytes))
      (hostPubkey : Except Text Bytes) (peerDisplayName : Option Text)
  | capabilityRead (i : Nat) (capability : Option Bytes)
  | capabilityWritten (i : Nat) (reported : Bool)
  /-- A worker checks the state in `onLescResult`. -/
  | resultChecked (i : Nat)
  /-- A worker goes on in `onLescResult`. -/
  | resultTaken (i : Nat)
  | transactionStarted (i : Nat)
  | transactionRead (i : Nat) (reply : Option Bytes)
  | transactionWritten (i : Nat) (reported : Bool)
  | transactionPersisted (i : Nat) (res : Except Text Unit)
  /-- A running transaction stores a snapshot, whichever it is. -/
  | transactionSaved (state : Bytes)
  | transactionEnded (i : Nat)
  | recoveryAsked
  | recoveryAnswered (exchange : StatusExchange)
  /-- The recovery writes its outcome into the state. -/
  | recoverySettled

namespace Screen

def start (preferences : Preferences) (adapter gattExchange : Bool) :
    Screen where
  viewModel := .init
  backend := .init preferences adapter gattExchange
  workers := []
  transactions := []
  recovery := .launched
  attempts := 0
  calls := []
  results := []
  exchanges := []
  persisted := []

section

variable (screen : Screen)

def handled (out : ViewModel × List ScreenCall) : Screen :=
  { screen with viewModel := out.1, calls := screen.calls ++ out.2 }

def picked (back : PairBackend) (out : ViewModel × List ScreenCall) : Screen :=
  { screen.handled out with backend := back, attempts := screen.attempts + 1 }

def spawn (addresses : List Text) : Screen :=
  { screen with
    workers := screen.workers ++ addresses.map fun addr => ⟨screen.attempts, addr, .connecting⟩ }

def setWorker (i : Nat) (stage : WorkerStage) : Screen :=
  { screen with workers := screen.workers.modify i ({ · with stage }) }

def withBackend (back : PairBackend) : Screen := { screen with backend := back }

/-- An exchange has failed; only the deferred result learns of it. -/
def failExchange (reason : Text) : Screen :=
  screen.withBackend (screen.backend.complete (.failed reason))

def resolveExchange (att : Nat) (addr : Text) (res : LescBonded) :
    Screen :=
  { screen with
    backend := screen.backend.complete (.bonded res), results := screen.results ++ [.bonded res]
    exchanges := screen.exchanges ++ [⟨att, addr, res⟩] }

/-- A worker goes on with its program, up to its next call or its end. -/
def continueWorker (i att : Nat) (addr : Text)
    (prog : Text → PhoneProgram (Except Text (TransactionId × LescBonded))) : Screen :=
  match prog screen.backend.pickedName with
  | .done (.error reason) => (screen.failExchange reason).setWorker i .ended
  | .done (.ok (_, res)) => (screen.resolveExchange att addr res).setWorker i (.resolved res)
  | _ => screen.setWorker i (.exchanging prog)

def setTransaction (i : Nat) (change : TransactionRun → TransactionRun) : Screen :=
  { screen with transactions := screen.transactions.modify i change }

def resumeTransaction (i : Nat)
    (resume : PhoneProgram (Except Text Text) → PhoneProgram (Except Text Text)) : Screen :=
  screen.setTransaction i fun tx =>
    match tx.stage with
    | .running prog => { tx with stage := .running (resume prog) }
    | _ => tx

def persistBond (i : Nat) (tx : TransactionRun) (res : Except Text Unit) : Screen :=
  let record := screen.viewModel.bondRecord tx.peer tx.bondKey
  { screen with
    calls := screen.calls ++ [.persistBond record]
    persisted := screen.persisted ++ [⟨tx.attempt, tx.code, record⟩]
    transactions :=
      screen.transactions.modify i fun tx =>
        match res with
        | .ok _ => tx
        | .error msg => { tx with persistFailure := some msg } }

end

/-- The bond key deriver and the OOB calculator are parameters. -/
def step (derive : Bytes → Bytes → Bytes) (compute : Bytes → Text)
    (screen : Screen) : ScreenEvent → Screen
  | .startScanTapped => screen.handled screen.viewModel.onStartScanTapped
  | .cancelTapped => screen.handled screen.viewModel.onCancelTapped
  | .peerPicked peer device =>
    match screen.viewModel.state with
    | .scanning =>
      let (back, res, addresses) := screen.backend.pickPeer peer device
      (screen.picked back (screen.viewModel.onPeerPicked peer res)).spawn addresses
    | _ => screen
  | .pairingRequested variant passkey =>
    if screen.backend.cleanedUp then screen
    else
      let (back, code) := screen.backend.onPairingRequest variant passkey
      { screen with
        backend := back
        viewModel := code.elim screen.viewModel screen.viewModel.onPairingCode }
  | .bondStateChanged newState previous addr =>
    if screen.backend.cleanedUp then screen
    else
      let (back, addresses) := screen.backend.onBondStateChanged newState previous addr
      (screen.withBackend back).spawn addresses
  | .oobYesTapped =>
    match screen.viewModel.onOobYesTapped with
    | some (code, peer, bondKey) =>
      { screen with
        viewModel := { screen.viewModel with state := .finalizing }
        transactions :=
          screen.transactions ++ [⟨screen.attempts, code, peer, bondKey, none, .launched⟩] }
    | none => screen
  | .oobNoTapped => screen.handled screen.viewModel.onOobNoTapped
  | .cleared =>
    { screen with
      backend := screen.backend.cleanup, calls := screen.calls ++ screen.viewModel.onCleared }
  | .connected i material hostPubkey peerDisplayName =>
    match screen.workers[i]? with
    | some ⟨att, addr, .connecting⟩ =>
      screen.continueWorker i att addr fun pickedName =>
        ExceptT.run
          (runPostBondExchange derive
            { address := addr, material, hostPubkey, peerDisplayName
              gattExchange := screen.backend.gattExchange
              pickedName })
    | _ => screen
  | .capabilityRead i capability =>
    match screen.workers[i]? with
    | some ⟨att, addr, .exchanging prog⟩ =>
      match prog screen.backend.pickedName with
      | .read _ =>
        (screen.withBackend
          (screen.backend.onCapability capability)).continueWorker
            i att addr fun pickedName => (prog pickedName).afterRead capability
      | _ => screen
    | _ => screen
  | .capabilityWritten i reported =>
    match screen.workers[i]? with
    | some ⟨att, addr, .exchanging prog⟩ =>
      match prog screen.backend.pickedName with
      | .write _ _ =>
        screen.continueWorker i att addr fun pickedName => (prog pickedName).afterWrite reported
      | _ => screen
    | _ => screen
  | .resultChecked i =>
    match screen.workers[i]? with
    | some ⟨_, _, .resolved res⟩ =>
      screen.setWorker i (if screen.viewModel.state.negotiating then .checked res else .ended)
    | _ => screen
  | .resultTaken i =>
    match screen.workers[i]? with
    | some ⟨_, _, .checked res⟩ =>
      (screen.handled (screen.viewModel.onLescResult compute (.bonded res))).setWorker i .ended
    | _ => screen
  | .transactionStarted i =>
    match screen.transactions[i]? with
    | some ⟨_, _, _, _, _, .launched⟩ =>
      let (back, prog) := screen.backend.coordinate
      (screen.withBackend back).setTransaction i ({ · with stage := .running prog })
    | _ => screen
  | .transactionRead i reply => screen.resumeTransaction i (PhoneProgram.afterRead reply)
  | .transactionWritten i reported => screen.resumeTransaction i (PhoneProgram.afterWrite reported)
  | .transactionPersisted i res =>
    match screen.transactions[i]? with
    | some ⟨att, code, peer, bondKey, failure,
        .running (.persist next)⟩ =>
        (screen.persistBond i
          ⟨att, code, peer, bondKey, failure,
            .running (.persist next)⟩ res).resumeTransaction i (PhoneProgram.afterPersist res.isOk)
    | _ => screen
  | .transactionSaved state =>
    if screen.transactions.any fun tx =>
        tx.stage matches .running _ then
      screen.withBackend (screen.backend.save state)
    else screen
  | .transactionEnded i =>
    match screen.transactions[i]? with
    | some ⟨_, _, peer, _, failure, .running (.done res)⟩ =>
      ((screen.withBackend
        (screen.backend.forget res.isOk)).handled
          (screen.viewModel.onTransactionEnded peer failure
            res)).setTransaction i ({ · with stage := .ended })
    | _ => screen
  | .recoveryAsked =>
    match screen.recovery with
    | .launched => { screen with recovery := .asked screen.backend.toBackend }
    | _ => screen
  | .recoveryAnswered exchange =>
    match screen.recovery with
    | .asked asked =>
      let (back, out) := screen.backend.onStatus asked exchange
      { screen with
        backend := back
        recovery := out.elim .ended .answered }
    | _ => screen
  | .recoverySettled =>
    match screen.recovery with
    | .answered bonded =>
      { screen with viewModel := screen.viewModel.onRecovered bonded, recovery := .ended }
    | _ => screen

end Screen

end DeskUnlock.Pairing.Phone
