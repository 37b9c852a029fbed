import DeskUnlock.Pairing.Snapshot
import DeskUnlock.Recovery.CommitOrder
import DeskUnlock.Recovery.JournalAgreement

/-!
# The recovery service

`syauth-cli/src/reconcile.rs`: `run_reconcile`, `apply_status_decision` and
`finalize`.  A run reads the journal and the pending bond, asks the phone for
its status, and acts on the answer with file-system calls of its own.

The desktop below is the daemon with any number of such runs on one bond
directory.  It also records what the theorems speak about: the transaction
whose request has last written a file, the transactions that a run has
decided, and the staging files that these decisions activated or removed.
-/

namespace DeskUnlock.Recovery

open FilePrograms Texts
open Pairing

/-- What the text of a rejection says. -/
inductive Rejection where
  /-- `query received instead of response`. -/
  | query
  | transaction (error : TransactionError)
  | recovery (error : RecoveryError)
deriving DecidableEq

/-- Failures of a recovery run; `panicked` is an unwound process. -/
inductive ReconcileError where
  | noJournal
  | malformedJournal
  | transport (reason : Text)
  | transaction (reason : Rejection)
  | io (source : IoError)
  | bond (error : BondError)
  | panicked
deriving DecidableEq

/-- What a recovery decides. -/
inductive ReconcileResult where
  | bonded
  | aborted
  | uncertain
deriving DecidableEq

abbrev ReconcileM := Fallible BondPath ReconcileError

def ReconcileM.ofExcept {Error Value : Type}
    (convert : Error → ReconcileError) (res : Except Error Value) : ReconcileM Value :=
  ExceptT.mk (Prog.done (res.mapError convert))

def JournalFault.toReconcileError : JournalFault → ReconcileError
  | .malformed => .malformedJournal
  | .panicked => .panicked

def ReconcileM.ofFault {Value : Type} (res : Except JournalFault Value) : ReconcileM Value :=
  ReconcileM.ofExcept JournalFault.toReconcileError res

def rejected (error : TransactionError) : ReconcileError := .transaction (.transaction error)

def RecoveryError.toReconcileError : RecoveryError → ReconcileError
  | .io source => .io source
  | .panicked => .panicked
  | other => .transaction (.recovery other)

/-- What a run has read when it asks the phone. -/
structure RecoveredTransaction where
  id : TransactionId
  address : Text
  pending : Bond
  transaction : Transaction

def journalToString (reply : Except IoError (List UInt8)) : Except ReconcileError Text :=
  match reply with
  | .error _ => .error .noJournal
  | .ok bytes =>
    match utf8Decode? bytes with
    | none => .error .noJournal
    | some text => .ok text

section

variable (libs : Primitives)

/-- `run_reconcile` up to the query of the phone's status. -/
def runReconcileUntilQuery : ReconcileM RecoveredTransaction := do
  let text ← ReconcileM.ofExcept id (journalToString (← readFile .journal))
  let idText ← ReconcileM.ofFault (requiredField "transaction_id".toList text)
  let id ← ReconcileM.ofFault (parseTransactionId idText)
  let peerId ← ReconcileM.ofFault (requiredField "peer_id".toList text)
  let addr ← ReconcileM.ofFault (requiredField "peer_address".toList text)
  let store ← ExceptT.adapt .bond (BondStore.load libs .pendingBond)
  match store.bonds.head? with
  | none => throw .malformedJournal
  | some pending =>
    if pending.peerId ≠ peerId then throw .malformedJournal
    let localStatus ←
      ReconcileM.ofFault
        (parseLocalStatus ((field "state".toList text).getD "commit_pending".toList))
    let tx ←
      ReconcileM.ofExcept rejected (Transaction.fromRecoveryStatus id .coordinator localStatus)
    return { id, address := addr, pending, transaction := tx }

/-- A transaction that both sides have committed to is recorded as such. -/
def recordDecision (tx : Transaction) (remote : StatusState) :
    Except ReconcileError Transaction := do
  if tx.phase = .committed then
    let (recorded, res) := tx.local .committed
    let _ ← res.mapError rejected
    let (reconciled, res) := recorded.reconcileStatus remote
    let _ ← res.mapError rejected
    return reconciled
  else
    return tx

/-- The part of `apply_status_decision` that needs no file. -/
def statusDecision (tx : Transaction) (resp : StatusMessage)
    (nonce : UInt64) : Except ReconcileError ReconcileResult := do
  match resp.state with
  | none => throw (.transaction .query)
  | some remote =>
    let (answered, res) := tx.applyStatusResponse resp nonce
    let _ ← res.mapError rejected
    if remote = .unknown ∨ answered.phase = .uncertain then
      return .uncertain
    match (← recordDecision answered remote).phase with
    | .bonded => return .bonded
    | .aborted _ => return .aborted
    | _ => return .uncertain

def finalize (pending : Bond) : ReconcileM Unit :=
  ExceptT.adapt RecoveryError.toReconcileError (promote libs pending.peerId)

def clearRecovery (peerId : Text) : ReconcileM Unit :=
  ExceptT.adapt RecoveryError.toReconcileError (discard peerId)

def carryOut (pending : Bond) :
    ReconcileResult → ReconcileM ReconcileResult
  | .bonded => do
      finalize libs pending
      return .bonded
  | .aborted => do
      clearRecovery pending.peerId
      return .aborted
  | .uncertain => return .uncertain

end

def ReconcileResult.decisive : ReconcileResult → Bool
  | .bonded | .aborted => true
  | .uncertain => false

def BondPath.isStaging : BondPath → Bool
  | .journal | .pendingBond | .pendingKey _ => true
  | _ => false

/-- A staging file that a decision activated or removed. -/
structure Effect where
  /-- The transaction that the run has decided. -/
  decision : TransactionId
  path : BondPath
  /-- The transaction that the file belonged to. -/
  owner : TransactionId

abbrev ReconcileProgram (Value : Type) := Prog BondPath (Except ReconcileError Value)

/-- A decision that is being carried out. -/
structure Decision where
  id : TransactionId
  peerId : Text
  /-- To whom the staging files belonged when the run has read them. -/
  carried : BondPath → Option TransactionId

namespace Decision

variable (decision : Decision) (owner : BondPath → TransactionId)
  (disk : BondDisk) (out : Outcome)

def reading {Value : Type} : ReconcileProgram Value → Decision
  | .read path _ =>
    if path.isStaging ∧ (readReply disk path out).isOk then
      { decision with carried := Function.update decision.carried path (some (owner path)) }
    else decision
  | _ => decision

/-- A staging file whose content this call makes active trust. -/
def activated : Action BondPath → Option BondPath
  | .rename _ (.activeKey peerId) => some (.pendingKey peerId)
  | .persist .bonds _ _ => some .pendingBond
  | _ => none

def effectsOf (action : Action BondPath) : List Effect :=
  let active :=
    (activated action).toList.flatMap fun path =>
      (decision.carried path).toList.map fun owner => ⟨decision.id, path, owner⟩
  match action with
  | .remove path => if path.isStaging then [⟨decision.id, path, owner path⟩] else []
  | _ => active

def effects {Value : Type} : ReconcileProgram Value → List Effect
  | .act action _ =>
    if out = .performed ∧ (action.apply disk).isSome then decision.effectsOf owner action else []
  | _ => []

end Decision

/-- A run of the recovery service. -/
inductive ReconcileRun where
  | reading (prog : ReconcileProgram RecoveredTransaction)
  /-- The query was sent with this nonce. -/
  | waiting (recovered : RecoveredTransaction) (nonce : UInt64)
  | acting (decision : Decision) (prog : ReconcileProgram ReconcileResult)
  | ended (res : Except ReconcileError ReconcileResult)

namespace ReconcileRun

def proceed (decision : Decision) :
    ReconcileProgram ReconcileResult → ReconcileRun
  | .done res => .ended res
  | prog => .acting decision prog

def decision? : ReconcileRun → Option TransactionId
  | .acting decision _ => some decision.id
  | _ => none

end ReconcileRun

/-- Why the phone's status could not be read. -/
inductive StatusFault where
  /-- The journal's address is no address. -/
  | address
  | transport (reason : Text)
deriving DecidableEq

def StatusFault.toReconcileError : StatusFault → ReconcileError
  | .address => .malformedJournal
  | .transport reason => .transport reason

/-- The daemon and the recovery runs on one bond directory. -/
structure Desktop where
  daemon : Daemon
  runs : List ReconcileRun
  /-- The transaction whose request has last written the file. -/
  owner : BondPath → TransactionId
  /-- The transactions that a run has decided. -/
  decisions : List TransactionId
  effects : List Effect

inductive DesktopEvent where
  | daemon (ev : DaemonEvent)
  /-- The recovery service is started once more. -/
  | started
  /-- A run makes its next file-system call. -/
  | called (i : Nat) (out : Outcome)
  /-- A run sends its query. -/
  | asked (i : Nat) (nonce : UInt64)
  | answered (i : Nat) (resp : StatusMessage)
  | unanswered (i : Nat) (fault : StatusFault)

namespace Desktop

variable (libs : Primitives)

def ownerAfter (owner : BondPath → TransactionId) (daemon : Daemon) :
    DaemonEvent → BondPath → TransactionId
  | .called out, path =>
    match daemon.consumer with
    | .serving req (.act action _) =>
      if isAwaited req ∧
          path ∈ action.altered daemon.disk out then
        req.transaction
      else owner path
    | _ => owner path
  | _, path => owner path

variable (desktop : Desktop)

def replace (i : Nat) (run : ReconcileRun) : Desktop :=
  { desktop with runs := desktop.runs.set i run }

def withDisk (disk : BondDisk) : Desktop := { desktop with daemon := { desktop.daemon with disk } }

def call (i : Nat) (out : Outcome) :
    ReconcileRun → Desktop
  | .reading prog =>
    let (disk, prog) := prog.resume desktop.daemon.disk out
    (desktop.withDisk disk).replace i (.reading prog)
  | .acting decision prog =>
    let (disk, next) := prog.resume desktop.daemon.disk out
    { (desktop.withDisk disk).replace i
        (.proceed
          (decision.reading desktop.owner desktop.daemon.disk out prog)
          next) with
      effects := desktop.effects ++ decision.effects desktop.owner desktop.daemon.disk out prog }
  | _ => desktop

def settle (i : Nat) (recovered : RecoveredTransaction) :
    Except ReconcileError ReconcileResult → Desktop
  | .error error => desktop.replace i (.ended (.error error))
  | .ok res =>
    if res.decisive then
      { desktop.replace i
          (.acting
            ⟨recovered.id, recovered.pending.peerId, fun _ => none⟩
            (carryOut libs recovered.pending res)) with
        decisions := desktop.decisions ++ [recovered.id] }
    else desktop.replace i (.ended (.ok res))

/-- The daemon, or one of the recoveries, goes on. -/
def step (desktop : Desktop) : DesktopEvent → Desktop
  | .daemon ev =>
    { desktop with
      daemon := desktop.daemon.step libs ev, owner := ownerAfter desktop.owner desktop.daemon ev }
  | .started => { desktop with runs := desktop.runs ++ [.reading (runReconcileUntilQuery libs)] }
  | .called i out =>
    match desktop.runs[i]? with
    | some run => desktop.call i out run
    | none => desktop
  | .asked i nonce =>
    match desktop.runs[i]? with
    | some (.reading (.done (.ok recovered))) => desktop.replace i (.waiting recovered nonce)
    | some (.reading (.done (.error error))) => desktop.replace i (.ended (.error error))
    | _ => desktop
  | .answered i resp =>
    match desktop.runs[i]? with
    | some (.waiting recovered nonce) =>
      desktop.settle libs i recovered (statusDecision recovered.transaction resp nonce)
    | _ => desktop
  | .unanswered i fault =>
    match desktop.runs[i]? with
    | some (.waiting _ _) => desktop.replace i (.ended (.error fault.toReconcileError))
    | _ => desktop

def taken? : DesktopEvent → Option PairCommitRequest
  | .daemon (.received _ _) =>
    match desktop.daemon.consumer with
    | .idle => desktop.daemon.session.commits.head?
    | _ => none
  | _ => none

def carried? : DesktopEvent → Option TransactionId
  | .called i _ => desktop.runs[i]?.bind ReconcileRun.decision?
  | _ => none

def decided? :
    DesktopEvent → Option RecoveredTransaction
  | .answered i resp =>
    match desktop.runs[i]? with
    | some (.waiting recovered nonce) =>
      match statusDecision recovered.transaction resp nonce with
      | .ok res => if res.decisive then some recovered else none
      | .error _ => none
    | _ => none
  | _ => none

def start (hostPubkey : Pubkey) (hostName : Bytes) (disk : BondDisk)
    (owner : BondPath → TransactionId) : Desktop where
  daemon := .start hostPubkey hostName disk
  runs := []
  owner := owner
  decisions := []
  effects := []

end Desktop

end DeskUnlock.Recovery
