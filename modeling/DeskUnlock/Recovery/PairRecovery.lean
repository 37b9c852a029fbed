import DeskUnlock.Recovery.BondStore

/-!
# Staging, promotion and recovery

`syauth-core/src/pair_recovery.rs`.  A peer first exists in the staging area
only: the journal, the pending bond store and the pending key.  The active
trust is written by `promote`.
-/

namespace DeskUnlock.Recovery

open FilePrograms Texts
open Pairing (TransactionId)

/-- Recovery error surface; `panicked` is an unwound thread. -/
inductive RecoveryError where
  | io (source : IoError)
  | bond (error : BondError)
  | malformed
  | panicked
deriving DecidableEq

abbrev RecoveryM := Fallible BondPath RecoveryError

/-- `?` on a `Result` that needs no further call. -/
def RecoveryM.ofExcept {Error Value : Type}
    (convert : Error → RecoveryError) (res : Except Error Value) : RecoveryM Value :=
  ExceptT.mk (Prog.done (res.mapError convert))

def RecoveryM.ofBond {Value : Type}
    (prog : Fallible BondPath BondError Value) : RecoveryM Value :=
  ExceptT.adapt .bond prog

def JournalFault.toRecoveryError : JournalFault → RecoveryError
  | .malformed => .malformed
  | .panicked => .panicked

def writeJournal (record : JournalRecord) : RecoveryM Unit := do
  call (.createDirAll .bondDir) .io
  call (.setPermissions .bondDir 0o700) .io
  call (.write .journal (utf8 (journalText record))) .io

def decodeJournal (bytes : List UInt8) : Except RecoveryError JournalRecord :=
  match utf8Decode? bytes with
  | none => .error (.io .failed)
  | some text => (readJournalText text).mapError JournalFault.toRecoveryError

theorem decodeJournal_utf8 {text : Text} :
    decodeJournal (utf8 text) = (readJournalText text).mapError JournalFault.toRecoveryError := by
  rw [decodeJournal, utf8Decode?_utf8]

theorem decodeJournal_of_unbroken {record : JournalRecord}
    (peer : Unbroken record.peerId) (addr : Unbroken record.peerAddress) :
    decodeJournal (utf8 (journalText record)) = .ok record := by
  rw [decodeJournal_utf8, readJournalText_of_unbroken peer addr]
  rfl

/-- No journal means that there is nothing to recover. -/
def readJournal : RecoveryM (Option JournalRecord) := do
  match ← readFile .journal with
  | .error .notFound => return none
  | .error error => throw (.io error)
  | .ok bytes => some <$> RecoveryM.ofExcept id (decodeJournal bytes)

def markCommitPending : RecoveryM Unit := do
  match ← readJournal with
  | none => throw .malformed
  | some record => writeJournal { record with state := .commitPending }

section

variable (libs : Primitives)

/-- Stage one inactive bond and its key, then write the journal. -/
def stage (tx : TransactionId) (peerId peerAddress : Text)
    (bond : Bond) (bondKey : BondKey) : RecoveryM Unit := do
  call (.createDirAll .bondDir) .io
  call (.setPermissions .bondDir 0o700) .io
  let pending ← RecoveryM.ofExcept .bond (BondStore.empty.add bond)
  RecoveryM.ofBond (pending.save libs .pendingBond)
  call (.createDirAll .keysDir) .io
  call (.setPermissions .keysDir 0o700) .io
  call (.write (.pendingKeyTmp peerId) bondKey.toList) .io
  call (.setPermissions (.pendingKeyTmp peerId) 0o600) .io
  call (.rename (.pendingKeyTmp peerId) (.pendingKey peerId)) .io
  writeJournal ⟨tx, peerId, peerAddress, .preCommit⟩

/-- Drop the staged state; never touches the active trust, never fails. -/
def discard (peerId : Text) : RecoveryM Unit := do
  callIgnored (.remove .journal)
  callIgnored (.remove .pendingBond)
  callIgnored (.remove (.pendingKey peerId))

/-- The staged key becomes the active key, unless it already did. -/
def activateKey (peerId : Text) : RecoveryM Unit := do
  if ← pathExists (.pendingKey peerId) then
    let key ← RecoveryM.ofExcept .io (← readFile (.pendingKey peerId))
    if key.length ≠ BOND_KEY_DERIVED_BYTES then throw .malformed
    call (.createDirAll .keysDir) .io
    call (.write (.activeKeyTmp peerId) key) .io
    call (.setPermissions (.activeKeyTmp peerId) 0o600) .io
    call (.rename (.activeKeyTmp peerId) (.activeKey peerId)) .io
  else if !(← pathExists (.activeKey peerId)) then throw .malformed

def BondStore.replace (store : BondStore) (bond : Bond) :
    Except BondError BondStore := do
  if store.bonds? bond.peerId then (← store.remove bond.peerId).add bond else store.add bond

def promote (peerId : Text) : RecoveryM Unit := do
  let staged ← RecoveryM.ofBond (BondStore.load libs .pendingBond)
  match staged.bonds.find? (·.peerId = peerId) with
  | none => throw .malformed
  | some bond =>
    activateKey peerId
    let active ← RecoveryM.ofBond (BondStore.load libs .bonds)
    let active ← RecoveryM.ofExcept .bond (active.replace bond)
    RecoveryM.ofBond (active.save libs .bonds)
    discard peerId

end

end DeskUnlock.Recovery
