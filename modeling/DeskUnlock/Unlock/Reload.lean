import Mathlib.Data.List.AList
import DeskUnlock.Unlock.UnlockLinks

/-!
# Reloading the bonds

`reload_bonds_with_trigger` of `syauth-presenced/src/orchestrator.rs`: the
bonds on disk are compared with the live peers by their peer ids, and the
difference is carried out in the peripheral and in the peer map.

The calls of the peripheral, the reads of the key files and the order in which
a hash set is walked are questions to the environment.  What a reload leaves is
said of one peer id at a time: an id that stays keeps the entry it has, an id
that is new gets one if the peripheral takes it, and an id that is gone loses
its entry if the peripheral lets go of it.
-/

namespace DeskUnlock.Unlock

open Texts Dialogues Dialogue List Function Orchestrator
open Pairing (Bytes Pubkey Message)
open Recovery (Bond BondStatus BondStore BondError BondKey BOND_KEY_DERIVED_BYTES)

/-! ## The live peers -/

variable {peerId : Text}

variable {key : BondKey}

namespace Orchestrator

def live (orch : Orchestrator) (peerId : Text) : Option PeerEntry := do
  let i ← orch.peers peerId
  let (_, entry) ← orch.entries[i]?
  return entry

def peerIds (orch : Orchestrator) : List Text :=
  (orch.entries.zipIdx.filter fun named => orch.peers named.1.1 = some named.2).map (·.1.1)

variable {orch : Orchestrator}

theorem live_eq_some_iff {entry : PeerEntry} : orch.live peerId =
    some entry ↔ ∃ i, orch.peers peerId = some i ∧ orch.entries[i]? = some (peerId, entry) := by
  simp only [live, Option.bind_eq_bind, Option.bind_eq_some_iff]
  constructor
  · rintro ⟨i, listed, ⟨name, other⟩, found, same⟩
    cases same
    obtain ⟨entry, named⟩ := orch.listed _ i listed
    rw [named] at found
    cases found
    exact ⟨i, listed, named⟩
  · rintro ⟨i, listed, found⟩
    exact ⟨i, listed, _, found, rfl⟩

theorem peers_isSome_iff : (orch.live peerId).isSome ↔ (orch.peers peerId).isSome := by
  simp only [Option.isSome_iff_exists]
  constructor
  · rintro ⟨entry, found⟩
    obtain ⟨i, listed, -⟩ := live_eq_some_iff.mp found
    exact ⟨i, listed⟩
  · rintro ⟨i, listed⟩
    obtain ⟨entry, found⟩ := orch.listed _ i listed
    exact ⟨entry, live_eq_some_iff.mpr ⟨i, listed, found⟩⟩

theorem mem_peerIds : peerId ∈ orch.peerIds ↔ (orch.live peerId).isSome := by
  rw [peers_isSome_iff, Option.isSome_iff_exists]
  simp only [peerIds, mem_map, mem_filter, decide_eq_true_eq]
  constructor
  · rintro ⟨⟨⟨name, entry⟩, i⟩, ⟨-, listed⟩, rfl⟩
    exact ⟨i, listed⟩
  · rintro ⟨i, listed⟩
    obtain ⟨entry, found⟩ := orch.listed _ i listed
    exact ⟨((peerId, entry), i), ⟨mk_mem_zipIdx_iff_getElem?.mpr found, listed⟩, rfl⟩

theorem live_removePeer {orch : Orchestrator} {removed peerId : Text} :
    (orch.removePeer removed).live peerId =
      if peerId = removed then none else orch.live peerId := by
  unfold live removePeer
  by_cases same : peerId = removed
  · simp [same]
  · simp [same]

theorem live_addPeer {orch : Orchestrator} {added : Text} {phonePubkey : Pubkey} {peerId : Text} :
    (orch.addPeer added key phonePubkey).live peerId =
    if peerId = added then some (.new key (some phonePubkey)) else orch.live peerId := by
  by_cases same : peerId = added
  · subst same
    rw [if_pos rfl]
    exact live_eq_some_iff.mpr ⟨_, update_self .., getElem?_concat_length⟩
  · rw [if_neg same]
    ext entry
    rw [live_eq_some_iff, live_eq_some_iff]
    simp only [addPeer, update_of_ne same]
    constructor
    · rintro ⟨i, listed, found⟩
      obtain ⟨other, named⟩ := orch.listed _ i listed
      rw [getElem?_append_left (List.getElem?_eq_some_iff.mp named).1] at found
      exact ⟨i, listed, found⟩
    · rintro ⟨i, listed, found⟩
      refine ⟨i, listed, ?_⟩
      rw [getElem?_append_left (List.getElem?_eq_some_iff.mp found).1]
      exact found

theorem lookupPeer_phonePubkey {orch : Orchestrator} {peerId : Text} :
    (orch.lookupPeer peerId).map (·.phonePubkey) = (orch.live peerId).bind (·.phonePubkey) := by
  unfold lookupPeer live
  cases orch.peers peerId with
  | none => simp
  | some i =>
    cases found : orch.entries[i]? with
    | none => simp [found]
    | some named => cases keyed : named.2.phonePubkey <;> simp [found]

theorem lookupPeer_eq_none_iff : orch.lookupPeer peerId =
    none ↔ (orch.live peerId).bind (·.phonePubkey) = none := by
  rw [← lookupPeer_phonePubkey, Option.map_eq_none_iff]

end Orchestrator

/-! ## The program -/

def Bond.isRevoked (bond : Bond) : Bool :=
  match bond.status with
  | .revoked _ => true
  | .bonded => false

/-- What a reload asks of its environment. -/
inductive ReloadQuestion where
  /-- `std::fs::read` of the key file of a peer. -/
  | readKeyFile (peerId : Text)
  /-- The order in which a hash set is walked. -/
  | arrange (peerIds : List Text)
  | notifyChallenge (peerId : Text) (frame : Bytes)
  | removePeer (peerId : Text)
  | addPeer (peerId : Text) (key : BondKey)
  /-- `SIGTERM` to the daemon itself. -/
  | terminate
  /-- `rotate_once`: the session ids of the live peers are advertised. -/
  | rotate

abbrev ReloadAnswer : ReloadQuestion → Type
  | .readKeyFile _ => Except Text Bytes
  | .arrange peerIds => { order : List Text // order.Perm peerIds }
  | .notifyChallenge _ _ => Except PeripheralError Unit
  | .removePeer _ => Except PeripheralError Unit
  | .addPeer _ _ => Except PeripheralError Unit
  | .terminate => Unit
  | .rotate => Unit

abbrev ReloadM := Dialogue ReloadQuestion ReloadAnswer

def perform (ask : ReloadQuestion) : ReloadM (ReloadAnswer ask) := .ask ask .done

inductive KeyError where
  | read (source : Text)
  | wrongLength (length : Nat)
deriving DecidableEq

def loadBondKey (peerId : Text) : ReloadM (Except KeyError BondKey) := do
  match ← perform (.readKeyFile peerId) with
  | .error source => return .error (.read source)
  | .ok bytes =>
    if sized : bytes.length = BOND_KEY_DERIVED_BYTES then
      return .ok ⟨bytes, sized⟩
    else
      return .error (.wrongLength bytes.length)

abbrev KeyMap := AList fun _ : Text => BondKey

/-- One round of `compute_new_set`; a key that does not load is skipped. -/
def collectKey (newSet : KeyMap) (bond : Bond) : ReloadM KeyMap := do
  match ← loadBondKey bond.peerId with
  | .ok key => return newSet.insert bond.peerId key
  | .error _ => return newSet

def computeNewSet (store : BondStore) : ReloadM KeyMap :=
  (store.bonds.filter fun bond => !Bond.isRevoked bond).foldlM collectKey ∅

def computeDiff (orch : Orchestrator) (newSet : KeyMap) :
    ReloadM (List Text × List Text) := do
  let toAdd ← perform (.arrange (newSet.keys.filter (· ∉ orch.peerIds)))
  let toRemove ← perform (.arrange (orch.peerIds.filter (· ∉ newSet.keys)))
  return (toAdd.val, toRemove.val)

/-- The frame that tells a phone that the association is over. -/
def revokeNotice (peerId : Text) : Option Bytes := do
  let bytes ← hexDecode peerId
  if sized : bytes.length = 16 then
    return Message.encode ⟨⟨bytes, sized⟩, .revoke⟩
  else none

def doRemovePeer (orch : Orchestrator) (peerId : Text) :
    ReloadM Orchestrator := do
  match ← perform (.removePeer peerId) with
  | .ok () => return orch.removePeer peerId
  | .error _ => return orch

/-- One round of the removals; the notice is best effort. -/
def dropPeer (orch : Orchestrator) (peerId : Text) :
    ReloadM Orchestrator := do
  match revokeNotice peerId with
  | some frame =>
    let _ ← perform (.notifyChallenge peerId frame)
    doRemovePeer orch peerId
  | none => doRemovePeer orch peerId

/-- The public key is the one of the first record of the peer. -/
def doAddPeer (store : BondStore) (orch : Orchestrator)
    (peerId : Text) (key : BondKey) : ReloadM Orchestrator := do
  match store.bonds.find? (·.peerId = peerId) with
  | none => return orch
  | some bond =>
    match ← perform (.addPeer peerId key) with
    | .ok () => return orch.addPeer peerId key bond.pubkey
    | .error _ => return orch

def takePeer (store : BondStore) (newSet : KeyMap)
    (orch : Orchestrator) (peerId : Text) : ReloadM Orchestrator :=
  match newSet.lookup peerId with
  | some key => doAddPeer store orch peerId key
  | none => pure orch

/-- What a reload leaves, and whether it has raised the signal. -/
structure Reloaded where
  orchestrator : Orchestrator
  terminated : Bool

/-- The part of the reload that brings the peers up to date. -/
def applyDiff (orch : Orchestrator) (store : BondStore) :
    ReloadM Orchestrator := do
  let newSet ← computeNewSet store
  let (toAdd, toRemove) ← computeDiff orch newSet
  let orch ← toRemove.foldlM dropPeer orch
  toAdd.foldlM (takePeer store newSet) orch

/-- The part that follows: a daemon without a peer stops itself. -/
def concludeReload (exitWhenEmpty : Bool) (orch : Orchestrator) :
    ReloadM Reloaded := do
  if orch.peerIds.isEmpty && exitWhenEmpty then
    perform .terminate
    perform .rotate
    return ⟨orch, true⟩
  else
    perform .rotate
    return ⟨orch, false⟩

/-- `reload_bonds_with_trigger`; the trigger is only logged. -/
def reloadBonds (exitWhenEmpty : Bool) (orch : Orchestrator)
    (store : BondStore) : ReloadM Reloaded := do
  let orch ← applyDiff orch store
  concludeReload exitWhenEmpty orch

/-- A store that does not load skips the reload. -/
def runReload (exitWhenEmpty : Bool) (orch : Orchestrator) :
    Except BondError BondStore → ReloadM Reloaded
  | .error _ => pure ⟨orch, false⟩
  | .ok store => reloadBonds exitWhenEmpty orch store

/-! ## What a reload leaves -/

section

variable (oracle : Oracle ReloadAnswer)

/-- The key that the key directory holds for a peer. -/
def keyOnDisk (peerId : Text) : Option BondKey := ((loadBondKey peerId).resolve oracle).toOption

/-- A record that is not revoked and whose key loads. -/
structure Offered (store : BondStore) (bond : Bond) (key : BondKey) :
    Prop where
  listed : bond ∈ store.bonds
  active : Bond.isRevoked bond = false
  stored : keyOnDisk oracle bond.peerId = some key

def releases (peerId : Text) : Bool := (oracle (.removePeer peerId)).isOk

def accepts (peerId : Text) (key : BondKey) : Bool := (oracle (.addPeer peerId key)).isOk

variable {oracle}

variable {newSet : KeyMap}

theorem lookup_collectKey {bond : Bond} {peerId : Text} :
    ((collectKey newSet bond).resolve oracle).lookup peerId = if bond.peerId =
    peerId then (keyOnDisk oracle peerId).or (newSet.lookup peerId) else newSet.lookup peerId := by
  unfold collectKey
  rw [resolve_bind]
  by_cases same : bond.peerId = peerId
  · subst same
    rw [if_pos rfl]
    unfold keyOnDisk
    cases (loadBondKey bond.peerId).resolve oracle with
    | error error => rfl
    | ok key => exact AList.lookup_insert _
  · rw [if_neg same]
    cases (loadBondKey bond.peerId).resolve oracle with
    | error error => rfl
    | ok key => exact AList.lookup_insert_ne (.symm same)

theorem lookup_foldl_collectKey {bonds : List Bond} {peerId : Text} :
    (bonds.foldl (fun newSet bond => (collectKey newSet bond).resolve oracle)
      newSet).lookup peerId =
        if ∃ bond ∈ bonds, bond.peerId = peerId then
          (keyOnDisk oracle peerId).or (newSet.lookup peerId)
        else newSet.lookup peerId := by
  induction bonds generalizing newSet with
  | nil => simp
  | cons bond rest induction =>
    rw [foldl_cons, induction, lookup_collectKey]
    by_cases same : bond.peerId = peerId
    · simp only [same, mem_cons, exists_eq_or_imp, true_or]
      split_ifs
      · cases keyOnDisk oracle peerId <;> rfl
      · rfl
    · simp only [same, if_false, mem_cons, exists_eq_or_imp, false_or]

variable {store : BondStore}

theorem lookup_computeNewSet_eq_some_iff :
    ((computeNewSet store).resolve oracle).lookup peerId = some key ↔
      ∃ bond, Offered oracle store bond key ∧ bond.peerId = peerId := by
  unfold computeNewSet
  rw [resolve_foldlM, lookup_foldl_collectKey, AList.lookup_empty, Option.or_none]
  constructor
  · intro found
    split_ifs at found with some
    obtain ⟨bond, mem, rfl⟩ := some
    obtain ⟨listed, active⟩ := mem_filter.mp mem
    exact ⟨bond, ⟨listed, by simpa using active, found⟩, rfl⟩
  · rintro ⟨bond, offered, rfl⟩
    rw [if_pos ⟨bond, mem_filter.mpr ⟨offered.listed, by simp [offered.active]⟩, rfl⟩]
    exact offered.stored

theorem resolve_dropPeer {orch : Orchestrator}
    {peerId : Text} : (dropPeer orch peerId).resolve oracle =
    if releases oracle peerId then orch.removePeer peerId else orch := by
  have removing : (doRemovePeer orch peerId).resolve oracle =
      if releases oracle peerId then orch.removePeer peerId else orch := by
    unfold releases doRemovePeer perform
    rw [resolve_bind]
    simp only [resolve]
    cases oracle (.removePeer peerId) <;> rfl
  unfold dropPeer
  split
  · rw [resolve_bind, removing]
  · exact removing

theorem live_foldl_dropPeer {dropped : List Text} {orch : Orchestrator} {peerId : Text} :
    (dropped.foldl (fun orch peerId => (dropPeer orch peerId).resolve oracle) orch).live peerId =
    if peerId ∈ dropped ∧ releases oracle peerId then none else orch.live peerId := by
  induction dropped generalizing orch with
  | nil => simp
  | cons first rest induction =>
    rw [foldl_cons, induction, resolve_dropPeer]
    by_cases same : peerId = first
    · subst same
      by_cases released : releases oracle peerId
      · simp [released, live_removePeer]
      · simp [released]
    · split_ifs <;> simp_all [live_removePeer]

/-- The keys that an addition gives to a peer, if it comes to that. -/
def addition (oracle : Oracle ReloadAnswer)
    (store : BondStore) (newSet : KeyMap) (peerId : Text) : Option (BondKey × Pubkey) := do
  let key ← newSet.lookup peerId
  let bond ← store.bonds.find? (·.peerId = peerId)
  if accepts oracle peerId key then
    return (key, bond.pubkey)
  else none

theorem resolve_takePeer {store : BondStore} {orch : Orchestrator} {peerId : Text} :
    (takePeer store newSet orch peerId).resolve oracle =
      match addition oracle store newSet peerId with
      | some (key, pubkey) => orch.addPeer peerId key pubkey
      | none => orch := by
  unfold takePeer addition
  cases newSet.lookup peerId with
  | none => rfl
  | some key =>
    simp only [Option.bind_eq_bind, Option.bind_some]
    unfold doAddPeer
    cases store.bonds.find? (·.peerId = peerId) with
    | none => rfl
    | some bond =>
      rw [resolve_bind]
      unfold accepts perform
      simp only [resolve]
      cases oracle (.addPeer peerId key) <;> rfl

theorem live_foldl_takePeer {store : BondStore} {taken : List Text} {orch : Orchestrator}
    {peerId : Text} :
    (taken.foldl (fun orch peerId =>
      (takePeer store newSet orch peerId).resolve oracle) orch).live peerId =
      if peerId ∈ taken then
        ((addition oracle store newSet peerId).map fun keys =>
          .new keys.1 (some keys.2)).or (orch.live peerId)
      else orch.live peerId := by
  induction taken generalizing orch with
  | nil => simp
  | cons first rest induction =>
    rw [foldl_cons, induction, resolve_takePeer]
    by_cases same : peerId = first
    · subst same
      cases addition oracle store newSet peerId with
      | none => simp
      | some keys => simp [live_addPeer]
    · cases addition oracle store newSet first with
      | none => simp [same]
      | some keys => simp [same, live_addPeer]

def newSetOf (oracle : Oracle ReloadAnswer) (store : BondStore) : KeyMap :=
  (computeNewSet store).resolve oracle

variable (oracle)

def reloaded (before : Orchestrator) (store : BondStore) : Orchestrator :=
  (applyDiff before store).resolve oracle

/-- The signal is raised when no peer is left, if the rule is enabled. -/
theorem resolve_reloadBonds {exitWhenEmpty : Bool} {before : Orchestrator} {store : BondStore} :
    (reloadBonds exitWhenEmpty before store).resolve oracle =
      ⟨reloaded oracle before store,
        (reloaded oracle before store).peerIds.isEmpty && exitWhenEmpty⟩ := by
  unfold reloadBonds
  rw [resolve_bind]
  change (concludeReload exitWhenEmpty (reloaded oracle before store)).resolve oracle = _
  unfold concludeReload
  split_ifs with empty
  · rw [empty]
    rfl
  · rw [Bool.not_eq_true] at empty
    rw [empty]
    rfl

theorem reloaded_eq {before : Orchestrator} {store : BondStore} :
    ∃ toAdd toRemove : List Text,
      (∀ peerId, peerId ∈ toAdd ↔
        peerId ∈ (newSetOf oracle store).keys ∧ before.live peerId = none) ∧
      (∀ peerId, peerId ∈ toRemove ↔
        (before.live peerId).isSome ∧ peerId ∉ (newSetOf oracle store).keys) ∧
      reloaded oracle before store =
        toAdd.foldl (fun orch peerId =>
          (takePeer store (newSetOf oracle store) orch peerId).resolve oracle)
          (toRemove.foldl (fun orch peerId => (dropPeer orch peerId).resolve oracle) before) := by
  refine ⟨(oracle (.arrange ((newSetOf oracle store).keys.filter (· ∉ before.peerIds)))).val,
      (oracle (.arrange (before.peerIds.filter
        (· ∉ (newSetOf oracle store).keys)))).val, ?_, ?_, ?_⟩
  · intro peerId
    rw [(oracle (.arrange _)).property.mem_iff, mem_filter,
      decide_eq_true_eq, mem_peerIds, Option.not_isSome_iff_eq_none]
  · intro peerId
    rw [(oracle (.arrange _)).property.mem_iff, mem_filter, decide_eq_true_eq, mem_peerIds]
  · unfold reloaded applyDiff
    simp only [resolve_bind, resolve_foldlM]
    rfl

theorem live_reloaded {before : Orchestrator} {store : BondStore} {peerId : Text} :
    (reloaded oracle before store).live peerId =
      if peerId ∈ (newSetOf oracle store).keys then
        (before.live peerId).or
          ((addition oracle store (newSetOf oracle store) peerId).map
            fun keys => .new keys.1 (some keys.2))
      else if releases oracle peerId then none else before.live peerId := by
  obtain ⟨toAdd, toRemove, added, removed, same⟩ := reloaded_eq _
  rw [same, live_foldl_takePeer, live_foldl_dropPeer]
  simp only [added, removed]
  by_cases offered : peerId ∈ (newSetOf oracle store).keys
  · cases before.live peerId with
    | none | some entry => simp [offered]
  · cases before.live peerId with
    | none | some entry => simp [offered]

variable {oracle}

theorem mem_keys_newSetOf_iff : peerId ∈ (newSetOf oracle store).keys ↔
    ∃ bond key, Offered oracle store bond key ∧ bond.peerId = peerId := by
  rw [← AList.mem_keys, ← AList.lookup_isSome, Option.isSome_iff_exists]
  unfold newSetOf
  simp only [lookup_computeNewSet_eq_some_iff]
  constructor
  · rintro ⟨key, bond, offered⟩
    exact ⟨bond, key, offered⟩
  · rintro ⟨bond, key, offered⟩
    exact ⟨key, bond, offered⟩

/-- What is offered is added, with the first record's public key. -/
theorem addition_of_offered {bond : Bond} (offered : Offered oracle store bond key) :
    ∃ first, store.bonds.find? (·.peerId = bond.peerId) = some first ∧
      addition oracle store (newSetOf oracle store) bond.peerId =
        if accepts oracle bond.peerId key then some (key, first.pubkey) else none := by
  have found : (newSetOf oracle store).lookup bond.peerId = some key :=
    lookup_computeNewSet_eq_some_iff.mpr ⟨bond, offered, rfl⟩
  obtain ⟨first, isFirst⟩ : ∃ first, store.bonds.find? (·.peerId = bond.peerId) = some first := by
    rw [← Option.isSome_iff_exists, find?_isSome]
    exact ⟨bond, offered.listed, by simp⟩
  unfold addition
  simp [found, isFirst]

/-! ## The map after a reload -/

def PeerEntry.keys (entry : PeerEntry) : BondKey × Option Pubkey :=
  (entry.bondKey, entry.phonePubkey)

/-- The live map is the set of the bonds that are offered. -/
def Orchestrator.Mirrors (orch : Orchestrator) (oracle : Oracle ReloadAnswer)
    (store : BondStore) : Prop :=
  ∀ peerId keys,
    (orch.live peerId).map PeerEntry.keys = some keys ↔
      ∃ bond key, Offered oracle store bond key ∧
        bond.peerId = peerId ∧ keys = (key, some bond.pubkey)

def Willing (oracle : Oracle ReloadAnswer) : Prop :=
  ∀ peerId, releases oracle peerId = true ∧ ∀ key, accepts oracle peerId key = true

/--
A live entry has the keys of the bond already; and where there is no entry,
the record that is looked at first has the public key of the bond.
-/
def Orchestrator.Current (orch : Orchestrator)
    (store : BondStore) (bond : Bond) (key : BondKey) : Prop :=
  match orch.live bond.peerId with
  | some entry => entry.keys = (key, some bond.pubkey)
  | none => ∀ first ∈ store.bonds.find? (·.peerId = bond.peerId), first.pubkey = bond.pubkey

variable {before : Orchestrator}

/-- What a reload leaves for a bond that is offered. -/
theorem keys_reloaded (willing : Willing oracle) {bond : Bond}
    (offered : Offered oracle store bond key) :
    ((reloaded oracle before store).live bond.peerId).map PeerEntry.keys =
        some (key, some bond.pubkey) ↔
      before.Current store bond key := by
  obtain ⟨first, isFirst, added⟩ := addition_of_offered offered
  rw [live_reloaded, if_pos (mem_keys_newSetOf_iff.mpr ⟨bond, key, offered, rfl⟩), added,
    if_pos ((willing _).2 _)]
  unfold Orchestrator.Current
  cases before.live bond.peerId with
  | some entry => simp
  | none => simp [isFirst, PeerEntry.keys, PeerEntry.new]

/--
If the peripheral does all it is asked to, a reload leaves exactly the bonds
on disk, with the keys on disk, just when every bond on disk that is live
already is live with these keys.
-/
theorem reload_mirrors_iff (willing : Willing oracle)
    (exitWhenEmpty : Bool) (before : Orchestrator) (store : BondStore) :
    ((reloadBonds exitWhenEmpty before store).resolve
        oracle).orchestrator.Mirrors oracle store ↔
      ∀ bond key, Offered oracle store bond key → before.Current store bond key := by
  rw [resolve_reloadBonds]
  constructor
  · intro mirrors bond key offered
    rw [← keys_reloaded willing offered, mirrors]
    exact ⟨bond, key, offered, rfl, rfl⟩
  · intro current peerId keys
    constructor
    · intro found
      have mem : peerId ∈ (newSetOf oracle store).keys := by
        by_contra absent
        rw [live_reloaded, if_neg absent, if_pos (willing _).1] at found
        cases found
      obtain ⟨bond, key, offered, rfl⟩ := mem_keys_newSetOf_iff.mp mem
      rw [(keys_reloaded willing offered).mpr (current _ _ offered)] at found
      cases found
      exact ⟨bond, key, offered, rfl, rfl⟩
    · rintro ⟨bond, key, offered, rfl, rfl⟩
      exact (keys_reloaded willing offered).mpr (current _ _ offered)

/-! ## Peers that are gone -/

theorem resolve_issueChallengeFrom_unknown {SigningKey : Type} {crypto : Crypto SigningKey}
    {nonceSource : DaemonM (Except Text Nonce)} {deadlineMs : Nat}
    {answers : Oracle DaemonAnswer} (unknown : answers (.lookupPeer peerId) = none) :
    (issueChallengeFrom crypto nonceSource peerId deadlineMs).resolve answers = .unknownPeer := by
  unfold issueChallengeFrom put
  simp only [resolve_bind, resolve]
  rw [unknown]
  rfl

/--
Of a peer without an active record, a reload leaves nothing to be looked up
just when there was nothing before or the peripheral has let go of it; and
then every challenge for the peer ends there.
-/
theorem lookupPeer_reload_iff {SigningKey : Type} (crypto : Crypto SigningKey)
    (exitWhenEmpty : Bool) (before : Orchestrator) {store : BondStore} {peerId : Text}
    (gone : ∀ bond ∈ store.bonds, bond.peerId = peerId → Bond.isRevoked bond = true) :
    (((reloadBonds exitWhenEmpty before store).resolve
        oracle).orchestrator.lookupPeer peerId = none ↔
      before.lookupPeer peerId = none ∨ releases oracle peerId = true) ∧
      (((reloadBonds exitWhenEmpty before store).resolve
          oracle).orchestrator.lookupPeer peerId = none →
        ∀ nonceSource deadlineMs (answers : Oracle DaemonAnswer),
          answers (.lookupPeer peerId) =
            ((reloadBonds exitWhenEmpty before store).resolve
              oracle).orchestrator.lookupPeer peerId →
            (issueChallengeFrom crypto nonceSource peerId
              deadlineMs).resolve answers = .unknownPeer) := by
  have absent : peerId ∉ (newSetOf oracle store).keys := by
    intro mem
    obtain ⟨bond, key, offered, same⟩ := mem_keys_newSetOf_iff.mp mem
    have revoked := gone _ offered.listed same
    rw [offered.active] at revoked
    cases revoked
  rw [resolve_reloadBonds]
  refine ⟨?_, ?_⟩
  · rw [lookupPeer_eq_none_iff, lookupPeer_eq_none_iff, live_reloaded, if_neg absent]
    by_cases released : releases oracle peerId
    · simp [released]
    · simp [released]
  · intro unknown nonceSource deadlineMs answers answered
    rw [unknown] at answered
    exact resolve_issueChallengeFrom_unknown answered

/-! ## Stopping the daemon -/

/-- Some peer stays live, offered or not released, or becomes it. -/
def Survives (oracle : Oracle ReloadAnswer) (before : Orchestrator) (store : BondStore) : Prop :=
  (∃ peerId, (before.live peerId).isSome ∧
    ((∃ bond key, Offered oracle store bond key ∧ bond.peerId = peerId) ∨
      releases oracle peerId = false)) ∨
    ∃ bond key, Offered oracle store bond key ∧
      before.live bond.peerId = none ∧ accepts oracle bond.peerId key = true

theorem survives_iff : Survives oracle before store ↔
    ∃ peerId, ((reloaded oracle before store).live peerId).isSome := by
  unfold Survives
  simp only [← mem_keys_newSetOf_iff]
  constructor
  · rintro (⟨peerId, live, kept⟩ | ⟨bond, key, offered, -, accepted⟩)
    · refine ⟨peerId, ?_⟩
      rw [live_reloaded]
      obtain ⟨entry, found⟩ := Option.isSome_iff_exists.mp live
      rcases kept with mem | held
      · simp [mem, found]
      · simp [held, found]
    · refine ⟨bond.peerId, ?_⟩
      obtain ⟨first, -, added⟩ := addition_of_offered offered
      rw [live_reloaded, if_pos (mem_keys_newSetOf_iff.mpr ⟨bond, key, offered, rfl⟩), added,
        if_pos accepted]
      cases before.live bond.peerId <;> rfl
  · rintro ⟨peerId, live⟩
    rw [live_reloaded] at live
    split_ifs at live with mem released
    · cases found : before.live peerId with
      | some entry => exact .inl ⟨peerId, by rw [found]; rfl, .inl mem⟩
      | none =>
        obtain ⟨bond, key, offered, rfl⟩ := mem_keys_newSetOf_iff.mp mem
        obtain ⟨first, -, added⟩ := addition_of_offered offered
        rw [found, added] at live
        refine .inr ⟨bond, key, offered, found, ?_⟩
        split_ifs at live with accepted
        · exact accepted
        · cases live
    · cases live
    · exact .inl ⟨peerId, live, .inr (Bool.not_eq_true _ ▸ released)⟩

theorem terminated_iff : ((reloadBonds true before store).resolve oracle).terminated =
    true ↔ ¬ Survives oracle before store := by
  rw [resolve_reloadBonds, survives_iff]
  simp only [Bool.and_true, List.isEmpty_iff, eq_nil_iff_forall_not_mem, mem_peerIds, not_exists]

/--
With the rule enabled, a reload raises the signal only for a store without a
bonded record just when there is no such record or some peer survives.
-/
theorem self_stop_iff (before : Orchestrator) (store : BondStore) :
    (((reloadBonds true before store).resolve oracle).terminated = true →
        ∀ bond ∈ store.bonds, bond.status ≠ .bonded) ↔
      (∀ bond ∈ store.bonds, bond.status ≠ .bonded) ∨ Survives oracle before store := by
  rw [terminated_iff]
  constructor
  · intro only
    by_cases survives : Survives oracle before store
    · exact .inr survives
    · exact .inl (only survives)
  · rintro (unbonded | survives) ended
    · exact unbonded
    · exact (ended survives).elim

end

/-! ## Reloads that go wrong -/

def sampleReload (file : Bytes) (reply : Except PeripheralError Unit) : Oracle ReloadAnswer
  | .readKeyFile _ => .ok file
  | .arrange peerIds => ⟨peerIds, .refl _⟩
  | .notifyChallenge _ _ => reply
  | .removePeer _ => reply
  | .addPeer _ _ => reply
  | .terminate => ()
  | .rotate => ()

theorem sampleReload_willing {file : Bytes} : Willing (sampleReload file (.ok ())) :=
  fun _ => ⟨rfl, fun _ => rfl⟩

def rebondedBond (status : BondStatus) : Bond where
  peerId := "phone".toList
  pubkey := .replicate 32 7
  name := "phone".toList
  createdAt := ⟨0, 0⟩
  status := status

def firstBonded : Orchestrator :=
  Orchestrator.vacant.addPeer "phone".toList (.replicate 32 1) (.replicate 32 7)

/--
A phone that was paired again keeps its peer id, so the reload leaves it the
key of the first pairing.
-/
theorem rebonded_keeps_old_key :
    let oracle := sampleReload (List.replicate 32 2) (.ok ())
    let left :=
      ((reloadBonds true firstBonded ⟨[rebondedBond .bonded]⟩).resolve oracle).orchestrator
    Willing oracle ∧ keyOnDisk oracle "phone".toList = some (.replicate 32 2) ∧
      (left.live "phone".toList).map PeerEntry.keys =
        some (.replicate 32 1, some (.replicate 32 7)) ∧
      ¬ left.Mirrors oracle ⟨[rebondedBond .bonded]⟩ := by
  intro oracle left
  have old : (left.live "phone".toList).map PeerEntry.keys =
      some (.replicate 32 1, some (.replicate 32 7)) := by
    decide +kernel
  refine ⟨sampleReload_willing, rfl, old, ?_⟩
  intro mirrors
  obtain ⟨bond, key, offered, same, keys⟩ := (mirrors _ _).mp old
  have stored := offered.stored
  rw [same, ← (Prod.mk.inj keys).1] at stored
  exact absurd stored (by decide)

/-- A phone that is paired for the first time gets its key. -/
theorem first_bond_mirrored :
    ((reloadBonds true .vacant ⟨[rebondedBond .bonded]⟩).resolve
        (sampleReload (List.replicate 32 2) (.ok ()))).orchestrator.Mirrors
      (sampleReload (List.replicate 32 2) (.ok ())) ⟨[rebondedBond .bonded]⟩ := by
  refine (reload_mirrors_iff sampleReload_willing _ .vacant _).mpr ?_
  intro bond key offered
  obtain rfl := mem_singleton.mp offered.listed
  rintro first ⟨⟩
  rfl

/--
A peripheral that does not let go of a revoked peer leaves it to be looked up.
-/
theorem revoked_peer_found :
    ((reloadBonds true firstBonded
        ⟨[rebondedBond (.revoked [])]⟩).resolve
      (sampleReload (List.replicate 32 1)
        (.error (.unknownPeer [])))).orchestrator.lookupPeer "phone".toList =
      some { phonePubkey := .replicate 32 7, bondKey := .replicate 32 1, entry := 0 } := by
  decide +kernel

/-- A peripheral that lets go of it leaves nothing. -/
theorem revoked_peer_lost :
    ((reloadBonds true firstBonded
        ⟨[rebondedBond (.revoked [])]⟩).resolve
      (sampleReload (List.replicate 32 1)
        (.ok ()))).orchestrator.lookupPeer "phone".toList = none := by
  refine (lookupPeer_reload_iff sampleCrypto _ _ ?_).1.mpr (.inr rfl)
  intro bond listed _
  obtain rfl := mem_singleton.mp listed
  rfl

/--
A bonded phone whose key file has the wrong length stops the daemon.
-/
theorem stopped_with_bonded_record :
    ((reloadBonds true .vacant ⟨[rebondedBond .bonded]⟩).resolve
        (sampleReload [] (.ok ()))).terminated = true ∧
      (rebondedBond .bonded).status = .bonded := by
  decide +kernel

end DeskUnlock.Unlock
