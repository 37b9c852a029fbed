import DeskUnlock.Unlock.Reload

/-!
# The start of the daemon

`maybe_spawn_orchestrator` of `syauth-presenced/src/runtime.rs`: the
orchestrator starts with one peer, the first bonded record of the store.  The
PAM module asks for the newest bonded record.  Until the first reload, the two
choices must agree for a login to find its peer.
-/

namespace DeskUnlock.Unlock

open Texts Dialogues Dialogue List Option Orchestrator
open Recovery (Bond BondStore BondError BondKey)

/-- The first record in the store that is bonded. -/
def firstActive (store : BondStore) : Option Bond := store.bonds.find? (·.status = .bonded)

def withPeersAndAudit (peers : List (Bond × BondKey)) : Orchestrator :=
  peers.foldl (fun orch seed => orch.addPeer seed.1.peerId seed.2 seed.1.pubkey) .vacant

/--
The orchestrator that the daemon starts with.  `opened` tells whether the
adapter could be opened before the daemon was stopped; it is retried until
then.
-/
def maybeSpawnOrchestrator (opened : Bool) :
    Except BondError BondStore → ReloadM (Option Orchestrator)
  | .error _ => pure none
  | .ok store => do
      if !opened then
        return none
      else
        match firstActive store with
        | none => return some (withPeersAndAudit [])
        | some bond =>
          match ← loadBondKey bond.peerId with
          | .error _ => return some (withPeersAndAudit [])
          | .ok key =>
            match ← perform (.addPeer bond.peerId key) with
            | .error _ => return none
            | .ok () => return some (withPeersAndAudit [(bond, key)])

/-- A fold that keeps what it holds or takes the next item. -/
theorem mem_of_foldl_choice {Item : Type} {choose : Option Item → Item → Option Item}
    (choice : ∀ held item, choose held item = held ∨ choose held item = some item)
    {items : List Item} {held : Option Item} {chosen : Item}
    (found : items.foldl choose held = some chosen) : held = some chosen ∨ chosen ∈ items := by
  induction items generalizing held with
  | nil => exact .inl found
  | cons first rest induction =>
    rcases induction found with same | later
    · rcases choice _ _ with kept | taken
      · exact .inl (kept.symm.trans same)
      · cases taken.symm.trans same
        exact .inr mem_cons_self
    · exact .inr (mem_cons_of_mem _ later)

theorem mem_of_newestBonded {store : BondStore} {bond : Bond}
    (newest : newestBonded store = some bond) : bond ∈ store.bonds ∧ bond.status = .bonded := by
  have chosen := mem_of_foldl_choice (fun held item => ?_) newest
  · rcases chosen with nothing | mem
    · cases nothing
    · obtain ⟨listed, bonded⟩ := mem_filter.mp mem
      exact ⟨listed, by simpa using bonded⟩
  · cases held with
    | none => exact .inr rfl
    | some older =>
      dsimp only
      split_ifs
      · exact .inl rfl
      · exact .inr rfl

section

variable {oracle : Oracle ReloadAnswer}

/-- With a key and a peripheral that works, the first record is seeded. -/
theorem resolve_maybeSpawnOrchestrator {store : BondStore} {first : Bond} {key : BondKey}
    (isFirst : firstActive store = some first) (stored : keyOnDisk oracle first.peerId = some key)
    (accepted : accepts oracle first.peerId key = true) :
    (maybeSpawnOrchestrator true (.ok store)).resolve oracle =
      some (withPeersAndAudit [(first, key)]) := by
  unfold maybeSpawnOrchestrator
  simp only [Bool.not_true, Bool.false_eq_true, if_false, isFirst]
  rw [resolve_bind]
  unfold keyOnDisk at stored
  cases loaded : (loadBondKey first.peerId).resolve oracle with
  | error error =>
    rw [loaded] at stored
    cases stored
  | ok other =>
    rw [loaded] at stored
    cases stored
    unfold accepts at accepted
    unfold perform
    simp only [resolve_bind, resolve]
    cases replied : oracle (.addPeer first.peerId key) with
    | error error =>
      rw [replied] at accepted
      cases accepted
    | ok _ => rfl

/--
Right after the start, the peer that the PAM module asks for is registered
with its public key just when the first bonded record of the store has this
peer id and this public key.
-/
theorem start_registers_iff {store : BondStore} {bond : Bond}
    (readable : ∀ other ∈ store.bonds, other.status = .bonded →
      (keyOnDisk oracle other.peerId).isSome)
    (accepting : ∀ peerId key, accepts oracle peerId key = true)
    (selected : newestBonded store = some bond) :
    (∃ orch,
      (maybeSpawnOrchestrator true (.ok store)).resolve oracle = some orch ∧
        (orch.lookupPeer bond.peerId).map (·.phonePubkey) = some bond.pubkey) ↔
      ∃ first, firstActive store = some first ∧
        first.peerId = bond.peerId ∧ first.pubkey = bond.pubkey := by
  obtain ⟨listed, bonded⟩ := mem_of_newestBonded selected
  obtain ⟨first, isFirst⟩ : ∃ first, firstActive store = some first := by
    unfold firstActive
    rw [← isSome_iff_exists, find?_isSome]
    exact ⟨bond, listed, by simpa using bonded⟩
  have firstBonded : first.status = .bonded := by simpa using find?_some isFirst
  obtain ⟨key, stored⟩ :=
    isSome_iff_exists.mp (readable _ (mem_of_find?_eq_some isFirst) firstBonded)
  have seeded : ((withPeersAndAudit [(first, key)]).lookupPeer bond.peerId).map (·.phonePubkey) =
      if bond.peerId = first.peerId then some first.pubkey else none := by
    rw [lookupPeer_phonePubkey]
    unfold withPeersAndAudit
    rw [foldl_cons, foldl_nil, live_addPeer]
    split_ifs <;> rfl
  rw [resolve_maybeSpawnOrchestrator isFirst stored (accepting _ _)]
  constructor
  · rintro ⟨_, ⟨⟩, found⟩
    rw [seeded] at found
    split_ifs at found with same
    exact ⟨first, isFirst, same.symm, some.inj found⟩
  · rintro ⟨_, same, samePeer, sameKey⟩
    cases isFirst.symm.trans same
    refine ⟨_, rfl, ?_⟩
    rw [seeded, if_pos samePeer.symm, sameKey]

end

def phoneBond (name : Text) (byte : UInt8) (time : Int) : Bond where
  peerId := name
  pubkey := .replicate 32 byte
  name := name
  createdAt := ⟨time, 0⟩
  status := .bonded

/--
With an older phone listed before a newer one, the daemon starts without the
peer that the PAM module asks for.
-/
theorem newer_phone_unregistered :
    newestBonded ⟨[phoneBond "old".toList 1 1, phoneBond "new".toList 2 2]⟩ =
        some (phoneBond "new".toList 2 2) ∧
      ((maybeSpawnOrchestrator true
          (.ok ⟨[phoneBond "old".toList 1 1, phoneBond "new".toList 2 2]⟩)).resolve
        (sampleReload (List.replicate 32 9) (.ok ()))).map
          (fun orch => orch.lookupPeer "new".toList) = some none := by
  decide +kernel

/-- With the newer phone listed first, it is registered. -/
theorem newer_phone_registered :
    ∃ orch,
      (maybeSpawnOrchestrator true
          (.ok ⟨[phoneBond "new".toList 2 2, phoneBond "old".toList 1 1]⟩)).resolve
          (sampleReload (List.replicate 32 9) (.ok ())) =
        some orch ∧
      (orch.lookupPeer (phoneBond "new".toList 2 2).peerId).map
          (·.phonePubkey) = some (phoneBond "new".toList 2 2).pubkey := by
  refine (start_registers_iff (fun _ _ _ => rfl) (fun _ _ => rfl) (by decide)).mpr ?_
  exact ⟨_, rfl, rfl, rfl⟩

end DeskUnlock.Unlock
