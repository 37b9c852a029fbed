import DeskUnlock.Recovery.Custody

/-!
# The invariant of the bond store

`add`, `remove` and `mark_revoked` on a store that was loaded from any text.
The calls act on the first record of a peer, so what is said of the peer is
said of that record; it is said of the peer only if the record is its only one.

The loader checks the hash of every record, but not that the peer ids differ;
`add` checks that the peer id is new, but not the hash.  The invariant holds
from the start, and is kept, exactly where these are true of themselves.
-/

namespace DeskUnlock.Recovery

open Runs Texts List

/-- A store, and the peers that were marked and not added since. -/
structure StoreRun where
  store : BondStore
  marked : List Text

/-- The calls that change a store. -/
inductive StoreCall where
  | add (bond : Bond)
  | remove (peerId : Text)
  | markRevoked (peerId reason : Text)

namespace StoreRun

def start (store : BondStore) : StoreRun where
  store := store
  marked := []

/-- A call that fails leaves the store as it was. -/
def step (state : StoreRun) : StoreCall → StoreRun
  | .add bond =>
    match state.store.add bond with
    | .ok store => ⟨store, state.marked.filter (· ≠ bond.peerId)⟩
    | .error _ => state
  | .remove peerId =>
    match state.store.remove peerId with
    | .ok store => { state with store := store }
    | .error _ => state
  | .markRevoked peerId reason =>
    match state.store.markRevoked peerId reason with
    | .ok store => ⟨store, peerId :: state.marked⟩
    | .error _ => state

end StoreRun

section

variable (libs : Primitives)

/-- Peers are told apart by their keys, and a revoked peer is not bonded. -/
structure StoreRun.Sound (state : StoreRun) : Prop where
  distinct : (state.store.bonds.map (·.peerId)).Nodup
  hashed : ∀ bond ∈ state.store.bonds, bond.peerId = libs.peerIdFromPubkey bond.pubkey
  revoked :
    ∀ peerId ∈ state.marked, ∀ bond ∈ state.store.bonds,
      bond.peerId = peerId → bond.status ≠ .bonded

def StoreRun.Hashed (state : StoreRun) : StoreCall → Prop
  | .add bond =>
    state.store.bonds? bond.peerId = false → bond.peerId = libs.peerIdFromPubkey bond.pubkey
  | _ => True

variable {libs}

theorem StoreRun.Sound.add {state : StoreRun} (sound : state.Sound libs) (bond : Bond) :
    (state.step (.add bond)).Sound libs ↔ state.Hashed libs (.add bond) := by
  cases known : state.store.bonds? bond.peerId with
  | true =>
    have refused : state.step (.add bond) = state := by simp [step, BondStore.add, known]
    rw [refused]
    refine iff_of_true sound fun unknown => ?_
    cases known.symm.trans unknown
  | false =>
    have added : state.step (.add bond) =
        ⟨⟨state.store.bonds ++ [bond]⟩, state.marked.filter (· ≠ bond.peerId)⟩ := by
      simp [step, BondStore.add, known]
    have fresh := state.store.bonds?_eq_false_iff.mp known
    rw [added]
    constructor
    · intro after _
      exact after.hashed _ (mem_append_right _ mem_cons_self)
    · intro hashed
      refine ⟨?_, ?_, ?_⟩
      · rw [map_append]
        refine nodup_append.mpr ⟨sound.distinct, nodup_singleton _, ?_⟩
        intro peerId mem other single
        obtain ⟨old, listed, rfl⟩ := mem_map.mp mem
        rw [mem_singleton.mp single]
        exact fresh _ listed
      · refine forall_mem_append.mpr ⟨sound.hashed, ?_⟩
        exact forall_mem_singleton.mpr (hashed known)
      · intro peerId mem
        obtain ⟨marked, differs⟩ := mem_filter.mp mem
        refine forall_mem_append.mpr ⟨sound.revoked _ marked, ?_⟩
        refine forall_mem_singleton.mpr fun same => ?_
        exact absurd same.symm (by simpa using differs)

theorem StoreRun.Sound.remove {state : StoreRun} (sound : state.Sound libs) (peerId : Text) :
    (state.step (.remove peerId)).Sound libs := by
  unfold StoreRun.step BondStore.remove
  dsimp only
  split_ifs
  · have fewer : Sublist (state.store.bonds.eraseP (·.peerId = peerId)) state.store.bonds :=
      eraseP_sublist
    exact
      { distinct := sound.distinct.sublist (fewer.map _)
        hashed := fun bond mem => sound.hashed _ (fewer.subset mem)
        revoked := fun other marked bond mem => sound.revoked _ marked _ (fewer.subset mem) }
  · exact sound

theorem map_modify_revokedBond {bonds : List Bond} {i : ℕ} {reason : Text} :
    (bonds.modify i (revokedBond reason)).map (·.peerId) = bonds.map (·.peerId) := by
  induction bonds generalizing i with
  | nil => simp
  | cons bond rest induction =>
    cases i with
    | zero => simp [revokedBond_peerId]
    | succ i => simp [induction]

/-- In a store of distinct peers, a peer that was revoked is not bonded. -/
theorem not_bonded_of_modify {bonds : List Bond}
    {peerId reason : Text} {i : ℕ} (distinct : (bonds.map (·.peerId)).Nodup)
    (found : bonds.findIdx? (·.peerId = peerId) = some i) : ∀ bond ∈
    bonds.modify i (revokedBond reason), bond.peerId = peerId → bond.status ≠ .bonded := by
  induction bonds generalizing i with
  | nil => cases found
  | cons first rest induction =>
    rw [map_cons, nodup_cons] at distinct
    rw [findIdx?_cons] at found
    by_cases here : first.peerId = peerId
    · rw [if_pos (by simpa using here)] at found
      obtain rfl := Option.some.inj found
      refine forall_mem_cons.mpr ⟨?_, ?_⟩
      · intro _ bonded
        obtain ⟨given, revoked⟩ := revokedBond_status _
        rw [revoked] at bonded
        cases bonded
      · intro bond mem same
        refine (distinct.1 ?_).elim
        rw [here, ← same]
        exact mem_map_of_mem mem
    · rw [if_neg (by simpa using here)] at found
      obtain ⟨below, foundBelow, rfl⟩ := Option.map_eq_some_iff.mp found
      refine forall_mem_cons.mpr ⟨fun same => (here same).elim, ?_⟩
      exact induction distinct.2 foundBelow

theorem StoreRun.Sound.markRevoked {state : StoreRun} (sound : state.Sound libs)
    (peerId reason : Text) : (state.step (.markRevoked peerId reason)).Sound libs := by
  unfold StoreRun.step
  dsimp only
  cases revoked : state.store.markRevoked peerId reason with
  | error error => exact sound
  | ok updated =>
    obtain ⟨i, found, rfl⟩ := BondStore.markRevoked_eq_ok revoked
    refine ⟨?_, ?_, ?_⟩
    · rw [map_modify_revokedBond]
      exact sound.distinct
    · exact modify_revokedBond_peerIds _ sound.hashed
    · refine forall_mem_cons.mpr ⟨not_bonded_of_modify sound.distinct found, ?_⟩
      intro other marked bond mem same
      rcases exists_mem_of_mem_modify mem with old | ⟨old, inside, rfl⟩
      · exact sound.revoked _ marked _ old same
      · obtain ⟨given, isRevoked⟩ := revokedBond_status _
        rw [isRevoked]
        exact nofun

/-- One call keeps the invariant exactly if what it adds has its hash. -/
theorem StoreRun.Sound.step_iff {state : StoreRun} (sound : state.Sound libs)
    {call : StoreCall} : (state.step call).Sound libs ↔ state.Hashed libs call := by
  cases call with
  | add bond => exact sound.add _
  | remove peerId => exact iff_of_true (sound.remove _) trivial
  | markRevoked peerId reason => exact iff_of_true (sound.markRevoked _ _) trivial

theorem sound_start {raw : Text} {store : BondStore}
    (loaded : parseBondStore libs raw = .ok store) (distinct : (store.bonds.map (·.peerId)).Nodup) :
    (StoreRun.start store).Sound libs where
  distinct := distinct
  hashed := parseBondStore_peerIds libs loaded
  revoked := by
    intro peerId marked
    cases marked

/--
For every text that loads, the invariant holds throughout every sequence of
calls exactly if the peer ids in the text differ and every bond that gets
added has the hash of its key for its peer id.
-/
theorem store_sound_throughout_iff {raw : Text} {store : BondStore}
    (loaded : parseBondStore libs raw = .ok store) (calls : List StoreCall) :
    Throughout StoreRun.step (StoreRun.Sound libs) (.start store)
        calls ↔
      (store.bonds.map (·.peerId)).Nodup ∧
        Along StoreRun.step (StoreRun.Hashed libs) (.start store) calls := by
  have kept : (store.bonds.map (·.peerId)).Nodup →
      (Throughout .step (StoreRun.Sound libs) (.start store)
          calls ↔
        Along .step (StoreRun.Hashed libs) (.start store) calls) := by
    intro distinct
    exact @throughout_iff_along _ _ .step (StoreRun.Hashed _)
        (fun _ => True) (StoreRun.Sound _) (fun _ _ _ => trivial)
        (fun _ call _ sound => sound.step_iff) _ trivial (sound_start loaded distinct) _
  constructor
  · intro throughout
    have first : (StoreRun.start store).Sound libs := by
      cases calls with
      | nil => exact throughout
      | cons _ _ => exact throughout.1
    exact ⟨first.distinct, (kept first.distinct).mp throughout⟩
  · rintro ⟨distinct, along⟩
    exact (kept distinct).mpr along

end

/-- A file that lists a phone twice. -/
def doubledFile : BondFile := ⟨1, [pairedBond 1 .bonded, pairedBond 1 .bonded]⟩

/-- A file of two phones, the second one revoked. -/
def mixedFile : BondFile := ⟨1, [pairedBond 1 .bonded, pairedBond 2 byPhone]⟩

def storeLibs : Primitives := .knowing [doubledFile, mixedFile]

/--
A file that lists a peer twice loads; revoking the peer leaves its second
record bonded.  And a bond is added under whatever peer id it says.
-/
theorem store_unsound :
    (parseBondStore storeLibs (tomlText doubledFile) = .ok ⟨doubledFile.bonds⟩ ∧
        ¬ (doubledFile.bonds.map (·.peerId)).Nodup ∧
        ∃ revoked,
          BondStore.markRevoked ⟨doubledFile.bonds⟩ firstPeer "lost".toList = .ok revoked ∧
            ∃ bond ∈ revoked.bonds, bond.peerId = firstPeer ∧ bond.status = .bonded) ∧
      ∃ added,
        BondStore.empty.add misnamedBond = .ok added ∧
          ∃ bond ∈ added.bonds, bond.peerId ≠ storeLibs.peerIdFromPubkey bond.pubkey := by
  refine ⟨⟨by decide +kernel, by decide +kernel, _, rfl, ?_⟩, _, rfl, ?_⟩
  · exact ⟨pairedBond 1 .bonded, by decide +kernel, rfl, rfl⟩
  · exact ⟨misnamedBond, by decide +kernel, by decide +kernel⟩

/--
A file of two phones: the first is revoked, the second paired again, and a
third added between the two.
-/
theorem two_records_sound :
    Throughout StoreRun.step (StoreRun.Sound storeLibs)
      (.start ⟨mixedFile.bonds⟩)
      [.markRevoked firstPeer "lost".toList, .remove secondPeer, .add (pairedBond 3 .bonded),
        .add (pairedBond 2 .bonded), .remove firstPeer, .add (pairedBond 1 .bonded)] := by
  have loaded : parseBondStore storeLibs (tomlText mixedFile) = .ok ⟨mixedFile.bonds⟩ := by
    decide +kernel
  refine (store_sound_throughout_iff loaded _).mpr ⟨by decide +kernel, ?_⟩
  refine ⟨trivial, trivial, fun _ => ?_, fun _ => ?_, trivial, fun _ => ?_, trivial⟩ <;>
    decide +kernel

end DeskUnlock.Recovery
