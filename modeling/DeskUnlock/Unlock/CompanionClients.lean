import DeskUnlock.Unlock.PhoneApproval
import Mathlib.Data.List.AList

/-!
# The clients of the companion service

`SyauthCompanionService.kt`: the service keeps a GATT client for every bond,
and beside each client the bond that it was built from.  A reload stops the
clients whose bond is gone or changed, and starts those that are missing.
-/

namespace DeskUnlock.Unlock.Phone

open Texts Runs List Option

/-- What the service calls on a client; it ignores what the call throws. -/
inductive ClientCall (Client : Type) where
  | start (client : Client)
  | stop (client : Client)

/-- The service, with its clients by peer. -/
structure CompanionService (Client : Type) where
  clients : AList fun _ : Text => Client
  clientBonds : AList fun _ : Text => BondRecord
  /-- How many clients the factory has made. -/
  created : Nat
  /-- The calls on clients, each with the peer of the client. -/
  calls : List (Text × ClientCall Client)

/-- `LinkedHashMap.put` for a map whose values know their key. -/
def putBond (desired : List BondRecord) (bond : BondRecord) : List BondRecord :=
  if bond.peerId ∈ desired.map (·.peerId) then
    desired.map fun other => if other.peerId = bond.peerId then bond else other
  else desired ++ [bond]

def associateByPeerId (bonds : List BondRecord) : List BondRecord := bonds.foldl putBond []

variable {Client : Type}

namespace CompanionService

def dropStale (desired : List BondRecord) (svc : CompanionService Client) (peerId : Text) :
    CompanionService Client :=
  let bond := desired.find? (·.peerId = peerId)
  let built := svc.clientBonds.lookup peerId
  if bond ≠ none ∧ built = bond then svc
  else
    match svc.clients.lookup peerId with
    | none => svc
    | some client =>
      { svc with
        clients := svc.clients.erase peerId, clientBonds := svc.clientBonds.erase peerId
        calls := svc.calls ++ [(peerId, .stop client)] }

-- The factory may make another client at each call.
variable (create : Nat → BondRecord → Client)

def startMissing (svc : CompanionService Client) (bond : BondRecord) :
    CompanionService Client :=
  if bond.peerId ∈ svc.clients then svc
  else
    let client := create svc.created bond
    { clients := svc.clients.insert bond.peerId client
      clientBonds := svc.clientBonds.insert bond.peerId bond, created := svc.created + 1
      calls := svc.calls ++ [(bond.peerId, .start client)] }

def injectClientsForBonds (svc : CompanionService Client) (bonds : List BondRecord) :
    CompanionService Client :=
  let desired := associateByPeerId bonds
  run (startMissing create) (run (dropStale desired) svc svc.clients.keys) desired

end CompanionService

/-- What the service holds for one peer, and what it has called for it. -/
structure PeerView (Client : Type) where
  client : Option Client
  built : Option BondRecord
  calls : List (ClientCall Client)

def CompanionService.view (svc : CompanionService Client) (peerId : Text) :
    PeerView Client where
  client := svc.clients.lookup peerId
  built := svc.clientBonds.lookup peerId
  calls := (svc.calls.filter (·.1 = peerId)).map (·.2)

/-- What a reload is for: the bond that one peer should have decides. -/
def PeerView.settle (make : BondRecord → Client) :
    Option BondRecord → PeerView Client → PeerView Client
  | none, ⟨none, built, calls⟩ => ⟨none, built, calls⟩
  | none, ⟨some client, _, calls⟩ => ⟨none, none, calls ++ [.stop client]⟩
  | some bond, ⟨none, _, calls⟩ => ⟨some (make bond), some bond, calls ++ [.start (make bond)]⟩
  | some bond, ⟨some client, built, calls⟩ =>
    if built = some bond then ⟨some client, built, calls⟩
    else ⟨some (make bond), some bond, calls ++ [.stop client, .start (make bond)]⟩

section

variable {make : BondRecord → Client} (view : PeerView Client) (bond : BondRecord)

theorem PeerView.isSome_settle {wanted : Option BondRecord} :
    (view.settle make wanted).client.isSome = wanted.isSome := by
  rcases view with ⟨_ | client, built, calls⟩ <;> rcases wanted with _ | bond <;> try rfl
  by_cases same : built = some bond <;> simp [settle, same]

theorem PeerView.built_settle : (view.settle make (some bond)).built = some bond := by
  rcases view with ⟨_ | client, built, calls⟩
  · rfl
  · by_cases same : built = some bond <;> simp [settle, same]

/-- A client that is missing or of another bond makes way for a new one. -/
theorem PeerView.settle_changed (changed : view.client = none ∨ view.built ≠ some bond) :
    view.settle make (some bond) =
      ⟨some (make bond), some bond,
        view.calls ++ view.client.toList.map .stop ++ [.start (make bond)]⟩ := by
  rcases view with ⟨_ | client, built, calls⟩
  · simp [settle]
  · have other : built ≠ some bond := changed.resolve_left nofun
    simp [settle, other]

theorem PeerView.calls_settle_none :
    (view.settle make none).calls = view.calls ++ view.client.toList.map .stop := by
  rcases view with ⟨_ | client, built, calls⟩ <;> simp [settle]

end

section

variable {bonds : List BondRecord} (distinct : (bonds.map (·.peerId)).Nodup)
include distinct

theorem associateByPeerId_eq : associateByPeerId bonds = bonds := by
  induction bonds using reverseRecOn with
  | nil => rfl
  | append_singleton bonds bond induction =>
    rw [map_append, nodup_append] at distinct
    have fresh : bond.peerId ∉ bonds.map (·.peerId) := fun mem =>
      distinct.2.2 _ mem _ (mem_singleton_self _) rfl
    rw [associateByPeerId, foldl_append]
    change putBond (associateByPeerId bonds) bond = _
    rw [induction distinct.1, putBond, if_neg fresh]

theorem find?_eq_some_of_mem {bond : BondRecord} (mem : bond ∈ bonds) :
    bonds.find? (·.peerId = bond.peerId) = some bond := by
  obtain ⟨other, found⟩ : ∃ other, bonds.find? (·.peerId = bond.peerId) = some other :=
    isSome_iff_exists.mp (find?_isSome.mpr ⟨bond, mem, by simp⟩)
  have same : other.peerId = bond.peerId := by simpa using find?_some found
  rw [found, inj_on_of_nodup_map distinct (mem_of_find?_eq_some found) mem same]

end

namespace CompanionService

variable {svc : CompanionService Client} {desired : List BondRecord} {peerId : Text}

theorem view_dropStale_of_ne {other : Text} (ne : other ≠ peerId) :
    (svc.dropStale desired other).view peerId = svc.view peerId := by
  unfold dropStale
  dsimp only
  split_ifs
  · rfl
  · split
    · rfl
    · simp [view, ne, ne.symm]

/-- The first loop leaves the client of a peer that has its bond. -/
theorem view_dropStale :
    (svc.dropStale desired peerId).view peerId =
      match desired.find? (·.peerId = peerId), svc.view peerId with
      | _, ⟨none, built, calls⟩ => ⟨none, built, calls⟩
      | bond, ⟨some client, built, calls⟩ =>
        if bond ≠ none ∧ built = bond then ⟨some client, built, calls⟩
        else ⟨none, none, calls ++ [.stop client]⟩ := by
  unfold dropStale
  generalize desired.find? (·.peerId = peerId) = bond
  cases running : svc.clients.lookup peerId <;> dsimp only <;> split_ifs with kept <;>
    simp [view, running, kept]

variable {create : Nat → BondRecord → Client} {bond : BondRecord}

theorem view_startMissing_of_ne (ne : bond.peerId ≠ peerId) :
    (svc.startMissing create bond).view peerId = svc.view peerId := by
  unfold startMissing
  split_ifs
  · rfl
  · simp [view, ne, ne.symm]

theorem view_startMissing :
    ∃ count, (svc.startMissing create bond).view bond.peerId =
      match svc.view bond.peerId with
      | ⟨none, _, calls⟩ =>
        ⟨some (create count bond), some bond, calls ++ [.start (create count bond)]⟩
      | kept => kept := by
  refine ⟨svc.created, ?_⟩
  unfold startMissing
  cases running : svc.clients.lookup bond.peerId with
  | none =>
    rw [if_neg (AList.lookup_eq_none.mp running)]
    simp [view, running]
  | some client =>
    have held : bond.peerId ∈ svc.clients := AList.lookup_isSome.mp (by rw [running]; rfl)
    simp [view, running, held]

variable (create svc) {bonds : List BondRecord} (distinct : (bonds.map (·.peerId)).Nodup)
include distinct

/-- For each peer, the two loops do what the peer's bond asks for. -/
theorem view_injectClientsForBonds (peerId : Text) :
    ∃ count, (svc.injectClientsForBonds create bonds).view peerId =
      (svc.view peerId).settle (create count) (bonds.find? (·.peerId = peerId)) := by
  simp only [injectClientsForBonds, associateByPeerId_eq distinct]
  have dropped : (run (dropStale bonds) svc svc.clients.keys).view peerId =
      (svc.dropStale bonds peerId).view peerId := by
    have keys : (svc.clients.keys.map id).Nodup := by simpa using svc.clients.keys_nodup
    obtain ⟨others, kept⟩ | ⟨key, -, own, state, seen, changed⟩ :=
      @run_view _ _ (dropStale _) _ _ _ _ _ peerId (·.view _) (fun _ _ => view_dropStale_of_ne) keys
    · have free : svc.clients.lookup peerId = none :=
        AList.lookup_eq_none.mpr fun mem => others _ (AList.mem_keys.mp mem) rfl
      rw [kept, view_dropStale]
      simp [view, free]
    · obtain rfl : key = peerId := own
      rw [changed, view_dropStale, view_dropStale, seen]
  obtain ⟨others, kept⟩ | ⟨bond, mem, rfl, state, seen, changed⟩ :=
    @run_view _ _ (startMissing _) (run (dropStale _) _ _) _ _ _
      BondRecord.peerId peerId (·.view _) (fun _ _ => view_startMissing_of_ne) distinct
  · have absent : bonds.find? (·.peerId = peerId) = none := by simpa using others
    refine ⟨0, ?_⟩
    rw [kept, dropped, view_dropStale, absent]
    rcases svc.view _ with ⟨_ | client, built, calls⟩ <;> rfl
  · obtain ⟨count, started⟩ := @view_startMissing _ _ _ _
    refine ⟨count, ?_⟩
    rw [changed, started, seen, dropped, view_dropStale, find?_eq_some_of_mem distinct mem]
    rcases svc.view _ with ⟨_ | client, built, calls⟩
    · rfl
    · by_cases same : built = some bond <;> simp [PeerView.settle, same]

/-- A reload that finds everything in its place does nothing. -/
theorem injectClientsForBonds_settled (complete : ∀ bond ∈ bonds, bond.peerId ∈ svc.clients)
    (matched : ∀ peerId ∈ svc.clients,
      ∃ bond ∈ bonds, bond.peerId = peerId ∧ svc.clientBonds.lookup peerId = some bond) :
    svc.injectClientsForBonds create bonds = svc := by
  have kept : run (dropStale bonds) svc svc.clients.keys = svc := by
    refine @run_invariant_of_mem _ _ _ _ _ (· = svc) ?_ rfl
    rintro peerId mem _ rfl
    obtain ⟨bond, wanted, rfl, built⟩ := matched _ (AList.mem_keys.mpr mem)
    rw [dropStale, find?_eq_some_of_mem distinct wanted]
    exact if_pos ⟨nofun, built⟩
  simp only [injectClientsForBonds, associateByPeerId_eq distinct, kept]
  refine @run_invariant_of_mem _ _ _ _ _ (· = svc) ?_ rfl
  rintro bond wanted _ rfl
  exact if_pos (complete _ wanted)

/--
After a reload the clients and what they were built from are those of the
bonds.  A client that has its bond was not touched, every other one was
stopped once, a bond that is new or has changed got a client of its own, which
was started once, and a second reload does nothing.
-/
theorem injectClientsForBonds_reconciles :
    let after := svc.injectClientsForBonds create bonds
    (∀ peerId, peerId ∈ after.clients ↔ peerId ∈ bonds.map (·.peerId)) ∧
      (∀ bond ∈ bonds, after.clientBonds.lookup bond.peerId = some bond) ∧
      (svc.clientBonds.keys ⊆ svc.clients.keys → after.clientBonds.keys ⊆ after.clients.keys) ∧
      (∀ bond ∈ bonds, bond.peerId ∈ svc.clients →
        svc.clientBonds.lookup bond.peerId = some bond →
          after.view bond.peerId = svc.view bond.peerId) ∧
      (∀ bond ∈ bonds,
        svc.clients.lookup bond.peerId = none ∨ svc.clientBonds.lookup bond.peerId ≠ some bond →
          ∃ count, after.clients.lookup bond.peerId = some (create count bond) ∧
            (after.view bond.peerId).calls =
              (svc.view bond.peerId).calls ++
                (svc.clients.lookup bond.peerId).toList.map .stop ++ [.start (create count bond)]) ∧
      (∀ peerId ∉ bonds.map (·.peerId),
        (after.view peerId).calls =
          (svc.view peerId).calls ++ (svc.clients.lookup peerId).toList.map .stop) ∧
      after.injectClientsForBonds create bonds = after := by
  intro after
  have viewed (peerId) := view_injectClientsForBonds svc create distinct peerId
  have present (peerId) : peerId ∈ after.clients ↔ peerId ∈ bonds.map (·.peerId) := by
    obtain ⟨count, settled⟩ := viewed _
    have same := congrArg (·.client.isSome) settled
    rw [PeerView.isSome_settle] at same
    rw [← AList.lookup_isSome]
    change (after.view peerId).client.isSome ↔ _
    rw [same, find?_isSome]
    simp
  have built : ∀ bond ∈ bonds, after.clientBonds.lookup bond.peerId = some bond := by
    intro bond wanted
    obtain ⟨count, settled⟩ := viewed _
    rw [find?_eq_some_of_mem distinct wanted] at settled
    exact (congrArg _ settled).trans (PeerView.built_settle _ _)
  refine ⟨present, built, ?_, ?_, ?_, ?_, ?_⟩
  · intro recorded peerId mem
    rw [← AList.mem_keys, present]
    by_contra absent
    obtain ⟨count, settled⟩ := viewed _
    have unwanted : bonds.find? (·.peerId = peerId) = none := by simpa using absent
    have held : (after.view peerId).built.isSome := AList.lookup_isSome.mpr (AList.mem_keys.mpr mem)
    rw [settled, unwanted] at held
    cases running : svc.clients.lookup peerId with
    | none =>
      simp only [PeerView.settle, view, running, AList.lookup_isSome] at held
      exact AList.lookup_eq_none.mp running (AList.mem_keys.mpr (recorded held))
    | some client => simp [PeerView.settle, view, running] at held
  · intro bond wanted running same
    obtain ⟨count, settled⟩ := viewed _
    obtain ⟨client, running⟩ := isSome_iff_exists.mp (AList.lookup_isSome.mpr running)
    rw [find?_eq_some_of_mem distinct wanted] at settled
    refine settled.trans ?_
    simp [PeerView.settle, view, running, same]
  · intro bond wanted changed
    obtain ⟨count, settled⟩ := viewed _
    rw [find?_eq_some_of_mem distinct wanted, PeerView.settle_changed _ _ changed] at settled
    exact ⟨count, congrArg (·.client) settled, congrArg (·.calls) settled⟩
  · intro peerId absent
    obtain ⟨count, settled⟩ := viewed _
    have unwanted : bonds.find? (·.peerId = peerId) = none := by simpa using absent
    rw [unwanted] at settled
    exact (congrArg (·.calls) settled).trans (PeerView.calls_settle_none _)
  · refine injectClientsForBonds_settled _ _ distinct ?_ ?_
    · exact fun bond wanted => (present _).mpr (mem_map_of_mem wanted)
    · intro peerId mem
      obtain ⟨bond, wanted, rfl⟩ := mem_map.mp ((present _).mp mem)
      exact ⟨bond, wanted, rfl, built _ wanted⟩

omit distinct in
/-- One desktop has a new key, one is as it was, and one is new. -/
theorem restarts_rekeyed :
    let bond (peer : Char) (key : UInt8) : BondRecord :=
      ⟨[peer], ['h'], List.replicate 32 key, ['k'], List.replicate 32 2⟩
    let svc : CompanionService (Nat × BondRecord) :=
      ⟨(AList.singleton ['a'] (0, bond 'a' 1)).insert ['b'] (1, bond 'b' 1),
        (AList.singleton ['a'] (bond 'a' 1)).insert ['b'] (bond 'b' 1), 2, []⟩
    let after := svc.injectClientsForBonds Prod.mk [bond 'a' 3, bond 'b' 1, bond 'c' 1]
    (∃ count, (after.view ['a']).calls = [.stop (0, bond 'a' 1), .start (count, bond 'a' 3)]) ∧
      (after.view ['b']).calls = [] ∧
      ∃ count, (after.view ['c']).calls = [.start (count, bond 'c' 1)] := by
  intro bond svc after
  have distinct : ([bond 'a' 3, bond 'b' 1, bond 'c' 1].map (·.peerId)).Nodup := by decide
  obtain ⟨-, -, -, kept, changed, -⟩ := injectClientsForBonds_reconciles svc Prod.mk distinct
  obtain ⟨first, -, rekeyed⟩ := changed (bond 'a' 3) (by simp) (.inr (by decide))
  obtain ⟨second, -, added⟩ := changed (bond 'c' 1) (by simp) (.inl (by decide))
  have same := kept (bond 'b' 1) (by simp) (by decide) (by decide)
  exact ⟨⟨first, rekeyed⟩, congrArg (·.calls) same, second, added⟩

end CompanionService

end DeskUnlock.Unlock.Phone
