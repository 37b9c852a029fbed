import DeskUnlock.Pairing.ScreenIdentity

/-!
# Attempts that fail before the words are shown

`RealPairBackend.kt` has ten ways to give up an attempt whose peer was picked:
in its two receivers and in the thread of the exchange.  All of them complete
`lescResultDeferred`, which nothing awaits, and none of them calls the callback
that `setOnLescResultCallback` has installed.  Only the last line of
`runPostBondExchange` calls it, with the result of a success.

The view model therefore never learns of a failure.
-/

namespace DeskUnlock.Pairing.Phone

open Texts List

namespace Screen

def failure? (derive : Bytes → Bytes → Bytes) (compute : Bytes → Text)
    (screen : Screen) : ScreenEvent → Option Text
  | .cleared => none
  | ev =>
    match (screen.step derive compute ev).backend.lescResultDeferred.drop
        screen.backend.lescResultDeferred.length with
    | [.failed reason] => some reason
    | _ => none

/--
Nothing came of the attempt yet, the callback is called with its result, or
only the backend and its threads have changed.
-/
inductive Concludes (screen after : Screen) : Prop
  | nothing
      (deferred : after.backend.lescResultDeferred = screen.backend.lescResultDeferred)
      (results : after.results = screen.results)
  | bonded (res : LescBonded)
      (deferred :
        after.backend.lescResultDeferred = screen.backend.lescResultDeferred ++ [.bonded res])
      (results : after.results = screen.results ++ [.bonded res])
  | inside (back : PairBackend) (workers : List Worker)
      (only : after = { screen with backend := back, workers })

theorem Moves.concludes {compute : Bytes → Text} {screen after : Screen} {ev : ScreenEvent}
    (used : ev ≠ .cleared) (moves : screen.Moves compute ev after) : screen.Concludes after := by
  cases moves with
  | keeps same | shows _ _ same | carries same | ends _ _ same =>
    exact .nothing same.lescResultDeferred rfl
  | clears => exact absurd rfl used
  | scans | leaves | takes | confirms | settles => exact .nothing rfl rfl
  | picks peer device =>
    refine .nothing ?_ rfl
    unfold PairBackend.pickPeer
    split_ifs <;> rfl
  | works => exact .inside _ _ rfl
  | resolves _ same => exact .bonded _ (congrArg (· ++ [_]) same.lescResultDeferred) rfl

theorem step_concludes (derive : Bytes → Bytes → Bytes) (compute : Bytes → Text) (screen : Screen)
    {ev : ScreenEvent} (used : ev ≠ .cleared) : screen.Concludes (screen.step derive compute ev) :=
  (screen.step_moves _ _ _).concludes used

/-- A step that lets the attempt fail is not seen outside the backend. -/
theorem eq_of_failure? {derive : Bytes → Bytes → Bytes} {compute : Bytes → Text} {screen : Screen}
    {ev : ScreenEvent} {reason : Text} (failed : screen.failure? derive compute ev = some reason) :
    ∃ back workers, screen.step derive compute ev = { screen with backend := back, workers } := by
  have used : ev ≠ .cleared := by
    rintro rfl
    cases failed
  have last :
      (screen.step derive compute ev).backend.lescResultDeferred.drop
          screen.backend.lescResultDeferred.length =
        [.failed reason] := by
    unfold failure? at failed
    split at failed
    · cases failed
    · split at failed
      · rename_i dropped
        rw [dropped, Option.some.inj failed]
      · cases failed
  cases step_concludes derive compute screen used with
  | nothing deferred results =>
    rw [deferred, drop_length] at last
    cases last
  | bonded res deferred results =>
    rw [deferred, drop_left] at last
    cases last
  | inside back workers only => exact ⟨back, workers, only⟩

def Unwarned (screen : Screen) : Prop := ∀ reason, .failed reason ∉ screen.results

theorem Unwarned.step {derive : Bytes → Bytes → Bytes} {compute : Bytes → Text} {screen : Screen}
    (unwarned : screen.Unwarned) (ev : ScreenEvent) : (screen.step derive compute ev).Unwarned := by
  intro reason
  by_cases used : ev = .cleared
  · subst used
    exact unwarned _
  cases step_concludes derive compute screen used with
  | nothing deferred results =>
    rw [results]
    exact unwarned _
  | bonded res deferred results =>
    rw [results]
    simp [unwarned _]
  | inside back workers only =>
    rw [only]
    exact unwarned _

/--
Where an attempt fails, neither the view model nor the association learn of it
in that step, and the callback is not called with a failure later.
-/
theorem failure_never_delivered (derive : Bytes → Bytes → Bytes) (compute : Bytes → Text)
    (preferences : Preferences) (adapter gattExchange : Bool) (events later : List ScreenEvent)
    (ev : ScreenEvent) (reason : Text)
    (failed :
      failure? derive compute
          (Runs.run (step derive compute) (start preferences adapter gattExchange) events) ev =
        some reason) :
    (∃ back workers,
      step derive compute
          (Runs.run (step derive compute) (start preferences adapter gattExchange) events) ev =
        { Runs.run (step derive compute)
            (start preferences adapter gattExchange) events with
          backend := back, workers }) ∧
      (Runs.run (step derive compute)
        (start preferences adapter gattExchange) (events ++ ev :: later)).Unwarned := by
  constructor
  · exact eq_of_failure? failed
  · apply Runs.run_invariant
    · exact fun _ ev unwarned => unwarned.step _
    · exact fun _ => not_mem_nil

theorem rejected_variant_never_delivered :
    (∃ back workers,
      step mixedKey sixDigits
          (Runs.run (step mixedKey sixDigits)
            (start ⟨none, none⟩ true true) bondedPick)
          (.pairingRequested 3 0) =
        { Runs.run (step mixedKey sixDigits)
            (start ⟨none, none⟩ true true) bondedPick with
          backend := back, workers }) ∧
      (Runs.run (step mixedKey sixDigits)
        (start ⟨none, none⟩ true true)
        (bondedPick ++ [.pairingRequested 3 0, .cancelTapped])).Unwarned :=
  failure_never_delivered _ _ _ _ _ _ _ _
    "OS pairing variant rejected: 3".toList (by decide +kernel)

def failures : List (Bool × List ScreenEvent × ScreenEvent × Text) :=
  let picked : List ScreenEvent :=
    [.startScanTapped, .peerPicked ⟨"AA:01".toList, "desk".toList⟩ ⟨true, BOND_NONE, true⟩]
  let key : Bytes := List.replicate 32 1
  let connected (material : Except Text (Option Bytes))
      (hostPubkey : Except Text Bytes) : ScreenEvent :=
    .connected 0 material hostPubkey none
  let exchanged := bondedPick ++ [connected (.ok (some key)) (.ok key)]
  [(true, picked, .pairingRequested 3 0, "OS pairing variant rejected: 3".toList),
    (true, picked, .bondStateChanged BOND_NONE (some BOND_BONDING) none,
      "OS bond cancelled or failed (BOND_BONDING -> BOND_NONE)".toList),
    (false, bondedPick, connected (.ok (some key)) (.ok key), GATT_EXCHANGE_MISSING_REASON),
    (true, bondedPick, connected (.ok none) (.ok key), KEYSTORE_UNAVAILABLE_REASON),
    (true, bondedPick, connected (.error "busy".toList) (.ok key),
      "Keystore Ed25519 mint failed: busy".toList),
    (true, bondedPick, connected (.ok (some key)) (.error "lost".toList),
      "pair-service exchange failed: lost".toList),
    (true, bondedPick, connected (.ok (some key)) (.ok [1]), "host pubkey wrong length: 1".toList),
    (true, exchanged, .capabilityRead 0 none, UPDATE_REQUIRED_REASON),
    (true,
      exchanged ++ [.capabilityRead 0 (some (message (.replicate 16 7) OP_CAPABILITY))],
      .capabilityWritten 0 false, "pairing protocol v2 capability write refused".toList)]

theorem failures_leave_negotiating :
    failures.Forall fun failure =>
      let before :=
        Runs.run (step mixedKey sixDigits)
          (start ⟨none, none⟩ true failure.1) failure.2.1
      let after := before.step mixedKey sixDigits failure.2.2.1
      before.failure? mixedKey sixDigits failure.2.2.1 = some failure.2.2.2 ∧
        before.viewModel.state.negotiating = true ∧ after.viewModel.state.negotiating = true ∧
        after.results = [] ∧ .abandonProvisionalAssociation ∉ after.calls := by
  decide +kernel

end Screen

end DeskUnlock.Pairing.Phone
