import DeskUnlock.Pairing.ScreenIdentity

/-!
# A recovery beside a pairing

The coroutine that the `init` block launches writes its outcome into the state
of the screen whatever that state is by then.  If the user has started an
attempt in the meantime, the outcome of the old transaction takes the place of
the state of the new attempt.

Where the user waits for the recovery before the first scan, and no result of
an exchange is taken outside the negotiation, the screen stays `Idle` until the
recovery is finished.  From then on only the transaction of the current attempt
ends `Finalizing`, and `Bonded` means what it says.
-/

namespace DeskUnlock.Pairing.Phone

open Texts List

/-! ## What the steps may do to the state -/

theorem PairingState.tentative_of_negotiating {state : PairingState}
    (negotiating : state.negotiating = true) : state.tentative = true := by
  cases state with
  | lescNegotiating => rfl
  | _ => cases negotiating

namespace Screen

/--
A recovery only replaces `Idle`, and `Bonded` is entered from `Finalizing` by
the transaction of the current attempt or from `Idle` by a recovery.
-/
structure Proper (derive : Bytes → Bytes → Bytes) (compute : Bytes → Text)
    (screen : Screen) (ev : ScreenEvent) : Prop where
  recovered :
    ev = .recoverySettled →
      (screen.step derive compute ev).viewModel.state ≠ screen.viewModel.state →
        screen.viewModel.state = .idle
  bonded :
    ∀ name,
      (screen.step derive compute ev).viewModel.state = .bonded name →
        screen.viewModel.state = .bonded name ∨
          (screen.viewModel.state = .finalizing ∧
            ∃ i tx,
              ev = .transactionEnded i ∧
                screen.transactions[i]? = some tx ∧ tx.attempt = screen.attempts) ∨
          (screen.viewModel.state = .idle ∧ ev = .recoverySettled)

def delivers (screen : Screen) (i : Nat) : Bool :=
  match screen.workers[i]? with
  | some ⟨_, _, .checked _⟩ => true
  | _ => false

/--
No scan is started before the recovery is finished, and a result is taken while
the attempt negotiates.
-/
def Serial (screen : Screen) : ScreenEvent → Prop
  | .startScanTapped => screen.recovery.finished = true
  | .resultTaken i => screen.delivers i = true → screen.viewModel.state.negotiating = true
  | _ => True

instance (screen : Screen) (ev : ScreenEvent) : Decidable (screen.Serial ev) := by
  apply ev.casesOn (motive := fun ev => Decidable (screen.Serial ev))
  case startScanTapped => exact instDecidableEqBool _ _
  case resultTaken => exact fun _ => instDecidableForall
  all_goals
    intros
    exact instDecidableTrue

/-! ## The invariant -/

/--
`Idle` waits for the recovery.  There is one transaction at most, and
`Finalizing` waits for it.
-/
structure Sequenced (screen : Screen) : Prop where
  awaited : screen.recovery.finished = true ∨ screen.viewModel.state = .idle
  alone : screen.transactions.length ≤ 1
  decided : ∀ tx ∈ screen.transactions, screen.viewModel.state.decided = true
  waiting :
    ∀ tx ∈ screen.transactions, tx.unfinished = true →
      screen.viewModel.state = .finalizing ∧ tx.attempt = screen.attempts

theorem start_sequenced {preferences : Preferences} {adapter gattExchange : Bool} :
    (start preferences adapter gattExchange).Sequenced where
  awaited := .inr rfl
  alone := Nat.zero_le 1
  decided := nofun
  waiting := nofun

section

variable {compute : Bytes → Text} {screen : Screen}

theorem Sequenced.of_nil (none : screen.transactions = [])
    (finished : screen.recovery.finished = true) : screen.Sequenced := by
  constructor
  · exact .inl finished
  · rw [none]
    exact Nat.zero_le 1
  · rw [none]
    exact nofun
  · rw [none]
    exact nofun

section

variable (sequenced : screen.Sequenced)
include sequenced

theorem Sequenced.transactions_eq_nil (undecided : screen.viewModel.state.decided = false) :
    screen.transactions = [] := by
  apply eq_nil_iff_forall_not_mem.mpr
  intro tx mem
  have decided := sequenced.decided _ mem
  rw [undecided] at decided
  cases decided

theorem Sequenced.finished (started : screen.viewModel.state ≠ .idle) :
    screen.recovery.finished = true :=
  sequenced.awaited.resolve_right started

variable {after : Screen}

theorem Sequenced.carried
    (recovery : screen.recovery.finished = true → after.recovery.finished = true)
    (state : after.viewModel.state = screen.viewModel.state)
    (attempts : after.attempts = screen.attempts) {i : Nat}
    {change : TransactionRun → TransactionRun}
    (transactions : after.transactions = screen.transactions.modify i change)
    (goesOn :
      ∀ tx, screen.transactions[i]? = some tx →
        (change tx).attempt = tx.attempt ∧
          ((change tx).unfinished = true → tx.unfinished = true)) : after.Sequenced := by
  constructor
  · rw [state]
    exact sequenced.awaited.imp_left recovery
  · rw [transactions, length_modify]
    exact sequenced.alone
  · intro tx mem
    rw [transactions] at mem
    rw [state]
    rcases Runs.exists_mem_of_mem_modify mem with old | ⟨old, inside, _⟩
    · exact sequenced.decided _ old
    · exact sequenced.decided _ inside
  · intro tx mem unfinished
    rw [transactions] at mem
    rw [state, attempts]
    rcases Runs.exists_getElem?_of_mem_modify mem with old | ⟨old, standing, rfl⟩
    · exact sequenced.waiting _ old unfinished
    · obtain ⟨same, before⟩ := goesOn _ standing
      rw [same]
      exact sequenced.waiting _ (mem_of_getElem? standing) (before unfinished)

theorem Sequenced.unmoved
    (recovery : screen.recovery.finished = true → after.recovery.finished = true)
    (state : after.viewModel.state = screen.viewModel.state)
    (attempts : after.attempts = screen.attempts)
    (transactions : after.transactions = screen.transactions) : after.Sequenced := by
  refine @Sequenced.carried _ sequenced _ recovery state attempts 0 id ?_ ?_
  · rw [transactions, modify_id]
  · exact fun _ _ => ⟨rfl, fun unfinished => unfinished⟩

/-- The state of an attempt that has no transaction yet is replaced. -/
theorem Sequenced.replaced (tentative : screen.viewModel.state.tentative = true)
    (recovery : after.recovery = screen.recovery)
    (transactions : after.transactions = screen.transactions) : after.Sequenced := by
  have undecided := PairingState.not_decided_of_tentative tentative
  have started : screen.viewModel.state ≠ .idle := by
    intro idle
    rw [idle] at tentative
    cases tentative
  apply of_nil
  · rw [transactions]
    exact sequenced.transactions_eq_nil undecided
  · rw [recovery]
    exact sequenced.finished started

theorem Sequenced.transactionEnded {i : Nat} {tx : TransactionRun}
    (standing : screen.transactions[i]? = some tx) {back : PairBackend}
    {viewModel : ViewModel} {calls : List ScreenCall} (decided : viewModel.state.decided = true) :
    Sequenced
      { screen with
        backend := back, viewModel, calls
        transactions := screen.transactions.modify i ({ · with stage := .ended }) } := by
  have inside : i < screen.transactions.length := (List.getElem?_eq_some_iff.mp standing).1
  obtain rfl : i = 0 := by
    have alone := sequenced.alone
    omega
  have only : screen.transactions = [tx] := by
    have alone := sequenced.alone
    cases transactions : screen.transactions with
    | nil =>
      rw [transactions] at standing
      cases standing
    | cons first rest =>
      rw [transactions] at standing alone
      obtain rfl : first = tx := Option.some.inj standing
      have none : rest.length = 0 := by simpa using alone
      rw [eq_nil_of_length_eq_zero none]
  have started : screen.viewModel.state ≠ .idle := by
    intro idle
    have before := sequenced.decided _ (mem_of_getElem? standing)
    rw [idle] at before
    cases before
  constructor
  · exact .inl (sequenced.finished started)
  · change (screen.transactions.modify 0 _).length ≤ 1
    rw [only]
    exact le_refl 1
  · exact fun _ _ => decided
  · intro other mem unfinished
    rw [only] at mem
    rw [mem_singleton.mp mem] at unfinished
    cases unfinished

theorem Sequenced.confirms {code : Text} {peer : PeerHandle} {bondKey : Bytes}
    (tapped : screen.viewModel.onOobYesTapped = some (code, peer, bondKey)) :
    Sequenced
      { screen with
        viewModel.state := .finalizing
        transactions :=
          screen.transactions ++ [⟨screen.attempts, code, peer, bondKey, none, .launched⟩] } := by
  have state := (ViewModel.onOobYesTapped_eq_some tapped).1
  have none := sequenced.transactions_eq_nil (by rw [state]; rfl)
  rw [none]
  constructor
  · exact .inl (sequenced.finished (by simp [state]))
  · exact le_refl 1
  · exact fun _ _ => rfl
  · intro tx mem _
    rw [mem_singleton.mp mem]
    exact ⟨rfl, rfl⟩

theorem Sequenced.moves {ev : ScreenEvent} (serial : screen.Serial ev)
    (moves : screen.Moves compute ev after) : after.Sequenced := by
  cases moves with
  | keeps _ finished => exact sequenced.unmoved finished rfl rfl rfl
  | clears | works | resolves => exact sequenced.unmoved id rfl rfl rfl
  | scans idle =>
    have none := sequenced.transactions_eq_nil (by rw [idle]; rfl)
    exact of_nil none serial
  | leaves tentative => exact sequenced.replaced tentative rfl rfl
  | picks peer device scanning => exact sequenced.replaced (by rw [scanning]; rfl) rfl rfl
  | shows code negotiating => exact sequenced.replaced (by rw [negotiating]; rfl) rfl rfl
  | takes standing =>
    have negotiating := serial (by unfold delivers; rw [standing])
    exact sequenced.replaced (PairingState.tentative_of_negotiating negotiating) rfl rfl
  | confirms tapped => exact sequenced.confirms tapped
  | carries _ _ resumes =>
    refine sequenced.carried id rfl rfl rfl fun tx standing => ?_
    exact ⟨(resumes _ standing).attempt, (resumes _ standing).unfinished⟩
  | ends standing _ _ decided => exact sequenced.transactionEnded standing decided
  | settles answered =>
    have idle : screen.viewModel.state = .idle := by
      apply sequenced.awaited.resolve_left
      rw [answered]
      exact Bool.false_ne_true
    have none := sequenced.transactions_eq_nil (by rw [idle]; rfl)
    exact of_nil none rfl

end

theorem Moves.bonded {ev : ScreenEvent} {after : Screen}
    (moves : screen.Moves compute ev after) {name : Text}
    (bonded : after.viewModel.state = .bonded name) :
    screen.viewModel.state = .bonded name ∨
      (∃ i tx, ev = .transactionEnded i ∧
        screen.transactions[i]? = some tx ∧ tx.unfinished = true) ∨
      (ev = .recoverySettled ∧ screen.recovery.finished = false) := by
  cases moves with
  | keeps | clears | works | resolves | carries => exact .inl bonded
  | scans | shows | confirms => cases bonded
  | leaves _ left =>
    rcases left with state | ⟨reason, state⟩ <;> rw [state] at bonded <;> cases bonded
  | picks =>
    unfold ViewModel.onPeerPicked at bonded
    split at bonded <;> cases bonded
  | takes =>
    unfold ViewModel.onLescResult at bonded
    dsimp only at bonded
    split at bonded <;> cases bonded
  | ends standing unfinished => exact .inr (.inl ⟨_, _, rfl, standing, unfinished⟩)
  | settles answered => exact .inr (.inr ⟨rfl, by rw [answered]; rfl⟩)

end

/-! ## Runs -/

theorem Sequenced.proper {derive : Bytes → Bytes → Bytes} {compute : Bytes → Text}
    {screen : Screen} (sequenced : screen.Sequenced) (ev : ScreenEvent) :
    screen.Proper derive compute ev where
  recovered := by
    rintro rfl moved
    apply sequenced.awaited.resolve_left
    intro finished
    apply moved
    unfold Screen.step
    dsimp only
    split
    · rename_i answered
      rw [answered] at finished
      cases finished
    · rfl
  bonded := by
    intro name bonded
    rcases (screen.step_moves _ _ _).bonded bonded with
      same | ⟨i, tx, ended, standing, unfinished⟩ | ⟨settled, running⟩
    · exact .inl same
    · have mem := mem_of_getElem? standing
      obtain ⟨state, own⟩ := sequenced.waiting _ mem unfinished
      exact .inr (.inl ⟨state, i, tx, ended, standing, own⟩)
    · have idle : screen.viewModel.state = .idle := by
        apply sequenced.awaited.resolve_left
        rw [running]
        exact Bool.false_ne_true
      exact .inr (.inr ⟨idle, settled⟩)

/--
If the user waits for the recovery, and results are taken while an attempt
negotiates, then the recovery never replaces the state of an attempt.
-/
theorem recovery_replaces_only_idle (derive : Bytes → Bytes → Bytes) (compute : Bytes → Text)
    (preferences : Preferences) (adapter gattExchange : Bool) (events : List ScreenEvent)
    (serial :
      Runs.Along (step derive compute) Serial (start preferences adapter gattExchange) events) :
    Runs.Along (step derive compute) (Proper derive compute)
      (start preferences adapter gattExchange) events :=
  Runs.along_of_along
    (fun screen _ met sequenced => sequenced.moves met (screen.step_moves _ _ _))
    (fun _ _ _ sequenced => sequenced.proper _) start_sequenced serial

def completedTransaction : List ScreenEvent :=
  [.transactionWritten 0 true,
    .transactionRead 0 (some (message (.replicate 16 7) OP_COMMITTED)), .transactionWritten 0 true]

/-- There was nothing to recover, and then a peer is paired. -/
def patientRun : List ScreenEvent :=
  [.recoveryAsked, .recoveryAnswered (answeredBy 1 .bonded)] ++
    bondedPick ++ completedExchange 0 ++ confirmedTransaction ++
    completedTransaction ++ [.transactionEnded 0]

theorem patientRun_replaces_only_idle :
    (Runs.run (step mixedKey sixDigits)
        (start ⟨none, none⟩ true true) patientRun).viewModel.state =
      .bonded "desk".toList ∧
    Runs.Along (step mixedKey sixDigits)
      (Proper mixedKey sixDigits) (start ⟨none, none⟩ true true) patientRun := by
  constructor
  · decide +kernel
  · apply recovery_replaces_only_idle
    decide +kernel

def interruptedRecovery : List ScreenEvent :=
  [.recoveryAsked, .startScanTapped, .recoveryAnswered (answeredBy 1 .bonded)]

/--
Two threads have passed the check of `onLescResult`, and the second result is
taken while the transaction runs that the first one has led to.
-/
def crossedResults : List ScreenEvent :=
  bondedPick ++ [.cancelTapped] ++ bondedPick ++
    (completedExchange 0).dropLast ++ (completedExchange 1).dropLast ++
    [.resultTaken 0] ++ confirmedTransaction ++ [.resultTaken 1] ++ completedTransaction

theorem scan_and_code_replaced :
    ¬ Proper mixedKey sixDigits
        (Runs.run (step mixedKey sixDigits)
          (start ⟨some pendingTransaction.serialize, some "AA:BB".toList⟩
            true true) interruptedRecovery)
        .recoverySettled ∧
      ¬ Proper mixedKey sixDigits
        (Runs.run (step mixedKey sixDigits)
          (start ⟨none, none⟩ true true) crossedResults)
        (.transactionEnded 0) := by
  constructor
  · intro proper
    have idle := proper.recovered rfl (by decide +kernel)
    revert idle
    decide +kernel
  · intro proper
    rcases proper.bonded "desk".toList (by decide +kernel) with state | ⟨state, _⟩ | ⟨state, _⟩
    all_goals
      revert state
      decide +kernel

end Screen

end DeskUnlock.Pairing.Phone
