import DeskUnlock.Pairing.PairingScreen

/-!
# What a step of the pairing screen can do

The events of the pairing screen fall into a few kinds of moves, and each move
says which parts of the screen it leaves alone.  What is invariant over a run
is shown once for each kind.
-/

namespace DeskUnlock.Pairing.Phone

open Texts List

def TransactionRun.unfinished (tx : TransactionRun) : Bool :=
  match tx.stage with
  | .ended => false
  | _ => true

def PairingState.tentative : PairingState → Bool
  | .scanning | .lescNegotiating _ | .oobConfirming _ => true
  | _ => false

def RecoveryStage.finished : RecoveryStage → Bool
  | .ended => true
  | _ => false

/-- The states that nothing but a transaction or a recovery leaves. -/
def PairingState.decided : PairingState → Bool
  | .finalizing | .uncertain _ | .bonded _ | .failed _ => true
  | _ => false

def WorkerStage.result? : WorkerStage → Option LescBonded
  | .resolved res | .checked res => some res
  | _ => none

theorem PairingState.not_decided_of_tentative {state : PairingState}
    (tentative : state.tentative = true) : state.decided = false := by
  cases state with
  | idle | scanning | lescNegotiating | oobConfirming => rfl
  | _ => cases tentative

structure TransactionRun.Resumes (before after : TransactionRun) : Prop where
  attempt : after.attempt = before.attempt
  code : after.code = before.code
  peer : after.peer = before.peer
  bondKey : after.bondKey = before.bondKey
  unfinished : after.unfinished = true → before.unfinished = true

structure PairBackend.Same (before after : PairBackend) : Prop where
  pickedAddress : after.pickedAddress = before.pickedAddress
  lescResultDeferred : after.lescResultDeferred = before.lescResultDeferred

/-- What a transaction reads of the view model when it persists its bond. -/
structure ViewModel.Stashes (before after : ViewModel) : Prop where
  keystoreAlias : after.stashedKeystoreAlias = before.stashedKeystoreAlias
  phonePubkey : after.stashedPhonePubkey = before.stashedPhonePubkey

namespace Screen

/--
A thread goes on without a new result, or it is started for the picked peer.
-/
inductive Descends (screen : Screen) (worker : Worker) : Prop
  | old (before : Worker) (mem : before ∈ screen.workers)
      (att : worker.attempt = before.attempt) (addr : worker.address = before.address)
      (results : ∀ res ∈ worker.stage.result?, res ∈ before.stage.result?)
  | started (att : worker.attempt = screen.attempts)
      (addr : ∀ picked, screen.backend.pickedAddress = some picked → worker.address = picked)
      (results : worker.stage.result? = none)

/-- What a step can do to the screen. -/
inductive Moves (compute : Bytes → Text) (screen : Screen) : ScreenEvent → Screen → Prop
  | keeps {ev : ScreenEvent} {back : PairBackend} {calls : List ScreenCall}
      {recovery : RecoveryStage} (same : screen.backend.Same back)
      (finished : screen.recovery.finished = true → recovery.finished = true) :
      Moves compute screen ev { screen with backend := back, calls, recovery }
  | clears {back : PairBackend} {calls : List ScreenCall}
      (pickedAddress : back.pickedAddress = screen.backend.pickedAddress) :
      Moves compute screen .cleared { screen with backend := back, calls }
  | scans {calls : List ScreenCall} (idle : screen.viewModel.state = .idle) :
      Moves compute screen .startScanTapped { screen with viewModel.state := .scanning, calls }
  | leaves {ev : ScreenEvent} {viewModel : ViewModel} {calls : List ScreenCall}
      (tentative : screen.viewModel.state.tentative = true)
      (left : viewModel.state = .idle ∨ ∃ reason, viewModel.state = .failed reason)
      (stashes : screen.viewModel.Stashes viewModel) :
      Moves compute screen ev { screen with viewModel, calls }
  | picks (peer : PeerHandle) (device : DeviceAnswers)
      (scanning : screen.viewModel.state = .scanning) :
      Moves compute screen (.peerPicked peer device)
        ((screen.picked (screen.backend.pickPeer peer device).1
          (screen.viewModel.onPeerPicked peer (screen.backend.pickPeer peer device).2.1)).spawn
          (screen.backend.pickPeer peer device).2.2)
  | shows {ev : ScreenEvent} {back : PairBackend} {shown : Text} (code : Text)
      (negotiating : screen.viewModel.state = .lescNegotiating shown)
      (same : screen.backend.Same back) :
      Moves compute screen ev
        { screen with backend := back, viewModel.state := .lescNegotiating code }
  | works {ev : ScreenEvent} {back : PairBackend} {workers : List Worker}
      (pickedAddress : back.pickedAddress = screen.backend.pickedAddress)
      (descends : ∀ worker ∈ workers, screen.Descends worker) :
      Moves compute screen ev { screen with backend := back, workers }
  | resolves {ev : ScreenEvent} {back : PairBackend} {i att : Nat}
      {addr : Text} {stage : WorkerStage} {res : LescBonded}
      (standing : screen.workers[i]? = some ⟨att, addr, stage⟩)
      (same : screen.backend.Same back) :
      Moves compute screen ev
        (((screen.withBackend back).resolveExchange att addr res).setWorker i
          (.resolved res))
  | takes {i att : Nat} {addr : Text} {res : LescBonded}
      (standing : screen.workers[i]? = some ⟨att, addr, .checked res⟩) :
      Moves compute screen (.resultTaken i)
        ((screen.handled (screen.viewModel.onLescResult compute (.bonded res))).setWorker i .ended)
  | confirms {code : Text} {peer : PeerHandle} {bondKey : Bytes}
      (tapped : screen.viewModel.onOobYesTapped = some (code, peer, bondKey)) :
      Moves compute screen .oobYesTapped
        { screen with
          viewModel.state := .finalizing
          transactions :=
            screen.transactions ++ [⟨screen.attempts, code, peer, bondKey, none, .launched⟩] }
  | carries {ev : ScreenEvent} {back : PairBackend} {calls : List ScreenCall}
      {persisted : List Persisted} {i : Nat} {change : TransactionRun → TransactionRun}
      (same : screen.backend.Same back)
      (recorded :
        ∀ entry ∈ persisted, entry ∈ screen.persisted ∨
          ∃ tx ∈ screen.transactions,
            entry = ⟨tx.attempt, tx.code, screen.viewModel.bondRecord tx.peer tx.bondKey⟩)
      (resumes : ∀ tx, screen.transactions[i]? = some tx → tx.Resumes (change tx)) :
      Moves compute screen ev
        { screen with
          backend := back, calls, persisted
          transactions := screen.transactions.modify i change }
  | ends {back : PairBackend} {viewModel : ViewModel} {calls : List ScreenCall} {i : Nat}
      {tx : TransactionRun} (standing : screen.transactions[i]? = some tx)
      (unfinished : tx.unfinished = true) (same : screen.backend.Same back)
      (decided : viewModel.state.decided = true) (stashes : screen.viewModel.Stashes viewModel) :
      Moves compute screen (.transactionEnded i)
        { screen with
          backend := back, viewModel, calls
          transactions := screen.transactions.modify i ({ · with stage := .ended }) }
  | settles {bonded : Bool} (answered : screen.recovery = .answered bonded) :
      Moves compute screen .recoverySettled
        { screen with viewModel := screen.viewModel.onRecovered bonded, recovery := .ended }

end Screen

theorem PairBackend.coordinate_same (back : PairBackend) :
    back.Same back.coordinate.1 := by
  unfold PairBackend.coordinate
  split_ifs
  · exact ⟨rfl, rfl⟩
  · split
    · exact ⟨rfl, rfl⟩
    · dsimp only
      split_ifs <;> exact ⟨rfl, rfl⟩

theorem PairBackend.onCapability_same (back : PairBackend) {capability : Option Bytes} :
    back.Same (back.onCapability capability) := by
  unfold PairBackend.onCapability
  split <;> exact ⟨rfl, rfl⟩

theorem PairBackend.forget_same (back : PairBackend) {succeeded : Bool} :
    back.Same (back.forget succeeded) := by
  unfold PairBackend.forget
  split_ifs <;> exact ⟨rfl, rfl⟩

theorem PairBackend.onStatus_same (back : PairBackend) {asked : Backend}
    {exchange : StatusExchange} : back.Same (back.onStatus asked exchange).1 := by
  unfold PairBackend.onStatus
  split <;> exact ⟨rfl, rfl⟩

theorem PairBackend.onBondStateChanged_pickedAddress (back : PairBackend)
    {newState : Int} {previous : Option Int} {addr : Option Text} :
    (back.onBondStateChanged newState previous
      addr).1.pickedAddress = back.pickedAddress := by
  unfold PairBackend.onBondStateChanged
  split_ifs <;> rfl

/-- A receiver starts exchanges with the picked peer only, if there is one. -/
theorem PairBackend.mem_onBondStateChanged {back : PairBackend} {newState : Int}
    {previous : Option Int} {addr : Option Text} {started picked : Text}
    (mem : started ∈ (back.onBondStateChanged newState previous addr).2)
    (held : back.pickedAddress = some picked) : started = picked := by
  unfold PairBackend.onBondStateChanged at mem
  split_ifs at mem
  · obtain ⟨bonded, _, inside⟩ := mem_flatMap.mp mem
    unfold PairBackend.onBondedFromReceiver at inside
    rw [held] at inside
    dsimp only at inside
    split_ifs at inside with same
    · rw [mem_singleton.mp inside, same]
    · cases inside
  · cases mem
  · cases mem

namespace Screen

variable {compute : Bytes → Text} {screen : Screen}

theorem Moves.ignored {ev : ScreenEvent} : screen.Moves compute ev screen := .keeps ⟨rfl, rfl⟩ id

theorem Descends.refl {worker : Worker} (mem : worker ∈ screen.workers) : screen.Descends worker :=
  .old _ mem rfl rfl fun _ held => held

theorem descends_setWorker {i : Nat} {before : Worker} {stage : WorkerStage}
    (standing : screen.workers[i]? = some before)
    (results : ∀ res ∈ stage.result?, res ∈ before.stage.result?) :
    ∀ worker ∈ (screen.setWorker i stage).workers, screen.Descends worker := by
  intro worker mem
  rcases Runs.exists_getElem?_of_mem_modify mem with old | ⟨found, here, rfl⟩
  · exact .refl old
  · obtain rfl := Option.some.inj (standing.symm.trans here)
    exact .old _ (mem_of_getElem? standing) rfl rfl results

theorem descends_spawn {addresses : List Text}
    (own :
      ∀ addr ∈ addresses, ∀ picked, screen.backend.pickedAddress = some picked → addr = picked) :
    ∀ worker ∈ (screen.spawn addresses).workers, screen.Descends worker := by
  intro worker mem
  rcases mem_append.mp mem with old | new
  · exact .refl old
  · obtain ⟨started, inside, rfl⟩ := mem_map.mp new
    exact .started rfl (own _ inside) rfl

theorem Moves.continueWorker {ev : ScreenEvent} {back : PairBackend}
    (same : screen.backend.Same back) {i att : Nat} {addr : Text}
    {stage : WorkerStage} (standing : screen.workers[i]? = some ⟨att, addr, stage⟩)
    (prog : Text → PhoneProgram (Except Text (TransactionId × LescBonded))) :
    screen.Moves compute ev ((screen.withBackend back).continueWorker i att addr prog) := by
  unfold Screen.continueWorker
  split
  · exact .works same.pickedAddress (descends_setWorker standing nofun)
  · exact .resolves standing same
  · exact .works same.pickedAddress (descends_setWorker standing nofun)

theorem Moves.resumeTransaction {ev : ScreenEvent} (i : Nat)
    (resume : PhoneProgram (Except Text Text) → PhoneProgram (Except Text Text)) :
    screen.Moves compute ev (screen.resumeTransaction i resume) := by
  refine .carries ⟨rfl, rfl⟩ (fun _ => .inl) ?_
  intro tx _
  split
  · rename_i stage
    exact ⟨rfl, rfl, rfl, rfl, fun _ => by simp [TransactionRun.unfinished, stage]⟩
  · exact ⟨rfl, rfl, rfl, rfl, id⟩

theorem step_moves (derive : Bytes → Bytes → Bytes) (compute : Bytes → Text) (screen : Screen)
    (ev : ScreenEvent) : screen.Moves compute ev (screen.step derive compute ev) := by
  unfold Screen.step
  cases ev with
  | startScanTapped =>
    unfold ViewModel.onStartScanTapped
    dsimp only
    split
    · rename_i idle
      exact .scans idle
    · exact .keeps ⟨rfl, rfl⟩ id
  | cancelTapped =>
    unfold ViewModel.onCancelTapped
    dsimp only
    split
    · rename_i state
      exact .leaves (by rw [state]; rfl) (.inl rfl) ⟨rfl, rfl⟩
    · rename_i code state
      exact .leaves (by rw [state]; rfl) (.inl rfl) ⟨rfl, rfl⟩
    · rename_i code state
      exact .leaves (by rw [state]; rfl) (.inl rfl) ⟨rfl, rfl⟩
    · exact .keeps ⟨rfl, rfl⟩ id
  | peerPicked peer device =>
    dsimp only
    split
    · rename_i scanning
      exact .picks _ _ scanning
    · exact .ignored
  | pairingRequested variant passkey =>
    unfold PairBackend.onPairingRequest ViewModel.onPairingCode
    dsimp only
    split_ifs
    · exact .ignored
    · dsimp only
      split
      · rename_i negotiating
        exact .shows _ negotiating ⟨rfl, rfl⟩
      · exact .keeps ⟨rfl, rfl⟩ id
    · exact .works rfl fun _ => .refl
  | bondStateChanged newState previous addr =>
    dsimp only
    split_ifs
    · exact .ignored
    · apply Moves.works
      · exact screen.backend.onBondStateChanged_pickedAddress
      · apply @descends_spawn screen
        exact fun _ inside _ => PairBackend.mem_onBondStateChanged inside
  | oobYesTapped =>
    dsimp only
    split
    · rename_i tapped
      exact .confirms tapped
    · exact .ignored
  | oobNoTapped =>
    unfold ViewModel.onOobNoTapped
    dsimp only
    split
    · rename_i code state
      exact .leaves (by rw [state]; rfl) (.inr ⟨_, rfl⟩) ⟨rfl, rfl⟩
    · exact .keeps ⟨rfl, rfl⟩ id
  | cleared =>
    apply Moves.clears
    unfold PairBackend.cleanup
    split_ifs <;> rfl
  | connected i material hostPubkey peerDisplayName =>
    dsimp only
    split
    · rename_i standing
      exact .continueWorker ⟨rfl, rfl⟩ standing _
    · exact .ignored
  | capabilityRead i capability =>
    dsimp only
    split
    · rename_i standing
      split
      · exact .continueWorker screen.backend.onCapability_same standing _
      · exact .ignored
    · exact .ignored
  | capabilityWritten i reported =>
    dsimp only
    split
    · rename_i standing
      split
      · exact .continueWorker ⟨rfl, rfl⟩ standing _
      · exact .ignored
    · exact .ignored
  | resultChecked i =>
    dsimp only
    split
    · rename_i standing
      apply Moves.works rfl
      apply descends_setWorker standing
      intro res held
      split_ifs at held
      · exact held
      · cases held
    · exact .ignored
  | resultTaken i =>
    dsimp only
    split
    · rename_i standing
      exact .takes standing
    · exact .ignored
  | transactionStarted i =>
    dsimp only
    split
    · rename_i standing
      refine .carries screen.backend.coordinate_same (fun _ => .inl) ?_
      intro tx here
      obtain rfl := Option.some.inj (standing.symm.trans here)
      exact ⟨rfl, rfl, rfl, rfl, fun _ => rfl⟩
    · exact .ignored
  | transactionRead i reply => exact .resumeTransaction _ _
  | transactionWritten i reported => exact .resumeTransaction _ _
  | transactionPersisted i res =>
    dsimp only
    split
    · rename_i standing
      unfold Screen.resumeTransaction Screen.setTransaction Screen.persistBond
      rw [modify_modify_eq]
      refine .carries ⟨rfl, rfl⟩ ?_ ?_
      · intro entry mem
        refine (mem_append.mp mem).imp_right fun new => ?_
        exact ⟨_, mem_of_getElem? standing, mem_singleton.mp new⟩
      · intro tx here
        obtain rfl := Option.some.inj (standing.symm.trans here)
        cases res with
        | ok _ | error msg => exact ⟨rfl, rfl, rfl, rfl, fun _ => rfl⟩
    · exact .ignored
  | transactionSaved state =>
    dsimp only
    split_ifs
    · exact .keeps ⟨rfl, rfl⟩ id
    · exact .ignored
  | transactionEnded i =>
    dsimp only
    split
    · rename_i peer _ failure res standing
      refine .ends standing rfl screen.backend.forget_same ?_ ?_
      · unfold ViewModel.onTransactionEnded
        repeat' split
        all_goals rfl
      · unfold ViewModel.onTransactionEnded
        repeat' split
        all_goals exact ⟨rfl, rfl⟩
    · exact .ignored
  | recoveryAsked =>
    dsimp only
    split
    · rename_i launched
      refine .keeps ⟨rfl, rfl⟩ ?_
      rw [launched]
      exact id
    · exact .ignored
  | recoveryAnswered exchange =>
    dsimp only
    split
    · rename_i asked
      refine .keeps screen.backend.onStatus_same ?_
      rw [asked]
      intro finished
      cases finished
    · exact .ignored
  | recoverySettled =>
    dsimp only
    split
    · rename_i answered
      exact .settles answered
    · exact .ignored

end Screen

end DeskUnlock.Pairing.Phone
