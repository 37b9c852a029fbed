import DeskUnlock.Pairing.ScreenMoves

/-!
# Whose key the phone persists

A result of an exchange carries no trace of the attempt or of the peer that
the exchange was for: `onLescResult` puts it beside whichever peer is picked
now.  An exchange thread of a cancelled attempt that ends while the next
attempt negotiates gives the peer of that attempt a foreign key.

Where every result is taken by a thread of the current attempt, and while it
negotiates, each persisted record goes back to an exchange with its own peer,
in the attempt and with the code that the user has confirmed.
-/

namespace DeskUnlock.Pairing.Phone

open Texts List

/-! ## Records and exchanges -/

/-- An exchange with the peer of the record, in the confirmed attempt. -/
def Persisted.Backed (compute : Bytes → Text) (exchanges : List Exchange)
    (entry : Persisted) : Prop :=
  ∃ exchange ∈ exchanges,
    exchange.attempt = entry.attempt ∧
      exchange.address = entry.record.peerId ∧ exchange.result.bondKey = entry.record.bondKey ∧
      exchange.result.keystoreAlias = entry.record.keystoreAlias ∧
      exchange.result.phonePubkey = entry.record.phonePubkey ∧
      compute exchange.result.bondKey = entry.code

instance (compute : Bytes → Text) (exchanges : List Exchange)
    (entry : Persisted) : Decidable (entry.Backed compute exchanges) :=
  inferInstanceAs (Decidable (∃ exchange ∈ exchanges, _))

theorem Persisted.Backed.mono {compute : Bytes → Text} {exchanges more : List Exchange}
    {entry : Persisted} (backed : entry.Backed compute exchanges) (wider : exchanges ⊆ more) :
    entry.Backed compute more := by
  obtain ⟨exchange, mem, matching⟩ := backed
  exact ⟨exchange, wider mem, matching⟩

namespace Screen

def Attributed (compute : Bytes → Text) (screen : Screen) : Prop :=
  ∀ entry ∈ screen.persisted, entry.Backed compute screen.exchanges

instance (compute : Bytes → Text) (screen : Screen) : Decidable (screen.Attributed compute) :=
  inferInstanceAs (Decidable (∀ entry ∈ screen.persisted, _))

/--
A result is taken while the attempt negotiates, by a thread of that attempt.
-/
def TakesOwn (screen : Screen) : ScreenEvent → Prop
  | .resultTaken i =>
    match screen.workers[i]? with
    | some ⟨att, _, .checked _⟩ =>
      screen.viewModel.state.negotiating = true ∧ att = screen.attempts
    | _ => True
  | _ => True

instance (screen : Screen) (ev : ScreenEvent) : Decidable (screen.TakesOwn ev) := by
  unfold TakesOwn
  repeat' split
  all_goals infer_instance

end Screen

/-! ## The invariant -/

def PairingState.underWay : PairingState → Bool
  | .lescNegotiating _ | .oobConfirming _ => true
  | _ => false

theorem ViewModel.onOobYesTapped_eq_some {viewModel : ViewModel} {code : Text} {peer : PeerHandle}
    {bondKey : Bytes} (tapped : viewModel.onOobYesTapped = some (code, peer, bondKey)) :
    viewModel.state = .oobConfirming code ∧
    viewModel.pickedPeer = some peer ∧ viewModel.stashedBondKey = some bondKey := by
  unfold ViewModel.onOobYesTapped at tapped
  split at tapped
  · rename_i state picked stashed
    cases tapped
    exact ⟨state, picked, stashed⟩
  · cases tapped

theorem PairingState.not_underWay_of_decided {state : PairingState}
    (decided : state.decided = true) : state.underWay = false := by
  cases state with
  | idle | scanning | lescNegotiating | oobConfirming => cases decided
  | _ => rfl

theorem PairBackend.pickPeer_cases (back : PairBackend)
    {peer : PeerHandle} {device : DeviceAnswers} :
    (∃ code addresses,
      back.pickPeer peer device = (back.pick peer, .lescStarted code, addresses) ∧
        ∀ addr ∈ addresses, addr = peer.id) ∨
      ∃ after reason, back.pickPeer peer device = (after, .failed reason, []) := by
  unfold PairBackend.pickPeer
  split_ifs
  · exact .inr ⟨_, _, rfl⟩
  · exact .inr ⟨_, _, rfl⟩
  · exact .inr ⟨_, _, rfl⟩
  · exact .inl ⟨_, _, rfl, fun _ => mem_singleton.mp⟩
  · exact .inl ⟨_, _, rfl, nofun⟩
  · exact .inr ⟨_, _, rfl⟩

namespace Screen

/-- What ties threads, results and transactions to the attempt. -/
structure Identified (compute : Bytes → Text) (screen : Screen) :
    Prop where
  picked :
    screen.viewModel.state.underWay = true →
      ∃ peer, screen.viewModel.pickedPeer = some peer ∧ screen.backend.pickedAddress = some peer.id
  started :
    ∀ worker ∈ screen.workers, worker.attempt ≤ screen.attempts ∧
      (worker.attempt = screen.attempts →
        screen.viewModel.state.underWay = true → screen.backend.pickedAddress = some worker.address)
  resolved :
    ∀ worker ∈ screen.workers, ∀ res ∈ worker.stage.result?,
      ⟨worker.attempt, worker.address, res⟩ ∈ screen.exchanges
  confirming :
    ∀ code peer bondKey,
      screen.viewModel.onOobYesTapped = some (code, peer, bondKey) →
        Persisted.Backed compute screen.exchanges
          ⟨screen.attempts, code, screen.viewModel.bondRecord peer bondKey⟩
  launched :
    ∀ tx ∈ screen.transactions,
      screen.viewModel.state.decided = true ∧
        Persisted.Backed compute screen.exchanges
          ⟨tx.attempt, tx.code, screen.viewModel.bondRecord tx.peer tx.bondKey⟩
  attributed : screen.Attributed compute

theorem start_identified {compute : Bytes → Text}
    {preferences : Preferences} {adapter gattExchange : Bool} :
    (start preferences adapter gattExchange).Identified compute where
  picked := nofun
  started := nofun
  resolved := nofun
  confirming := nofun
  launched := nofun
  attributed := nofun

section Parts

variable {compute : Bytes → Text} {screen : Screen}

section

variable (identified : screen.Identified compute)
include identified

theorem Identified.unmoved {after : Screen} (viewModel : after.viewModel = screen.viewModel)
    (pickedAddress : after.backend.pickedAddress = screen.backend.pickedAddress)
    (workers : after.workers = screen.workers)
    (transactions : after.transactions = screen.transactions)
    (attempts : after.attempts = screen.attempts) (exchanges : after.exchanges = screen.exchanges)
    (persisted : after.persisted = screen.persisted) : after.Identified compute := by
  obtain ⟨picked, started, resolved, confirming, launched, attributed⟩ := identified
  constructor
  · rw [viewModel, pickedAddress]
    exact picked
  · rw [workers, attempts, viewModel, pickedAddress]
    exact started
  · rw [workers, exchanges]
    exact resolved
  · rw [viewModel, exchanges, attempts]
    exact confirming
  · rw [transactions, viewModel, exchanges]
    exact launched
  · unfold Screen.Attributed
    rw [persisted, exchanges]
    exact attributed

variable {back : PairBackend}

/-- The threads go on, and what they are about to deliver was exchanged. -/
theorem Identified.works {workers : List Worker}
    (pickedAddress : back.pickedAddress = screen.backend.pickedAddress)
    (descends : ∀ worker ∈ workers, screen.Descends worker) :
    Identified compute { screen with backend := back, workers } := by
  have moved : (screen.withBackend back).Identified compute :=
    identified.unmoved rfl pickedAddress rfl rfl rfl rfl rfl
  exact
    { picked := moved.picked
      started := by
        intro worker mem
        cases descends worker mem with
        | old before inside att addr results =>
          rw [att, addr]
          exact moved.started _ inside
        | started att addr results =>
          refine ⟨att.le, fun _ underWay => ?_⟩
          obtain ⟨peer, _, held⟩ := identified.picked underWay
          rw [addr _ held]
          exact pickedAddress.trans held
      resolved := by
        intro worker mem res held
        cases descends worker mem with
        | old before inside att addr results =>
          rw [att, addr]
          exact identified.resolved _ inside _ (results _ held)
        | started att addr results =>
          rw [results] at held
          cases held
      confirming := identified.confirming, launched := identified.launched
      attributed := identified.attributed }

theorem Identified.resolves {i att : Nat} {addr : Text} {stage : WorkerStage}
    (res : LescBonded) (standing : screen.workers[i]? = some ⟨att, addr, stage⟩)
    (same : back.pickedAddress = screen.backend.pickedAddress) :
    (((screen.withBackend back).resolveExchange att addr res).setWorker i
      (.resolved res)).Identified compute := by
  have moved : (screen.withBackend back).Identified compute :=
    identified.unmoved rfl same rfl rfl rfl rfl rfl
  have wider : screen.exchanges ⊆ screen.exchanges ++ [⟨att, addr, res⟩] :=
    subset_append_left _ _
  exact
    { picked := moved.picked
      started := by
        intro worker mem
        rcases Runs.exists_mem_of_mem_modify mem with old | ⟨old, inside, rfl⟩
        · exact moved.started _ old
        · exact moved.started old inside
      resolved := by
        intro worker mem other held
        rcases Runs.exists_getElem?_of_mem_modify mem with old | ⟨old, here, rfl⟩
        · exact wider (identified.resolved _ old _ held)
        · obtain rfl := Option.some.inj (standing.symm.trans here)
          cases held
          exact mem_append_right _ (mem_singleton_self _)
      confirming := fun code peer bondKey tapped => (identified.confirming _ _ _ tapped).mono wider
      launched := fun tx mem =>
        ⟨(identified.launched _ mem).1, (identified.launched _ mem).2.mono wider⟩
      attributed := fun entry mem => (identified.attributed _ mem).mono wider }

theorem Identified.carries {calls : List ScreenCall} {persisted : List Persisted} {i : Nat}
    {change : TransactionRun → TransactionRun}
    (same : back.pickedAddress = screen.backend.pickedAddress)
    (recorded :
      ∀ entry ∈ persisted, entry ∈ screen.persisted ∨
        ∃ tx ∈ screen.transactions,
          entry = ⟨tx.attempt, tx.code, screen.viewModel.bondRecord tx.peer tx.bondKey⟩)
    (resumes : ∀ tx, screen.transactions[i]? = some tx → tx.Resumes (change tx)) :
    Identified compute
      { screen with
        backend := back, calls, persisted
        transactions := screen.transactions.modify i change } := by
  have moved : (screen.withBackend back).Identified compute :=
    identified.unmoved rfl same rfl rfl rfl rfl rfl
  exact
    { picked := moved.picked
      started := moved.started, resolved := identified.resolved, confirming := identified.confirming
      launched := by
        intro tx mem
        rcases Runs.exists_getElem?_of_mem_modify mem with old | ⟨old, standing, rfl⟩
        · exact identified.launched _ old
        · obtain ⟨att, code, peer, bondKey, _⟩ := resumes _ standing
          rw [att, code, peer, bondKey]
          exact identified.launched _ (mem_of_getElem? standing)
      attributed := by
        intro entry mem
        rcases recorded _ mem with old | ⟨tx, inside, rfl⟩
        · exact identified.attributed _ old
        · exact (identified.launched _ inside).2 }

/-- The screen has left the attempt, and kept what transactions read. -/
theorem Identified.left {viewModel : ViewModel} {calls : List ScreenCall}
    (left : viewModel.state.underWay = false)
    (decided : screen.viewModel.state.decided = true → viewModel.state.decided = true)
    (stashes : screen.viewModel.Stashes viewModel) :
    Identified compute { screen with viewModel, calls } where
  picked := by
    intro underWay
    exact absurd underWay (by simp [left])
  started := by
    intro worker mem
    refine ⟨(identified.started _ mem).1, fun _ underWay => ?_⟩
    exact absurd underWay (by simp [left])
  resolved := identified.resolved
  confirming := by
    intro code peer bondKey tapped
    rw [(ViewModel.onOobYesTapped_eq_some tapped).1] at left
    cases left
  launched := by
    intro tx mem
    obtain ⟨before, backed⟩ := identified.launched _ mem
    refine ⟨decided before, ?_⟩
    unfold ViewModel.bondRecord at backed ⊢
    rw [stashes.keystoreAlias, stashes.phonePubkey]
    exact backed
  attributed := identified.attributed

/-- An attempt that is not yet decided has no transaction. -/
theorem Identified.no_transaction (undecided : screen.viewModel.state.decided = false)
    {tx : TransactionRun} : tx ∉ screen.transactions := by
  intro mem
  have decided := (identified.launched _ mem).1
  rw [undecided] at decided
  cases decided

/-- A peer is picked, and is now the one that the exchanges are with. -/
theorem Identified.picks (scanning : screen.viewModel.state = .scanning)
    (peer : PeerHandle) (device : DeviceAnswers) :
    ((screen.picked (screen.backend.pickPeer peer device).1
      (screen.viewModel.onPeerPicked peer (screen.backend.pickPeer peer device).2.1)).spawn
      (screen.backend.pickPeer peer device).2.2).Identified compute := by
  have nobody (tx : TransactionRun) : tx ∉ screen.transactions :=
    identified.no_transaction (by rw [scanning]; rfl)
  have stale (worker : Worker) (mem : worker ∈ screen.workers) :
      worker.attempt < screen.attempts + 1 :=
    Nat.lt_succ_of_le (identified.started _ mem).1
  rcases screen.backend.pickPeer_cases with ⟨code, addresses, res, own⟩ | ⟨after, reason, res⟩
  · rw [res]
    apply works _ rfl
    · apply descends_spawn
      rintro addr mem _ ⟨⟩
      exact own _ mem
    · exact
        { picked := fun _ => ⟨peer, rfl, rfl⟩
          started := fun worker mem =>
            ⟨(stale _ mem).le, fun current => absurd current (stale _ mem).ne⟩
          resolved := identified.resolved, confirming := nofun
          launched := fun tx mem => absurd mem (nobody _), attributed := identified.attributed }
  · rw [res]
    apply works _ rfl
    · exact descends_spawn nofun
    · exact
        { picked := nofun
          started := fun worker mem => ⟨(stale _ mem).le, fun _ => nofun⟩
          resolved := identified.resolved, confirming := nofun
          launched := fun tx mem => absurd mem (nobody _), attributed := identified.attributed }

/-- The result of the current attempt is put beside its own peer. -/
theorem Identified.onLescResult (negotiating : screen.viewModel.state.negotiating = true)
    {addr : Text} {res : LescBonded} (picked : screen.backend.pickedAddress = some addr)
    (exchanged : ⟨screen.attempts, addr, res⟩ ∈ screen.exchanges) :
    (screen.handled (screen.viewModel.onLescResult compute (.bonded res))).Identified compute := by
  obtain ⟨code, state⟩ : ∃ code, screen.viewModel.state = .lescNegotiating code := by
    cases state : screen.viewModel.state with
    | lescNegotiating code => exact ⟨code, rfl⟩
    | _ =>
      rw [state] at negotiating
      cases negotiating
  have underWay : screen.viewModel.state.underWay = true := by
    rw [state]
    rfl
  obtain ⟨peer, held, same⟩ := identified.picked underWay
  obtain rfl : peer.id = addr := Option.some.inj (same.symm.trans picked)
  unfold ViewModel.onLescResult
  rw [held]
  exact
    { picked := fun _ => ⟨_, rfl, same⟩
      started := fun worker mem =>
        ⟨(identified.started _ mem).1, fun current _ =>
          (identified.started _ mem).2 current underWay⟩
      resolved := identified.resolved
      confirming := by
        rintro code other bondKey ⟨⟩
        exact ⟨_, exchanged, rfl, rfl, rfl, rfl, rfl, rfl⟩
      launched := fun tx mem => absurd mem (identified.no_transaction (by rw [state]; rfl))
      attributed := identified.attributed }

theorem Identified.takes {i att : Nat} {addr : Text} {res : LescBonded}
    (standing : screen.workers[i]? = some ⟨att, addr, .checked res⟩)
    (own : screen.TakesOwn (.resultTaken i)) :
    ((screen.handled
      (screen.viewModel.onLescResult compute (.bonded res))).setWorker i
        .ended).Identified compute := by
  unfold Screen.TakesOwn at own
  dsimp only at own
  rw [standing] at own
  obtain ⟨negotiating, rfl⟩ := own
  have inside := mem_of_getElem? standing
  have underWay : screen.viewModel.state.underWay = true := by
    cases state : screen.viewModel.state with
    | lescNegotiating code => rfl
    | _ =>
      rw [state] at negotiating
      cases negotiating
  have delivered :=
    identified.onLescResult negotiating ((identified.started _ inside).2 rfl underWay)
      (identified.resolved _ inside _ rfl)
  exact delivered.works rfl (descends_setWorker standing nofun)

theorem Identified.confirms {code : Text} {peer : PeerHandle} {bondKey : Bytes}
    (tapped : screen.viewModel.onOobYesTapped = some (code, peer, bondKey)) :
    Identified compute
      { screen with
        viewModel.state := .finalizing
        transactions :=
          screen.transactions ++ [⟨screen.attempts, code, peer, bondKey, none, .launched⟩] } where
  picked := nofun
  started := fun worker mem => ⟨(identified.started worker mem).1, fun _ => nofun⟩
  resolved := identified.resolved
  confirming := nofun
  launched := by
    intro tx mem
    refine ⟨rfl, ?_⟩
    rcases mem_append.mp mem with old | new
    · have state := (ViewModel.onOobYesTapped_eq_some tapped).1
      exact absurd old (identified.no_transaction (by rw [state]; rfl))
    · rw [mem_singleton.mp new]
      exact identified.confirming _ _ _ tapped
  attributed := identified.attributed

theorem Identified.shows {shown : Text} (code : Text)
    (state : screen.viewModel.state = .lescNegotiating shown) :
    Identified compute { screen with viewModel.state := .lescNegotiating code } := by
  have underWay : screen.viewModel.state.underWay = true := by
    rw [state]
    rfl
  exact
    { picked := fun _ => identified.picked underWay
      started := fun worker mem =>
        ⟨(identified.started _ mem).1, fun current _ =>
          (identified.started _ mem).2 current underWay⟩
      resolved := identified.resolved, confirming := nofun
      launched := fun tx mem => absurd mem (identified.no_transaction (by rw [state]; rfl))
      attributed := identified.attributed }

theorem Identified.moves {ev : ScreenEvent} (own : screen.TakesOwn ev) {after : Screen}
    (moves : screen.Moves compute ev after) : after.Identified compute := by
  cases moves with
  | keeps same _ => exact identified.unmoved rfl same.pickedAddress rfl rfl rfl rfl rfl
  | clears pickedAddress => exact identified.unmoved rfl pickedAddress rfl rfl rfl rfl rfl
  | scans idle =>
    refine identified.left rfl ?_ ⟨rfl, rfl⟩
    rw [idle]
    exact nofun
  | leaves tentative left stashes =>
    refine identified.left ?_ ?_ stashes
    · rcases left with state | ⟨reason, state⟩ <;> rw [state] <;> rfl
    · rw [PairingState.not_decided_of_tentative tentative]
      exact nofun
  | picks peer device scanning => exact identified.picks scanning _ _
  | shows code negotiating same =>
    exact (identified.shows _ negotiating).unmoved rfl same.pickedAddress rfl rfl rfl rfl rfl
  | works pickedAddress descends => exact identified.works pickedAddress descends
  | resolves standing same => exact identified.resolves _ standing same.pickedAddress
  | takes standing => exact identified.takes standing own
  | confirms tapped => exact identified.confirms tapped
  | carries same recorded resumes => exact identified.carries same.pickedAddress recorded resumes
  | ends _ _ same decided stashes =>
    have left :=
      @left _ _ identified _ screen.calls (PairingState.not_underWay_of_decided decided)
        (fun _ => decided) stashes
    exact left.carries same.pickedAddress (fun _ => .inl) fun _ _ => ⟨rfl, rfl, rfl, rfl, nofun⟩
  | @settles bonded _ =>
    have left :
        Identified compute { screen with viewModel := screen.viewModel.onRecovered bonded } := by
      cases bonded
      · exact identified.left rfl (fun _ => rfl) ⟨rfl, rfl⟩
      · exact identified.left rfl (fun _ => rfl) ⟨rfl, rfl⟩
    exact left.unmoved rfl rfl rfl rfl rfl rfl rfl

end

end Parts

/--
In every run in which each result is taken by an exchange thread of the current
attempt, while that attempt negotiates, every persisted record has the peer,
the bond key, the keystore alias and the public key of an exchange with that
peer in the attempt whose code the user has confirmed.
-/
theorem persisted_bonds_attributed (derive : Bytes → Bytes → Bytes) (compute : Bytes → Text)
    (preferences : Preferences) (adapter gattExchange : Bool) (events : List ScreenEvent)
    (own :
      Runs.Along (step derive compute) TakesOwn (start preferences adapter gattExchange) events) :
    Runs.Throughout (step derive compute) (Attributed compute)
      (start preferences adapter gattExchange) events := by
  have identified : Runs.Throughout (step derive compute)
      (Identified compute) (start preferences adapter gattExchange) events := by
    apply Runs.throughout_of_along _ _ own
    · exact fun screen ev own identified => identified.moves own (screen.step_moves _ _ _)
    · exact start_identified
  exact identified.imp fun _ kept => kept.attributed

/-- The library's key derivation, replaced by a mixture of both public keys. -/
def mixedKey (hostPubkey phonePubkey : Bytes) : Bytes := hostPubkey.zipWith (· + ·) phonePubkey

/-- A code of six digits that depends on the key. -/
def sixDigits (bondKey : Bytes) : Text :=
  Nat.toDigits 10 (100000 + BigEndian.decode (bondKey.take 4) % 900000)

def completedExchange (i : Nat) : List ScreenEvent :=
  [.connected i (.ok (some (List.replicate 32 1)))
      (.ok (List.replicate 32 2)) none,
    .capabilityRead i (some (message (.replicate 16 7) OP_CAPABILITY)),
    .capabilityWritten i true, .resultChecked i, .resultTaken i]

def confirmedTransaction : List ScreenEvent :=
  [.oobYesTapped, .transactionStarted 0, .transactionWritten 0 true,
    .transactionRead 0 (some (message (.replicate 16 7) OP_CONFIRM)), .transactionWritten 0 true,
    .transactionRead 0 (some (message (.replicate 16 7) OP_PREPARED)),
    .transactionRead 0 (some (message (.replicate 16 7) OP_COMMIT)),
    .transactionPersisted 0 (.ok ())]

def bondedPick : List ScreenEvent :=
  [.startScanTapped, .peerPicked ⟨"AA:01".toList, "desk".toList⟩ ⟨true, BOND_BONDED, false⟩]

theorem bondedPick_attributed :
    (Runs.run (step mixedKey sixDigits)
        (start ⟨none, none⟩ true true)
        (bondedPick ++ completedExchange 0 ++ confirmedTransaction)).persisted ≠ [] ∧
      Runs.Throughout (step mixedKey sixDigits)
        (Attributed sixDigits) (start ⟨none, none⟩ true true)
        (bondedPick ++ completedExchange 0 ++ confirmedTransaction) := by
  constructor
  · decide +kernel
  · apply persisted_bonds_attributed
    decide +kernel

/--
The attempt is cancelled while its exchange goes on, and another peer is
picked.
-/
def repickedRun : List ScreenEvent :=
  bondedPick ++
    [.cancelTapped, .startScanTapped,
      .peerPicked ⟨"BB:02".toList, "other".toList⟩ ⟨true, BOND_NONE, true⟩] ++
    completedExchange 0 ++ confirmedTransaction

theorem repickedRun_persists_foreign_key :
    ¬ Attributed sixDigits
      (Runs.run (step mixedKey sixDigits)
        (start ⟨none, none⟩ true true) repickedRun) := by
  decide +kernel

end Screen

end DeskUnlock.Pairing.Phone
