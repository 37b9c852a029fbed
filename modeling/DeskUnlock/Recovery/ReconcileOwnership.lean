import DeskUnlock.Recovery.StagingSurvival

/-!
# What a recovery decision is about

A recovery run decides on what it has read, and then acts on what stands in
the bond directory.  In between the daemon may have staged another attempt
with the same phone into the same files.

The decision keeps to its own transaction when the staging files of its peer
belong to that transaction at the moment of the decision, and the consumer
carries out nothing for another attempt until the run is done.
-/

namespace DeskUnlock.Recovery

open FilePrograms Texts List Function FilePrograms.Action
open Pairing

def stagingFiles (peerId : Text) : List BondPath := [.journal, .pendingBond, .pendingKey peerId]

variable {peerId : Text}

variable {path : BondPath}

theorem mem_stagingFiles_iff : path ∈ stagingFiles peerId ↔ StagingPath peerId path := by
  cases path <;> simp [stagingFiles, StagingPath]

theorem isStaging_of_mem_stagingFiles (mem : path ∈ stagingFiles peerId) : path.isStaging = true :=
  (mem_stagingFiles_iff.mp mem).isStaging

namespace Desktop

/-- The staging files of the peer that exist belong to the transaction. -/
def Owns (desktop : Desktop) (id : TransactionId) (peerId : Text) : Prop :=
  ∀ path ∈ stagingFiles peerId, (desktop.daemon.disk path).isSome = true → desktop.owner path = id

def Yields (desktop : Desktop) (id : TransactionId) : Prop :=
  ∀ req ∈ desktop.daemon.consumer.requests, isAwaited req = true → req.transaction = id

instance (desktop : Desktop) (id : TransactionId) (peerId : Text) :
    Decidable (desktop.Owns id peerId) :=
  inferInstanceAs
    (Decidable
      (∀ path ∈ stagingFiles peerId,
        (desktop.daemon.disk path).isSome = true → desktop.owner path = id))

instance (desktop : Desktop) (id : TransactionId) : Decidable (desktop.Yields id) :=
  inferInstanceAs
    (Decidable
      (∀ req ∈ desktop.daemon.consumer.requests, isAwaited req = true → req.transaction = id))

/--
While a decision is carried out the consumer takes up no request of another
attempt, and a decision is taken only over files of its own transaction and
while the consumer does nothing for another attempt.
-/
def Exclusive (desktop : Desktop) (ev : DesktopEvent) : Prop :=
  (∀ req ∈ desktop.taken? ev, isAwaited req = true →
      ∀ run ∈ desktop.runs, ∀ id ∈ run.decision?, req.transaction = id) ∧
    ∀ recovered ∈ desktop.decided? ev,
      desktop.Owns recovered.id recovered.pending.peerId ∧ desktop.Yields recovered.id

instance (desktop : Desktop) (ev : DesktopEvent) : Decidable (desktop.Exclusive ev) :=
  have (req : PairCommitRequest) (run : ReconcileRun) :
      Decidable (∀ id ∈ run.decision?, req.transaction = id) :=
    Option.decidableForallMem _
  inferInstanceAs
    (Decidable
      ((∀ req ∈ desktop.taken? ev, isAwaited req = true →
          ∀ run ∈ desktop.runs, ∀ id ∈ run.decision?, req.transaction = id) ∧
        ∀ recovered ∈ desktop.decided? ev,
          desktop.Owns recovered.id recovered.pending.peerId ∧ desktop.Yields recovered.id))

/-- Every decision has activated and removed files of its own only. -/
def Respectful (desktop : Desktop) : Prop :=
  ∀ effect ∈ desktop.effects, effect.owner = effect.decision

instance (desktop : Desktop) : Decidable desktop.Respectful :=
  inferInstanceAs (Decidable (∀ effect ∈ desktop.effects, effect.owner = effect.decision))

end Desktop

/-- What an acting run has read, and what it will find, is its own. -/
def ReconcileRun.Entitled (desktop : Desktop) : ReconcileRun → Prop
  | .acting decision _ =>
    (∀ path owner, decision.carried path = some owner → owner = decision.id) ∧
      desktop.Owns decision.id decision.peerId ∧ desktop.Yields decision.id
  | _ => True

/-- Every run under way acts on what is its own. -/
structure Desktop.Sound (desktop : Desktop) : Prop where
  regular : desktop.Regular
  runs : ∀ run ∈ desktop.runs, run.Entitled desktop
  respectful : desktop.Respectful

variable {run : ReconcileRun}

theorem ReconcileRun.Entitled.mono {desktop after : Desktop} (entitled : run.Entitled desktop)
    (owns :
      ∀ id ∈ run.decision?, ∀ peerId,
        desktop.Yields id → desktop.Owns id peerId → after.Owns id peerId)
    (yields : ∀ id ∈ run.decision?, desktop.Yields id → after.Yields id) : run.Entitled after := by
  cases run with
  | acting decision prog =>
    obtain ⟨carried, owned, yielded⟩ := entitled
    exact ⟨carried, owns _ rfl decision.peerId yielded owned, yields _ rfl yielded⟩
  | reading prog | waiting recovered nonce
  | ended res => exact trivial

section

variable {libs : Primitives} {desktop : Desktop}

variable {out : Outcome} {decision : Decision}

theorem Desktop.Owns.consumer {id : TransactionId} (owns : desktop.Owns id peerId)
    (yields : desktop.Yields id) (regular : desktop.Regular) {req : PairCommitRequest}
    {prog : CommitProgram} (serving : desktop.daemon.consumer = .serving req prog) :
    (desktop.step libs (.daemon (.called out))).Owns id peerId := by
  intro path mem present
  have staging := isStaging_of_mem_stagingFiles mem
  change ((desktop.daemon.step libs (.called out)).disk path).isSome = true at present
  change ownerAfter desktop.owner desktop.daemon (.called out) path = id
  have stepped : (desktop.daemon.step libs (.called out)).disk path =
      (prog.resume desktop.daemon.disk out).1 path := by
    simp [Daemon.step, serving]
  rw [stepped] at present
  have own : isAwaited req = true → req.transaction = id := by
    apply yields
    rw [serving]
    exact mem_singleton_self _
  cases prog with
  | act action next =>
    simp only [ownerAfter, serving]
    split_ifs with written
    · exact own written.1
    · apply owns _ mem
      cases awaited : isAwaited req with
      | true =>
        have unaltered : path ∉ action.altered desktop.daemon.disk out :=
          fun inside => written ⟨awaited, inside⟩
        rw [← perform_unaltered unaltered]
        exact present
      | false =>
        have same :=
          (regular.revoking _ _ serving awaited).resume_frame
            (fun _ spared => spared.not_mem staging) desktop.daemon.disk out
        rw [← same]
        exact present
  | _ =>
    simp only [ownerAfter, serving]
    exact owns _ mem present

/-- Without a call of the consumer no file changes its owner. -/
theorem Desktop.ownerAfter_eq {owner : BondPath → TransactionId}
    {daemon : Daemon} {ev : DaemonEvent}
    (uncalled : ∀ out req prog, ev = .called out → daemon.consumer ≠ .serving req prog) :
    Desktop.ownerAfter owner daemon ev = owner := by
  funext path
  unfold Desktop.ownerAfter
  split
  · split
    · rename_i req action next serving
      exact (uncalled _ _ _ rfl serving).elim
    · rfl
  · rfl

theorem Desktop.Sound.daemon (sound : desktop.Sound) {ev : DaemonEvent}
    (exclusive : desktop.Exclusive (.daemon ev)) : (desktop.step libs (.daemon ev)).Sound := by
  refine ⟨sound.regular.step _ (.daemon _), ?_, sound.respectful⟩
  intro run mem
  have entitled := sound.runs _ mem
  rcases desktop.daemon.step_cases _ ev with
    ⟨uncalled, disk, consumer⟩ | ⟨displayName, now, req, rest, rfl, idle, queued, stepped⟩ |
    ⟨out, req, prog, rfl, serving, stepped⟩
  · apply entitled.mono
    · intro id _ peerId _ owns path inside present
      change ((desktop.daemon.step libs ev).disk path).isSome = true at present
      change ownerAfter desktop.owner desktop.daemon ev path = id
      rw [disk] at present
      rw [ownerAfter_eq uncalled]
      exact owns _ inside present
    · intro id _ yields req inside
      change req ∈ (desktop.daemon.step libs ev).consumer.requests at inside
      rcases consumer with same | idle | stopped
      · rw [same] at inside
        exact yields _ inside
      · rw [idle] at inside
        cases inside
      · rw [stopped] at inside
        cases inside
  · apply entitled.mono
    · intro id _ peerId _ owns path inside present
      change ((desktop.daemon.step libs (.received displayName now)).disk
          path).isSome = true at present
      rw [stepped] at present
      exact owns _ inside present
    · intro id decided _ other inside own
      change other ∈
          (desktop.daemon.step libs (.received displayName now)).consumer.requests at inside
      rw [stepped] at inside
      obtain rfl := mem_singleton.mp inside
      have taken : other ∈ desktop.taken? (.daemon (.received displayName now)) := by
        simp [taken?, idle, queued]
      exact exclusive.1 _ taken own _ mem _ decided
  · apply entitled.mono
    · intro id _ peerId yields owns
      exact owns.consumer yields sound.regular serving
    · intro id _ yields other inside
      change other ∈ (desktop.daemon.step libs (.called out)).consumer.requests at inside
      rw [stepped] at inside
      apply yields
      rw [serving]
      exact inside

theorem isSome_of_clears {Value : Type} {prog : ReconcileProgram Value} {reads : BondPath → Prop}
    (within : prog.Within reads (ClearsStaging peerId)) (staging : path.isStaging = true)
    {disk : BondDisk} (present : ((prog.resume disk out).1 path).isSome = true) :
    (disk path).isSome = true := by
  cases prog with
  | act action next =>
    have stands : ((action.perform disk out).1 path).isSome = true := present
    rcases within.1 with ⟨target, _, rfl⟩ | spares
    · rcases perform_whole disk (.remove _) nofun with
        same | applied
      · rw [same] at stands
        exact stands
      · by_cases same : path = target
        · subst same
          simp only [apply] at applied
          split at applied
          · rename_i bytes mode standing
            rw [standing]
            rfl
          · cases applied
        · rw [apply_frame applied (by simpa [touches])] at stands
          exact stands
    · rw [perform_frame (spares.not_mem staging)] at stands
      exact stands
  | _ => exact present

variable {prog : ReconcileProgram ReconcileResult}

/-- What a run reads of its staging is its own. -/
theorem Decision.carried_reading
    (within : prog.Within (ReadsStaging decision.peerId) (ClearsStaging decision.peerId))
    (carried : ∀ path owner, decision.carried path = some owner → owner = decision.id)
    (owns : desktop.Owns decision.id decision.peerId) :
    ∀ path owner,
      (decision.reading desktop.owner desktop.daemon.disk out
          prog).carried path = some owner →
        owner = decision.id := by
  cases prog with
  | read target next =>
    unfold Decision.reading
    dsimp only
    split_ifs with read
    · intro path owner found
      dsimp only at found
      by_cases same : path = target
      · subst same
        rw [update_self] at found
        rw [← Option.some.inj found]
        apply owns _
        · exact mem_stagingFiles_iff.mpr (within.1 read.1)
        · have got := read.2
          cases reply : readReply desktop.daemon.disk path out with
          | error error =>
            rw [reply] at got
            cases got
          | ok bytes =>
            obtain ⟨mode, standing⟩ := exists_file_of_readReply reply
            rw [standing]
            rfl
      · rw [update_of_ne same] at found
        exact carried _ _ found
    · exact carried
  | _ => exact carried

/-- What a call does to the staging concerns files of its own. -/
theorem Decision.effects_own
    (within : prog.Within (ReadsStaging decision.peerId) (ClearsStaging decision.peerId))
    (carried : ∀ path owner, decision.carried path = some owner → owner = decision.id)
    (owns : desktop.Owns decision.id decision.peerId) :
    ∀ effect ∈ decision.effects desktop.owner desktop.daemon.disk out prog,
      effect.owner = effect.decision := by
  intro effect mem
  cases prog with
  | act action next =>
    unfold Decision.effects at mem
    dsimp only at mem
    split_ifs at mem with performed
    · unfold Decision.effectsOf at mem
      split at mem
      · rename_i target
        split_ifs at mem with staging
        · obtain rfl := mem_singleton.mp mem
          rcases within.1 with ⟨path, own, same⟩ | spares
          · obtain rfl : target = path := remove.inj same
            apply owns _ (mem_stagingFiles_iff.mpr own)
            cases standing : desktop.daemon.disk target with
            | some node => rfl
            | none => simp [apply, standing] at performed
          · exact (spares.not_mem staging mem_cons_self).elim
        · cases mem
      · obtain ⟨path, _, found⟩ := mem_flatMap.mp mem
        obtain ⟨owner, read, rfl⟩ := mem_map.mp found
        exact carried _ _ (Option.mem_toList.mp read)
    · cases mem
  | _ => cases mem

theorem ReconcileRun.proceed_entitled
    (entitled : (ReconcileRun.acting decision prog).Entitled desktop) :
    (ReconcileRun.proceed decision prog).Entitled desktop := by
  cases prog with
  | done res => exact trivial
  | _ => exact entitled

theorem Desktop.Sound.moved (sound : desktop.Sound) {after : Desktop} (regular : after.Regular)
    {i : Nat} (next : run.Entitled after) (runs : after.runs = desktop.runs.set i run)
    (owner : after.owner = desktop.owner)
    (consumer : after.daemon.consumer = desktop.daemon.consumer)
    (disk :
      ∀ path, path.isStaging = true →
        (after.daemon.disk path).isSome = true → (desktop.daemon.disk path).isSome = true)
    (respectful : after.Respectful) : after.Sound := by
  refine ⟨regular, ?_, respectful⟩
  intro other mem
  rw [runs] at mem
  rcases mem_or_eq_of_mem_set mem with old | rfl
  · apply (sound.runs _ old).mono
    · intro id _ peerId _ owns path inside present
      rw [owner]
      exact owns _ inside (disk _ (isStaging_of_mem_stagingFiles inside) present)
    · intro id _ yields
      unfold Desktop.Yields
      rw [consumer]
      exact yields
  · exact next

theorem Desktop.Sound.called (sound : desktop.Sound) {i : Nat}
    (running : desktop.runs[i]? = some run) (out : Outcome) : (desktop.call i out run).Sound := by
  have mem := mem_of_getElem? running
  have here := sound.regular.runs _ mem
  have entitled := sound.runs _ mem
  have regular := sound.regular.called running out
  cases run with
  | reading prog =>
    have next : (ReconcileRun.reading (prog.resume desktop.daemon.disk out).2).Entitled
            (desktop.call i out (.reading prog)) :=
      trivial
    apply sound.moved regular next rfl rfl rfl
    · intro path _ present
      have same : (prog.resume desktop.daemon.disk out).1 path = desktop.daemon.disk path :=
        Prog.Within.resume_frame here (fun _ never => never.elim) _ _
      rw [← same]
      exact present
    · exact sound.respectful
  | acting decision prog =>
    obtain ⟨_, within⟩ := here
    obtain ⟨carried, owns, yields⟩ := entitled
    have disk : ∀ path, path.isStaging = true →
          ((prog.resume desktop.daemon.disk out).1 path).isSome = true →
            (desktop.daemon.disk path).isSome = true :=
      fun path staging present => isSome_of_clears within staging present
    obtain ⟨sameId, samePeer⟩ := decision.reading_id
    have next :
        (ReconcileRun.proceed
          (decision.reading desktop.owner desktop.daemon.disk out prog)
          (prog.resume desktop.daemon.disk out).2).Entitled
            (desktop.call i out (.acting decision prog)) := by
      apply ReconcileRun.proceed_entitled
      refine ⟨?_, ?_, ?_⟩
      · rw [sameId]
        exact Decision.carried_reading within carried owns
      · rw [sameId, samePeer]
        intro path inside present
        exact owns _ inside (disk _ (isStaging_of_mem_stagingFiles inside) present)
      · rw [sameId]
        exact yields
    apply sound.moved regular next rfl rfl rfl disk
    intro effect mem
    rcases mem_append.mp mem with old | new
    · exact sound.respectful _ old
    · exact Decision.effects_own within carried owns _ new
  | waiting recovered nonce | ended res => exact sound

theorem Desktop.Sound.replace (sound : desktop.Sound) (i : Nat)
    (regular : run.Regular desktop.decisions) (next : run.Entitled desktop) :
    (desktop.replace i run).Sound := by
  have entitled : run.Entitled (desktop.replace i run) := by
    cases run with
    | acting decision prog => exact next
    | _ => exact trivial
  exact sound.moved (sound.regular.replace i regular) entitled rfl rfl rfl
      (fun _ _ present => present) sound.respectful

theorem Desktop.Sound.settled (sound : desktop.Sound) (i : Nat)
    (recovered : RecoveredTransaction) {res : Except ReconcileError ReconcileResult}
    (exclusive :
      ∀ decided, res = .ok decided → decided.decisive = true →
        desktop.Owns recovered.id recovered.pending.peerId ∧ desktop.Yields recovered.id) :
    (desktop.settle libs i recovered res).Sound := by
  have regular := sound.regular.settled libs i recovered res
  cases res with
  | error error => exact sound.replace i trivial trivial
  | ok res =>
    unfold Desktop.settle at regular ⊢
    dsimp only at regular ⊢
    split_ifs at regular ⊢ with decisive
    · obtain ⟨owns, yields⟩ := exclusive _ rfl decisive
      refine sound.moved regular ?_ rfl rfl rfl (fun _ _ present => present) sound.respectful
      exact ⟨nofun, owns, yields⟩
    · exact sound.replace i trivial trivial

theorem Desktop.Sound.step (sound : desktop.Sound) {ev : DesktopEvent}
    (exclusive : desktop.Exclusive ev) : (desktop.step libs ev).Sound := by
  have regular := sound.regular.step libs ev
  cases ev with
  | daemon ev => exact sound.daemon exclusive
  | started =>
    refine ⟨regular, ?_, sound.respectful⟩
    intro run mem
    rcases mem_append.mp mem with old | new
    · exact (sound.runs _ old).mono (fun _ _ _ _ owns => owns) (fun _ _ yields => yields)
    · rw [mem_singleton.mp new]
      exact trivial
  | called i out =>
    unfold Desktop.step
    dsimp only
    split
    · rename_i run running
      exact sound.called running _
    · exact sound
  | asked i nonce =>
    unfold Desktop.step
    dsimp only
    split
    · exact sound.replace i trivial trivial
    · exact sound.replace i trivial trivial
    · exact sound
  | answered i resp =>
    unfold Desktop.step
    dsimp only
    split
    · rename_i recovered nonce waiting
      apply sound.settled i _
      intro decided answered decisive
      apply exclusive.2
      simp [decided?, waiting, answered, decisive]
    · exact sound
  | unanswered i fault =>
    unfold Desktop.step
    dsimp only
    split
    · exact sound.replace i trivial trivial
    · exact sound

end

theorem Desktop.start_sound (hostPubkey : Pubkey) (hostName : Bytes)
    (disk : BondDisk) (owner : BondPath → TransactionId) :
    (Desktop.start hostPubkey hostName disk owner).Sound where
  regular := Desktop.start_regular
  runs := by rintro run ⟨⟩
  respectful := by rintro effect ⟨⟩

/--
No decision of a recovery run activates or removes a staging file of another
transaction, in every run in which each decision is taken over files of its
own transaction and the consumer carries out nothing for another attempt from
the decision until the run is done.
-/
theorem decisions_respect_ownership (libs : Primitives)
    (hostPubkey : Pubkey) (hostName : Bytes) (disk : BondDisk)
    (owner : BondPath → TransactionId) (events : List DesktopEvent)
    (exclusive :
      Runs.Along (Desktop.step libs) Desktop.Exclusive
        (.start hostPubkey hostName disk owner) events) :
    Runs.Throughout (Desktop.step libs) Desktop.Respectful
      (.start hostPubkey hostName disk owner) events := by
  have throughout :
      Runs.Throughout (.step libs) Desktop.Sound
        (.start hostPubkey hostName disk owner) events := by
    apply Runs.throughout_of_along _ _ exclusive
    · exact fun _ _ exclusive sound => sound.step exclusive
    · exact Desktop.start_sound _ _ _ _
  exact throughout.imp fun _ sound => sound.respectful

def freshDesktop : Desktop := .start (.replicate 32 0) [] (fun _ => none) fun _ => .replicate 16 0

/-- The phone has committed to the first attempt, and the run acts on it. -/
def committedAnswer : List DesktopEvent :=
  .answered 0 (.response (.replicate 16 7) 5 .committed) :: List.replicate 24 (.called 0 .performed)

/-- A run that activates and clears the staging of the undecided attempt. -/
def timelyDecision : List DesktopEvent := uncertainRun ++ recoveryQuery ++ committedAnswer

theorem timelyDecision_respects_ownership :
    Runs.Throughout (Desktop.step singleStore) Desktop.Respectful
        freshDesktop timelyDecision ∧
      (Runs.run (Desktop.step singleStore) freshDesktop
          timelyDecision).effects.map (·.path) =
        .pendingKey promotedBond.peerId :: .pendingBond ::
          stagingFiles promotedBond.peerId := by
  constructor
  · apply decisions_respect_ownership
    decide +kernel
  · decide +kernel

/-- The file of the phone under its second name. -/
def renamedFile : BondFile := ⟨1, [{ promotedBond with name := "watch".toList }]⟩

def twoNames : Primitives := .knowing [⟨1, [promotedBond]⟩, renamedFile]

/-- The phone pairs again while the run waits for its answer. -/
def staleDecision : List DesktopEvent :=
  uncertainRun ++ recoveryQuery ++ nextAttempt ++
    List.map DesktopEvent.daemon
      (.received (some "watch".toList) ⟨0, 0⟩ ::
        List.replicate 24 (.called .performed) ++ [.answered, .replied]) ++
    committedAnswer

def staleDesktop : Desktop := Runs.run (Desktop.step twoNames) freshDesktop staleDecision

/--
The answer about the first attempt activates the bond that the second has
staged, which neither side has prepared, and removes its staging.
-/
theorem staleDecision_activates_other :
    staleDesktop.decisions = [.replicate 16 7] ∧
      staleDesktop.daemon.session.attempt.map
          (fun att => (att.context.transactionId, att.point)) =
        some (.replicate 16 8, .waitPrepared) ∧
      staleDesktop.daemon.disk .bonds = some (.file (utf8 (tomlText renamedFile)) 0o600) ∧
      staleDesktop.daemon.disk .journal = none ∧ ¬ staleDesktop.Respectful := by
  decide +kernel

end DeskUnlock.Recovery
