import DeskUnlock.Recovery.Footprint
import DeskUnlock.Recovery.PromoteCrash
import DeskUnlock.Recovery.Reconcile

/-!
# The desktop along its runs

What holds of the daemon and the recovery runs whatever they do to the bond
directory: the requests are in order, and every program under way keeps to
the files that it was written for.
-/

namespace DeskUnlock.Recovery

open FilePrograms Texts List Fallible
open Pairing

def SparesStaging (action : Action BondPath) : Prop :=
  ∀ path ∈ action.touches, path.isStaging = false

/-- The call removes a staging file of the peer, or touches no staging. -/
def ClearsStaging (peerId : Text) (action : Action BondPath) : Prop :=
  (∃ path, StagingPath peerId path ∧ action = .remove path) ∨ SparesStaging action

def ReadsStaging (peerId : Text) (path : BondPath) : Prop :=
  path.isStaging = true → StagingPath peerId path

variable {path : BondPath} {peerId : Text} {disk : BondDisk}
  {owner : BondPath → TransactionId}

theorem StagingPath.isStaging (staging : StagingPath peerId path) : path.isStaging = true := by
  cases path <;> first | rfl | cases staging

theorem SparesStaging.not_mem {action : Action BondPath} (spares : SparesStaging action)
    (staging : path.isStaging = true) : path ∉ action.touches := by
  intro inside
  rw [spares _ inside] at staging
  cases staging

section

attribute [local simp] SparesStaging Action.touches BondPath.isStaging

variable (libs : Primitives)

theorem within_revocation :
    Fallible.Within (fun _ => True) SparesStaging (revokeBondByPeerId libs peerId) := by
  apply within_revokeBondByPeerId <;> simp

theorem within_runReconcileUntilQuery :
    Fallible.Within (fun _ => True) (fun _ => False) (runReconcileUntilQuery libs) := by
  have computed {Error Value : Type} (convert : Error → ReconcileError) (res : Except Error Value) :
      Within (fun _ => True) (fun _ => False) (ReconcileM.ofExcept convert res) :=
    trivial
  refine ⟨trivial, fun reply => ?_⟩
  apply within_bind (computed _ _)
  intro text
  apply within_bind (computed _ _)
  intro idText
  apply within_bind (computed _ _)
  intro id
  apply within_bind (computed _ _)
  intro peerId
  apply within_bind (computed _ _)
  intro addr
  apply within_bind (within_adapt (within_load trivial))
  intro store
  cases store.bonds.head? with
  | none => exact trivial
  | some pending =>
    have rest :
        Within (fun _ => True) (fun _ => False)
          (do
            let localStatus ←
              .ofFault (parseLocalStatus ((field "state".toList text).getD "commit_pending".toList))
            let tx ← .ofExcept rejected (Transaction.fromRecoveryStatus id .coordinator localStatus)
            return ({ id, address := addr, pending, transaction := tx } :
              RecoveredTransaction) : ReconcileM _) := by
      apply within_bind (computed _ _)
      intro localStatus
      apply within_bind (computed _ _)
      intro tx
      exact trivial
    dsimp only
    split_ifs
    · exact within_bind trivial fun _ => rest
    · exact rest

theorem clears_remove (staging : StagingPath peerId path) : ClearsStaging peerId (.remove path) :=
  .inl ⟨path, staging, rfl⟩

theorem within_discard_clears :
    Fallible.Within (ReadsStaging peerId) (ClearsStaging peerId) (discard peerId) := by
  apply within_discard <;> exact clears_remove (by simp [StagingPath])

theorem within_promote :
    Fallible.Within (ReadsStaging peerId) (ClearsStaging peerId) (promote libs peerId) := by
  apply within_bind (within_adapt (within_load ?_))
  · intro staged
    cases staged.bonds.find? (·.peerId = peerId) with
    | none => exact trivial
    | some bond =>
      apply within_bind
      · apply within_activateKey
        · exact fun _ => rfl
        all_goals intros; exact .inr (by simp)
      intro _
      apply within_bind (within_adapt (within_load ?_))
      · intro active
        apply within_bind
        · exact trivial
        intro replaced
        apply within_bind
        · apply within_adapt
          apply within_save <;> simp [ClearsStaging]
        intro _
        exact within_discard_clears
      · exact nofun
  · exact fun _ => trivial

/-- A decision uses the staging files of its peer, and only removes them. -/
theorem within_carryOut {pending : Bond} {res : ReconcileResult} :
    Fallible.Within (ReadsStaging pending.peerId)
      (ClearsStaging pending.peerId) (carryOut libs pending res) := by
  cases res with
  | bonded => exact within_bind (within_adapt (within_promote _)) fun _ => trivial
  | aborted => exact within_bind (within_adapt within_discard_clears) fun _ => trivial
  | uncertain => exact trivial

end

def ReconcileRun.Regular (decisions : List TransactionId) :
    ReconcileRun → Prop
  | .reading prog => prog.Within (fun _ => True) (fun _ => False)
  | .acting decision prog =>
    decision.id ∈ decisions ∧
      prog.Within (ReadsStaging decision.peerId) (ClearsStaging decision.peerId)
  | _ => True

/-- Every program touches only what it is for. -/
structure Desktop.Regular (desktop : Desktop) : Prop where
  orderly : desktop.daemon.Orderly
  revoking :
    ∀ req prog,
      desktop.daemon.consumer = .serving req prog →
        isAwaited req = false → prog.Within (fun _ => True) SparesStaging
  runs : ∀ run ∈ desktop.runs, run.Regular desktop.decisions

theorem Desktop.start_regular {hostPubkey : Pubkey} {hostName : Bytes} :
    (Desktop.start hostPubkey hostName disk owner).Regular where
  orderly := Daemon.start_orderly
  revoking := by rintro req _ ⟨⟩
  runs := by rintro run ⟨⟩

/--
What an event of the daemon does to its consumer and to the disk: nothing
unless the consumer takes a request, makes a call or is done.
-/
theorem Daemon.step_cases (libs : Primitives) (daemon : Daemon) (ev : DaemonEvent) :
    ((∀ out req prog,
        ev = .called out → daemon.consumer ≠ .serving req prog) ∧
        (daemon.step libs ev).disk = daemon.disk ∧
        ((daemon.step libs ev).consumer = daemon.consumer ∨
          (daemon.step libs ev).consumer = .idle ∨ (daemon.step libs ev).consumer = .stopped)) ∨
      (∃ displayName now req rest,
        ev = .received displayName now ∧
          daemon.consumer = .idle ∧ daemon.session.commits = req :: rest ∧
          daemon.step libs ev =
            { daemon.advance .received with
              consumer := .serving req (commitAction libs req displayName now) }) ∨
      ∃ out req prog,
        ev = .called out ∧
          daemon.consumer = .serving req prog ∧
          daemon.step libs ev =
            { daemon with
              disk := (prog.resume daemon.disk out).1
              consumer := .serving req (prog.resume daemon.disk out).2 } := by
  have moves := daemon.step_moves libs ev
  generalize daemon.step libs ev = after at moves ⊢
  cases moves with
  | ignored _ uncalled => exact .inl ⟨uncalled, rfl, .inl rfl⟩
  | received displayName now idle queued =>
    exact .inr (.inl ⟨displayName, now, _, _, rfl, idle, queued, rfl⟩)
  | called out serving => exact .inr (.inr ⟨out, _, _, rfl, serving, rfl⟩)
  | answered serving resting =>
    obtain ⟨_, consumer, disk⟩ := answer_frame _
    rw [consumer, disk]
    exact .inl ⟨nofun, rfl, .inr resting⟩
  | dropped =>
    obtain ⟨_, consumer, disk⟩ := answer_frame _
    rw [consumer, disk]
    exact .inl ⟨nofun, rfl, .inl rfl⟩
  | _ => exact .inl ⟨nofun, rfl, .inl rfl⟩

variable {desktop : Desktop} {run : ReconcileRun}

theorem Desktop.Regular.daemon (regular : desktop.Regular) (libs : Primitives)
    (ev : DaemonEvent) : (desktop.step libs (.daemon ev)).Regular := by
  refine ⟨regular.orderly.step _ _, ?_, regular.runs⟩
  intro req prog serving revoking
  change (desktop.daemon.step libs ev).consumer = _ at serving
  rcases desktop.daemon.step_cases _ ev with
    ⟨_, _, same | idle | stopped⟩ | ⟨displayName, now, taken, rest, rfl, _, _, stepped⟩ |
    ⟨out, served, before, rfl, running, stepped⟩
  · rw [same] at serving
    exact regular.revoking _ _ serving revoking
  · rw [idle] at serving
    cases serving
  · rw [stopped] at serving
    cases serving
  · rw [stepped] at serving
    cases serving
    have revoke : req.phase = .revoke := by simpa [isAwaited] using revoking
    simp only [commitAction, revoke]
    exact within_revocation _
  · rw [stepped] at serving
    cases serving
    exact (regular.revoking _ _ running revoking).resume _ _

theorem ReconcileRun.Regular.mono {decisions more : List TransactionId}
    (regular : run.Regular decisions) (extends_ : decisions ⊆ more) : run.Regular more := by
  cases run with
  | acting decision prog => exact ⟨extends_ regular.1, regular.2⟩
  | reading prog => exact regular
  | waiting recovered nonce | ended res => exact trivial

/-- One run was replaced by a run that is regular as well. -/
theorem Desktop.Regular.moved {desktop after : Desktop} (regular : desktop.Regular) {i : Nat}
    (next : run.Regular after.decisions) (runs : after.runs = desktop.runs.set i run)
    (decisions : desktop.decisions ⊆ after.decisions)
    (sess : after.daemon.session = desktop.daemon.session)
    (consumer : after.daemon.consumer = desktop.daemon.consumer)
    (reply : after.daemon.reply = desktop.daemon.reply) : after.Regular := by
  refine ⟨?_, ?_, ?_⟩
  · obtain ⟨traced, outstanding⟩ := regular.orderly
    refine ⟨sess ▸ traced, ?_⟩
    unfold Daemon.requests
    rw [sess, consumer, reply]
    exact outstanding
  · rw [consumer]
    exact regular.revoking
  · intro other mem
    rw [runs] at mem
    rcases mem_or_eq_of_mem_set mem with old | rfl
    · exact (regular.runs _ old).mono decisions
    · exact next

theorem Desktop.Regular.replace (regular : desktop.Regular)
    (i : Nat) (next : run.Regular desktop.decisions) : (desktop.replace i run).Regular :=
  regular.moved next rfl (Subset.refl _) rfl rfl rfl

theorem ReconcileRun.proceed_regular {decision : Decision} {prog : ReconcileProgram ReconcileResult}
    {decisions : List TransactionId} (decided : decision.id ∈ decisions)
    (within : prog.Within (ReadsStaging decision.peerId) (ClearsStaging decision.peerId)) :
    (ReconcileRun.proceed decision prog).Regular decisions := by
  cases prog with
  | done res => exact trivial
  | _ => exact ⟨decided, within⟩

theorem Decision.reading_id {Value : Type} (decision : Decision) {out : Outcome}
    {prog : ReconcileProgram Value} : (decision.reading owner disk out prog).id =
    decision.id ∧ (decision.reading owner disk out prog).peerId = decision.peerId := by
  unfold Decision.reading
  split
  · split_ifs <;> exact ⟨rfl, rfl⟩
  · exact ⟨rfl, rfl⟩

theorem Desktop.Regular.called (regular : desktop.Regular) {i : Nat}
    (running : desktop.runs[i]? = some run) (out : Outcome) : (desktop.call i out run).Regular := by
  have here := regular.runs _ (mem_of_getElem? running)
  cases run with
  | reading prog =>
    have moved : (ReconcileRun.reading
          (prog.resume desktop.daemon.disk out).2).Regular desktop.decisions :=
      Prog.Within.resume here _ _
    exact regular.moved moved rfl (Subset.refl _) rfl rfl rfl
  | acting decision prog =>
    obtain ⟨sameId, samePeer⟩ := decision.reading_id
    have moved :
        (ReconcileRun.proceed
          (decision.reading desktop.owner desktop.daemon.disk out prog)
          (prog.resume desktop.daemon.disk out).2).Regular desktop.decisions := by
      apply ReconcileRun.proceed_regular
      · rw [sameId]
        exact here.1
      · rw [samePeer]
        exact here.2.resume _ _
    exact regular.moved moved rfl (Subset.refl _) rfl rfl rfl
  | waiting recovered nonce | ended res => exact regular

theorem Desktop.Regular.settled (regular : desktop.Regular) (libs : Primitives) (i : Nat)
    (recovered : RecoveredTransaction) (res : Except ReconcileError ReconcileResult) :
    (desktop.settle libs i recovered res).Regular := by
  cases res with
  | error error => exact regular.replace i trivial
  | ok res =>
    unfold Desktop.settle
    dsimp only
    split_ifs
    · have moved : (ReconcileRun.acting ⟨recovered.id, recovered.pending.peerId, fun _ => none⟩
            (carryOut libs _ res)).Regular (desktop.decisions ++ [recovered.id]) :=
        ⟨by simp, within_carryOut _⟩
      exact regular.moved moved rfl (subset_append_left _ _) rfl rfl rfl
    · exact regular.replace i trivial

theorem Desktop.Regular.step {desktop : Desktop} (regular : desktop.Regular)
    (libs : Primitives) (ev : DesktopEvent) : (desktop.step libs ev).Regular := by
  cases ev with
  | daemon ev => exact regular.daemon _ _
  | started =>
    refine ⟨regular.orderly, regular.revoking, ?_⟩
    intro run mem
    rcases mem_append.mp mem with old | new
    · exact regular.runs _ old
    · rw [mem_singleton.mp new]
      exact within_runReconcileUntilQuery _
  | called i out =>
    unfold Desktop.step
    dsimp only
    split
    · rename_i run running
      exact regular.called running _
    · exact regular
  | asked i nonce =>
    unfold Desktop.step
    dsimp only
    split
    · exact regular.replace i trivial
    · exact regular.replace i trivial
    · exact regular
  | answered i resp =>
    unfold Desktop.step
    dsimp only
    split
    · exact regular.settled _ i _ _
    · exact regular
  | unanswered i fault =>
    unfold Desktop.step
    dsimp only
    split
    · exact regular.replace i trivial
    · exact regular

theorem Desktop.run_regular {libs : Primitives} {hostPubkey : Pubkey} {hostName : Bytes}
    {events : List DesktopEvent} :
    (Runs.run (Desktop.step libs) (.start hostPubkey hostName disk owner) events).Regular :=
  Runs.run_invariant (fun _ _ regular => regular.step _ _) start_regular _

end DeskUnlock.Recovery
