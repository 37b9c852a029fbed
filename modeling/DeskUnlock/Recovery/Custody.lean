import DeskUnlock.Recovery.Footprint
import DeskUnlock.Recovery.PromoteCrash

/-!
# Where an attempt is kept

What the requests of an attempt make of the disk, when any of their calls may
fail.  The attempt is staged, first undecided and then with the decision to
commit, until the active trust has it.
-/

namespace DeskUnlock.Recovery

open FilePrograms Texts List Function Fallible FilePrograms.Action
open Pairing

section

variable (libs : Primitives) (ctx : PairCommitContext)

/-- The name of the phone in the store and in the file names. -/
def peerIdOf : Text := libs.peerIdFromPubkey ctx.phonePubkey

/-- The key that the two devices derive. -/
def bondKeyOf : BondKey := libs.bondKeyFromPubkeys ctx.hostPubkey ctx.phonePubkey

/-- What the journal says of the attempt. -/
def journalOf (state : JournalState) : JournalRecord where
  transaction := ctx.transactionId
  peerId := peerIdOf libs ctx
  peerAddress := ctx.peer
  state := state

/-- The staging area holds the attempt, and the journal this state. -/
structure Staged (state : JournalState) (disk : BondDisk) : Prop where
  journal : content disk .journal = some (utf8 (journalText (journalOf libs ctx state)))
  bond :
    ∃ bond : Bond,
      loadReply libs .pendingBond (disk .pendingBond) = .ok ⟨[bond]⟩ ∧
        bond.peerId = peerIdOf libs ctx ∧ bond.pubkey = ctx.phonePubkey ∧ bond.status = .bonded
  key : content disk (.pendingKey (peerIdOf libs ctx)) = some (bondKeyOf libs ctx).toList

/-- The active trust holds the attempt: a bonded record and its key. -/
def Trusted (disk : BondDisk) : Prop :=
  ∃ store bond,
    loadReply libs .bonds (disk .bonds) = .ok store ∧
      store.bonds.find? (·.peerId = peerIdOf libs ctx) = some bond ∧
      bond.pubkey = ctx.phonePubkey ∧ bond.status = .bonded ∧
      content disk (.activeKey (peerIdOf libs ctx)) = some (bondKeyOf libs ctx).toList

/-- Promoted, or staged with the decision to commit. -/
def Held (disk : BondDisk) : Prop := Staged libs ctx .commitPending disk ∨ Trusted libs ctx disk

end

variable {state : JournalState}

section Frames

variable {libs : Primitives} {ctx : PairCommitContext} {before after : BondDisk}

theorem Staged.frame (staged : Staged libs ctx state before)
    (same : ∀ path, StagingPath (peerIdOf libs ctx) path → after path = before path) :
    Staged libs ctx state after where
  journal := by
    rw [content_congr (same .journal trivial)]
    exact staged.journal
  bond := by
    rw [same .pendingBond trivial]
    exact staged.bond
  key := by
    have key : StagingPath (peerIdOf libs ctx) (.pendingKey (peerIdOf libs ctx)) := rfl
    rw [content_congr (same _ key)]
    exact staged.key

theorem Trusted.frame (trusted : Trusted libs ctx before)
    (store : after .bonds = before .bonds)
    (key : after (.activeKey (peerIdOf libs ctx)) = before (.activeKey (peerIdOf libs ctx))) :
    Trusted libs ctx after := by
  unfold Trusted
  rw [store, content_congr key]
  exact trusted

end Frames

section Requests

variable {libs : Primitives} {ctx : PairCommitContext}
  {disk : BondDisk} {may : Outcome → Prop}

/-- A postcondition of the requests that succeed. -/
def OnSuccess (post : BondDisk → Prop) (disk : BondDisk)
    (reply : Except RecoveryError Unit) : Prop :=
  reply = .ok () → post disk

theorem onSuccess_error {always : BondDisk → Prop} (post : BondDisk → Prop) (disk : BondDisk)
    (error : RecoveryError) (_ : always disk) : OnSuccess post disk (.error error) :=
  nofun

theorem holds_writeJournal {record : JournalRecord} {post : BondDisk → Prop}
    (written :
      ∀ after : BondDisk,
        (∀ path, path ≠ .bondDir → path ≠ .journal → after path = disk path) →
        content after .journal = some (utf8 (journalText record)) → post after) :
    Fallible.Holds may (fun _ => True) (OnSuccess post) (writeJournal record) disk := by
  apply holds_call_kept (fun _ => trivial) (onSuccess_error _)
  intro made created
  apply holds_call_kept (fun _ => trivial) (onSuccess_error _)
  intro closed restricted
  apply holds_last_call_kept (fun _ => trivial) (onSuccess_error _)
  intro after applied
  refine ⟨trivial, fun _ => written _ ?_ ?_⟩
  · intro path elsewhere other
    rw [apply_frame applied (by simp [touches, other]),
      apply_frame restricted (by simp [touches, elsewhere]),
      apply_frame created (by simp [touches, elsewhere])]
  · obtain ⟨mode, rfl⟩ := apply_write applied
    simp [content]

theorem stagePairTrust_holds (roundTrip : libs.RoundTrip)
    {displayName : Option Text} {now : OffsetDateTime} :
    Fallible.Holds may (fun _ => True)
      (OnSuccess (Staged libs ctx .preCommit))
      (stagePairTrust libs (ctx.requestOf .stage) displayName now) disk := by
  apply holds_call_kept (fun _ => trivial) (onSuccess_error _)
  intro made _
  apply holds_call_kept (fun _ => trivial) (onSuccess_error _)
  intro closed _
  apply holds_ofExcept trivial fun _ => nofun
  intro store added
  obtain ⟨rfl, _⟩ := BondStore.add_eq_ok added
  apply holds_save _ (fun _ _ => trivial) (onSuccess_error _)
  intro left text _ serialized
  have loaded :=
    loadReply_saved _ roundTrip serialized
      (by simp [BondStore.empty, stagedBond]) .pendingBond BOND_FILE_MODE
  apply holds_call_kept (fun _ => trivial) (onSuccess_error _)
  intro keysMade keysCreated
  apply holds_call_kept (fun _ => trivial) (onSuccess_error _)
  intro keysClosed keysRestricted
  apply holds_call_kept (fun _ => trivial) (onSuccess_error _)
  intro keyWritten written
  apply holds_call_kept (fun _ => trivial) (onSuccess_error _)
  intro keyClosed restricted
  apply holds_call_kept (fun _ => trivial) (onSuccess_error _)
  intro keyed renamed
  have bondKept : keyed .pendingBond = some (.file (utf8 text) BOND_FILE_MODE) := by
    rw [apply_frame renamed (by simp [touches]),
      apply_frame restricted (by simp [touches]), apply_frame written (by simp [touches]),
      apply_frame keysRestricted (by simp [touches]),
      apply_frame keysCreated (by simp [touches]), update_self]
  have keyPlaced : content keyed (.pendingKey (peerIdOf libs ctx)) =
      some (bondKeyOf libs ctx).toList := by
    obtain ⟨mode, rfl⟩ := apply_write written
    obtain ⟨node, standing, rfl⟩ := apply_setPermissions restricted
    obtain ⟨bytes, final, source, rfl⟩ := apply_rename renamed
    rw [update_self] at standing source
    obtain rfl := Option.some.inj standing
    cases source
    simp [content, peerIdOf, bondKeyOf, PairCommitContext.requestOf]
  apply holds_writeJournal
  intro after same journal
  refine ⟨journal, ⟨stagedBond _ (ctx.requestOf .stage) displayName now, ?_, rfl, rfl, rfl⟩, ?_⟩
  · rw [same _ (by simp) (by simp), bondKept]
    exact loaded
  · rw [content_congr (same _ (by simp) (by simp))]
    exact keyPlaced

/-- The label of the peer fits on a line of the journal. -/
def PlainPeer (ctx : PairCommitContext) : Prop := ∀ char ∈ ctx.peer, char ≠ '\n' ∧ char ≠ '\r'

theorem decodeJournal_journalOf (plain : PlainPeer ctx) :
    decodeJournal (utf8 (journalText (journalOf libs ctx state))) =
    .ok (journalOf libs ctx state) :=
  decodeJournal_of_unbroken
    (fun _ => @hexText_forall (fun char => char ≠ '\n' ∧ char ≠ '\r') (by decide) _ _) plain

theorem markCommitPending_holds (plain : PlainPeer ctx)
    (staged : Staged libs ctx .preCommit disk) : Fallible.Holds may (fun _ => True)
    (OnSuccess (Staged libs ctx .commitPending)) markCommitPending disk := by
  obtain ⟨mode, standing⟩ := exists_file_of_content staged.journal
  unfold markCommitPending readJournal
  rw [bind_assoc]
  apply holds_readFile trivial
  intro out _
  cases out with
  | performed =>
    simp only [readReply, standing, decodeJournal_journalOf plain]
    apply holds_writeJournal
    intro after same journal
    refine ⟨journal, ?_, ?_⟩
    · rw [same _ (by simp) (by simp)]
      exact staged.bond
    · rw [content_congr (same _ (by simp) (by simp))]
      exact staged.key
  | refused | torn count =>
    refine ⟨trivial, ?_⟩
    rintro ⟨⟩

variable {peerId : Text}

theorem SameButKey.perform {before after : BondDisk} (same : SameButKey peerId before after)
    {action : Action BondPath} (inside : ∀ path ∈ action.touches, KeyPath peerId path)
    (out : Outcome) : SameButKey peerId before (action.perform after out).1 := by
  intro path outside
  rw [perform_frame fun mem => outside (inside _ mem)]
  exact same _ outside

theorem SameButKey.apply {before after later : BondDisk} (same : SameButKey peerId before after)
    {action : Action BondPath} (inside : ∀ path ∈ action.touches, KeyPath peerId path)
    (applied : action.apply after = some later) : SameButKey peerId before later := by
  intro path outside
  rw [apply_frame applied fun mem => outside (inside _ mem)]
  exact same _ outside

/-- The staged key is activated, or the activation is seen to fail. -/
theorem activateKey_holds {key : List UInt8} (staged : content disk (.pendingKey peerId) = some key)
    (sized : key.length = BOND_KEY_DERIVED_BYTES) : Fallible.Holds may (SameButKey peerId disk)
    (OnSuccess fun after => content after (.activeKey peerId) = some key)
    (activateKey peerId) disk := by
  obtain ⟨mode, standing⟩ := exists_file_of_content staged
  have here : SameButKey peerId disk disk := fun _ _ => rfl
  apply holds_pathExists here
  rw [probeReply_of_some standing]
  apply holds_readFile here
  intro out _
  apply holds_ofExcept here fun _ => nofun
  intro found read
  obtain rfl : key = found := by
    cases out with
    | performed => simpa [readReply, standing] using read
    | refused | torn count => cases read
  rw [if_neg (by simpa using sized)]
  apply holds_call_kept (here.perform (by simp [touches, KeyPath])) (onSuccess_error _)
  intro made created
  have same := here.apply (by simp [touches, KeyPath]) created
  apply holds_call_kept (same.perform (by simp [touches, KeyPath])) (onSuccess_error _)
  intro keyed written
  have same := same.apply (by simp [touches, KeyPath]) written
  apply holds_call_kept (same.perform (by simp [touches, KeyPath])) (onSuccess_error _)
  intro closed restricted
  have same := same.apply (by simp [touches, KeyPath]) restricted
  apply holds_last_call_kept (same.perform (by simp [touches, KeyPath])) (onSuccess_error _)
  intro after renamed
  have same := same.apply (by simp [touches, KeyPath]) renamed
  refine ⟨same, fun _ => ?_⟩
  obtain ⟨mode, rfl⟩ := apply_write written
  obtain ⟨node, standing, rfl⟩ := apply_setPermissions restricted
  obtain ⟨bytes, final, source, rfl⟩ := apply_rename renamed
  rw [update_self] at standing source
  obtain rfl := Option.some.inj standing
  cases source
  simp [content]

variable {path : BondPath} {bond : Bond}

theorem not_keyPath_of_stagingPath (staging : StagingPath peerId path) : ¬ KeyPath peerId path := by
  cases path <;> simp_all [StagingPath, KeyPath]

theorem not_bondDir_of_stagingPath (staging : StagingPath peerId path) : path ≠ .bondDir := by
  rintro rfl
  exact staging

theorem trusted_of_saved (roundTrip : libs.RoundTrip) {active updated : BondStore} {text : Text}
    {node : Option Node} (loaded : loadReply libs path node = .ok active)
    (replaced : active.replace bond = .ok updated)
    (serialized : libs.toToml ⟨BOND_SCHEMA_VERSION_LATEST, updated.bonds⟩ = some text)
    (identified : bond.peerId = peerIdOf libs ctx) (owned : bond.pubkey = ctx.phonePubkey)
    (bonded : bond.status = .bonded)
    (keyed : content disk (.activeKey (peerIdOf libs ctx)) = some (bondKeyOf libs ctx).toList) :
    Trusted libs ctx (update disk .bonds (some (.file (utf8 text) BOND_FILE_MODE))) := by
  refine ⟨updated, bond, ?_, ?_, owned, bonded, ?_⟩
  · rw [update_self]
    apply loadReply_saved _ roundTrip serialized
    apply BondStore.replace_peerIds _ replaced
    · exact loadReply_peerIds _ loaded
    · rw [identified, owned, peerIdOf]
  · rw [BondStore.find?_replace replaced, if_pos identified.symm]
  · rw [content_congr (update_of_ne (by simp) _ _)]
    exact keyed

/--
Whatever `Promote` comes to, the attempt stays in custody; if it succeeds, the
active trust has the attempt.
-/
theorem promote_holds (roundTrip : libs.RoundTrip)
    (staged : Staged libs ctx .commitPending disk) : Fallible.Holds may (Held libs ctx)
    (OnSuccess (Trusted libs ctx)) (promote libs (peerIdOf libs ctx)) disk := by
  obtain ⟨bond, stagedLoaded, identified, owned, bonded⟩ := staged.bond
  apply holds_load _ (.inl staged) fun _ => nofun
  intro store loaded
  obtain rfl : ⟨[bond]⟩ = store := Except.ok.inj (stagedLoaded.symm.trans loaded)
  have found : [bond].find? (·.peerId = peerIdOf libs ctx) = some bond := by simp [identified]
  simp only [found]
  apply holds_bind
  apply (activateKey_holds staged.key (by simp)).imp
  · intro left same
    exact .inl (staged.frame fun path inside => same _ (not_keyPath_of_stagingPath inside))
  intro activated reply same keyed
  have staged := staged.frame fun path inside => same _ (not_keyPath_of_stagingPath inside)
  cases reply with
  | error error => exact nofun
  | ok _ =>
    have keyed := keyed rfl
    apply holds_load _ (.inl staged) fun _ => nofun
    intro active activeLoaded
    apply holds_ofExcept (.inl staged) fun _ => nofun
    intro updated replaced
    apply holds_save _
    · intro left same
      exact .inl (staged.frame fun path inside => same _ (not_bondDir_of_stagingPath inside))
    · exact onSuccess_error _
    intro left text same serialized
    have trusted :
        Trusted libs ctx (update left .bonds (some (.file (utf8 text) BOND_FILE_MODE))) := by
      apply trusted_of_saved roundTrip activeLoaded replaced serialized identified owned bonded
      rw [content_congr (same _ (by simp))]
      exact keyed
    have footprint : Within (fun _ => True)
        (fun action => ∀ path ∈ action.touches, StagingPath (peerIdOf libs ctx) path)
        (discard (peerIdOf libs ctx)) := by
      apply within_discard <;> simp [touches, StagingPath]
    apply ((footprint.touches fun _ inside => inside).holds fun _ _ => rfl).imp
    · intro cleared kept
      exact .inr (trusted.frame (kept _ id) (kept _ id))
    · intro cleared reply kept _ _
      exact trusted.frame (kept _ id) (kept _ id)

variable (reason : Text)

/-- What `mark_revoked` makes of the record it names. -/
def revokedBond (bond : Bond) : Bond :=
  match bond.status with
  | .revoked _ => bond
  | .bonded => { bond with status := .revoked reason }

theorem revokedBond_peerId : (revokedBond reason bond).peerId = bond.peerId := by
  unfold revokedBond
  split <;> rfl

theorem revokedBond_pubkey : (revokedBond reason bond).pubkey = bond.pubkey := by
  unfold revokedBond
  split <;> rfl

theorem revokedBond_status : ∃ given, (revokedBond reason bond).status = .revoked given := by
  unfold revokedBond
  split
  · rename_i given revoked
    exact ⟨given, revoked⟩
  · exact ⟨reason, rfl⟩

theorem find?_modify_revokedBond {bonds : List Bond} {i : ℕ} (reason other : Text)
    (found : bonds.findIdx? (·.peerId = peerId) = some i) :
    (bonds.modify i (revokedBond reason)).find? (·.peerId = other) =
      (bonds.find? (·.peerId = other)).map fun bond =>
        if other = peerId then revokedBond reason bond else bond := by
  induction bonds generalizing i with
  | nil => cases found
  | cons bond rest induction =>
    rw [findIdx?_cons] at found
    by_cases here : bond.peerId = peerId
    · rw [if_pos (by simpa using here)] at found
      obtain rfl := Option.some.inj found
      rw [modify_zero_cons, find?_cons, find?_cons, revokedBond_peerId]
      by_cases asked : bond.peerId = other
      · simp [asked, ← here]
      · have differs : other ≠ peerId := fun same =>
          asked (here.trans same.symm)
        simp [asked, differs]
    · rw [if_neg (by simpa using here)] at found
      obtain ⟨below, foundBelow, rfl⟩ := Option.map_eq_some_iff.mp found
      by_cases asked : bond.peerId = other
      · have differs : other ≠ peerId := fun same =>
          here (asked.trans same)
        simp [asked, differs]
      · simpa [asked] using induction foundBelow

theorem BondStore.markRevoked_eq_ok {store updated : BondStore} {peerId reason : Text}
    (marked : store.markRevoked peerId reason = .ok updated) :
    ∃ i,
      store.bonds.findIdx? (·.peerId = peerId) = some i ∧
        updated = ⟨store.bonds.modify i (revokedBond reason)⟩ := by
  unfold BondStore.markRevoked at marked
  split at marked
  · cases marked
  · rename_i i found
    exact ⟨i, found, (Except.ok.inj marked).symm⟩

theorem modify_revokedBond_peerIds {bonds : List Bond} {i : ℕ}
    (consistent : ∀ bond ∈ bonds, bond.peerId = libs.peerIdFromPubkey bond.pubkey) : ∀ bond ∈
    bonds.modify i (revokedBond reason), bond.peerId = libs.peerIdFromPubkey bond.pubkey := by
  intro bond mem
  rcases Runs.exists_mem_of_mem_modify mem with same | ⟨old, inside, rfl⟩
  · exact consistent _ same
  · rw [revokedBond_peerId, revokedBond_pubkey]
    exact consistent _ inside

theorem revoke_keeps_staged {peerId : Text} (staged : Staged libs ctx state disk) :
    Fallible.Holds may (Staged libs ctx state)
    (fun _ _ => True) (revokeBondByPeerId libs peerId) disk := by
  have footprint :
      Within (fun _ => True)
        (fun action => ∀ path ∈ action.touches, ¬ StagingPath (peerIdOf libs ctx) path)
        (revokeBondByPeerId libs peerId) := by
    apply within_revokeBondByPeerId <;> simp [touches, StagingPath]
  apply ((footprint.touches fun _ inside => inside).holds fun _ _ => rfl).imp
  · intro left same
    exact staged.frame fun path inside => same _ (not_not_intro inside)
  · exact fun _ _ _ _ => trivial

/-- The store with another peer revoked has been saved. -/
theorem Trusted.revoked (roundTrip : libs.RoundTrip) {peerId reason : Text}
    (other : peerIdOf libs ctx ≠ peerId) (trusted : Trusted libs ctx disk) {store : BondStore}
    {i : ℕ} {text : Text} {after : BondDisk}
    (loaded : loadReply libs .bonds (disk .bonds) = .ok store)
    (place : store.bonds.findIdx? (·.peerId = peerId) = some i)
    (serialized :
      libs.toToml
          ⟨BOND_SCHEMA_VERSION_LATEST, store.bonds.modify i (revokedBond reason)⟩ =
        some text)
    (saved : after .bonds = some (.file (utf8 text) BOND_FILE_MODE))
    (key : after (.activeKey (peerIdOf libs ctx)) = disk (.activeKey (peerIdOf libs ctx))) :
    Trusted libs ctx after := by
  obtain ⟨active, bond, activeLoaded, found, owned, bonded, keyed⟩ := trusted
  obtain rfl : active = store := Except.ok.inj (activeLoaded.symm.trans loaded)
  have reloaded :=
    @loadReply_saved _ roundTrip ⟨active.bonds.modify i (revokedBond _)⟩ _ serialized
      (modify_revokedBond_peerIds _ (loadReply_peerIds _ loaded)) .bonds BOND_FILE_MODE
  have record := find?_modify_revokedBond reason (peerIdOf libs ctx) place
  rw [found, Option.map_some, if_neg other] at record
  rw [← saved] at reloaded
  refine ⟨_, bond, reloaded, record, owned, bonded, ?_⟩
  rw [content_congr key]
  exact keyed

theorem revoke_keeps_trusted (roundTrip : libs.RoundTrip) (other : peerIdOf libs ctx ≠ peerId)
    (trusted : Trusted libs ctx disk) : Fallible.Holds may (Trusted libs ctx)
    (fun _ _ => True) (revokeBondByPeerId libs peerId) disk := by
  apply holds_load _ trusted fun _ => trivial
  intro store loaded
  cases known : store.bonds? peerId with
  | false => exact ⟨trusted, trivial⟩
  | true =>
    apply holds_ofExcept trusted fun _ => trivial
    intro updated marked
    obtain ⟨i, place, rfl⟩ := BondStore.markRevoked_eq_ok marked
    apply holds_save _
    · exact fun left same => trusted.frame (same _ (by simp)) (same _ (by simp))
    · exact fun _ _ _ => trivial
    intro left text same serialized
    have there :
        Trusted libs ctx (update left .bonds (some (.file (utf8 text) BOND_FILE_MODE))) := by
      apply trusted.revoked roundTrip other loaded place serialized (update_self _ _ _)
      rw [update_of_ne (by simp), same _ (by simp)]
    have removed (out : Outcome) :
        Trusted libs ctx
          ((remove (.activeKey peerId)).perform
            (update left .bonds (some (.file (utf8 text) BOND_FILE_MODE))) out).1 := by
      apply trusted.revoked roundTrip other loaded place serialized
      · rw [perform_frame (by simp [touches]), update_self]
      · rw [perform_frame (by simpa [touches]), update_of_ne (by simp), same _ (by simp)]
    exact ⟨there, fun count => removed (.torn _), fun out _ => ⟨removed _, trivial⟩⟩

theorem revoke_keeps_held (roundTrip : libs.RoundTrip) (other : peerIdOf libs ctx ≠ peerId)
    (held : Held libs ctx disk) : Fallible.Holds may (Held libs ctx)
    (fun _ _ => True) (revokeBondByPeerId libs peerId) disk := by
  rcases held with staged | trusted
  · exact (revoke_keeps_staged staged).imp (fun _ => .inl) fun _ _ _ _ => trivial
  · exact (revoke_keeps_trusted roundTrip other trusted).imp (fun _ => .inr) fun _ _ _ _ => trivial

end Requests

end DeskUnlock.Recovery
