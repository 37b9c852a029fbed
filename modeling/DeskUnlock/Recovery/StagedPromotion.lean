import DeskUnlock.Foundation.PlacedFiles
import DeskUnlock.Recovery.PromoteCrash

/-!
# Staging and promotion without faults

What `stage` followed by `promote` makes of the bond directory when every
call succeeds: the files of the bond directory before and after, path by path,
and the records of the active store.
-/

namespace DeskUnlock.Recovery

open FilePrograms Fallible Texts List Function
open Pairing

theorem exec_save (libs : Primitives) {disk : BondDisk} {path : BondPath}
    {store : BondStore} {mode : ℕ} {text : Text}
    (directory : disk .bondDir = some (.directory mode)) (unshared : privateMode mode = true)
    (serialized : libs.toToml ⟨BOND_SCHEMA_VERSION_LATEST, store.bonds⟩ = some text)
    (free : ∀ mode, disk path ≠ some (.directory mode)) :
    exec disk (RecoveryM.ofBond (store.save libs path)) =
      (update disk path (some (savedNode text)), .ok ()) := by
  have ensured : exec disk (ensureParentDir .bondDir) = (disk, .ok ()) := by
    unfold ensureParentDir
    rw [exec_pathMetadata_bind, metadataReply, directory]
    simp only [unshared]
    rfl
  have bytes : exec disk (.mk (.done (store.serializeToToml libs))) = (disk, .ok (utf8 text)) := by
    simp only [BondStore.serializeToToml, serialized]
    rfl
  have persisted : (Action.persist path (utf8 text) BOND_FILE_MODE).apply disk =
      some (update disk path (some (savedNode text))) := by
    rcases standing : disk _ with _ | ⟨old, mode⟩ | mode
    · simp [Action.apply, savedNode]
    · simp [Action.apply, savedNode]
    · exact (free _ standing).elim
  rw [exec_ofBond, BondStore.save, exec_bind ensured, exec_bind bytes, exec_call persisted]
  rfl

/-- Directories stand where they belong, and files where they belong. -/
structure Layout (peerId : Text) (disk : BondDisk) : Prop where
  directories :
    ∀ path ∈ [BondPath.bondDir, .keysDir], ∀ bytes mode, disk path ≠ some (.file bytes mode)
  files :
    ∀ path ∈
        [BondPath.bonds, .journal, .pendingBond, .activeKey peerId,
          .activeKeyTmp peerId, .pendingKey peerId, .pendingKeyTmp peerId],
      ∀ mode, disk path ≠ some (.directory mode)

def afterStage (peerId : Text) (pending : Text) (key : BondKey)
    (journal : Node) (disk : BondDisk) : BondDisk
  | .bondDir | .keysDir => some (.directory 0o700)
  | .pendingBond => some (savedNode pending)
  | .pendingKey other =>
    if other = peerId then some (.file key.toList 0o600) else disk (.pendingKey other)
  | .pendingKeyTmp other => if other = peerId then none else disk (.pendingKeyTmp other)
  | .journal => some journal
  | path => disk path

def afterPromote (peerId : Text) (active : Text) (key : BondKey) (disk : BondDisk) : BondDisk
  | .bondDir | .keysDir => some (.directory 0o700)
  | .bonds => some (savedNode active)
  | .activeKey other =>
    if other = peerId then some (.file key.toList 0o600) else disk (.activeKey other)
  | .activeKeyTmp other => if other = peerId then none else disk (.activeKeyTmp other)
  | .pendingKey other => if other = peerId then none else disk (.pendingKey other)
  | .pendingKeyTmp other => if other = peerId then none else disk (.pendingKeyTmp other)
  | .journal | .pendingBond => none

section

variable (libs : Primitives) {disk : BondDisk} {bond : Bond} {pending : Text}

theorem exec_writeJournal {mode : ℕ} (directory : disk .bondDir = some (.directory mode))
    (free : ∀ mode, disk .journal ≠ some (.directory mode)) (record : JournalRecord) :
    ∃ mode,
      exec disk (writeJournal record) =
        (update
          (update disk .bondDir (some (.directory 0o700)))
          .journal (some (.file (utf8 (journalText record)) mode)), .ok ()) := by
  have unoccupied (bytes : List UInt8) (other : ℕ) : disk .bondDir ≠ some (.file bytes other) := by
    simp [directory]
  have vacant (other : ℕ) : update disk .bondDir (some (.directory 0o700)) .journal ≠
      some (.directory other) := by
    exact free _
  obtain ⟨mode, written⟩ := apply_write_file vacant (utf8 (journalText _))
  refine ⟨mode, ?_⟩
  rw [writeJournal, exec_directory unoccupied, exec_call written]

theorem exec_stage (layout : Layout bond.peerId disk)
    (serialized : libs.toToml ⟨BOND_SCHEMA_VERSION_LATEST, [bond]⟩ = some pending)
    (tx : TransactionId) (addr : Text) (key : BondKey) :
    ∃ mode,
      exec disk
          (stage libs tx bond.peerId addr bond key) =
        (afterStage bond.peerId pending key
          (.file (utf8 (journalText ⟨tx, bond.peerId, addr, .preCommit⟩)) mode) disk, .ok ()) := by
  have bondDir := layout.directories .bondDir (by simp)
  have keysDir := layout.directories .keysDir (by simp)
  have pendingBond := layout.files .pendingBond (by simp)
  have pendingKey := layout.files (.pendingKey bond.peerId) (by simp)
  have pendingKeyTmp := layout.files (.pendingKeyTmp bond.peerId) (by simp)
  have journal := layout.files .journal (by simp)
  have added (left : BondDisk) : exec left
          (RecoveryM.ofExcept .bond (BondStore.empty.add bond)) = (left, .ok ⟨[bond]⟩) :=
    rfl
  unfold stage
  rw [exec_directory bondDir, exec_bind (added _), exec_bind
      (exec_save _ (update_self ..) (by decide) serialized
        (by simpa using pendingBond)), exec_directory (by simpa using keysDir),
    exec_placed (by simp) (by simpa using pendingKeyTmp) (by simpa using pendingKey)]
  obtain ⟨mode, written⟩ :=
    @exec_writeJournal (update (update (update (update
              (update _ .bondDir (some (.directory 0o700)))
              .pendingBond (some (savedNode _))) .keysDir (some _))
          (.pendingKeyTmp _) _)
        (.pendingKey _) (some (.file _ 0o600)))
      0o700 (by simp) (by simpa using journal) ⟨tx, bond.peerId, addr, .preCommit⟩
  refine ⟨mode, ?_⟩
  rw [written, Prod.mk.injEq]
  refine ⟨?_, rfl⟩
  funext path
  cases path <;> simp [update_apply, afterStage]

end

/-- The records of all other peers, in their order. -/
def BondStore.without (store : BondStore) (peerId : Text) : List Bond :=
  store.bonds.filter (·.peerId ≠ peerId)

theorem eraseP_eq_filter {bonds : List Bond} (distinct : (bonds.map Bond.peerId).Nodup)
    (peerId : Text) : bonds.eraseP (·.peerId = peerId) = bonds.filter (·.peerId ≠ peerId) := by
  induction bonds with
  | nil => rfl
  | cons bond rest induction =>
    rw [map_cons, nodup_cons] at distinct
    obtain ⟨alone, distinct⟩ := distinct
    by_cases own : bond.peerId = peerId
    · subst own
      have others : rest.filter (·.peerId ≠ bond.peerId) = rest := by
        rw [filter_eq_self]
        intro other mem
        have differs : other.peerId ≠ bond.peerId := fun same =>
          alone (mem_map.mpr ⟨other, mem, same⟩)
        simpa using differs
      rw [eraseP_cons_of_pos (by simp), filter_cons_of_neg (by simp), others]
    · rw [eraseP_cons_of_neg (by simpa using own),
        filter_cons_of_pos (by simpa using own), induction distinct]

theorem BondStore.replace_of_distinct {store : BondStore}
    (distinct : (store.bonds.map Bond.peerId).Nodup) (bond : Bond) :
    store.replace bond = .ok ⟨store.without bond.peerId ++ [bond]⟩ := by
  have alone : bonds? ⟨store.without bond.peerId⟩ bond.peerId = false := by
    simp [bonds?_eq_false_iff, without]
  unfold replace
  split_ifs with known
  · rw [remove, if_pos known, eraseP_eq_filter distinct]
    exact if_neg (by rw [← without, alone]; decide)
  · have unknown : store.without bond.peerId = store.bonds := by
      rw [Bool.not_eq_true, bonds?_eq_false_iff] at known
      rw [without]
      simpa using known
    rw [add, if_neg known, unknown]

theorem BondStore.without_again (store : BondStore) (bond : Bond) :
    BondStore.without ⟨store.without bond.peerId ++ [bond]⟩ bond.peerId =
      store.without bond.peerId := by
  simp [without]

theorem BondStore.distinct_replaced {store : BondStore}
    (distinct : (store.bonds.map Bond.peerId).Nodup) (bond : Bond) :
    ((store.without bond.peerId ++ [bond]).map Bond.peerId).Nodup := by
  rw [map_append, nodup_append]
  refine ⟨?_, by simp, ?_⟩
  · exact distinct.sublist (filter_sublist.map _)
  · intro other mem peerId own
    obtain rfl : peerId = bond.peerId := by simpa using own
    simp only [without, mem_map, mem_filter] at mem
    obtain ⟨record, ⟨_, differs⟩, rfl⟩ := mem
    simpa using differs

/--
A bond that can be staged and promoted: its identifier is that of its key, as
`load` demands, the active store is readable and has one record for each
peer, and the codec writes the two stores.
-/
structure Promotable (libs : Primitives) (bond : Bond)
    (store : BondStore) (pending active : Text) (disk : BondDisk) : Prop where
  layout : Layout bond.peerId disk
  own : bond.peerId = libs.peerIdFromPubkey bond.pubkey
  loaded : loadReply libs .bonds (disk .bonds) = .ok store
  distinct : (store.bonds.map Bond.peerId).Nodup
  pendingWritten : libs.toToml ⟨BOND_SCHEMA_VERSION_LATEST, [bond]⟩ = some pending
  activeWritten :
    libs.toToml
        ⟨BOND_SCHEMA_VERSION_LATEST, store.without bond.peerId ++ [bond]⟩ =
      some active

section

variable {libs : Primitives} {bond : Bond} {store : BondStore}
  {pending active : Text} {disk : BondDisk}

theorem exec_activateKey {peerId : Text} {key : List UInt8} {mode : ℕ}
    {keysMode : ℕ} (staged : disk (.pendingKey peerId) = some (.file key mode))
    (sized : key.length = BOND_KEY_DERIVED_BYTES)
    (keysDir : disk .keysDir = some (.directory keysMode))
    (free : ∀ mode, disk (.activeKeyTmp peerId) ≠ some (.directory mode))
    (vacant : ∀ mode, disk (.activeKey peerId) ≠ some (.directory mode)) :
    exec disk (activateKey peerId) =
      (update (update disk (.activeKeyTmp peerId) none)
        (.activeKey peerId) (some (.file key 0o600)), .ok ()) := by
  have created : (Action.createDirAll .keysDir).apply disk = some disk := by
    simp [Action.apply, keysDir]
  unfold activateKey
  rw [exec_pathExists_bind, probeReply_of_some staged, if_pos rfl,
    exec_readFile_bind, readReply_of_file staged]
  change exec disk (if key.length ≠ BOND_KEY_DERIVED_BYTES then _ else _) = _
  rw [if_neg (not_not.mpr sized), exec_bind (exec_call created _)]
  have placed := exec_placed (by simp) free vacant key 0o600 RecoveryError.io pure
  rw [bind_pure] at placed
  exact placed

theorem exec_ofBond_load {path : BondPath} (reply : loadReply libs path (disk path) = .ok store) :
    exec disk (RecoveryM.ofBond (BondStore.load libs path)) = (disk, .ok store) := by
  rw [exec_ofBond, exec_load, reply]
  rfl

theorem Promotable.load_staged (roundTrip : libs.RoundTrip)
    (promotable : Promotable libs bond store pending active disk) :
    loadReply libs .pendingBond (some (savedNode pending)) = .ok ⟨[bond]⟩ := by
  apply loadReply_saved _ roundTrip promotable.pendingWritten
  simpa using promotable.own

theorem Promotable.exec_promote (roundTrip : libs.RoundTrip)
    (promotable : Promotable libs bond store pending active disk)
    (key : BondKey) (journal : List UInt8) (mode : ℕ) :
    exec
        (afterStage bond.peerId pending key (.file journal mode) disk) (promote libs bond.peerId) =
      (afterPromote bond.peerId active key disk, .ok ()) := by
  have found : [bond].find? (·.peerId = bond.peerId) = some bond := by simp
  have replaced (left : BondDisk) : exec left (RecoveryM.ofExcept .bond (store.replace bond)) =
      (left, .ok ⟨store.without bond.peerId ++ [bond]⟩) := by
    rw [BondStore.replace_of_distinct promotable.distinct]
    rfl
  have activated :=
    @exec_activateKey (afterStage bond.peerId pending key (.file journal mode) _)
      bond.peerId key.toList 0o600 0o700 (by simp [afterStage]) (by simp)
      rfl (promotable.layout.files (.activeKeyTmp _) (by simp))
      (promotable.layout.files (.activeKey _) (by simp))
  generalize keyed :
    update
        (update (afterStage _ _ _ (.file _ _) _) (.activeKeyTmp _) _)
        (.activeKey _) (some (.file _ 0o600)) =
      left at activated
  have directory : left .bondDir = some (.directory 0o700) := by simp [← keyed, afterStage]
  have stored : left .bonds = disk .bonds := by simp [← keyed, afterStage]
  have loaded : loadReply libs .bonds (left .bonds) = .ok store := by
    rw [stored]
    exact promotable.loaded
  have vacant (mode : ℕ) : left .bonds ≠ some (.directory mode) := by
    rw [stored]
    exact promotable.layout.files .bonds (by simp) _
  have staging : StagingFiles bond.peerId (update left .bonds (some (savedNode active))) := by
    intro path mode staging
    cases path with
    | journal => simp [← keyed, afterStage]
    | pendingBond => simp [← keyed, afterStage, savedNode]
    | pendingKey other =>
      obtain rfl : other = bond.peerId := staging
      simp [← keyed, afterStage]
    | _ => cases staging
  unfold promote
  rw [exec_bind (exec_ofBond_load (promotable.load_staged roundTrip))]
  rw [found]
  rw [exec_bind activated, exec_bind (exec_ofBond_load loaded),
    exec_bind (replaced left),
    exec_bind (exec_save _ directory (by decide) promotable.activeWritten vacant),
    exec_discard staging, Prod.mk.injEq]
  refine ⟨?_, rfl⟩
  funext path
  cases path with
  | pendingKey other =>
    by_cases own : other = bond.peerId <;> simp [← keyed, afterStage, afterPromote, own]
  | _ => simp [update_apply, ← keyed, afterStage, afterPromote]

/-- What was promoted can be staged and promoted again. -/
theorem Promotable.again (roundTrip : libs.RoundTrip)
    (promotable : Promotable libs bond store pending active disk) (key : BondKey) :
    Promotable libs bond ⟨store.without bond.peerId ++ [bond]⟩
      pending active (afterPromote bond.peerId active key disk) where
  layout := by
    constructor
    · simp [afterPromote]
    · simp [afterPromote, savedNode]
  own := promotable.own
  loaded := by
    apply loadReply_saved _ roundTrip promotable.activeWritten
    intro other mem
    rcases mem_append.mp mem with old | new
    · exact loadReply_peerIds _ promotable.loaded _ (mem_of_mem_filter old)
    · rw [mem_singleton.mp new]
      exact promotable.own
  distinct := BondStore.distinct_replaced promotable.distinct _
  pendingWritten := promotable.pendingWritten
  activeWritten := by
    rw [BondStore.without_again]
    exact promotable.activeWritten

theorem afterPromote_again (peerId active : Text) (key : BondKey) (disk : BondDisk) :
    afterPromote peerId active key (afterPromote peerId active key disk) =
      afterPromote peerId active key disk := by
  funext path
  cases path <;> simp +contextual [afterPromote]

theorem Promotable.exec_stage_promote (roundTrip : libs.RoundTrip)
    (promotable : Promotable libs bond store pending active disk)
    (tx : TransactionId) (addr : Text) (key : BondKey) :
    exec disk
        (do
          stage libs tx bond.peerId addr bond key
          promote libs bond.peerId) =
      (afterPromote bond.peerId active key disk, .ok ()) := by
  obtain ⟨mode, staged⟩ := exec_stage _ promotable.layout promotable.pendingWritten _ _ _
  rw [exec_bind staged]
  exact promotable.exec_promote roundTrip _ _ _

/--
Staging and promoting a bond.  The active store has the records of the other
peers as they were, followed by the new one; the key file of the peer has the
staged key and every other key file is as it was; no staging is left; and
doing it all again leaves the same directory.
-/
theorem stage_promote_effect (roundTrip : libs.RoundTrip)
    (promotable : Promotable libs bond store pending active disk)
    (tx : TransactionId) (addr : Text) (key : BondKey) :
    ∃ after,
      exec disk
          (do
            stage libs tx bond.peerId addr bond key
            promote libs bond.peerId) =
        (after, .ok ()) ∧
      loadReply libs .bonds (after .bonds) =
        .ok ⟨store.bonds.filter (·.peerId ≠ bond.peerId) ++ [bond]⟩ ∧
      after (.activeKey bond.peerId) = some (.file key.toList 0o600) ∧
      (∀ other, other ≠ bond.peerId → after (.activeKey other) = disk (.activeKey other)) ∧
      (∀ path, StagingPath bond.peerId path → after path = none) ∧
      ∀ tx addr,
        exec after
            (do
              stage libs tx bond.peerId addr bond key
              promote libs bond.peerId) =
          (after, .ok ()) := by
  have again := promotable.again roundTrip key
  refine ⟨afterPromote _ _ _ _,
      promotable.exec_stage_promote roundTrip _ _ _, again.loaded, ?_, ?_, ?_, ?_⟩
  · simp [afterPromote]
  · intro other differs
    simp [afterPromote, differs]
  · intro path staging
    cases path with
    | journal | pendingBond => rfl
    | pendingKey other =>
      obtain rfl : other = bond.peerId := staging
      simp [afterPromote]
    | _ => cases staging
  · intro tx addr
    have repeated := again.exec_stage_promote roundTrip tx addr key
    rw [afterPromote_again] at repeated
    exact repeated

end

/-- The phone was paired before and revoked; two others are known. -/
def crowdedFile : BondFile :=
  ⟨1, [pairedBond 2 byPhone, pairedBond 1 byPhone, pairedBond 3 .bonded]⟩

def restagedFile : BondFile := ⟨1, [pairedBond 2 byPhone, pairedBond 3 .bonded, promotedBond]⟩

def crowdedLibs : Primitives :=
  .knowing [⟨1, [promotedBond]⟩, crowdedFile, restagedFile, ⟨1, [misnamedBond]⟩]

/-- The key file of the phone is left from its first pairing. -/
def crowdedDisk : BondDisk
  | .bondDir | .keysDir => some (.directory 0o700)
  | .bonds => some (savedNode (tomlText crowdedFile))
  | .activeKey peerId =>
    if peerId = promotedBond.peerId then some (.file (List.replicate 32 9) 0o600)
    else if peerId = (pairedBond 3 .bonded).peerId then some (.file (List.replicate 32 3) 0o600)
    else none
  | _ => none

theorem promotable_crowded :
    Promotable crowdedLibs promotedBond ⟨crowdedFile.bonds⟩
      (tomlText ⟨1, [promotedBond]⟩) (tomlText restagedFile) crowdedDisk where
  layout := by
    constructor
    · simp [crowdedDisk]
    · simp [crowdedDisk, savedNode]
  own := by decide +kernel
  loaded := by decide +kernel
  distinct := by decide +kernel
  pendingWritten := by decide +kernel
  activeWritten := by decide +kernel

/-- The phone is bonded again, after the others and with the staged key. -/
theorem stage_promote_crowded :
    ∃ after,
      exec crowdedDisk
          (do
            stage crowdedLibs (.replicate 16 3) promotedBond.peerId
              "02:02:02:02:02:02".toList promotedBond (.replicate _ 1)
            promote crowdedLibs promotedBond.peerId) =
        (after, .ok ()) ∧
      loadReply crowdedLibs .bonds (after .bonds) = .ok ⟨restagedFile.bonds⟩ ∧
      after (.activeKey promotedBond.peerId) = some (.file (List.replicate 32 1) 0o600) ∧
      after (.activeKey (pairedBond 3 .bonded).peerId) = some (.file (List.replicate 32 3) 0o600) ∧
      ∀ path, StagingPath promotedBond.peerId path → after path = none := by
  obtain ⟨after, executed, loaded, keyed, others, unstaged, _⟩ :=
    stage_promote_effect Primitives.knowing_roundTrip promotable_crowded
      (.replicate 16 3) "02:02:02:02:02:02".toList (.replicate _ 1)
  refine ⟨after, executed, loaded.trans (by decide +kernel), keyed, ?_, unstaged⟩
  rw [others _ (by decide +kernel)]
  decide +kernel

/-- A bond under another peer id is staged, and then cannot be promoted. -/
theorem misnamed_staged_unpromoted :
    let staged :=
      exec crowdedDisk
        (stage crowdedLibs (.replicate 16 3) misnamedBond.peerId [] misnamedBond (.replicate _ 1))
    staged.2 = .ok () ∧
      (exec staged.1 (promote crowdedLibs misnamedBond.peerId)).2 =
        .error (.bond (.peerIdMismatch misnamedBond.peerId (pairedBond 3 .bonded).peerId)) := by
  decide +kernel

end DeskUnlock.Recovery
