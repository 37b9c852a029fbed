import DeskUnlock.Recovery.StoreLogic

/-!
# A crash while a staged bond is promoted

`promote` writes the active key and the active store by renaming finished
files into place, and removes the journal before the rest of the staging.  So
whatever a crash leaves, either the journal is there with everything that a
second `promote` needs, or the active trust is final.
-/

namespace DeskUnlock.Recovery

open FilePrograms Fallible Texts List Function FilePrograms.Action

/-! ## The key -/

def KeyPath (peerId : Text) : BondPath → Prop
  | .keysDir => True
  | .activeKeyTmp other | .activeKey other => other = peerId
  | _ => False

def SameButKey (peerId : Text) (before after : BondDisk) : Prop :=
  ∀ path, ¬ KeyPath peerId path → after path = before path

variable {peerId : Text}

theorem SameButKey.update {before after : BondDisk} {path : BondPath}
    (same : SameButKey peerId before after) (key : KeyPath peerId path) (node : Option Node) :
    SameButKey peerId before (update after path node) := by
  intro other outside
  have differs : other ≠ path := by
    rintro rfl
    exact outside key
  rw [update_of_ne differs]
  exact same _ outside

def Suits : BondPath → Option Node → Prop
  | .keysDir, some (.file _ _) => False
  | .activeKeyTmp _, some (.directory _) => False
  | .activeKey _, some (.directory _) => False
  | _, _ => True

def KeyPlaces (peerId : Text) (disk : BondDisk) : Prop :=
  ∀ path, KeyPath peerId path → Suits path (disk path)

variable {disk : BondDisk}

theorem KeyPlaces.update (places : KeyPlaces peerId disk) {path : BondPath} {node : Option Node}
    (suits : Suits path node) : KeyPlaces peerId (update disk path node) := by
  intro other key
  by_cases same : other = path
  · subst same
    rwa [update_self]
  · rw [update_of_ne same]
    exact places _ key

/--
What `activateKey` needs in order to leave `node` as the active key: a staged
key that can be written there, or an active key and no staged one.
-/
inductive KeyReady (peerId : Text) (node : Node) (disk : BondDisk) :
    Prop where
  | staged (key : List UInt8) (mode : ℕ) (file : disk (.pendingKey peerId) = some (.file key mode))
      (sized : key.length = BOND_KEY_DERIVED_BYTES)
      (final : node = .file key 0o600) (places : KeyPlaces peerId disk)
  | active (unstaged : disk (.pendingKey peerId) = none)
      (present : disk (.activeKey peerId) = some node)

/-! ### The calls of `activateKey` -/

section Calls

variable {peerId : Text} {disk : BondDisk}

theorem KeyPlaces.createDirAll (places : KeyPlaces peerId disk) :
    ∃ after, (Action.createDirAll BondPath.keysDir).apply disk =
    some after ∧ SameButKey peerId disk after ∧ KeyPlaces peerId after := by
  have suits := places .keysDir trivial
  rcases found : disk .keysDir with _ | ⟨bytes, mode⟩ | mode
  · refine ⟨Function.update disk .keysDir (some (.directory 0o755)), ?_, ?_, ?_⟩
    · simp [apply, found]
    · have key : KeyPath peerId .keysDir := trivial
      exact .update (fun _ _ => rfl) key _
    · exact places.update trivial
  · rw [found] at suits
    exact suits.elim
  · exact ⟨disk, by simp [apply, found], fun _ _ => rfl, places⟩

theorem KeyPlaces.write (places : KeyPlaces peerId disk)
    (key : List UInt8) : ∃ mode, overwrite disk (.activeKeyTmp peerId) key =
    some (Function.update disk (.activeKeyTmp peerId) (some (.file key mode))) := by
  have suits := places (.activeKeyTmp _) rfl
  rcases found : disk (.activeKeyTmp peerId) with _ | ⟨bytes, mode⟩ | mode
  · exact ⟨0o644, by simp [overwrite, found]⟩
  · exact ⟨mode, by simp [overwrite, found]⟩
  · rw [found] at suits
    exact suits.elim

theorem KeyPlaces.tornWrite (places : KeyPlaces peerId disk) {key : List UInt8} {count : ℕ} :
    ∃ mode, ((Action.write (BondPath.activeKeyTmp peerId) key).perform disk (.torn count)).1 =
    Function.update disk (.activeKeyTmp peerId) (some (.file (key.take count) mode)) := by
  obtain ⟨mode, torn⟩ := places.write (key.take _)
  refine ⟨mode, ?_⟩
  change (overwrite disk _ _).getD disk = _
  rw [torn]
  rfl

theorem setPermissions_written (disk : BondDisk) (key : List UInt8) (mode : ℕ) :
    (Action.setPermissions (BondPath.activeKeyTmp peerId) 0o600).apply
        (update disk (.activeKeyTmp peerId) (some (.file key mode))) =
      some (update disk (.activeKeyTmp peerId) (some (.file key 0o600))) := by
  simp [apply, Node.withMode]

theorem KeyPlaces.rename (places : KeyPlaces peerId disk) {key : List UInt8} {mode : ℕ}
    (written : disk (.activeKeyTmp peerId) = some (.file key mode)) :
    (Action.rename (BondPath.activeKeyTmp peerId)
        (.activeKey peerId)).apply disk =
      some
        (Function.update
          (Function.update disk (.activeKeyTmp peerId) none)
          (.activeKey peerId) (some (.file key mode))) := by
  have suits := places (.activeKey _) rfl
  rcases found : disk (.activeKey peerId) with _ | ⟨bytes, mode⟩ | mode
  · simp [apply, written, found]
  · simp [apply, written, found]
  · rw [found] at suits
    exact suits.elim

end Calls

/-- Under that condition the key is activated, and a crash keeps it. -/
theorem KeyReady.activateKey_holds {node : Node} (ready : KeyReady peerId node disk) :
    Fallible.Holds Faultless (fun left => SameButKey peerId disk left ∧ KeyReady peerId node left)
    (fun after reply => reply = .ok () ∧ after (.activeKey peerId) = some node)
    (activateKey peerId) disk := by
  have here : SameButKey peerId disk disk ∧ KeyReady peerId node disk := ⟨fun _ _ => rfl, ready⟩
  apply holds_pathExists here
  cases ready with
  | staged key mode file sized final places =>
    have kept {left : BondDisk} (same : SameButKey peerId disk left)
        (places : KeyPlaces peerId left) :
        SameButKey peerId disk left ∧ KeyReady peerId node left :=
      ⟨same, .staged _ _ ((same _ id).trans file) sized final places⟩
    rw [probeReply_of_some file]
    apply holds_readFile here
    rintro _ rfl
    rw [readReply_of_file file]
    change Holds _ _ _ (if key.length ≠ _ then _ else _) _
    rw [if_neg (not_not_intro sized)]
    obtain ⟨made, applied, same, places⟩ := places.createDirAll
    apply holds_call_faultless applied here (fun _ => here)
    have tmp : KeyPath peerId (.activeKeyTmp peerId) := rfl
    have inTmp (bytes : List UInt8) (mode : ℕ) :
        SameButKey peerId disk (update made (.activeKeyTmp peerId) (some (.file bytes mode))) ∧
        KeyPlaces peerId (update made (.activeKeyTmp peerId) (some (.file bytes mode))) :=
      ⟨same.update tmp _, places.update trivial⟩
    obtain ⟨fresh, written⟩ := places.write _
    have written : (write (.activeKeyTmp peerId) key).apply made = some _ := written
    apply holds_call_faultless written (kept same places)
    · intro count
      obtain ⟨fresh, torn⟩ := places.tornWrite
      rw [torn]
      exact kept (inTmp _ _).1 (inTmp _ _).2
    · have narrowed := @setPermissions_written peerId made key fresh
      have whole := kept (inTmp key fresh).1 (inTmp _ _).2
      apply holds_call_faultless narrowed whole fun _ => whole
      have closed := kept (inTmp key 0o600).1 (inTmp _ 0o600).2
      have renamed := (inTmp key 0o600).2.rename (update_self ..)
      have active : KeyPath peerId (.activeKey peerId) := rfl
      apply holds_last_call_faultless renamed closed fun _ => closed
      · have emptied : Suits (.activeKeyTmp peerId) none := trivial
        have filled : Suits (.activeKey peerId) (some (.file key 0o600)) := trivial
        exact kept (((inTmp _ 0o600).1.update tmp _).update active _)
            (((inTmp _ 0o600).2.update emptied).update filled)
      · exact ⟨rfl, by rw [update_self, final]⟩
  | active unstaged present =>
    rw [probeReply_of_none unstaged]
    apply holds_pathExists here
    rw [probeReply_of_some present]
    exact holds_pure here ⟨rfl, present⟩

/-- Where the calls of `activateKey` apply, the key can be written. -/
theorem keyPlaces_of_applied {key : List UInt8} {disk made written narrowed renamed : BondDisk}
    (created : (Action.createDirAll BondPath.keysDir).apply disk = some made)
    (stored : (Action.write (BondPath.activeKeyTmp peerId) key).apply made = some written)
    (limited :
      (Action.setPermissions (BondPath.activeKeyTmp peerId) 0o600).apply
          written =
        some narrowed)
    (moved :
      (Action.rename (BondPath.activeKeyTmp peerId)
          (.activeKey peerId)).apply narrowed =
        some renamed) : KeyPlaces peerId disk := by
  have tmp : made (.activeKeyTmp peerId) = disk (.activeKeyTmp peerId) :=
    apply_frame created (by simp [touches])
  have active : narrowed (.activeKey peerId) = disk (.activeKey peerId) :=
    (apply_frame limited (by simp [touches])).trans
      ((apply_frame stored (by simp [touches])).trans (apply_frame created (by simp [touches])))
  intro path within
  cases path with
  | keysDir =>
    rcases standing : disk .keysDir with _ | ⟨_, _⟩ | _
    · exact trivial
    · simp [apply, standing] at created
    · exact trivial
  | activeKeyTmp other =>
    obtain rfl : other = peerId := within
    rw [← tmp]
    rcases standing : made (.activeKeyTmp _) with _ | ⟨_, _⟩ | _
    · exact trivial
    · exact trivial
    · simp [apply, overwrite, standing] at stored
  | activeKey other =>
    obtain rfl : other = peerId := within
    rw [← active]
    rcases standing : narrowed (.activeKey _) with _ | ⟨_, _⟩ | _
    · exact trivial
    · exact trivial
    · rw [rename_onto_directory standing] at moved
      cases moved
  | _ => exact within.elim

/-- A run of `activateKey` that succeeded had what it needs. -/
theorem exists_keyReady (succeeded : (exec disk (activateKey peerId)).2 = .ok ()) :
    ∃ node, KeyReady peerId node disk := by
  unfold activateKey at succeeded
  rw [exec_pathExists_bind] at succeeded
  rcases found : disk (.pendingKey _) with _ | node
  · rw [probeReply_of_none found] at succeeded
    rcases present : disk (.activeKey _) with _ | node
    · change (exec disk (pathExists (.activeKey peerId) >>= _)).2 = _ at succeeded
      rw [exec_pathExists_bind, probeReply_of_none present] at succeeded
      cases succeeded
    · exact ⟨node, .active found present⟩
  · rw [probeReply_of_some found] at succeeded
    change (exec disk (readFile (.pendingKey peerId) >>= _)).2 = _ at succeeded
    rw [exec_readFile_bind] at succeeded
    rcases node with ⟨key, mode⟩ | mode
    · rw [readReply_of_file found] at succeeded
      change (exec disk (if key.length ≠ BOND_KEY_DERIVED_BYTES then _ else _)).2 = _ at succeeded
      split_ifs at succeeded with sized
      · cases succeeded
      obtain ⟨made, _, created, succeeded⟩ := exec_bind_ok succeeded
      obtain ⟨written, _, stored, succeeded⟩ := exec_bind_ok succeeded
      obtain ⟨narrowed, _, limited, succeeded⟩ := exec_bind_ok succeeded
      obtain ⟨renamed, moved⟩ := exec_last_call_ok succeeded
      replace created := exec_call_ok created
      replace stored := exec_call_ok stored
      replace limited := exec_call_ok limited
      exact ⟨.file _ 0o600, .staged _ _ found (not_not.mp sized) rfl
            (keyPlaces_of_applied created stored limited moved)⟩
    · have unread : readReply disk (.pendingKey peerId) .performed = .error .failed := by
        simp [readReply, found]
      rw [unread] at succeeded
      cases succeeded

/-! ## The staging area -/

def StagingPath (peerId : Text) : BondPath → Prop
  | .journal | .pendingBond => True
  | .pendingKey other => other = peerId
  | _ => False

def SameButStaging (peerId : Text) (before after : BondDisk) : Prop :=
  ∀ path, ¬ StagingPath peerId path → after path = before path

theorem SameButStaging.remove {peerId : Text} {before after : BondDisk} {path : BondPath}
    (same : SameButStaging peerId before after) (staging : StagingPath peerId path)
    (out : Outcome) : SameButStaging peerId before ((Action.remove path).perform after out).1 := by
  intro other outside
  rw [perform_frame, same _ outside]
  rw [touches, mem_singleton]
  rintro rfl
  exact outside staging

theorem discard_keeps {peerId : Text} {disk : BondDisk} : Fallible.Holds (fun _ => True)
    (SameButStaging peerId disk) (fun _ reply => reply = .ok ()) (discard peerId) disk := by
  have unchanged : SameButStaging peerId disk disk := fun _ _ => rfl
  have journal (out : Outcome) := @SameButStaging.remove _ _ _ .journal unchanged trivial out
  refine ⟨unchanged, fun _ => journal _, fun first _ => ?_⟩
  have bond (out : Outcome) := @SameButStaging.remove _ _ _ .pendingBond (journal first) trivial out
  refine ⟨journal _, fun _ => bond _, fun second _ => ?_⟩
  have key (out : Outcome) := @SameButStaging.remove _ _ _ (.pendingKey _) (bond second) rfl out
  exact ⟨bond _, fun _ => key _, fun third _ => ⟨key _, rfl⟩⟩

def StagingFiles (peerId : Text) (disk : BondDisk) : Prop :=
  ∀ path mode, StagingPath peerId path → disk path ≠ some (.directory mode)

theorem perform_remove {path : BondPath} (file : ∀ mode, disk path ≠ some (.directory mode)) :
    ((Action.remove path).perform disk .performed).1 = update disk path none := by
  rcases standing : disk path with _ | ⟨bytes, mode⟩ | mode
  · simp [perform, apply, standing]
  · simp [perform, apply, standing]
  · exact (file _ standing).elim

theorem StagingFiles.update (files : StagingFiles peerId disk) (path : BondPath) :
    StagingFiles peerId (update disk path none) := by
  intro other mode staging
  by_cases same : other = path
  · subst same
    simp
  · rw [update_of_ne same]
    exact files _ _ staging

theorem exec_discard (files : StagingFiles peerId disk) :
    exec disk (discard peerId) =
      (update
        (update (update disk .journal none) .pendingBond none)
        (.pendingKey peerId) none, .ok ()) := by
  have first := perform_remove (files .journal · trivial)
  have second := perform_remove ((files.update .journal) .pendingBond · trivial)
  have third := perform_remove (((files.update .journal).update .pendingBond) (.pendingKey _) · rfl)
  change (((remove (.pendingKey peerId)).perform ((remove .pendingBond).perform
        ((remove .journal).perform disk .performed).1 .performed).1 .performed).1, _) = _
  rw [first, second, third]

/-- The journal is gone, and nothing but staging files has changed. -/
structure Cleared (peerId : Text) (before after : BondDisk) : Prop where
  journal : after .journal = none
  rest : SameButStaging peerId before after

theorem Cleared.remove {peerId : Text} {before after : BondDisk} {path : BondPath}
    (cleared : Cleared peerId before after) (staging : StagingPath peerId path)
    (other : path ≠ .journal) (out : Outcome) :
    Cleared peerId before ((Action.remove path).perform after out).1 where
  journal := by
    rw [perform_frame, cleared.journal]
    simpa [touches] using other.symm
  rest := cleared.rest.remove staging _

/-- The journal is removed first, and a crash leaves the active trust. -/
theorem discard_holds {bytes : List UInt8} {mode : ℕ}
    (journal : disk .journal = some (.file bytes mode)) :
    Fallible.Holds Faultless
      (fun left => left = disk ∨ Cleared peerId disk left)
      (fun after reply => reply = .ok () ∧ Cleared peerId disk after) (discard peerId) disk := by
  have removed : ((remove .journal).perform disk .performed).1 = update disk .journal none := by
    simp [perform, apply, journal]
  have first : Cleared peerId disk (update disk .journal none) := by
    refine ⟨update_self .., fun other outside => ?_⟩
    rw [update_of_ne]
    rintro rfl
    exact outside trivial
  have bond : StagingPath peerId .pendingBond := trivial
  have key : StagingPath peerId (.pendingKey peerId) := rfl
  have second := first.remove bond (by simp) .performed
  have third := second.remove key (by simp) .performed
  apply holds_callIgnored (.inl rfl) fun _ => .inl rfl
  rintro _ rfl
  rw [removed]
  apply holds_callIgnored (.inr first) fun _ => .inr first
  rintro _ rfl
  refine ⟨.inr second, fun _ => .inr second, ?_⟩
  rintro _ rfl
  exact ⟨.inr third, rfl, third⟩

/-! ## The promotion -/

/--
What `promote` needs in order to leave `node` as the active key and `text` as
the active store.
-/
structure PromoteReady (libs : Primitives) (peerId : Text)
    (bond : Bond) (node : Node) (text : Text) (disk : BondDisk) : Prop where
  staged :
    ∃ store,
      loadReply libs .pendingBond (disk .pendingBond) = .ok store ∧
        store.bonds.find? (·.peerId = peerId) = some bond
  key : KeyReady peerId node disk
  active :
    ∃ store updated,
      loadReply libs .bonds (disk .bonds) = .ok store ∧
        store.replace bond = .ok updated ∧
        libs.toToml ⟨BOND_SCHEMA_VERSION_LATEST, updated.bonds⟩ = some text
  directory : ∃ mode, disk .bondDir = some (.directory mode) ∧ privateMode mode = true

def savedNode (text : Text) : Node := .file (utf8 text) BOND_FILE_MODE

/-- The store is the old one or the updated one. -/
def StoreWhole (disk : BondDisk) (text : Text) (left : BondDisk) : Prop :=
  left .bonds = disk .bonds ∨ left .bonds = some (savedNode text)

/-- The record and the key are in place. -/
def Promoted (peerId : Text) (node : Node) (text : Text) (disk : BondDisk) : Prop :=
  disk .bonds = some (savedNode text) ∧ disk (.activeKey peerId) = some node

section

variable {libs : Primitives} {peerId : Text} {bond : Bond}
  {node : Node} {text : Text} {disk : BondDisk}

theorem PromoteReady.of_sameButKey (ready : PromoteReady libs peerId bond node text disk)
    {left : BondDisk} (same : SameButKey peerId disk left) (key : KeyReady peerId node left) :
    PromoteReady libs peerId bond node text left where
  staged := by
    rw [same .pendingBond id]
    exact ready.staged
  key := key
  active := by
    rw [same .bonds id]
    exact ready.active
  directory := by
    rw [same .bondDir id]
    exact ready.directory

theorem PromoteReady.saved (roundTrip : libs.RoundTrip)
    (ready : PromoteReady libs peerId bond node text disk) :
    PromoteReady libs peerId bond node text (update disk .bonds (some (savedNode text))) where
  staged := by exact ready.staged
  key := by
    cases ready.key with
    | staged key mode file sized final places =>
      refine .staged _ mode ?_ sized final (places.update trivial)
      rw [update_of_ne (by simp), file]
    | active unstaged present =>
      refine .active ?_ ?_
      · rw [update_of_ne (by simp), unstaged]
      · rw [update_of_ne (by simp), present]
  active := by
    obtain ⟨staged, stagedLoaded, found⟩ := ready.staged
    obtain ⟨store, updated, loaded, replaced, serialized⟩ := ready.active
    refine ⟨updated, updated, ?_, BondStore.replace_again replaced, serialized⟩
    apply loadReply_saved _ roundTrip serialized
    apply BondStore.replace_peerIds _ replaced
    · exact loadReply_peerIds _ loaded
    · exact loadReply_peerIds _ stagedLoaded _ (mem_of_find?_eq_some found)
  directory := by exact ready.directory

/-- What a crash of `promote` leaves. -/
structure PromoteLeft (libs : Primitives) (peerId : Text)
    (bond : Bond) (node : Node) (text : Text) (disk left : BondDisk) : Prop where
  whole : StoreWhole disk text left
  outcome :
    (left .journal = disk .journal ∧ PromoteReady libs peerId bond node text left) ∨
      (left .journal = none ∧ Promoted peerId node text left)

theorem PromoteReady.promote_holds (roundTrip : libs.RoundTrip)
    (ready : PromoteReady libs peerId bond node text disk) {bytes : List UInt8} {mode : ℕ}
    (journal : disk .journal = some (.file bytes mode)) :
    Fallible.Holds Faultless
      (PromoteLeft libs peerId bond node text disk)
      (fun after reply => reply = .ok () ∧ Promoted peerId node text after)
      (promote libs peerId) disk := by
  have here : PromoteLeft libs peerId bond node text disk disk := ⟨.inl rfl, .inl ⟨rfl, ready⟩⟩
  obtain ⟨staged, stagedLoaded, found⟩ := ready.staged
  apply holds_load_faultless _ stagedLoaded here
  simp only [found]
  apply holds_bind
  apply ready.key.activateKey_holds.imp
  · rintro left ⟨same, key⟩
    exact ⟨.inl (same .bonds id), .inl ⟨same .journal id, ready.of_sameButKey same key⟩⟩
  rintro activated reply ⟨same, key⟩ ⟨rfl, keyed⟩
  have again := ready.of_sameButKey same key
  have there : PromoteLeft libs peerId bond node text disk activated :=
    ⟨.inl (same .bonds id), .inl ⟨same .journal id, again⟩⟩
  obtain ⟨store, updated, loaded, replaced, serialized⟩ := again.active
  obtain ⟨directoryMode, directory, unshared⟩ := again.directory
  apply holds_load_faultless _ loaded there
  rw [replaced]
  have target : ∀ mode, activated .bonds ≠ some (.directory mode) := by
    intro mode standing
    rw [standing] at loaded
    cases loaded
  apply holds_save_faultless _ directory unshared serialized target there
  -- The store is final; what follows only clears the staging.
  have keptJournal : update activated .bonds (some (savedNode text)) .journal = disk .journal := by
    rw [update_of_ne (by decide), same .journal id]
  have promoted : Promoted peerId node text (update activated .bonds (some (savedNode text))) := by
    refine ⟨update_self .., ?_⟩
    rw [update_of_ne (by simp), keyed]
  have cleared {left : BondDisk} (rest : Cleared peerId
          (update activated .bonds (some (savedNode text))) left) :
      Promoted peerId node text left :=
    ⟨(rest.rest .bonds id).trans promoted.1, (rest.rest (.activeKey _) id).trans promoted.2⟩
  apply (discard_holds (keptJournal.trans journal)).imp
  · rintro left (rfl | rest)
    · exact ⟨.inr promoted.1, .inl ⟨keptJournal, again.saved roundTrip⟩⟩
    · exact ⟨.inr (cleared rest).1, .inr ⟨rest.journal, cleared rest⟩⟩
  · rintro left reply _ ⟨rfl, rest⟩
    exact ⟨rfl, cleared rest⟩

theorem exists_promoteReady (directory : ∃ mode, disk .bondDir = some (.directory mode))
    (succeeded : (exec disk (promote libs peerId)).2 = .ok ()) :
    ∃ bond node text, PromoteReady libs peerId bond node text disk := by
  obtain ⟨_, staged, loadedStaged, afterLoad⟩ := exec_bind_ok succeeded
  obtain ⟨rfl, stagedLoaded⟩ := exec_ofBond_load_ok _ loadedStaged
  cases found : staged.bonds.find? (·.peerId = peerId) with
  | none =>
    simp only [found] at afterLoad
    cases afterLoad
  | some bond =>
    simp only [found] at afterLoad
    obtain ⟨activated, _, keyed, afterKey⟩ := exec_bind_ok afterLoad
    obtain ⟨node, key⟩ := exists_keyReady (congrArg _ keyed)
    have kept := (key.activateKey_holds.run rfl).1.1
    rw [show (Prog.run _ _).1 = activated from congrArg Prod.fst keyed] at kept
    obtain ⟨_, active, loadedActive, afterActive⟩ := exec_bind_ok afterKey
    obtain ⟨rfl, activeLoaded⟩ := exec_ofBond_load_ok _ loadedActive
    obtain ⟨_, updated, replaced, afterReplace⟩ := exec_bind_ok afterActive
    obtain ⟨rfl, updatedOk⟩ := Prod.mk.inj replaced
    obtain ⟨_, _, saved, _⟩ := exec_bind_ok afterReplace
    obtain ⟨mode, directory⟩ := directory
    rw [exec_ofBond, Prod.mk.injEq] at saved
    obtain ⟨unshared, text, serialized⟩ :=
      exec_save_ok _ ((kept .bondDir id).trans directory) (mapError_eq_ok saved.2)
    rw [kept .bonds id] at activeLoaded
    exact ⟨bond, node, text, ⟨staged, stagedLoaded, found⟩, key,
        ⟨active, updated, activeLoaded, mapError_eq_ok updatedOk, serialized⟩,
        ⟨mode, directory, unshared⟩⟩

/-! ## Every crash -/

/--
Whatever a crash of `promote` leaves, the store is the old or the updated one;
with the journal still there a second run ends as an uninterrupted one would
have; without it the store and the key are those of an uninterrupted run.
-/
theorem promote_crash_recovers (roundTrip : libs.RoundTrip)
    (directory : ∃ mode, disk .bondDir = some (.directory mode))
    (journal : ∃ bytes mode, disk .journal = some (.file bytes mode)) {final : BondDisk}
    (uninterrupted : exec disk (promote libs peerId) = (final, .ok ())) (point : CrashPoint) :
    let left := crash disk (promote libs peerId) point
    (left .bonds = disk .bonds ∨ left .bonds = final .bonds) ∧
      (left .journal ≠ none →
        ∃ again,
          exec left (promote libs peerId) = (again, .ok ()) ∧
            again .bonds = final .bonds ∧ again (.activeKey peerId) = final (.activeKey peerId)) ∧
      (left .journal = none →
        left .bonds = final .bonds ∧ left (.activeKey peerId) = final (.activeKey peerId)) := by
  intro left
  obtain ⟨bytes, mode, journal⟩ := journal
  have succeeded := congrArg Prod.snd uninterrupted
  obtain ⟨bond, node, text, ready⟩ := exists_promoteReady directory succeeded
  have holds := ready.promote_holds roundTrip journal
  have ended := (holds.run rfl).2.2
  rw [show (Prog.run disk _).1 = final from congrArg Prod.fst uninterrupted] at ended
  have crashed := holds.crash rfl point
  refine ⟨?_, ?_, ?_⟩
  · rw [ended.1]
    exact crashed.whole
  · intro present
    rcases crashed.outcome with ⟨kept, again⟩ | ⟨gone, _⟩
    · have rerun := (again.promote_holds roundTrip (kept.trans journal)).run rfl
      refine ⟨_, Prod.ext rfl rerun.2.1, ?_, ?_⟩
      · rw [ended.1]
        exact rerun.2.2.1
      · rw [ended.2]
        exact rerun.2.2.2
    · exact (present gone).elim
  · intro gone
    rcases crashed.outcome with ⟨kept, _⟩ | ⟨_, promoted⟩
    · rw [journal] at kept
      rw [show left .journal = _ from kept] at gone
      cases gone
    · rw [ended.1, ended.2]
      exact promoted

end

/-! ### A promotion cut off between the key and the store -/

def promotedBond : Bond := pairedBond 1 .bonded

/-- A bond under the id of another phone. -/
def misnamedBond : Bond := { pairedBond 3 .bonded with peerId := promotedBond.peerId }

/-- Libraries that know the files of one phone. -/
def singleStore : Primitives := .knowing [⟨1, [promotedBond]⟩, ⟨1, [pairedBond 1 byPhone]⟩]

def promotedText : Text := tomlText ⟨1, [promotedBond]⟩

/-- The staging of an attempt with the decision to commit. -/
def promotionDisk : BondDisk
  | .bondDir => some (.directory 0o700)
  | .keysDir => some (.directory 0o700)
  | .journal =>
    some (.file (utf8 (journalText ⟨.replicate 16 7, promotedBond.peerId,
      "02:02:02:02:02:02".toList, .commitPending⟩)) 0o644)
  | .pendingBond => some (.file (utf8 promotedText) 0o600)
  | .pendingKey peerId =>
    if peerId = promotedBond.peerId then some (.file (List.replicate 32 1) 0o600) else none
  | _ => none

theorem promotionDisk_crash_recovers :
    ∃ again,
      exec
          (crash promotionDisk (promote singleStore promotedBond.peerId) ⟨3, none⟩)
          (promote singleStore promotedBond.peerId) =
        (again, .ok ()) ∧
      again .bonds = some (.file (utf8 promotedText) 0o600) := by
  have ended : (exec promotionDisk (promote singleStore promotedBond.peerId)).2 = .ok () ∧
      (exec promotionDisk (promote singleStore promotedBond.peerId)).1 .bonds =
        some (.file (utf8 promotedText) 0o600) := by
    decide +kernel
  have standing : crash promotionDisk (promote singleStore promotedBond.peerId) ⟨3, none⟩ .journal ≠
      none := by
    decide +kernel
  generalize executed : exec promotionDisk (promote singleStore promotedBond.peerId) = whole
    at ended
  obtain ⟨final, reply⟩ := whole
  obtain ⟨rfl, stored⟩ := ended
  have recovered :=
    promote_crash_recovers Primitives.knowing_roundTrip ⟨_, rfl⟩ ⟨_, _, rfl⟩ executed ⟨3, none⟩
  obtain ⟨again, reexecuted, same, _⟩ := recovered.2.1 standing
  exact ⟨again, reexecuted, same.trans stored⟩

end DeskUnlock.Recovery
