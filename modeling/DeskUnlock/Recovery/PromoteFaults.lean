import DeskUnlock.Foundation.FaultRuns
import DeskUnlock.Recovery.Custody

/-!
# Promotions that fail

`promote` replaces the active key before it loads, updates and saves the
active store.  The store itself is replaced in one step, and nothing can fail
after it; the key of an earlier bond is lost when one of the steps in between
fails.
-/

namespace DeskUnlock.Recovery

open FilePrograms Fallible Texts Function FilePrograms.Action

/-- The store and the key of the peer have the same content. -/
def SameTrust (peerId : Text) (before after : BondDisk) : Prop :=
  content after .bonds = content before .bonds ∧
    content after (.activeKey peerId) = content before (.activeKey peerId)

instance (peerId : Text) (before after : BondDisk) : Decidable (SameTrust peerId before after) :=
  inferInstanceAs (Decidable (_ ∧ _))

/--
The staged key is readable and can be written where it belongs, and none of
the five calls that bring it there fails.
-/
structure Activates (peerId : Text) (disk : BondDisk)
    (outcomes : List Outcome) (key : List UInt8) : Prop where
  staged : ∃ mode, disk (.pendingKey peerId) = some (.file key mode)
  sized : key.length = BOND_KEY_DERIVED_BYTES
  places : KeyPlaces peerId disk
  performed : Performed 5 outcomes

section

variable {Result : Type}
  {ends : BondDisk → List Outcome → Except RecoveryError Result → Prop}
  {disk : BondDisk} {outcomes : List Outcome}

theorem ends_ofExcept {Error Value : Type} {convert : Error → RecoveryError}
    {res : Except Error Value} {rest : Value → RecoveryM Result}
    (failed : ∀ error reason, res = .error error → ends disk outcomes (.error reason))
    (next : ∀ value, res = .ok value → Fallible.Ends disk outcomes ends (rest value)) :
    Fallible.Ends disk outcomes ends (RecoveryM.ofExcept convert res >>= rest) := by
  cases res with
  | error error => exact failed _ _ rfl
  | ok value => exact next value rfl

theorem ends_load {libs : Primitives} {path : BondPath}
    {rest : BondStore → RecoveryM Result}
    (failed :
      ∀ error,
        (outcomes.headD .performed = .performed →
          ∀ store, loadReply libs path (disk path) ≠ .ok store) →
        ends disk outcomes.tail (.error error))
    (loaded :
      ∀ store, outcomes.headD .performed = .performed →
        loadReply libs path (disk path) = .ok store →
          Fallible.Ends disk outcomes.tail ends (rest store)) :
    Fallible.Ends disk outcomes ends (RecoveryM.ofBond (BondStore.load libs path) >>= rest) := by
  apply ends_readFile
  generalize outcomes.headD .performed = out at failed loaded ⊢
  cases out with
  | performed =>
    unfold readReply
    rcases found : disk _ with _ | ⟨bytes, mode⟩ | mode
    · exact loaded .empty rfl (by rw [found]; rfl)
    · rw [found] at failed loaded
      apply ends_ofExcept
      · intro error reason undecoded
        apply failed
        intro _ store decoded
        cases undecoded.symm.trans decoded
      · exact fun store => loaded _ rfl
    · rw [found] at failed
      exact failed _ (by simp [loadReply])
  | refused | torn count => exact failed _ (by simp)

end

section

variable {peerId : Text} {disk : BondDisk} {outcomes : List Outcome}

def placeKey (peerId : Text) (key : List UInt8) : RecoveryM Unit := do
  call (.createDirAll .keysDir) .io
  call (.write (.activeKeyTmp peerId) key) .io
  call (.setPermissions (.activeKeyTmp peerId) 0o600) .io
  call (.rename (.activeKeyTmp peerId) (.activeKey peerId)) .io

theorem placeKey_ends {peerId : Text} {key : List UInt8}
    {disk : BondDisk} {outcomes : List Outcome} :
    Fallible.Ends disk outcomes
      (fun after _ reply =>
        (KeyPlaces peerId disk ∧ Performed 4 outcomes ∧ reply = .ok () ∧
            content after (.activeKey peerId) = some key) ∨
          (¬ (KeyPlaces peerId disk ∧ Performed 4 outcomes) ∧
            after (.activeKey peerId) = disk (.activeKey peerId)))
      (placeKey peerId key) := by
  simp only [performed_succ_iff]
  apply ends_call
  · intro error unmade
    refine .inr ⟨?_, perform_frame (by simp [touches])⟩
    rintro ⟨places, first, _⟩
    obtain ⟨made, created, _⟩ := places.createDirAll
    cases (unmade first).symm.trans created
  intro made first created
  have onward : KeyPlaces peerId disk → KeyPlaces peerId made := by
    intro places
    obtain ⟨made, again, _, onward⟩ := places.createDirAll
    obtain rfl := Option.some.inj (created.symm.trans again)
    exact onward
  have kept : made (.activeKey peerId) = disk (.activeKey peerId) :=
    apply_frame created (by simp [touches])
  apply ends_call
  · intro error unwritten
    refine .inr ⟨?_, (perform_frame (by simp [touches])).trans kept⟩
    rintro ⟨places, _, second, _⟩
    obtain ⟨mode, stored⟩ := (onward places).write _
    cases (unwritten second).symm.trans stored
  intro written second stored
  have kept : written (.activeKey peerId) = disk (.activeKey peerId) :=
    (apply_frame stored (by simp [touches])).trans kept
  obtain ⟨mode, whole⟩ := apply_write stored
  apply ends_call
  · intro error unlimited
    refine .inr ⟨?_, (perform_frame (by simp [touches])).trans kept⟩
    rintro ⟨_, _, _, third, _⟩
    rw [whole, setPermissions_written] at unlimited
    cases unlimited third
  intro narrowed third limited
  have kept : narrowed (.activeKey peerId) = disk (.activeKey peerId) :=
    (apply_frame limited (by simp [touches])).trans kept
  have tmp : narrowed = update made (.activeKeyTmp peerId) (some (.file key 0o600)) := by
    rw [whole, setPermissions_written] at limited
    exact (Option.some.inj limited).symm
  apply ends_last_call
  · intro error unmoved
    rw [perform_failed nofun unmoved]
    refine .inr ⟨?_, kept⟩
    rintro ⟨places, _, _, _, fourth, _⟩
    have suited : KeyPlaces peerId narrowed := by
      rw [tmp]
      exact (onward places).update trivial
    have moved := suited.rename (by rw [tmp, update_self])
    cases (unmoved fourth).symm.trans moved
  intro renamed fourth moved
  have places := keyPlaces_of_applied created stored limited moved
  refine .inl ⟨places, ⟨first, second, third, fourth, by simp [Performed]⟩, rfl, ?_⟩
  obtain ⟨bytes, mode, standing, rfl⟩ := apply_rename moved
  rw [tmp, update_self] at standing
  cases standing
  simp [content]

theorem activateKey_ends {peerId : Text} {disk : BondDisk} {outcomes : List Outcome} :
    Fallible.Ends disk outcomes
      (fun after _ reply =>
        (∃ key, Activates peerId disk outcomes key ∧ reply = .ok () ∧
            content after (.activeKey peerId) = some key) ∨
          ((∀ key, ¬ Activates peerId disk outcomes key) ∧
            after (.activeKey peerId) = disk (.activeKey peerId)))
      (activateKey peerId) := by
  apply ends_pathExists
  cases standing : disk (.pendingKey peerId) with
  | none =>
    rw [probeReply_of_none standing]
    apply ends_pathExists
    have unstaged (key : List UInt8) : ¬ Activates peerId disk outcomes key := by
      rintro ⟨⟨mode, file⟩, _⟩
      cases standing.symm.trans file
    cases probeReply disk (.activeKey peerId) with
    | true | false => exact .inr ⟨unstaged, rfl⟩
  | some node =>
    rw [probeReply_of_some standing]
    apply ends_readFile
    apply ends_ofExcept
    · intro error reason reply
      refine .inr ⟨?_, rfl⟩
      rintro key ⟨⟨mode, file⟩, _, _, performed⟩
      rw [(performed_succ_iff.mp performed).1, readReply_of_file file] at reply
      cases reply
    intro key reply
    obtain ⟨mode, file⟩ := exists_file_of_readReply reply
    have first := performed_of_readReply reply
    split_ifs with unsized
    · refine .inr ⟨?_, rfl⟩
      rintro other ⟨⟨_, again⟩, sized, _⟩
      cases file.symm.trans again
      exact unsized sized
    · apply placeKey_ends.imp
      rintro after left reply (⟨places, performed, succeeded, active⟩ | ⟨unplaced, kept⟩)
      · have activates : Activates peerId disk outcomes key :=
          ⟨⟨mode, file⟩, not_not.mp unsized, places, performed_succ_iff.mpr ⟨first, performed⟩⟩
        exact .inl ⟨key, activates, succeeded, active⟩
      · refine .inr ⟨?_, kept⟩
        rintro other ⟨_, _, places, performed⟩
        exact unplaced ⟨places, (performed_succ_iff.mp performed).2⟩

end

section

variable (libs : Primitives) (peerId : Text) (disk : BondDisk) (outcomes : List Outcome)

/--
The key of the peer is replaced by another one: the staged bond is readable,
the staged key goes active, and the active key was different.
-/
structure ReplacesKey (key : List UInt8) : Prop where
  bond :
    ∃ store bond,
      loadReply libs .pendingBond (disk .pendingBond) = .ok store ∧
        store.bonds.find? (·.peerId = peerId) = some bond
  read : outcomes.headD .performed = .performed
  activates : Activates peerId disk outcomes.tail key
  differs : content disk (.activeKey peerId) ≠ some key

def promoteStore (bond : Bond) : RecoveryM Unit := do
  let active ← RecoveryM.ofBond (BondStore.load libs .bonds)
  let active ← RecoveryM.ofExcept .bond (active.replace bond)
  RecoveryM.ofBond (active.save libs .bonds)
  discard peerId

variable {disk}

theorem holds_save_kept {Result : Type} {may : Outcome → Prop} {always : BondDisk → Prop}
    {ends : BondDisk → Except RecoveryError Result → Prop} {path : BondPath} {store : BondStore}
    {rest : Unit → RecoveryM Result} (made : ∀ left, SameButDir disk left → always left)
    (failed : ∀ left error, SameButDir disk left → ends left (.error error))
    (saved :
      ∀ left bytes, SameButDir disk left →
        Fallible.Holds may always ends (rest ())
          (update left path (some (.file bytes BOND_FILE_MODE)))) :
    Fallible.Holds may always ends (RecoveryM.ofBond (store.save libs path) >>= rest) disk := by
  have ensured : Holds may (SameButDir disk) (fun _ _ => True) (ensureParentDir .bondDir) disk := by
    rw [← bind_pure (ensureParentDir .bondDir)]
    apply holds_ensureParentDir
    · exact fun _ same => same
    · exact fun _ _ _ => trivial
    · exact fun _ same => holds_pure same trivial
  apply holds_bind
  apply holds_ofBond
  apply holds_bind
  apply ensured.imp made
  intro left reply same _
  have there := made left same
  cases reply with
  | error error => exact failed left _ same
  | ok _ =>
    apply holds_bind
    cases store.serializeToToml libs with
    | error error => exact ⟨there, failed left _ same⟩
    | ok bytes =>
      refine ⟨there, ?_⟩
      change Holds may always _ (call (.persist path bytes BOND_FILE_MODE) (BondError.io path)) left
      rw [← bind_pure (call _ _)]
      refine holds_call there (fun _ => there) ?_ ?_
      · intro out error _ reply
        rw [perform_failed nofun]
        · exact failed left _ same
        · rintro rfl
          cases applied : (persist path bytes BOND_FILE_MODE).apply left with
          | none => rfl
          | some after => simp [perform, applied] at reply
      · intro after applied
        obtain rfl := apply_persist applied
        have next := saved left bytes same
        exact holds_pure next.here next

/-- The rest of a promotion leaves the key, and on failure the store. -/
theorem promoteStore_holds {bond : Bond} :
    Fallible.Holds (fun _ => True)
      (fun left => left (.activeKey peerId) = disk (.activeKey peerId))
      (fun after reply => ∀ error, reply = .error error → after .bonds = disk .bonds)
      (promoteStore libs peerId bond) disk := by
  refine holds_load _ rfl (fun _ _ _ => rfl) fun active _ => ?_
  refine holds_ofExcept rfl (fun _ _ _ => rfl) fun updated _ => ?_
  apply holds_save_kept _
  · exact fun left same => same _ (by simp)
  · exact fun left _ same _ _ => same _ (by simp)
  intro left bytes same
  apply discard_keeps.imp
  · intro cleared kept
    rw [kept _ (by simp [StagingPath]), update_of_ne (by simp), same _ (by simp)]
  · rintro cleared _ _ rfl
    simp

theorem activateKey_keeps : Fallible.Holds (fun _ => True)
    (SameButKey peerId disk) (fun _ _ => True) (activateKey peerId) disk := by
  have footprint : Within (fun _ => True)
      (fun action => ∀ path ∈ action.touches, KeyPath peerId path) (activateKey peerId) := by
    apply within_activateKey <;> simp [touches, KeyPath]
  exact (footprint.touches fun _ inside => inside).holds fun _ _ => rfl

/-- What a promotion makes of the key and the store when it fails. -/
theorem promote_ends :
    Fallible.Ends disk outcomes
      (fun after _ reply =>
        ∀ error, reply = .error error →
          (SameTrust peerId disk after ↔ ∀ key, ¬ ReplacesKey libs peerId disk outcomes key))
      (promote libs peerId) := by
  apply ends_load
  · intro error unloaded _ _
    refine iff_of_true ⟨rfl, rfl⟩ ?_
    rintro key ⟨⟨store, bond, loaded, _⟩, read, _⟩
    exact unloaded read _ loaded
  intro staged read loaded
  cases found : staged.bonds.find? (·.peerId = peerId) with
  | none =>
    intro _ _
    refine iff_of_true ⟨rfl, rfl⟩ ?_
    rintro key ⟨⟨store, bond, again, held⟩, _⟩
    obtain rfl := Except.ok.inj (loaded.symm.trans again)
    cases found.symm.trans held
  | some bond =>
    apply ends_bind
    have framed : Ends disk outcomes.tail
          (fun after _ _ => SameButKey peerId _ after ∧ True) (activateKey _) :=
      .of_holds (activateKey_keeps _)
    apply (activateKey_ends.and framed).imp
    rintro active left reply ⟨placed, same, -⟩
    have store : active .bonds = disk .bonds := same _ (by simp [KeyPath])
    have judged {after : BondDisk} (stored : after .bonds = active .bonds)
        (keyed : after (.activeKey peerId) = active (.activeKey peerId)) :
        SameTrust peerId disk after ↔ ∀ key, ¬ ReplacesKey libs peerId disk outcomes key := by
      rw [SameTrust, content_congr (stored.trans store), content_congr keyed, eq_self, true_and]
      obtain ⟨key, activates, -, placed⟩ | ⟨unplaced, kept⟩ := placed
      · rw [placed]
        constructor
        · rintro same other ⟨_, _, ⟨⟨_, again⟩, _⟩, differs⟩
          obtain ⟨mode, file⟩ := activates.staged
          cases file.symm.trans again
          exact differs same.symm
        · intro kept
          by_contra differs
          exact
            kept _ ⟨⟨staged, bond, loaded, found⟩, read, activates, fun same => differs same.symm⟩
      · rw [content_congr kept]
        refine iff_of_true rfl ?_
        rintro key ⟨_, _, activates, _⟩
        exact unplaced _ activates
    cases reply with
    | error error => exact fun _ _ => judged rfl rfl
    | ok _ =>
      apply (Ends.of_holds (promoteStore_holds _ _)).imp
      rintro after _ reply ⟨keyed, stored⟩ error failed
      exact judged (stored _ failed) keyed

end

/-- The peer is bonded with another key than the staged one. -/
def repairDisk : BondDisk
  | .bonds => some (.file (utf8 promotedText) 0o600)
  | .activeKey peerId =>
    if peerId = promotedBond.peerId then some (.file (List.replicate 32 9) 0o600) else none
  | path => promotionDisk path

/-- The ninth call is the one that saves `bonds.toml`. -/
def unsaved : List Outcome := List.replicate 8 .performed ++ [.refused]

end DeskUnlock.Recovery
