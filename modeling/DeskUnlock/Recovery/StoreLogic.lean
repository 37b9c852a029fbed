import DeskUnlock.Foundation.FileLogic
import DeskUnlock.Recovery.PairRecovery

/-!
# Rules for the bond store

What loading and saving do to a disk, and that a saved store loads back.
-/

namespace DeskUnlock.Recovery

open FilePrograms Fallible Results Texts List Function FilePrograms.Action

theorem BondStore.bonds?_eq_false_iff (store : BondStore) {peerId : Text} :
    store.bonds? peerId = false ↔ ∀ bond ∈ store.bonds, bond.peerId ≠ peerId := by
  simp [bonds?]

variable {bond : Bond} {store updated : BondStore}

theorem BondStore.add_eq_ok (added : store.add bond = .ok updated) :
    updated = ⟨store.bonds ++ [bond]⟩ ∧ ∀ other ∈ store.bonds, other.peerId ≠ bond.peerId := by
  unfold BondStore.add at added
  split_ifs at added with known
  · exact ⟨(Except.ok.inj added).symm,
        store.bonds?_eq_false_iff.mp (Bool.eq_false_of_not_eq_true known)⟩

/-- A replaced record stands at the end, and is the only one of its peer. -/
theorem BondStore.replace_eq_ok (replaced : store.replace bond = .ok updated) :
    updated = ⟨store.bonds.eraseP (·.peerId = bond.peerId) ++ [bond]⟩ ∧
    ∀ other ∈ store.bonds.eraseP (·.peerId = bond.peerId), other.peerId ≠ bond.peerId := by
  unfold BondStore.replace at replaced
  split_ifs at replaced with known
  · obtain ⟨removed, erased, added⟩ := bind_eq_ok replaced
    rw [remove, if_pos known] at erased
    obtain rfl := Except.ok.inj erased
    exact add_eq_ok added
  · obtain ⟨rfl, alone⟩ := add_eq_ok replaced
    rw [eraseP_of_forall_not (by simpa using alone)]
    exact ⟨rfl, alone⟩

theorem BondStore.replace_again (replaced : store.replace bond = .ok updated) :
    updated.replace bond = .ok updated := by
  obtain ⟨rfl, alone⟩ := replace_eq_ok replaced
  generalize store.bonds.eraseP (·.peerId = bond.peerId) = rest at alone
  have known : bonds? ⟨rest ++ [bond]⟩ bond.peerId = true := by simp [bonds?]
  have erased : (rest ++ [bond]).eraseP (fun other => other.peerId = bond.peerId) = rest := by
    rw [eraseP_append_right _ (by simpa using alone)]
    simp
  have unknown : bonds? ⟨rest⟩ bond.peerId = false := (bonds?_eq_false_iff _).mpr alone
  simp [replace, known, remove, erased, add, unknown, bind, Except.bind]

theorem find?_eraseP_of_ne {bonds : List Bond} {peerId other : Text} (differs : other ≠ peerId) :
    (bonds.eraseP (·.peerId = peerId)).find? (·.peerId = other) =
      bonds.find? (·.peerId = other) := by
  induction bonds with
  | nil => rfl
  | cons bond rest induction =>
    by_cases here : bond.peerId = peerId
    · have unasked : bond.peerId ≠ other := fun asked =>
        differs (asked.symm.trans here)
      rw [eraseP_cons_of_pos (by simpa using here), find?_cons_of_neg (by simpa using unasked)]
    · rw [eraseP_cons_of_neg (by simpa using here), find?_cons, find?_cons, induction]

theorem BondStore.find?_replace (replaced : store.replace bond = .ok updated)
    {peerId : Text} : updated.bonds.find? (·.peerId = peerId) =
    if peerId = bond.peerId then some bond else store.bonds.find? (·.peerId = peerId) := by
  obtain ⟨rfl, alone⟩ := replace_eq_ok replaced
  rw [find?_append]
  split_ifs with own
  · subst own
    have absent :
        (store.bonds.eraseP (·.peerId = bond.peerId)).find? (·.peerId = bond.peerId) = none := by
      simpa using alone
    simp [absent]
  · have unasked : ¬ bond.peerId = peerId := fun same => own same.symm
    rw [find?_eraseP_of_ne own]
    simp [unasked]

section

variable (libs : Primitives)

theorem checkPeerIds_eq_ok_iff {bonds : List Bond} : checkPeerIds libs bonds =
    .ok () ↔ ∀ bond ∈ bonds, bond.peerId = libs.peerIdFromPubkey bond.pubkey := by
  induction bonds with
  | nil => simp [checkPeerIds]
  | cons bond rest induction =>
    rw [checkPeerIds, forall_mem_cons, ← induction]
    split_ifs with differs
    · exact iff_of_false nofun fun ⟨same, _⟩ => differs same
    · simp [not_not.mp differs]

theorem BondStore.replace_peerIds (replaced : store.replace bond = .ok updated)
    (consistent : ∀ other ∈ store.bonds, other.peerId = libs.peerIdFromPubkey other.pubkey)
    (own : bond.peerId = libs.peerIdFromPubkey bond.pubkey) :
    ∀ other ∈ updated.bonds, other.peerId = libs.peerIdFromPubkey other.pubkey := by
  obtain ⟨rfl, _⟩ := replace_eq_ok replaced
  intro other mem
  rcases mem_append.mp mem with old | new
  · exact consistent _ (mem_of_mem_eraseP old)
  · rw [mem_singleton.mp new]
    exact own

def loadReply (path : BondPath) : Option Node → Except BondError BondStore
  | none => .ok .empty
  | some (.directory _) => .error (.io path .failed)
  | some (.file bytes _) => decodeBondStore libs path bytes

theorem exec_load {path : BondPath} {disk : BondDisk} :
    exec disk (BondStore.load libs path) = (disk, loadReply libs path (disk path)) := by
  unfold BondStore.load
  rw [exec_readFile_bind, readReply]
  rcases disk _ with _ | ⟨bytes, mode⟩ | mode
  · rfl
  · rfl
  · rfl

theorem exec_ofBond {Value : Type} {disk : BondDisk} {prog : Fallible BondPath BondError Value} :
    exec disk (RecoveryM.ofBond prog) = ((exec disk prog).1, (exec disk prog).2.mapError .bond) :=
  Prog.run_bind _ _ _

theorem mapError_eq_ok {Error Other Value : Type}
    {convert : Error → Other} {res : Except Error Value}
    {value : Value} (succeeded : res.mapError convert = .ok value) : res = .ok value := by
  cases res with
  | error error => cases succeeded
  | ok other => exact congrArg _ (Except.ok.inj succeeded)

variable {path : BondPath} {store : BondStore}

theorem exec_ofBond_load_ok {disk after : BondDisk}
    (executed : exec disk (RecoveryM.ofBond (BondStore.load libs path)) = (after, .ok store)) :
    after = disk ∧ loadReply libs path (disk path) = .ok store := by
  rw [exec_ofBond, exec_load, Prod.mk.injEq] at executed
  exact ⟨executed.1.symm, mapError_eq_ok executed.2⟩

theorem exec_save_ok {disk : BondDisk} {mode : ℕ}
    (directory : disk .bondDir = some (.directory mode))
    (succeeded : (exec disk (store.save libs path)).2 = .ok ()) :
    privateMode mode = true ∧
      ∃ text, libs.toToml ⟨BOND_SCHEMA_VERSION_LATEST, store.bonds⟩ = some text := by
  have reply : metadataReply disk .bondDir .performed = .ok (.directory mode) := by
    simp [metadataReply, directory]
  obtain ⟨_, _, ensured, succeeded⟩ := exec_bind_ok succeeded
  obtain ⟨_, _, serialized, _⟩ := exec_bind_ok succeeded
  constructor
  · unfold ensureParentDir at ensured
    rw [exec_pathMetadata_bind, reply] at ensured
    by_contra shared
    simp only [Bool.not_eq_true] at shared
    simp only [shared] at ensured
    cases congrArg Prod.snd ensured
  · cases found : libs.toToml ⟨BOND_SCHEMA_VERSION_LATEST, store.bonds⟩ with
    | none =>
      simp only [BondStore.serializeToToml, found] at serialized
      cases congrArg Prod.snd serialized
    | some text => exact ⟨text, rfl⟩

theorem parseBondStore_peerIds {raw : Text} (loaded : parseBondStore libs raw = .ok store) :
    ∀ bond ∈ store.bonds, bond.peerId = libs.peerIdFromPubkey bond.pubkey := by
  unfold parseBondStore at loaded
  split at loaded
  · cases loaded
  · split_ifs at loaded
    · cases loaded
    · obtain ⟨_, checked, finished⟩ := bind_eq_ok loaded
      obtain rfl := Except.ok.inj finished
      exact (checkPeerIds_eq_ok_iff _).mp checked

theorem loadReply_peerIds {node : Option Node} (loaded : loadReply libs path node = .ok store) :
    ∀ bond ∈ store.bonds, bond.peerId = libs.peerIdFromPubkey bond.pubkey := by
  rcases node with _ | ⟨bytes, mode⟩ | mode
  · obtain rfl := Except.ok.inj loaded
    exact nofun
  · change decodeBondStore libs path bytes = .ok store at loaded
    unfold decodeBondStore at loaded
    split at loaded
    · cases loaded
    · exact parseBondStore_peerIds _ loaded
  · cases loaded

theorem loadReply_saved (roundTrip : libs.RoundTrip) {store : BondStore} {text : Text}
    (serialized : libs.toToml ⟨BOND_SCHEMA_VERSION_LATEST, store.bonds⟩ = some text)
    (consistent : ∀ bond ∈ store.bonds, bond.peerId = libs.peerIdFromPubkey bond.pubkey)
    (path : BondPath) (mode : ℕ) :
    loadReply libs path (some (.file (utf8 text) mode)) = .ok store := by
  have checked := (checkPeerIds_eq_ok_iff _).mpr consistent
  have parsed := roundTrip _ _ serialized
  simp [loadReply, decodeBondStore, parseBondStore, parsed, checked, bind,
    Except.bind, pure, Except.pure]

variable {always : BondDisk → Prop} {Result : Type}
  {ends : BondDisk → Except RecoveryError Result → Prop}
  {disk : BondDisk}

theorem holds_ofBond {may : Outcome → Prop} {prog : Fallible BondPath BondError Result}
    (holds :
      Fallible.Holds may always (fun disk reply => ends disk (reply.mapError .bond)) prog disk) :
    Fallible.Holds may always ends (RecoveryM.ofBond prog) disk := by
  apply Prog.Holds.bind
  exact holds.imp (fun _ kept => kept) fun _ _ kept ended => ⟨kept, ended⟩

theorem holds_ofExcept {may : Outcome → Prop} {Error Value : Type} {convert : Error → RecoveryError}
    {res : Except Error Value} {rest : Value → RecoveryM Result}
    (here : always disk) (failed : ∀ error, ends disk (.error error))
    (next : ∀ value, res = .ok value → Fallible.Holds may always ends (rest value) disk) :
    Fallible.Holds may always ends (RecoveryM.ofExcept convert res >>= rest) disk := by
  cases res with
  | error error => exact ⟨here, failed _⟩
  | ok value => exact next value rfl

theorem holds_load_faultless {rest : BondStore → RecoveryM Result}
    (loaded : loadReply libs path (disk path) = .ok store) (here : always disk)
    (next : Fallible.Holds Faultless always ends (rest store) disk) :
    Fallible.Holds Faultless always ends
      (RecoveryM.ofBond (BondStore.load libs path) >>= rest) disk := by
  apply holds_bind
  apply holds_ofBond
  apply holds_readFile here
  rintro _ rfl
  unfold readReply
  rcases found : disk _ with _ | ⟨bytes, mode⟩ | mode
  · rw [found] at loaded
    obtain rfl := Except.ok.inj loaded
    exact holds_pure here next
  · rw [found] at loaded
    change decodeBondStore libs path bytes = .ok store at loaded
    change Holds _ _ _ (.mk (.done (decodeBondStore libs path bytes))) _
    rw [loaded]
    exact holds_pure here next
  · rw [found] at loaded
    cases loaded

theorem holds_save_faultless {mode : ℕ} {text : Text} {rest : Unit → RecoveryM Result}
    (directory : disk .bondDir = some (.directory mode)) (unshared : privateMode mode = true)
    (serialized : libs.toToml ⟨BOND_SCHEMA_VERSION_LATEST, store.bonds⟩ = some text)
    (target : ∀ mode, disk path ≠ some (.directory mode)) (here : always disk)
    (next :
      Fallible.Holds Faultless always ends (rest ())
        (update disk path (some (.file (utf8 text) BOND_FILE_MODE)))) :
    Fallible.Holds Faultless always ends
      (RecoveryM.ofBond (store.save libs path) >>= rest) disk := by
  have reply : metadataReply disk .bondDir .performed = .ok (.directory mode) := by
    simp [metadataReply, directory]
  have bytes : store.serializeToToml libs = .ok (utf8 text) := by
    simp [BondStore.serializeToToml, serialized]
  have applied : (persist path (utf8 text) BOND_FILE_MODE).apply disk =
      some (update disk path (some (.file (utf8 text) BOND_FILE_MODE))) := by
    rcases found : disk _ with _ | ⟨bytes, mode⟩ | mode
    · simp [apply]
    · simp [apply]
    · exact (target _ found).elim
  apply holds_bind
  apply holds_ofBond
  apply holds_bind
  apply holds_pathMetadata here
  rintro _ rfl
  rw [reply]
  simp only [unshared]
  apply holds_pure here
  rw [bytes]
  apply holds_last_call_faultless applied here (fun _ => here)
  · exact next.here
  · exact next

variable {may : Outcome → Prop}

theorem holds_load {rest : BondStore → RecoveryM Result} (here : always disk)
    (failed : ∀ error, ends disk (.error error))
    (loaded :
      ∀ store, loadReply libs path (disk path) = .ok store →
        Fallible.Holds may always ends (rest store) disk) :
    Fallible.Holds may always ends (RecoveryM.ofBond (BondStore.load libs path) >>= rest) disk := by
  apply holds_bind
  apply holds_readFile here
  intro out _
  cases reply : readReply disk path out with
  | error error =>
    cases error with
    | notFound =>
      have absent := eq_none_of_readReply reply
      exact holds_pure here (loaded _ (by rw [absent]; rfl))
    | failed => exact holds_throw here (failed _)
  | ok bytes =>
    obtain ⟨mode, found⟩ := exists_file_of_readReply reply
    refine ⟨here, ?_⟩
    cases decoded : decodeBondStore libs path bytes with
    | error error => exact failed _
    | ok store => exact loaded _ (by rw [found]; exact decoded)

def SameButDir (before after : BondDisk) : Prop :=
  ∀ path, path ≠ .bondDir → after path = before path

theorem SameButDir.perform {before after : BondDisk} (same : SameButDir before after)
    {action : Action BondPath} (touched : action.touches = [.bondDir]) (out : Outcome) :
    SameButDir before (action.perform after out).1 := by
  intro path differs
  rw [perform_frame (by simp [touched, differs])]
  exact same _ differs

theorem SameButDir.apply {before after later : BondDisk} (same : SameButDir before after)
    {action : Action BondPath} (touched : action.touches = [.bondDir])
    (applied : action.apply after = some later) : SameButDir before later := by
  intro path differs
  rw [apply_frame applied (by simp [touched, differs])]
  exact same _ differs

theorem holds_ensureParentDir {ends : BondDisk → Except BondError Result → Prop}
    {rest : Unit → Fallible BondPath BondError Result}
    (made : ∀ left, SameButDir disk left → always left)
    (failed : ∀ disk error, always disk → ends disk (.error error))
    (ensured : ∀ left, SameButDir disk left → Fallible.Holds may always ends (rest ()) left) :
    Fallible.Holds may always ends (ensureParentDir .bondDir >>= rest) disk := by
  have unchanged : SameButDir disk disk := fun _ _ => rfl
  have here := made _ unchanged
  apply holds_bind
  apply holds_pathMetadata here
  intro out _
  cases metadataReply disk .bondDir out with
  | ok node =>
    cases node with
    | directory mode =>
      cases unshared : privateMode mode with
      | true =>
        simp only [unshared]
        exact holds_pure here (ensured _ unchanged)
      | false =>
        simp only [unshared]
        exact holds_throw here (failed _ _ here)
    | file bytes mode => exact holds_throw here (failed _ _ here)
  | error error =>
    cases error with
    | failed => exact holds_throw here (failed _ _ here)
    | notFound =>
      apply holds_call_kept
      · exact fun out => made _ (unchanged.perform rfl out)
      · exact fun left error kept => failed left error kept
      · intro created applied
        have same := unchanged.apply rfl applied
        apply holds_last_call_kept
        · exact fun out => made _ (same.perform rfl out)
        · exact fun left error kept => failed left error kept
        · intro left applied
          have same := same.apply rfl applied
          exact ⟨made left same, ensured left same⟩

/--
Saving touches the bond directory before the store, and the store only when
everything else has succeeded.
-/
theorem holds_saveStore {ends : BondDisk → Except BondError Unit → Prop}
    (made : ∀ left, SameButDir disk left → always left)
    (failed : ∀ disk error, always disk → ends disk (.error error))
    (saved :
      ∀ left text, SameButDir disk left →
        libs.toToml ⟨BOND_SCHEMA_VERSION_LATEST, store.bonds⟩ = some text →
        let after := update left path (some (.file (utf8 text) BOND_FILE_MODE))
        always after ∧ ends after (.ok ())) :
    Fallible.Holds may always ends (store.save libs path) disk := by
  apply holds_ensureParentDir made failed
  intro left same
  have there := made left same
  cases serialized : libs.toToml ⟨BOND_SCHEMA_VERSION_LATEST, store.bonds⟩ with
  | none =>
    simp only [BondStore.serializeToToml, serialized]
    exact ⟨there, failed _ _ there⟩
  | some text =>
    simp only [BondStore.serializeToToml, serialized]
    have next := saved left text same serialized
    apply holds_last_call_kept
    · intro out
      obtain same | applied := perform_whole left (.persist _ (utf8 _) _) nofun
      · rw [same]
        exact there
      · rw [apply_persist applied]
        exact next.1
    · exact fun after error kept => failed _ _ kept
    · intro after applied
      obtain rfl := apply_persist applied
      exact next

theorem holds_save {rest : Unit → RecoveryM Result}
    (made : ∀ left, SameButDir disk left → always left)
    (failed : ∀ disk error, always disk → ends disk (.error error))
    (saved :
      ∀ left text, SameButDir disk left →
        libs.toToml ⟨BOND_SCHEMA_VERSION_LATEST, store.bonds⟩ = some text →
        Fallible.Holds may always ends (rest ())
          (update left path (some (.file (utf8 text) BOND_FILE_MODE)))) :
    Fallible.Holds may always ends (RecoveryM.ofBond (store.save libs path) >>= rest) disk := by
  apply holds_bind
  apply holds_ofBond
  apply holds_saveStore _ made
  · exact fun left error kept => failed left _ kept
  · intro left text same serialized
    have next := saved left text same serialized
    exact ⟨next.here, next⟩

end

end DeskUnlock.Recovery
