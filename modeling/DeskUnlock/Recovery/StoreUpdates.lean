import DeskUnlock.Foundation.SharedFile
import DeskUnlock.Recovery.Custody

/-!
# Updates of the bond store by several processes

`run_revoke` of `syauth-cli/src/revoke.rs`, the revocations and the promotions
of the daemon all load `bonds.toml`, change it in memory and replace it.  The
replacement is atomic; the whole update is not, and nothing locks the file.
-/

namespace DeskUnlock.Recovery

open FilePrograms Fallible Results Runs Texts List

inductive RevokeError where
  | unknownId (id : Text)
  | bond (error : BondError)
  | io (source : IoError)
deriving DecidableEq

inductive RevokeOutcome where
  | revoked (id reason : Text)
  | alreadyRevoked (id existingReason : Text)
deriving DecidableEq

def renderOutcome : RevokeOutcome → Text
  | .revoked id reason => "revoked bond ".toList ++ id ++ ": ".toList ++ reason ++ ['\n']
  | .alreadyRevoked id existingReason =>
    "bond ".toList ++ id ++ " already revoked: ".toList ++ existingReason ++ ['\n']

def lookupStatus (store : BondStore) (id : Text) : Except RevokeError BondStatus :=
  match store.bonds.find? (·.peerId = id) with
  | some bond => .ok bond.status
  | none => .error (.unknownId id)

def applyRevoke (store : BondStore) (id reason : Text) :
    Except RevokeError (BondStore × RevokeOutcome) := do
  match ← lookupStatus store id with
  | .revoked existingReason =>
    return (store, .alreadyRevoked id existingReason)
  | .bonded =>
    let marked ← (store.markRevoked id reason).mapError .bond
    return (marked, .revoked id reason)

/--
`syauth revoke`.  The bond store is saved only if it changed; `written` is
what the standard output makes of the line.
-/
def runRevoke (libs : Primitives) (id reason : Text) (written : Except IoError Unit) :
    Fallible BondPath RevokeError Text := do
  let store ← ExceptT.adapt .bond (BondStore.load libs .bonds)
  let (store, out) ← ExceptT.mk (Prog.done (applyRevoke store id reason))
  match out with
  | .revoked _ _ => ExceptT.adapt .bond (store.save libs .bonds)
  | .alreadyRevoked _ _ => pure ()
  ExceptT.mk (Prog.done (written.mapError .io))
  return renderOutcome out

/-- One update of the bond store, for one peer. -/
inductive StoreRequest where
  | cliRevoke (peerId reason : Text) (written : Except IoError Unit)
  | phoneRevoke (peerId : Text)
  | promote (peerId : Text)

def StoreRequest.peerId : StoreRequest → Text
  | .cliRevoke peerId _ _ | .phoneRevoke peerId | .promote peerId => peerId

/-- What a process has reported. -/
inductive Report where
  | revoked
  | promoted
  | failed
deriving DecidableEq

def Report.of {Error Value : Type} (success : Report) :
    Except Error Value → Report
  | .ok _ => success
  | .error _ => .failed

section

variable (libs : Primitives)

def StoreRequest.program : StoreRequest → Prog BondPath Report
  | .cliRevoke peerId reason written =>
    Prog.bind (ExceptT.run (runRevoke libs peerId reason written))
      fun reply => .done (Report.of .revoked reply)
  | .phoneRevoke peerId =>
    Prog.bind (ExceptT.run (revokeBondByPeerId libs peerId))
      fun reply => .done (Report.of .revoked reply)
  | .promote peerId =>
    Prog.bind (ExceptT.run (Recovery.promote libs peerId))
      fun reply => .done (Report.of .promoted reply)

def startUpdates (disk : BondDisk) (requests : List StoreRequest) :
    Shared BondPath Text Report where
  disk := disk
  sharers := requests.map fun req => ⟨req.peerId, req.program libs, none⟩

def recordOf (peerId : Text) (node : Option Node) : Option Bond :=
  match loadReply libs .bonds node with
  | .ok store => store.bonds.find? (·.peerId = peerId)
  | .error _ => none

/--
What has been reported still stands in the bond store: the record of a
reported revocation is not bonded, and that of a reported promotion is the one
that the promotion has left there.
-/
def Kept (system : Shared BondPath Text Report) : Prop :=
  ∀ sharer ∈ system.sharers,
    (sharer.program.result? = some .revoked →
      ∃ bond, recordOf libs sharer.key (system.disk .bonds) = some bond ∧ bond.status ≠ .bonded) ∧
    (sharer.program.result? = some .promoted →
      ∃ left bond,
        sharer.view = some left ∧
          recordOf libs sharer.key left = some bond ∧
          recordOf libs sharer.key (system.disk .bonds) = some bond)

end

variable {node : Option Node}

section

variable {libs : Primitives} {Error Result : Type}
  {convert : BondError → Error} {peerId : Text}
  {view : Option (Option Node)}
  {ends : Option (Option Node) → Except Error Result → Prop}

abbrev Updates (libs : Primitives) (peerId : Text)
    (ends : Option (Option Node) → Except Error Result → Prop) (view : Option (Option Node))
    (prog : Fallible BondPath Error Result) : Prop :=
  Fallible.Tracks .bonds (recordOf libs) peerId ends view prog

abbrev Elsewhere (prog : Fallible BondPath Error Result) : Prop :=
  Fallible.Within (· ≠ BondPath.bonds) (fun action => BondPath.bonds ∉ action.touches) prog

theorem updates_adapt {prog : Fallible BondPath BondError Result}
    (updates :
      Updates libs peerId (fun view reply => ends view (reply.mapError convert)) view prog) :
    Updates libs peerId ends view (ExceptT.adapt convert prog) :=
  Prog.Tracks.bind updates

theorem updates_load {path : BondPath} {rest : BondStore → Fallible BondPath Error Result}
    (failed : ∀ view error, ends view (.error error))
    (loaded :
      ∀ node store, loadReply libs path node = .ok store →
        Updates libs peerId ends (if path = .bonds then some node else view) (rest store)) :
    Updates libs peerId ends view (ExceptT.adapt convert (BondStore.load libs path) >>= rest) := by
  apply tracks_bind
  apply updates_adapt
  intro disk out
  have seen : (if path = .bonds then some (disk .bonds) else view) =
      if path = .bonds then some (disk path) else view := by
    split_ifs with own
    · rw [own]
    · rfl
  rw [seen]
  cases reply : readReply disk path out with
  | error error =>
    cases error with
    | notFound =>
      rw [eq_none_of_readReply reply]
      exact loaded _ .empty rfl
    | failed => exact failed _ _
  | ok bytes =>
    obtain ⟨mode, found⟩ := exists_file_of_readReply reply
    rw [found]
    change Tracks _ _ _ _ _ (.done (decodeBondStore libs path bytes))
    cases decoded : decodeBondStore libs path bytes with
    | error error => exact failed _ _
    | ok store => exact loaded _ _ decoded

theorem elsewhere_ensureParentDir : Elsewhere (ensureParentDir .bondDir) := by
  apply within_ensureParentDir <;> simp [Action.touches]

theorem updates_save {store : BondStore} {rest : Unit → Fallible BondPath Error Result}
    (failed : ∀ view error, ends view (.error error))
    (saved :
      ∀ text,
        libs.toToml ⟨BOND_SCHEMA_VERSION_LATEST, store.bonds⟩ = some text →
        OthersKept (recordOf libs) peerId node
            (some (.file (utf8 text) BOND_FILE_MODE)) ∧
          Updates libs peerId ends (some (some (.file (utf8 text) BOND_FILE_MODE))) (rest ())) :
    Updates libs peerId ends (some node)
      (ExceptT.adapt convert (store.save libs .bonds) >>= rest) := by
  apply tracks_bind
  apply updates_adapt
  apply tracks_bind_of_within elsewhere_ensureParentDir
  · exact fun error => failed _ _
  intro _
  cases serialized : libs.toToml ⟨BOND_SCHEMA_VERSION_LATEST, store.bonds⟩ with
  | none =>
    simp only [BondStore.serializeToToml, serialized]
    exact failed _ _
  | some text =>
    simp only [BondStore.serializeToToml, serialized]
    obtain ⟨kept, further⟩ := saved _ serialized
    exact tracks_persist kept (fun error => failed _ _) further

end

section

variable {libs : Primitives} {peerId : Text}

theorem recordOf_of_loaded {store : BondStore} (loaded : loadReply libs .bonds node = .ok store)
    {peerId : Text} : recordOf libs peerId node = store.bonds.find? (·.peerId = peerId) := by
  simp only [recordOf, loaded]

def Reported (libs : Primitives) (peerId : Text) (view : Option (Option Node)) : Report → Prop
  | .revoked =>
    ∃ left bond, view = some left ∧ recordOf libs peerId left = some bond ∧ bond.status ≠ .bonded
  | .promoted => ∃ left bond, view = some left ∧ recordOf libs peerId left = some bond
  | .failed => True

theorem saved_revocation (roundTrip : libs.RoundTrip) {store marked : BondStore}
    {reason text : Text} (loaded : loadReply libs .bonds node = .ok store)
    (revoked : store.markRevoked peerId reason = .ok marked)
    (serialized : libs.toToml ⟨BOND_SCHEMA_VERSION_LATEST, marked.bonds⟩ = some text) :
    OthersKept (recordOf libs) peerId node (some (.file (utf8 text) BOND_FILE_MODE)) ∧
    Reported libs peerId (some (some (.file (utf8 text) BOND_FILE_MODE))) .revoked := by
  obtain ⟨i, found, rfl⟩ := BondStore.markRevoked_eq_ok revoked
  have saved :=
    loadReply_saved _ roundTrip serialized
      (modify_revokedBond_peerIds _ (loadReply_peerIds _ loaded)) .bonds BOND_FILE_MODE
  constructor
  · intro other differs
    rw [recordOf_of_loaded saved, recordOf_of_loaded loaded, find?_modify_revokedBond _ _ found]
    simp [differs]
  · obtain ⟨bond, named⟩ : ∃ bond, store.bonds.find? (·.peerId = peerId) = some bond := by
      apply Option.isSome_iff_exists.mp
      rw [find?_isSome, ← any_eq_true, ← findIdx?_isSome, found]
      rfl
    obtain ⟨given, status⟩ := revokedBond_status _
    refine ⟨_, revokedBond reason bond, rfl, ?_, ?_⟩
    · rw [recordOf_of_loaded saved, find?_modify_revokedBond _ _ found, named]
      simp
    · rw [status]
      exact nofun

theorem saved_promotion (roundTrip : libs.RoundTrip) {store updated : BondStore}
    {bond : Bond} {text : Text} (loaded : loadReply libs .bonds node = .ok store)
    (replaced : store.replace bond = .ok updated)
    (own : bond.peerId = libs.peerIdFromPubkey bond.pubkey)
    (serialized : libs.toToml ⟨BOND_SCHEMA_VERSION_LATEST, updated.bonds⟩ = some text) :
    OthersKept (recordOf libs) bond.peerId node
        (some (.file (utf8 text) BOND_FILE_MODE)) ∧
      Reported libs bond.peerId (some (some (.file (utf8 text) BOND_FILE_MODE))) .promoted := by
  have saved :=
    loadReply_saved _ roundTrip serialized
      (BondStore.replace_peerIds _ replaced (loadReply_peerIds _ loaded) own) .bonds BOND_FILE_MODE
  constructor
  · intro other differs
    rw [recordOf_of_loaded saved, recordOf_of_loaded loaded,
      BondStore.find?_replace replaced, if_neg differs]
  · refine ⟨_, bond, rfl, ?_⟩
    rw [recordOf_of_loaded saved, BondStore.find?_replace replaced, if_pos rfl]

theorem applyRevoke_eq_ok {store updated : BondStore} {reason : Text} {out : RevokeOutcome}
    (applied : applyRevoke store peerId reason = .ok (updated, out)) :
    ((∃ bond, store.bonds.find? (·.peerId = peerId) = some bond ∧ bond.status ≠ .bonded) ∧
        ∃ existingReason, out = .alreadyRevoked peerId existingReason) ∨
      (store.markRevoked peerId reason = .ok updated ∧ out = .revoked peerId reason) := by
  obtain ⟨status, looked, rest⟩ := bind_eq_ok applied
  unfold lookupStatus at looked
  split at looked
  · rename_i bond found
    obtain rfl := Except.ok.inj looked
    cases revoked : bond.status with
    | revoked existingReason =>
      rw [revoked] at rest
      cases rest
      exact .inl ⟨⟨bond, found, by simp [revoked]⟩, _, rfl⟩
    | bonded =>
      rw [revoked] at rest
      obtain ⟨marked, mapped, finished⟩ := bind_eq_ok rest
      cases finished
      exact .inr ⟨mapError_eq_ok mapped, rfl⟩
  · cases looked

section

variable (roundTrip : libs.RoundTrip)
include roundTrip

theorem updates_runRevoke {reason : Text} (peerId : Text) {written : Except IoError Unit} :
    Updates libs peerId
      (fun view reply => Reported libs peerId view (Report.of .revoked reply))
      none (runRevoke libs peerId reason written) := by
  have printed {view : Option (Option Node)} {out : RevokeOutcome}
      (known : Reported libs peerId view .revoked) :
      Updates libs peerId
        (fun view reply => Reported libs peerId view (.of .revoked reply)) view
        (do
          .mk (.done (written.mapError .io))
          return renderOutcome out : Fallible _ RevokeError _) := by
    cases written with
    | ok _ => exact known
    | error error => exact trivial
  apply updates_load (fun _ _ => trivial)
  intro node store loaded
  cases applied : applyRevoke store peerId reason with
  | error error => exact trivial
  | ok res =>
    obtain ⟨updated, out⟩ := res
    rcases applyRevoke_eq_ok applied with
      ⟨⟨bond, found, revoked⟩, existingReason, rfl⟩ | ⟨marked, rfl⟩
    · apply printed
      refine ⟨node, bond, rfl, ?_, revoked⟩
      rw [recordOf_of_loaded loaded, found]
    · apply updates_save (fun _ _ => trivial)
      intro text serialized
      obtain ⟨kept, known⟩ := saved_revocation roundTrip loaded marked serialized
      exact ⟨kept, printed known⟩

theorem updates_revokeBondByPeerId (peerId : Text) :
    Updates libs peerId
      (fun view reply => Reported libs peerId view (Report.of .revoked reply))
      none (revokeBondByPeerId libs peerId) := by
  apply updates_load (fun _ _ => trivial)
  intro node store loaded
  have rest :
      Updates libs peerId
        (fun view reply => Reported libs peerId view (.of .revoked reply)) (some node)
        (do
          let revoked ←
            .ofExcept .bond (store.markRevoked peerId "phone: device dissociated".toList)
          .ofBond (revoked.save libs .bonds)
          callIgnored (.remove (.activeKey peerId)) : RecoveryM _) := by
    cases marked : store.markRevoked peerId "phone: device dissociated".toList with
    | error error => exact trivial
    | ok updated =>
      apply updates_save (fun _ _ => trivial)
      intro text serialized
      obtain ⟨kept, known⟩ := saved_revocation roundTrip loaded marked serialized
      refine ⟨kept, Prog.Tracks.of_within ?_ ?_⟩
      · exact within_callIgnored (by simp [Action.touches])
      · intro reply
        cases reply with
        | ok _ => exact known
        | error error => exact trivial
  rw [if_pos rfl]
  split_ifs
  · exact trivial
  · exact rest

theorem updates_promote (peerId : Text) :
    Updates libs peerId
      (fun view reply => Reported libs peerId view (Report.of .promoted reply))
      none (promote libs peerId) := by
  apply updates_load (fun _ _ => trivial)
  intro _ staged stagedLoaded
  cases found : staged.bonds.find? (·.peerId = peerId) with
  | none => exact trivial
  | some bond =>
    have own := loadReply_peerIds _ stagedLoaded _ (mem_of_find?_eq_some found)
    obtain rfl : bond.peerId = peerId := by simpa using find?_some found
    apply tracks_bind_of_within
    · apply within_activateKey <;> simp [Action.touches]
    · exact fun _ => trivial
    intro _
    apply updates_load (fun _ _ => trivial)
    intro node store loaded
    cases replaced : store.replace bond with
    | error error => exact trivial
    | ok updated =>
      apply updates_save (fun _ _ => trivial)
      intro text serialized
      obtain ⟨kept, known⟩ := saved_promotion roundTrip loaded replaced own serialized
      refine ⟨kept, Prog.Tracks.of_within ?_ ?_⟩
      · apply within_discard <;> simp [Action.touches]
      · intro reply
        cases reply with
        | ok _ => exact known
        | error error => exact trivial

theorem tracks_program (req : StoreRequest) :
    (req.program libs).Tracks .bonds (recordOf libs)
      req.peerId (Reported libs req.peerId) none := by
  cases req with
  | cliRevoke peerId reason written => exact Prog.Tracks.bind (updates_runRevoke roundTrip _)
  | phoneRevoke peerId => exact Prog.Tracks.bind (updates_revokeBondByPeerId roundTrip _)
  | promote peerId => exact Prog.Tracks.bind (updates_promote roundTrip _)

theorem startUpdates_coherent (disk : BondDisk) {requests : List StoreRequest}
    (apart : (requests.map (·.peerId)).Nodup) :
    (startUpdates libs disk requests).Coherent .bonds (recordOf libs) (Reported libs) where
  apart := by
    have keys : (startUpdates libs disk requests).sharers.map (·.key) = requests.map (·.peerId) :=
      map_map
    rw [keys]
    exact apart
  tracks := by
    intro sharer mem
    obtain ⟨req, _, rfl⟩ := mem_map.mp mem
    exact tracks_program roundTrip _
  current := by
    intro sharer mem node viewed
    obtain ⟨req, _, rfl⟩ := mem_map.mp mem
    cases viewed

end

theorem kept_of_coherent {system : Shared BondPath Text Report}
    (coherent : system.Coherent .bonds (recordOf libs) (Reported libs)) : Kept libs system := by
  intro sharer mem
  have tracks := coherent.tracks _ mem
  constructor
  · intro ended
    rw [Prog.eq_done_of_result? ended] at tracks
    obtain ⟨left, bond, viewed, found, revoked⟩ := tracks
    refine ⟨bond, ?_, revoked⟩
    rw [coherent.current _ mem left viewed, found]
  · intro ended
    rw [Prog.eq_done_of_result? ended] at tracks
    obtain ⟨left, bond, viewed, found⟩ := tracks
    refine ⟨left, bond, viewed, found, ?_⟩
    rw [coherent.current _ mem left viewed, found]

/--
If no process replaces a `bonds.toml` that another has replaced since it was
loaded, no reported revocation is undone and no promoted bond is lost.
-/
theorem updates_kept_of_fresh (roundTrip : libs.RoundTrip) (disk : BondDisk)
    {requests : List StoreRequest} (apart : (requests.map (·.peerId)).Nodup) {turns : List Turn}
    (fresh :
      Along (Shared.step .bonds) (Shared.Fresh .bonds) (startUpdates libs disk requests) turns) :
    Throughout (Shared.step .bonds) (Kept libs) (startUpdates libs disk requests) turns := by
  have coherent : Throughout (.step .bonds) (Shared.Coherent .bonds (recordOf libs) (Reported libs))
      (startUpdates libs disk requests) turns :=
    throughout_of_along (fun _ _ met held => held.step met)
      (startUpdates_coherent roundTrip _ apart) fresh
  exact coherent.imp fun _ => kept_of_coherent

end

def byOperator : BondStatus := .revoked "manual: syauth revoke".toList

/-- Libraries that know the files of two phones. -/
def pairedPrimitives : Primitives :=
  .knowing
    [⟨1, [pairedBond 1 .bonded, pairedBond 2 .bonded]⟩,
      ⟨1, [pairedBond 1 byOperator, pairedBond 2 .bonded]⟩,
      ⟨1, [pairedBond 1 .bonded, pairedBond 2 byPhone]⟩,
      ⟨1, [pairedBond 1 byOperator, pairedBond 2 byPhone]⟩, ⟨1, [pairedBond 1 .bonded]⟩,
      ⟨1, [pairedBond 1 byOperator]⟩, ⟨1, [pairedBond 2 .bonded]⟩]

/-- The file of these phones, none of them revoked. -/
def bondsNode (phones : List UInt8) : Node :=
  .file (utf8 (tomlText ⟨1, phones.map (pairedBond · .bonded)⟩)) BOND_FILE_MODE

def pairedDisk : BondDisk
  | .bondDir => some (.directory BOND_DIR_MODE)
  | .bonds => some (bondsNode [1, 2])
  | _ => none

def stagedSecond : BondDisk
  | .bondDir => some (.directory BOND_DIR_MODE)
  | .keysDir => some (.directory BOND_DIR_MODE)
  | .bonds => some (bondsNode [1])
  | .pendingBond => some (bondsNode [2])
  | .pendingKey _ => some (.file (List.replicate 32 7) BOND_FILE_MODE)
  | _ => none

def operatorRevokes : StoreRequest :=
  .cliRevoke firstPeer "manual: syauth revoke".toList (.ok ())

def calls (i count : ℕ) : List Turn := List.replicate count ⟨i, .performed⟩

/-- Both revocations load before either saves. -/
def revokedTwice : Shared BondPath Text Report :=
  run (Shared.step .bonds)
    (startUpdates pairedPrimitives pairedDisk [operatorRevokes, .phoneRevoke secondPeer])
    (calls 0 1 ++ calls 1 1 ++ calls 0 2 ++ calls 1 3)

/-- A promotion between the load and the save of a revocation. -/
def revokedAcross : Shared BondPath Text Report :=
  run (Shared.step .bonds)
    (startUpdates pairedPrimitives stagedSecond [operatorRevokes, .promote secondPeer])
    (calls 0 1 ++ calls 1 13 ++ calls 0 2)

/--
The revocation that saves last makes the other phone bonded again, and the
revocation that was loaded before a promotion drops the promoted bond.
-/
theorem update_lost :
    revokedTwice.sharers.map (·.program.result?) = [some .revoked, some .revoked] ∧
      recordOf pairedPrimitives firstPeer (revokedTwice.disk .bonds) =
        some (pairedBond 1 .bonded) ∧
      revokedAcross.sharers.map (·.program.result?) = [some .revoked, some .promoted] ∧
      recordOf pairedPrimitives secondPeer (revokedAcross.disk .bonds) = none := by
  decide +kernel

/-- The same revocations, one after the other. -/
theorem serial_revocations_kept :
    Throughout (Shared.step .bonds) (Kept pairedPrimitives)
      (startUpdates pairedPrimitives pairedDisk [operatorRevokes, .phoneRevoke secondPeer])
      (calls 0 3 ++ calls 1 4) :=
  updates_kept_of_fresh Primitives.knowing_roundTrip _ (by decide) (by decide +kernel)

end DeskUnlock.Recovery
