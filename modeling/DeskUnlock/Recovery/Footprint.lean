import DeskUnlock.Foundation.FileLogic
import DeskUnlock.Recovery.CommitConsumer

/-!
# Footprints

Which files the programs of the bond directory read, and which calls they
make.
-/

namespace DeskUnlock.Recovery

open FilePrograms Texts Fallible

variable {reads : BondPath → Prop} {acts : Action BondPath → Prop}

theorem within_adapt {Error Other Value : Type} {prog : Fallible BondPath Error Value}
    {convert : Error → Other} (within : Fallible.Within reads acts prog) :
    Fallible.Within reads acts (ExceptT.adapt convert prog) :=
  within.bind fun _ => trivial

variable {libs : Primitives} {peerId : Text}

theorem within_load {path : BondPath} (read : reads path) :
    Fallible.Within reads acts (BondStore.load libs path) := by
  refine ⟨read, ?_⟩
  intro reply
  cases reply with
  | ok bytes => exact trivial
  | error error => cases error <;> exact trivial

theorem within_ensureParentDir (created : acts (.createDirAll .bondDir))
    (limited : acts (.setPermissions .bondDir BOND_DIR_MODE)) :
    Fallible.Within reads acts (ensureParentDir .bondDir) := by
  intro reply
  rcases reply with (_ | _) | ⟨bytes, mode⟩ | mode
  · exact within_call_bind created (within_call limited)
  · exact trivial
  · exact trivial
  · change Within reads acts (if !privateMode mode then throw _ else pure ())
    split_ifs <;> exact trivial

theorem within_save {store : BondStore} {path : BondPath} (created : acts (.createDirAll .bondDir))
    (limited : acts (.setPermissions .bondDir BOND_DIR_MODE))
    (persisted : ∀ bytes, acts (.persist path bytes BOND_FILE_MODE)) :
    Fallible.Within reads acts (store.save libs path) := by
  apply within_bind (within_ensureParentDir created limited)
  intro _
  apply within_bind
  · exact trivial
  intro bytes
  exact within_call (persisted _)

theorem within_discard (journal : acts (.remove .journal)) (bond : acts (.remove .pendingBond))
    (key : acts (.remove (.pendingKey peerId))) : Fallible.Within reads acts (discard peerId) := by
  apply within_bind (within_callIgnored journal)
  intro _
  apply within_bind (within_callIgnored bond)
  intro _
  exact within_callIgnored key

theorem within_activateKey (read : reads (.pendingKey peerId))
    (created : acts (.createDirAll .keysDir))
    (written : ∀ key, acts (.write (.activeKeyTmp peerId) key))
    (limited : acts (.setPermissions (.activeKeyTmp peerId) 0o600))
    (renamed : acts (.rename (.activeKeyTmp peerId) (.activeKey peerId))) :
    Fallible.Within reads acts (activateKey peerId) := by
  intro found
  cases found with
  | true =>
    refine ⟨read, fun reply => ?_⟩
    apply within_bind
    · exact trivial
    intro key
    have rest :
        Within reads acts
          (do
            call (.createDirAll .keysDir) .io
            call (.write (.activeKeyTmp peerId) key) .io
            call (.setPermissions (.activeKeyTmp peerId) 0o600) .io
            call (.rename (.activeKeyTmp peerId) (.activeKey peerId)) .io : RecoveryM Unit) := by
      apply within_call_bind created
      apply within_call_bind (written _)
      apply within_call_bind limited
      exact within_call renamed
    split_ifs
    · exact within_bind trivial fun _ => rest
    · exact rest
  | false =>
    intro active
    cases active <;> exact trivial

theorem within_revokeBondByPeerId (read : reads .bonds) (created : acts (.createDirAll .bondDir))
    (limited : acts (.setPermissions .bondDir BOND_DIR_MODE))
    (persisted : ∀ bytes, acts (.persist .bonds bytes BOND_FILE_MODE))
    (removed : acts (.remove (.activeKey peerId))) :
    Fallible.Within reads acts (revokeBondByPeerId libs peerId) := by
  apply within_bind (within_adapt (within_load read))
  intro active
  have rest :
      Within reads acts
        (do
          let revoked ←
            .ofExcept .bond (active.markRevoked peerId "phone: device dissociated".toList)
          .ofBond (revoked.save libs .bonds)
          callIgnored (.remove (.activeKey peerId)) : RecoveryM Unit) := by
    apply within_bind
    · exact trivial
    intro revoked
    apply within_bind (within_adapt (within_save created limited persisted))
    intro _
    exact within_callIgnored removed
  split_ifs
  · exact within_bind trivial fun _ => rest
  · exact rest

end DeskUnlock.Recovery
