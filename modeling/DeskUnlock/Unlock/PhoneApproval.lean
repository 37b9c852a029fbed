import DeskUnlock.Foundation.Runs
import DeskUnlock.Pairing.Snapshot
import DeskUnlock.Unlock.Frame

/-!
# Approval on the phone

What the phone does with the bytes that the desktop notifies on the challenge
characteristic: `handleIncomingFrame` and `launchApprovalActivity` of
`bg/SyauthCompanionService.kt`, and `ChallengeApprovalActivity` with its
production `AndroidBiometricGate` in `bg/ChallengeApprovalActivity.kt`.  The
verifier is `verify_challenge_frame` of `syauth-mobile/src/implementation.rs`.

A client is named by the bond it was built for.  The operating system decides
when an approval activity is started from an intent and how the biometric
prompt ends: these are events.  The service has a verifier installed, but
nothing calls it: every frame that is not a revocation starts an approval.
-/

namespace DeskUnlock.Unlock

open Texts Runs Results List Function
open Pairing (Bytes Pubkey MobileError)
open Recovery (BondKey Primitives)

/-! ## The functions of the mobile library -/

def MOBILE_BOND_KEY_LEN : Nat := 32

def bondKeyArray (bondKey : Bytes) : Except MobileError BondKey :=
  if sized : bondKey.length = MOBILE_BOND_KEY_LEN then .ok ⟨bondKey, sized⟩
  else
    .error (.invalidKey
      ("bond_key must be ".toList ++ decimal MOBILE_BOND_KEY_LEN ++
        " bytes, got ".toList ++ decimal bondKey.length))

section

variable {SigningKey : Type} (crypto : Crypto SigningKey) (bondKey frameBytes : Bytes)

def verifyChallengeFrame : Except MobileError Bytes := do
  let bondKey ← bondKeyArray bondKey
  let frame ← (Frame.decode frameBytes).mapError fun error =>
    .badFrame ("frame decode failed: ".toList ++ error.text)
  let body ← frame.bodyBytes.mapError fun error =>
    .badFrame ("frame body encode failed: ".toList ++ error.text)
  if verifyTag crypto bondKey body frame.tag then
    return frame.payload
  else throw (.verifyFailed "frame MAC tag did not verify under the supplied bond key".toList)

theorem bondKeyArray_eq_ok_iff {bondKey : Bytes} {key : BondKey} :
    bondKeyArray bondKey = .ok key ↔ key.toList = bondKey := by
  unfold bondKeyArray
  constructor
  · intro taken
    split_ifs at taken with sized
    cases taken
    rfl
  · rintro rfl
    exact dif_pos _

theorem verifyChallengeFrame_eq_ok_iff {bondKey frameBytes payload : Bytes} :
    verifyChallengeFrame crypto bondKey frameBytes = .ok payload ↔ ∃ (key : BondKey) (frame : Frame)
    (body : Bytes), key.toList = bondKey ∧ Frame.decode frameBytes = .ok frame ∧ frame.bodyBytes =
    .ok body ∧ frame.tag = computeTag crypto key body ∧ frame.payload = payload := by
  have tagged : ∀ (key : BondKey) (frame : Frame) (body : Bytes),
      (if verifyTag crypto key body frame.tag then
          (pure frame.payload : Except MobileError Bytes)
        else
          throw (.verifyFailed "frame MAC tag did not verify under the supplied bond key".toList)) =
          .ok payload ↔
        frame.tag = computeTag crypto key body ∧ frame.payload = payload := by
    intro key frame body
    split_ifs with same
    · have same := (of_decide_eq_true same).symm
      exact ⟨fun returned => ⟨same, Except.ok.inj returned⟩, fun both => congrArg _ both.2⟩
    · refine ⟨nofun, ?_⟩
      rintro ⟨other, -⟩
      exact (same (decide_eq_true other.symm)).elim
  simp only [verifyChallengeFrame, bind_eq_ok_iff, mapError_eq_ok_iff,
    bondKeyArray_eq_ok_iff, tagged, exists_and_left]

/-- The bytes are a frame whose tag is the one of its body. -/
def Authentic : Prop :=
  ∃ (key : BondKey) (frame : Frame) (body : Bytes),
    key.toList = bondKey ∧
      Frame.decode frameBytes = .ok frame ∧ frame.bodyBytes = .ok body ∧
      frame.tag = computeTag crypto key body

/-- The verifier takes exactly the authentic frames. -/
theorem verifyChallengeFrame_isOk_iff : (verifyChallengeFrame crypto bondKey frameBytes).isOk =
    true ↔ Authentic crypto bondKey frameBytes := by
  rw [isOk_iff]
  constructor
  · rintro ⟨payload, taken⟩
    obtain ⟨key, frame, body, same, decoded, encoded, tagged, -⟩ :=
      (verifyChallengeFrame_eq_ok_iff _).mp taken
    exact ⟨key, frame, body, same, decoded, encoded, tagged⟩
  · rintro ⟨key, frame, body, same, decoded, encoded, tagged⟩
    exact ⟨frame.payload, (verifyChallengeFrame_eq_ok_iff _).mpr
          ⟨key, frame, body, same, decoded, encoded, tagged, rfl⟩⟩

end

/-- `peer_id_from_pubkey` of the mobile library. -/
def mobilePeerId (libs : Primitives) (pubkey : Bytes) : Except MobileError Text :=
  if sized : pubkey.length = 32 then .ok (libs.peerIdFromPubkey ⟨pubkey, sized⟩)
  else
    .error (.invalidKey
      ("pubkey must be ".toList ++ decimal 32 ++ " bytes, got ".toList ++ decimal pubkey.length))

/-! ## The service -/

/-- `bond/BondRecord.kt`: the bond that the phone holds with one desktop. -/
structure BondRecord where
  peerId : Text
  hostName : Text
  bondKey : Bytes
  keystoreAlias : Text
  phonePubkey : Bytes
deriving DecidableEq

def TRANSACTION_WIRE_VERSION : UInt8 := 2

def OP_REVOKE : UInt8 := 14

def TRANSACTION_MESSAGE_LENGTH : Nat := 18

/-- The desktop says that the association is over. -/
def isRevokeFrame (frameBytes : Bytes) : Bool :=
  frameBytes.length = TRANSACTION_MESSAGE_LENGTH &&
    frameBytes.getD 0 0 = TRANSACTION_WIRE_VERSION && frameBytes.getD 17 0 = OP_REVOKE

/-- The frame without the trailing tag of 16 bytes. -/
def challengeBody (frameBytes : Bytes) : Bytes :=
  if 16 < frameBytes.length then frameBytes.take (frameBytes.length - 16) else frameBytes

/-- The extras of the intent that starts the approval activity. -/
structure ApprovalIntent where
  peerId : Text
  hostname : Text
  challengeBytes : Bytes
  keystoreAlias : Text

/-- A frame and the bond of the client that it arrived on. -/
structure Arrival where
  bond : BondRecord
  frameBytes : Bytes
deriving DecidableEq

def DENIED_FRAME_BYTES : Bytes := List.replicate SIGNATURE_LEN 0

/-- The approval activity, with the arrival that it was started for. -/
structure ChallengeApprovalActivity (SigningKey : Type) where
  arrival : Arrival
  resolvedPeerId : Text
  resolvedHostname : Text
  resolvedChallenge : Bytes
  resolvedKeystoreAlias : Text
  biometricStarted : Bool
  /-- The key that the biometric prompt on screen unlocks. -/
  prompt : Option SigningKey

/-- Bytes handed to the radio in reaction to an arrival. -/
structure SentResponse where
  arrival : Arrival
  bytes : Bytes
deriving DecidableEq

/-- The service with its approval activity. -/
structure Phone (SigningKey : Type) where
  persistedBond : Option BondRecord
  /-- The bonds that the running clients were built for. -/
  clients : List BondRecord
  hostnameResolver : Option (Text → Text)
  keystoreAliasResolver : Option (Text → Text)
  peerIdComputer : Option (Bytes → Option Text)
  keystore : Text → Option SigningKey
  /-- The intents handed to the operating system. -/
  dispatched : List (Arrival × ApprovalIntent)
  activity : Option (ChallengeApprovalActivity SigningKey)
  responses : List SentResponse

namespace Phone

variable {SigningKey : Type}

def start (persistedBond : Option BondRecord) (clients : List BondRecord)
    (hostnameResolver keystoreAliasResolver : Option (Text → Text))
    (peerIdComputer : Option (Bytes → Option Text))
    (keystore : Text → Option SigningKey) : Phone SigningKey where
  persistedBond := persistedBond
  clients := clients
  hostnameResolver := hostnameResolver
  keystoreAliasResolver := keystoreAliasResolver
  peerIdComputer := peerIdComputer
  keystore := keystore
  dispatched := []
  activity := none
  responses := []

def approvalIntent (phone : Phone SigningKey) (peerId : Text)
    (challengeBytes : Bytes) : ApprovalIntent where
  peerId := peerId
  hostname :=
    match phone.hostnameResolver with
    | some hostnameFor => hostnameFor peerId
    | none => peerId
  challengeBytes := challengeBytes
  keystoreAlias :=
    match phone.keystoreAliasResolver with
    | some keystoreAliasFor => keystoreAliasFor peerId
    | none => []

def launchApprovalActivity (phone : Phone SigningKey) (arrival : Arrival)
    (challengeBytes : Bytes) : Phone SigningKey :=
  { phone with
    dispatched := phone.dispatched ++
      [(arrival, phone.approvalIntent arrival.bond.peerId challengeBytes)] }

/-- Delete the bond file and the key of the keystore. -/
def dropLocalBond (phone : Phone SigningKey) (record : BondRecord) : Phone SigningKey :=
  { phone with persistedBond := none, keystore := update phone.keystore record.keystoreAlias none }

def ownId (libs : Primitives) (phone : Phone SigningKey)
    (record : BondRecord) : Option Text :=
  match phone.peerIdComputer with
  | some peerIdFor => peerIdFor record.phonePubkey
  | none => (mobilePeerId libs record.phonePubkey).toOption

def handleIncomingFrame (libs : Primitives) (phone : Phone SigningKey)
    (arrival : Arrival) : Phone SigningKey :=
  if !isRevokeFrame arrival.frameBytes then
    phone.launchApprovalActivity arrival (challengeBody arrival.frameBytes)
  else
    match phone.persistedBond with
    | none => phone
    | some record =>
      match phone.ownId libs record with
      | none => phone
      | some ownId =>
        let frameId := hexText ((arrival.frameBytes.take 17).drop 1)
        if ownId.map Char.toLower = frameId.map Char.toLower then phone.dropLocalBond record
        else phone

/-! ## The approval activity -/

section

variable (phone : Phone SigningKey)

/-- `onCreate`; without a peer or a host the activity ends at once. -/
def onCreate (arrival : Arrival) (intent : ApprovalIntent) : Phone SigningKey :=
  if intent.peerId = [] ∨ intent.hostname = [] then phone
  else
    { phone with
      activity := some {
        arrival := arrival, resolvedPeerId := intent.peerId, resolvedHostname := intent.hostname
        resolvedChallenge := intent.challengeBytes, resolvedKeystoreAlias := intent.keystoreAlias
        biometricStarted := false, prompt := none } }

/--
`writeResponseAndFinish` and the cancel button: the sink writes to the client
of the peer, if there is one.
-/
def respondAndFinish (activity : ChallengeApprovalActivity SigningKey)
    (bytes : Bytes) : Phone SigningKey :=
  { phone with
    activity := none
    responses :=
      if phone.clients.any (·.peerId = activity.resolvedPeerId) then
        phone.responses ++ [⟨activity.arrival, bytes⟩]
      else phone.responses }

/-- What the keystore makes of `initSign`. -/
inductive InitSign where
  | ready
  | permanentlyInvalidated
  | failed

/-- The key under an alias; no key has the empty one. -/
def openPrivateKey (keystoreAlias : Text) : Option SigningKey :=
  if keystoreAlias = [] then none else phone.keystore keystoreAlias

/-- `onApproveClicked` with the production gate, up to its prompt. -/
def onApproveClicked (activity : ChallengeApprovalActivity SigningKey)
    (initSign : InitSign) : Phone SigningKey :=
  match phone.openPrivateKey activity.resolvedKeystoreAlias with
  | none => phone.respondAndFinish activity DENIED_FRAME_BYTES
  | some privateKey =>
    match initSign with
    | .ready => { phone with activity := some { activity with prompt := some privateKey } }
    | .permanentlyInvalidated =>
      { phone with
        keystore :=
          update phone.keystore activity.resolvedKeystoreAlias
            none }.respondAndFinish activity DENIED_FRAME_BYTES
    | .failed => phone.respondAndFinish activity DENIED_FRAME_BYTES

def onPostResume (activity : ChallengeApprovalActivity SigningKey)
    (initSign : InitSign) : Phone SigningKey :=
  if activity.biometricStarted then phone
  else phone.onApproveClicked { activity with biometricStarted := true } initSign

end

/-- How a round of the biometric prompt ends. -/
inductive PromptResult where
  | succeeded
  /-- The result carries no signature object, or `sign` throws. -/
  | signatureUnavailable
  | error
  /-- A finger that is not recognised leaves the prompt on screen. -/
  | softFailed
deriving DecidableEq

def onPromptResult (crypto : Crypto SigningKey) (phone : Phone SigningKey)
    (activity : ChallengeApprovalActivity SigningKey)
    (privateKey : SigningKey) : PromptResult → Phone SigningKey
  | .succeeded =>
    phone.respondAndFinish activity (crypto.sign privateKey activity.resolvedChallenge).toList
  | .signatureUnavailable | .error => phone.respondAndFinish activity DENIED_FRAME_BYTES
  | .softFailed => phone

/-! ## Runs of the phone -/

inductive Event (SigningKey : Type) where
  /-- The desktop notifies bytes on the link of a client. -/
  | notified (arrival : Arrival)
  /-- The operating system delivers an intent that it was handed. -/
  | intentDelivered (i : Nat)
  | postResumed (initSign : InitSign)
  | promptEnded (res : PromptResult)
  | cancelClicked
  /-- The activity is left; it keeps no history. -/
  | dismissed
  /-- Pairing or dissociation, and the clients that the service then runs. -/
  | bondsReloaded (persistedBond : Option BondRecord)
      (clients : List BondRecord) (keystore : Text → Option SigningKey)

section

variable (crypto : Crypto SigningKey) (libs : Primitives)

/-- One callback on the phone. -/
def step (phone : Phone SigningKey) : Event SigningKey → Phone SigningKey
  | .notified arrival =>
    if arrival.bond ∈ phone.clients then phone.handleIncomingFrame libs arrival else phone
  | .intentDelivered i =>
    match phone.activity, phone.dispatched[i]? with
    | none, some (arrival, intent) => phone.onCreate arrival intent
    -- A running instance keeps the extras it was created with.
    | _, _ => phone
  | .postResumed initSign =>
    match phone.activity with
    | none => phone
    | some activity => phone.onPostResume activity initSign
  | .promptEnded res =>
    match phone.activity with
    | none => phone
    | some activity =>
      match activity.prompt with
      | none => phone
      | some privateKey => phone.onPromptResult crypto activity privateKey res
  | .cancelClicked =>
    match phone.activity with
    | none => phone
    | some activity => phone.respondAndFinish activity DENIED_FRAME_BYTES
  | .dismissed => { phone with activity := none }
  | .bondsReloaded persistedBond clients keystore =>
    { phone with persistedBond := persistedBond, clients := clients, keystore := keystore }

/--
Approvals are started, and responses sent, only for frames that are authentic
under the bond they arrived on.
-/
def Guarded (phone : Phone SigningKey) : Prop :=
  (∀ launch ∈ phone.dispatched, Authentic crypto launch.1.bond.bondKey launch.1.frameBytes) ∧
  ∀ resp ∈ phone.responses, Authentic crypto resp.arrival.bond.bondKey resp.arrival.frameBytes

/-- A frame of a running client is a revocation, or the verifier takes it. -/
def Screened (phone : Phone SigningKey) : Event SigningKey → Prop
  | .notified arrival =>
    arrival.bond ∈ phone.clients →
      isRevokeFrame arrival.frameBytes = true ∨
        (verifyChallengeFrame crypto arrival.bond.bondKey arrival.frameBytes).isOk = true
  | _ => True

/-! ## What one step does -/

def Launched (phone : Phone SigningKey) (arrival : Arrival) : Prop :=
  ∃ intent, (arrival, intent) ∈ phone.dispatched

/-- The activity and the responses stem from approvals that were started. -/
structure Traced (phone : Phone SigningKey) : Prop where
  activity : ∀ activity, phone.activity = some activity → phone.Launched activity.arrival
  responses : ∀ resp ∈ phone.responses, phone.Launched resp.arrival

theorem start_traced (persistedBond : Option BondRecord) (clients : List BondRecord)
    (hostnameResolver keystoreAliasResolver : Option (Text → Text))
    (peerIdComputer : Option (Bytes → Option Text)) (keystore : Text → Option SigningKey) :
    (start persistedBond clients hostnameResolver keystoreAliasResolver
      peerIdComputer keystore).Traced where
  activity := nofun
  responses := nofun

variable {phone : Phone SigningKey}

theorem Traced.guarded_iff (traced : phone.Traced) : phone.Guarded crypto ↔
    ∀ launch ∈ phone.dispatched, Authentic crypto launch.1.bond.bondKey launch.1.frameBytes := by
  constructor
  · exact And.left
  · intro launches
    refine ⟨launches, ?_⟩
    intro resp mem
    obtain ⟨intent, launched⟩ := traced.responses _ mem
    exact launches _ launched

theorem Traced.respondAndFinish {activity : ChallengeApprovalActivity SigningKey}
    (traced : phone.Traced) (launched : phone.Launched activity.arrival) (bytes : Bytes) :
    (phone.respondAndFinish activity bytes).Traced where
  activity := nofun
  responses := by
    intro resp mem
    simp only [Phone.respondAndFinish] at mem
    split_ifs at mem with running
    · rcases mem_append.mp mem with old | new
      · exact traced.responses _ old
      · rw [mem_singleton.mp new]
        exact launched
    · exact traced.responses _ mem

theorem onApproveClicked_traced {activity : ChallengeApprovalActivity SigningKey}
    (traced : phone.Traced) (launched : phone.Launched activity.arrival) {initSign : InitSign} :
    (phone.onApproveClicked activity initSign).Traced := by
  unfold onApproveClicked
  split
  · exact traced.respondAndFinish launched _
  · cases initSign with
    | ready =>
      refine ⟨?_, traced.responses⟩
      intro shown same
      cases same
      exact launched
    | permanentlyInvalidated =>
      have dropped :
          Traced { phone with
            keystore := update phone.keystore activity.resolvedKeystoreAlias none } :=
        ⟨traced.activity, traced.responses⟩
      exact dropped.respondAndFinish launched _
    | failed => exact traced.respondAndFinish launched _

/-- Only a frame that is not a revocation starts an approval. -/
theorem handleIncomingFrame_dispatched {phone : Phone SigningKey}
    {arrival : Arrival} : (phone.handleIncomingFrame libs arrival).dispatched =
    if isRevokeFrame arrival.frameBytes then phone.dispatched else phone.dispatched ++
    [(arrival, phone.approvalIntent arrival.bond.peerId (challengeBody arrival.frameBytes))] := by
  unfold handleIncomingFrame
  by_cases revoke : isRevokeFrame arrival.frameBytes = true
  · rw [if_neg (by simp [revoke]), if_pos revoke]
    split
    · rfl
    · split
      · rfl
      · dsimp only
        split_ifs <;> rfl
  · rw [if_pos (by simp [revoke]), if_neg revoke]
    rfl

theorem handleIncomingFrame_frame {phone : Phone SigningKey}
    {arrival : Arrival} : (phone.handleIncomingFrame libs arrival).activity = phone.activity ∧
    (phone.handleIncomingFrame libs arrival).responses = phone.responses := by
  unfold handleIncomingFrame
  split_ifs
  · exact ⟨rfl, rfl⟩
  · split
    · exact ⟨rfl, rfl⟩
    · split
      · exact ⟨rfl, rfl⟩
      · dsimp only
        split_ifs <;> exact ⟨rfl, rfl⟩

theorem handleIncomingFrame_traced (traced : phone.Traced) (arrival : Arrival) :
    (phone.handleIncomingFrame libs arrival).Traced := by
  obtain ⟨sameActivity, sameResponses⟩ := handleIncomingFrame_frame _
  have kept : ∀ other, phone.Launched other →
      (phone.handleIncomingFrame libs arrival).Launched other := by
    rintro other ⟨intent, mem⟩
    refine ⟨intent, ?_⟩
    rw [handleIncomingFrame_dispatched]
    split_ifs
    · exact mem
    · exact mem_append_left _ mem
  constructor
  · intro activity shown
    rw [sameActivity] at shown
    exact kept _ (traced.activity _ shown)
  · intro resp mem
    rw [sameResponses] at mem
    exact kept _ (traced.responses _ mem)

theorem Traced.step {phone : Phone SigningKey} (traced : phone.Traced) (ev : Event SigningKey) :
    (phone.step crypto libs ev).Traced := by
  cases ev with
  | notified arrival =>
    simp only [Phone.step]
    split_ifs
    · exact handleIncomingFrame_traced _ traced _
    · exact traced
  | intentDelivered i =>
    simp only [Phone.step]
    split
    · next arrival intent idle found =>
        unfold onCreate
        split_ifs
        · exact traced
        · refine ⟨?_, traced.responses⟩
          intro shown same
          cases same
          exact ⟨intent, mem_of_getElem? found⟩
    · exact traced
  | postResumed initSign =>
    simp only [Phone.step]
    split
    · exact traced
    · next activity shown =>
        have launched := traced.activity _ shown
        unfold onPostResume
        split_ifs
        · exact traced
        · refine onApproveClicked_traced traced ?_
          exact launched
  | promptEnded res =>
    simp only [Phone.step]
    split
    · exact traced
    · next activity shown =>
        have launched := traced.activity _ shown
        split
        · exact traced
        · cases res with
          | softFailed => exact traced
          | _ => exact traced.respondAndFinish launched _
  | cancelClicked =>
    simp only [Phone.step]
    split
    · exact traced
    · next activity shown => exact traced.respondAndFinish (traced.activity activity shown) _
  | dismissed => exact ⟨nofun, traced.responses⟩
  | bondsReloaded persistedBond clients keystore => exact ⟨traced.activity, traced.responses⟩

theorem step_dispatched {ev : Event SigningKey} (other : ∀ arrival, ev ≠ .notified arrival) :
    (phone.step crypto libs ev).dispatched = phone.dispatched := by
  cases ev with
  | notified arrival => exact (other _ rfl).elim
  | intentDelivered i =>
    simp only [step]
    split
    · unfold onCreate
      split_ifs <;> rfl
    · rfl
  | postResumed initSign =>
    simp only [step]
    split
    · rfl
    · unfold onPostResume onApproveClicked
      split_ifs
      · rfl
      · split
        · rfl
        · cases initSign <;> rfl
  | promptEnded res =>
    simp only [step]
    split
    · rfl
    · split
      · rfl
      · cases res <;> rfl
  | cancelClicked =>
    simp only [step]
    split <;> rfl
  | dismissed | bondsReloaded persistedBond clients keystore => rfl

/-- One step keeps a phone guarded exactly if it is screened. -/
theorem guarded_step_iff (traced : phone.Traced)
    (guarded : phone.Guarded crypto) (ev : Event SigningKey) :
    (phone.step crypto libs ev).Guarded crypto ↔ phone.Screened crypto ev := by
  rw [(traced.step _ _ _).guarded_iff]
  cases ev with
  | notified arrival =>
    simp only [step, Screened]
    by_cases running : arrival.bond ∈ phone.clients
    · rw [if_pos running, handleIncomingFrame_dispatched, verifyChallengeFrame_isOk_iff]
      by_cases revoke : isRevokeFrame arrival.frameBytes = true
      · rw [if_pos revoke]
        exact ⟨fun _ _ => .inl revoke, fun _ => guarded.1⟩
      · rw [if_neg revoke]
        constructor
        · intro launches _
          exact .inr (launches _ (mem_append_right _ (mem_singleton_self _)))
        · intro screened launch mem
          rcases mem_append.mp mem with old | new
          · exact guarded.1 _ old
          · rw [mem_singleton.mp new]
            exact (screened running).resolve_left revoke
    · rw [if_neg running]
      exact ⟨fun _ here => (running here).elim, fun _ => guarded.1⟩
  | _ =>
    rw [step_dispatched _ _ (by intro arrival same; cases same)]
    exact ⟨fun _ => trivial, fun _ => guarded.1⟩

/--
The phone is guarded throughout a run exactly if every frame that is notified
to a running client is a revocation or passes the verifier.
-/
theorem guarded_iff_screened (persistedBond : Option BondRecord) (clients : List BondRecord)
    (hostnameResolver keystoreAliasResolver : Option (Text → Text))
    (peerIdComputer : Option (Bytes → Option Text)) (keystore : Text → Option SigningKey)
    (events : List (Event SigningKey)) :
    Throughout (step crypto libs) (Guarded crypto)
        (start persistedBond clients hostnameResolver keystoreAliasResolver
          peerIdComputer keystore) events ↔
      Along (step crypto libs) (Screened crypto)
        (start persistedBond clients hostnameResolver keystoreAliasResolver
          peerIdComputer keystore) events := by
  have traced :=
    start_traced persistedBond clients hostnameResolver
      keystoreAliasResolver peerIdComputer keystore
  refine @throughout_iff_along _ _ _ _ _ _ ?_ ?_ _ traced ?_ _
  · intro phone ev traced
    exact traced.step _ _ _
  · intro phone ev traced guarded
    exact guarded_step_iff _ _ traced guarded _
  · exact ⟨nofun, nofun⟩

end

def samplePrimitives : Primitives where
  blake3 _ := .replicate 32 0
  hkdf _ _ := none
  fromToml _ := none
  toToml _ := none

def sampleKey : Pubkey := .replicate 32 7

def sampleBond : BondRecord where
  peerId := "desk".toList
  hostName := "desk".toList
  bondKey := List.replicate 32 5
  keystoreAlias := "key".toList
  phonePubkey := sampleKey.toList

def samplePhone : Phone Pubkey :=
  start (some sampleBond) [sampleBond]
    (some fun _ => sampleBond.hostName) (some fun _ => sampleBond.keystoreAlias) none
    (fun keystoreAlias => if keystoreAlias = sampleBond.keystoreAlias then some sampleKey else none)

/-- A frame of one byte arrives, and the user touches the sensor. -/
def forgedRun : List (Event Pubkey) :=
  [.notified ⟨sampleBond, [9]⟩, .intentDelivered 0, .postResumed .ready, .promptEnded .succeeded]

/-- The phone signs the one byte and sends the signature. -/
theorem forged_frame_signed :
    (run (step sampleCrypto samplePrimitives) samplePhone
        forgedRun).responses = [⟨⟨sampleBond, [9]⟩, (sampleCrypto.sign sampleKey [9]).toList⟩] ∧
      ¬ (run (step sampleCrypto samplePrimitives) samplePhone forgedRun).Guarded sampleCrypto := by
  have signed : (run (step sampleCrypto samplePrimitives) samplePhone forgedRun).responses =
      [⟨⟨sampleBond, [9]⟩, (sampleCrypto.sign sampleKey [9]).toList⟩] := by
    decide +kernel
  refine ⟨signed, ?_⟩
  rintro ⟨-, guarded⟩
  obtain ⟨key, frame, body, -, decoded, -⟩ :=
    guarded ⟨⟨sampleBond, [9]⟩, (sampleCrypto.sign _ [9]).toList⟩
      (by rw [signed]; exact mem_singleton_self _)
  cases decoded

end Phone

end DeskUnlock.Unlock
