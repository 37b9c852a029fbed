import DeskUnlock.Unlock.AuditTrail

/-!
# The text of the audit log

`syauth-presenced/src/audit.rs`: a record is a line of six fields with commas
between them, and nothing is quoted.

The first field is the peer id as the client has sent it.  A challenge to a
peer that nobody knows is audited as well, so that any text can come there:
with a comma the line has more fields, and with a line break there are more
lines than challenges.
-/

namespace DeskUnlock.Unlock

open Texts Dialogues Dialogue List
open Pairing (Bytes)
open Rpc (SystemTime Response)

def AUDIT_FIELD_SEPARATOR : Char := ','

def AuditRecord.fields (record : AuditRecord) : List Text :=
  [record.peerId, record.nonceHex, (toString record.tStartMs).toList,
    (toString record.tEndMs).toList, record.outcome, record.reason]

def formatRecord (record : AuditRecord) : Text :=
  [AUDIT_FIELD_SEPARATOR].intercalate record.fields ++ ['\n']

/-- Fit for one field of one line. -/
def Plain (text : Text) : Prop := AUDIT_FIELD_SEPARATOR ∉ text ∧ '\n' ∉ text

instance (text : Text) : Decidable (Plain text) := inferInstanceAs (Decidable (_ ∧ _))

/-- The log has a line for each of these ids, and its first of six fields is the id. -/
def Faithful (requested : List Text) (log : Text) : Prop :=
  ∃ lines,
    log.splitOn '\n' = lines ++ [[]] ∧
      (∀ line ∈ lines, (line.splitOn AUDIT_FIELD_SEPARATOR).length = 6) ∧
      lines.map (fun line => (line.splitOn AUDIT_FIELD_SEPARATOR).head?) = requested.map some

theorem Faithful.plain {requested : List Text} {log : Text} (faithful : Faithful requested log)
    {peerId : Text} (mem : peerId ∈ requested) : Plain peerId := by
  obtain ⟨lines, split, _, first⟩ := faithful
  have listed : some peerId ∈ requested.map some := mem_map_of_mem mem
  rw [← first] at listed
  obtain ⟨line, inside, head⟩ := mem_map.mp listed
  have field := mem_of_head? head
  have whole : line ∈ log.splitOn '\n' := by
    rw [split]
    exact mem_append_left _ inside
  constructor
  · exact fun found => (mem_of_mem_splitOn field found).2 rfl
  · exact fun found => (mem_of_mem_splitOn whole (mem_of_mem_splitOn field found).1).2 rfl

theorem faithful_of_plain {records : List AuditRecord}
    (plain : ∀ record ∈ records, ∀ field ∈ record.fields, Plain field) :
    Faithful (records.map (·.peerId)) (records.flatMap formatRecord) := by
  induction records with
  | nil => exact ⟨[], rfl, nofun, rfl⟩
  | cons record rest induction =>
    obtain ⟨lines, split, six, first⟩ :=
      induction fun other mem => plain other (mem_cons_of_mem _ mem)
    have fields := plain _ mem_cons_self
    have separate :
        ([AUDIT_FIELD_SEPARATOR].intercalate record.fields).splitOn AUDIT_FIELD_SEPARATOR =
          record.fields :=
      splitOn_intercalate _ (fun field mem => (fields _ mem).1) (cons_ne_nil _ _)
    have single : '\n' ∉ [AUDIT_FIELD_SEPARATOR].intercalate record.fields := by
      intro mem
      rcases mem_intercalate mem with separator | ⟨field, inside, found⟩
      · cases mem_singleton.mp separator
      · exact (fields _ inside).2 found
    refine ⟨[AUDIT_FIELD_SEPARATOR].intercalate record.fields :: lines, ?_, ?_, ?_⟩
    · rw [flatMap_cons, formatRecord, append_assoc, singleton_append,
        splitOn_append_cons_self_of_not_mem single, split, cons_append]
    · refine forall_mem_cons.mpr ⟨?_, six⟩
      rw [separate]
      rfl
    · rw [map_cons, separate, first]
      rfl

theorem plain_toDigits {number : Nat} : Plain (Nat.toDigits 10 number) := by
  have digits {char : Char} (mem : char ∈ Nat.toDigits 10 number) : char.isDigit = true :=
    Nat.isDigit_of_mem_toDigits (by decide) (le_refl 10) mem
  exact ⟨fun mem => absurd (digits mem) (by decide), fun mem => absurd (digits mem) (by decide)⟩

theorem plain_hexText {bytes : List UInt8} : Plain (hexText bytes) :=
  ⟨fun mem => @hexText_forall (· ≠ ',') (by decide) _ _ mem rfl,
    fun mem => @hexText_forall (· ≠ '\n') (by decide) _ _ mem rfl⟩

theorem ChallengeOutcome.plain_reasonStr {out : ChallengeOutcome} : Plain out.reasonStr := by
  cases out <;> simp only [reasonStr] <;> decide

/-! ## The record of a challenge -/

namespace Server

/-- One record was appended, and only its peer id is not plain of itself. -/
def Recorded (peerId : Text) (past : List DaemonTurn) : Prop :=
  ∃ record,
    recordsOf past = [record] ∧ record.peerId = peerId ∧ ∀ field ∈ record.fields.tail, Plain field

/-- After the record only the slot is released. -/
def Unrecorded (past : List DaemonTurn) (question : DaemonQuestion) : Prop :=
  recordsOf past = [] ∨ ∃ entry, question = .releaseSlot entry

section

variable {SigningKey : Type} {crypto : Crypto SigningKey} {past : List DaemonTurn} {peerId : Text}

theorem unrecorded_turn (none : recordsOf past = []) {question : DaemonQuestion}
    (silent : question.record? = .none) :
    Unrecorded past question ∧ ∀ answer, recordsOf (past ++ [⟨question, answer⟩]) = [] := by
  refine ⟨.inl none, fun answer => ?_⟩
  rw [recordsOf_snoc, none, silent]
  rfl

def Recording (peerId : Text) : ChallengePoint → List DaemonTurn → Prop
  | .due nonceHex _, past => recordsOf past = [] ∧ Plain nonceHex
  | .settled _, past => Recorded peerId past
  | _, past => recordsOf past = []

theorem recording_outline {nonceSource : DaemonM (Except Text Nonce)}
    (draws :
      ∀ past, recordsOf past = [] →
        Keeps Unrecorded (fun past _ => recordsOf past = []) past nonceSource)
    {peerId : Text} {deadlineMs : Nat} :
    Outline crypto nonceSource peerId deadlineMs Unrecorded (Recording peerId) where
  turn incidental held := by
    cases incidental with
    | finish =>
      refine .imp_right (fun later answer => ?_) (unrecorded_turn held.1 rfl)
      exact ⟨later _, held.2⟩
    | release =>
      obtain ⟨record, only, rest⟩ := held
      exact ⟨.inr ⟨_, rfl⟩, fun _ => ⟨record, by rw [recordsOf_snoc, only]; rfl, rest⟩⟩
    | _ => exact unrecorded_turn held rfl
  lookup held := by
    refine .imp_right (fun later found => ?_) (unrecorded_turn held rfl)
    cases found with
    | none => exact ⟨later _, by decide⟩
    | some peerState => exact later _
  busy held := ⟨held, by decide⟩
  draw held := by
    refine (draws _ held).imp fun past reply none => ?_
    cases reply with
    | error error => exact ⟨none, by decide⟩
    | ok nonce => exact none
  notify _ held := by
    refine .imp_right (fun later => ?_) (unrecorded_turn held rfl)
    rintro (error | ⟨⟨⟩⟩)
    · exact ⟨later _, plain_hexText⟩
    · exact later _
  wait held := by
    refine .imp_right (fun later reply => ?_) (unrecorded_turn held rfl)
    cases reply with
    | error error => exact ⟨later _, plain_hexText⟩
    | ok responseBytes => exact later _
  refuse _ held := ⟨held, plain_hexText⟩
  check _ _ held := by
    refine .imp_right (fun later replayed => ?_) (unrecorded_turn held rfl)
    exact ⟨later _, plain_hexText⟩
  audit held := by
    refine ⟨.inl held.1, _, by rw [recordsOf_snoc, held.1]; rfl, rfl, ?_⟩
    simp [AuditRecord.fields, held.2, ChallengeOutcome.plain_reasonStr, plain_toDigits]

theorem dispatch_recorded {cfg : ServeConfig} {nonce : Bytes} {back : BackendState}
    (orchestrated : back.orchestrator = true) :
    Keeps Unrecorded (fun past _ => Recorded peerId past) []
      (dispatch crypto cfg (.challenge peerId nonce) back) := by
  unfold dispatch
  dsimp only
  rw [if_pos orchestrated]
  split
  · refine ((recording_outline ?_).issueChallengeFrom ?_).bind fun _ _ recorded => recorded
    · exact fun _ none => none
    · rfl
  · refine ((recording_outline ?_).issueChallengeFrom ?_).bind fun _ _ recorded => recorded
    · exact fun _ none => unrecorded_turn none rfl
    · rfl

end

end Server

/-! ## A sequence of challenges -/

/--
A challenge that the server has dispatched, up to its response or up to the
wait at which it was dropped.  It does not wait when it releases its slot.
-/
structure ServedChallenge {SigningKey : Type} (crypto : Crypto SigningKey)
    (cfg : ServeConfig) where
  peerId : Text
  nonce : Bytes
  backend : BackendState
  past : List DaemonTurn
  position : DaemonM Response
  orchestrated : backend.orchestrator = true
  reached : Reached (dispatch crypto cfg (.challenge peerId nonce) backend) past position
  awaits : ∀ entry next, position ≠ .ask (.releaseSlot entry) next

section

variable {SigningKey : Type} {crypto : Crypto SigningKey} {cfg : ServeConfig}

def ServedChallenge.completed (served : ServedChallenge crypto cfg) : Bool :=
  served.position.result?.isSome

def requestedIds (served : List (ServedChallenge crypto cfg)) : List Text :=
  (served.filter (·.completed)).map (·.peerId)

def auditRecords (served : List (ServedChallenge crypto cfg)) : List AuditRecord :=
  served.flatMap fun challenge => recordsOf challenge.past

def auditText (served : List (ServedChallenge crypto cfg)) : Text :=
  (auditRecords served).flatMap formatRecord

theorem ServedChallenge.records (served : ServedChallenge crypto cfg) :
    if served.completed then Server.Recorded served.peerId served.past
    else recordsOf served.past = [] := by
  have keeps := served.reached.keeps (Server.dispatch_recorded served.orchestrated)
  unfold completed
  cases pos : served.position with
  | done resp =>
    rw [pos] at keeps
    exact keeps
  | ask question next =>
    rw [pos] at keeps
    refine keeps.1.resolve_right ?_
    rintro ⟨entry, rfl⟩
    exact served.awaits _ next pos

theorem auditRecords_spec {served : List (ServedChallenge crypto cfg)} :
    (auditRecords served).map (·.peerId) = requestedIds served ∧
      ∀ record ∈ auditRecords served, ∀ field ∈ record.fields.tail, Plain field := by
  induction served with
  | nil => exact ⟨rfl, nofun⟩
  | cons first rest induction =>
    have records := first.records
    unfold auditRecords requestedIds at induction ⊢
    rw [flatMap_cons, filter_cons]
    split_ifs at records ⊢ with completed
    · obtain ⟨record, only, own, plain⟩ := records
      rw [only, singleton_append, map_cons, own, induction.1]
      exact ⟨rfl, forall_mem_cons.mpr ⟨plain, induction.2⟩⟩
    · rw [records]
      exact induction

/--
The log of a sequence of challenges has one line of six fields for each of
those that were completed, with its peer id in the first, exactly if none of
these ids holds a comma or a line break.
-/
theorem auditText_faithful_iff (crypto : Crypto SigningKey) (cfg : ServeConfig)
    (served : List (ServedChallenge crypto cfg)) :
    Faithful (requestedIds served) (auditText served) ↔
      ∀ peerId ∈ requestedIds served, Plain peerId := by
  obtain ⟨ids, plain⟩ := auditRecords_spec
  constructor
  · exact fun faithful _ mem => faithful.plain mem
  · intro requested
    rw [← ids]
    apply faithful_of_plain
    intro record mem
    refine forall_mem_cons.mpr ⟨requested _ ?_, plain _ mem⟩
    rw [← ids]
    exact mem_map_of_mem mem

end

/-- The id ends a line of its own, which reads as an unlock by the phone. -/
def forgingId : Text := "phone,0,0,0,ok,ok\nx".toList

def forgingChallenge : ServedChallenge sampleCrypto sampleConfig where
  peerId := forgingId
  nonce := []
  backend := ⟨false, true⟩
  past :=
    [] ++ [⟨.now, 0⟩] ++ [⟨.lookupPeer forgingId, none⟩] ++
      [⟨.audit ⟨forgingId, ZERO_NONCE_HEX, 0, 0, OUTCOME_REASON_UNKNOWN_PEER,
        OUTCOME_REASON_UNKNOWN_PEER⟩, ()⟩]
  position := .done (challengeResponse .unknownPeer)
  orchestrated := rfl
  reached := by
    have asked :
        Reached (dispatch sampleCrypto sampleConfig (.challenge forgingId []) ⟨false, true⟩) []
          (.ask .now _) :=
      .start
    have looked := asked.turn (0 : SystemTime)
    have audited := looked.turn none
    exact audited.turn ()
  awaits := nofun

theorem forgingChallenge_adds_line :
    (auditText [forgingChallenge]).splitOn '\n' =
        ["phone,0,0,0,ok,ok".toList,
          "x,00000000000000000000000000000000,0,0,unknown-peer,unknown-peer".toList, []] ∧
      ¬ Faithful (requestedIds [forgingChallenge]) (auditText [forgingChallenge]) := by
  constructor
  · decide +kernel
  · intro faithful
    have requested : forgingId ∈ requestedIds [forgingChallenge] := mem_singleton_self _
    have plain := faithful.plain requested
    revert plain
    decide

end DeskUnlock.Unlock
