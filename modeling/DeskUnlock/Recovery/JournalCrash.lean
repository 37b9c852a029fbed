import DeskUnlock.Foundation.PlacedFiles
import DeskUnlock.Recovery.PairRecovery

/-!
# A crash while the commit decision is recorded

`mark_commit_pending` rewrites the journal with a plain write.  A crash inside
this write leaves an initial part of the new text, and a later `read_journal`
gives it whatever meaning the line-based parser finds.
-/

namespace DeskUnlock.Recovery

open FilePrograms Fallible Results Texts List Function

section

variable (record : JournalRecord)

def JournalRecord.marked : JournalRecord := { record with state := .commitPending }

/-- The journal reads as written, or as marked. -/
def ReadsBack (disk : BondDisk) : Prop :=
  (exec disk readJournal).2 = .ok (some record) ∨
    (exec disk readJournal).2 = .ok (some record.marked)

/-- How many bytes of the new text precede its `state` line. -/
def addressEnd : ℕ :=
  (utf8 (journalUntilAddress record.transaction record.peerId record.peerAddress)).length

/-- A reader of lines drops its last character. -/
def EndsCr (value : Text) : Prop := value.getLast? = some '\r'

/--
The first `count` bytes of the new text stand for the record: the decision is
written, or nothing after the address counts as a `state` line and the record
was not yet marked.  A carriage return at the end of a value is lost with the
newline that follows it.
-/
def Survives (count : ℕ) : Prop :=
  ¬ EndsCr record.peerId ∧
    ((addressEnd record + 21 ≤ count ∧ ¬ EndsCr record.peerAddress) ∨
      (record.state = .preCommit ∧
        addressEnd record ≤ count ∧ count ≤ addressEnd record + 6 ∧
        (EndsCr record.peerAddress → count = addressEnd record)))

def decisionLine : Text := journalLine "state".toList JournalState.commitPending.asStr

theorem utf8_marked_take (count : ℕ) :
    (utf8 (journalText record.marked)).take
        (addressEnd record + count) =
      utf8
        (journalUntilAddress record.transaction record.peerId
          (record.peerAddress ++ ('\n' :: decisionLine).take count)) := by
  have sizes : ('\n' :: decisionLine).map Char.utf8Size = .replicate 22 1 := by decide
  have narrow : ∀ char ∈ '\n' :: decisionLine, char.utf8Size = 1 :=
    fun char mem => eq_of_mem_replicate (sizes ▸ mem_map_of_mem mem)
  have whole : journalText record.marked = journalUntilAddress record.transaction record.peerId
            record.peerAddress ++ ('\n' :: decisionLine) :=
    journalText_eq.trans journalUntilAddress_append
  rw [whole, journalUntilAddress_append, utf8_append, utf8_append,
    addressEnd, take_length_add_append, utf8_take_of_narrow narrow]

/-- The state that the parser finds in the cut line. -/
theorem parse_decisionLine_take {count : ℕ} :
    parseJournalState
        ((field "state".toList (decisionLine.take count)).getD "pre_commit".toList) =
      if count ≤ 5 then .ok .preCommit else if count < 20 then .error .malformed
      else .ok .commitPending := by
  have all : ∀ count : Fin 22,
      parseJournalState
          ((field "state".toList (decisionLine.take count)).getD "pre_commit".toList) =
        if count.val ≤ 5 then .ok .preCommit else if count.val < 20 then .error .malformed
        else .ok .commitPending := by
    decide +kernel
  by_cases short : count < 22
  · exact all ⟨count, short⟩
  · have long : decisionLine.take count = decisionLine.take 21 := by
      rw [take_of_length_le]
      · decide
      · exact le_trans (by decide) (Nat.le_of_not_lt short)
    have last := all ⟨21, by decide⟩
    rw [long, if_neg (by omega), if_neg (by omega)]
    exact last

theorem stripCr_eq_self_iff (value : Text) : stripCr value = value ↔ ¬ EndsCr value := by
  unfold stripCr
  split_ifs with ends
  · refine iff_of_false (fun same => ?_) (not_not_intro ends)
    have filled : value ≠ [] := by
      rintro rfl
      cases ends
    have sized := congrArg length same
    have positive := length_pos_of_ne_nil filled
    rw [length_dropLast] at sized
    omega
  · exact iff_of_true rfl ends

theorem read_eq_iff {addr : Text} {state : JournalState} :
    ((⟨record.transaction, stripCr record.peerId, addr, state⟩ :
          JournalRecord) = record ∨
        ⟨record.transaction, stripCr record.peerId, addr, state⟩ = record.marked) ↔
      ¬ EndsCr record.peerId ∧ addr = record.peerAddress ∧
        (state = record.state ∨ state = .commitPending) := by
  rw [← stripCr_eq_self_iff]
  simp only [JournalRecord.ext_iff]
  tauto

end

section

variable {record : JournalRecord} (single : '\n' ∉ record.peerId)
  (unbroken : '\n' ∉ record.peerAddress)
include single unbroken

/-- Cut off before the end of the address, the text has another address. -/
theorem decodeJournal_early {count : ℕ} (early : count < addressEnd record)
    {read : JournalRecord} (same : read.peerAddress = record.peerAddress) :
    decodeJournal ((utf8 (journalText record.marked)).take count) ≠ .ok read := by
  intro decoded
  have part :
      (utf8 (journalText record.marked)).take count =
        (utf8
          (journalUntilAddress record.transaction record.peerId
            record.peerAddress)).take count := by
    have whole := utf8_marked_take record 0
    rw [add_zero, take_zero, append_nil] at whole
    rw [← whole, take_take, min_eq_left early.le]
  rw [part] at decoded
  unfold decodeJournal at decoded
  split at decoded
  · cases decoded
  · rename_i cut found
    have bytes := utf8_of_utf8Decode? found
    have shorter :
        cut <+: journalUntilAddress record.transaction record.peerId record.peerAddress := by
      apply prefix_of_utf8_prefix
      rw [bytes]
      exact take_prefix _ _
    cases parsed : readJournalText cut with
    | error fault =>
      rw [mapError_eq_ok_iff, parsed] at decoded
      cases decoded
    | ok found =>
      have found_eq : found = read := by
        rw [mapError_eq_ok_iff, parsed] at decoded
        exact Except.ok.inj decoded
      subst found_eq
      have full := readJournalText_cut single unbroken shorter parsed same
      have sized := congrArg length bytes
      rw [full, length_take] at sized
      change addressEnd record = min count (addressEnd record) at sized
      omega

theorem decodeJournal_open :
    decodeJournal
        ((utf8 (journalText record.marked)).take (addressEnd record)) =
      .ok ⟨record.transaction, stripCr record.peerId, record.peerAddress, .preCommit⟩ := by
  have part := utf8_marked_take record 0
  rw [add_zero, take_zero, append_nil] at part
  rw [part, decodeJournal_utf8, readJournalText_open single unbroken]
  rfl

theorem decodeJournal_late (count : ℕ) :
    decodeJournal
        ((utf8 (journalText record.marked)).take (addressEnd record + (count + 1))) =
      if count ≤ 5 then
        .ok ⟨record.transaction, stripCr record.peerId, stripCr record.peerAddress, .preCommit⟩
      else if count < 20 then .error .malformed
      else
        .ok ⟨record.transaction, stripCr record.peerId,
          stripCr record.peerAddress, .commitPending⟩ := by
  rw [utf8_marked_take, take_succ_cons, decodeJournal_utf8,
    readJournalText_line single unbroken, parse_decisionLine_take]
  split_ifs <;> rfl

/-- What the parser makes of each cut of the new text. -/
theorem decodeJournal_cut_iff (count : ℕ) :
    (decodeJournal
          ((utf8 (journalText record.marked)).take count) =
        .ok record ∨
      decodeJournal
          ((utf8 (journalText record.marked)).take count) =
        .ok record.marked) ↔
      Survives record count := by
  rcases lt_or_ge _ (addressEnd _) with early | late
  · constructor
    · rintro (unmarked | marked)
      · exact (decodeJournal_early single unbroken early rfl unmarked).elim
      · have same : record.marked.peerAddress = record.peerAddress := rfl
        exact (decodeJournal_early single unbroken early same marked).elim
    · rintro ⟨_, ⟨written, _⟩ | ⟨_, reached, _⟩⟩
      · omega
      · omega
  · obtain ⟨extra, rfl⟩ := Nat.exists_eq_add_of_le late
    have addr := stripCr_eq_self_iff record.peerAddress
    cases extra with
    | zero =>
      rw [add_zero, decodeJournal_open single unbroken]
      simp only [Except.ok.injEq, read_eq_iff, Survives]
      grind
    | succ extra =>
      rw [decodeJournal_late single unbroken]
      split_ifs with unstated _
      · simp only [Except.ok.injEq, read_eq_iff, Survives]
        grind
      · simp only [Survives]
        grind
      · simp only [Except.ok.injEq, read_eq_iff, Survives]
        grind

end

theorem run_readJournal {disk : BondDisk} :
    exec disk readJournal =
      (disk,
        match disk .journal with
        | none => .ok none
        | some (.directory _) => .error (.io .failed)
        | some (.file bytes _) => (decodeJournal bytes).map some) := by
  unfold readJournal
  rw [exec_readFile_bind, readReply]
  rcases disk .journal with _ | ⟨bytes, mode⟩ | mode
  · rfl
  · dsimp only
    cases decodeJournal bytes <;> rfl
  · rfl

/-- The journal holds the record, in a directory that stands. -/
structure Journalled (record : JournalRecord) (disk : BondDisk) : Prop where
  text : content disk .journal = some (utf8 (journalText record))
  directory : ∃ mode, disk .bondDir = some (.directory mode)

variable {record : JournalRecord}

theorem journalled_of_writeJournal {disk after : BondDisk}
    (written : exec disk (writeJournal record) = (after, .ok ())) : Journalled record after := by
  have unoccupied : ∀ bytes mode, disk .bondDir ≠ some (.file bytes mode) := by
    intro bytes mode standing
    obtain ⟨made, _, created, _⟩ := exec_bind_ok (congrArg _ written)
    have applied := exec_call_ok created
    simp [Action.apply, standing] at applied
  unfold writeJournal at written
  rw [exec_directory unoccupied] at written
  obtain ⟨mode, rfl⟩ := Action.apply_write (exec_call_ok written)
  refine ⟨by simp [content], 0o700, ?_⟩
  rw [update_of_ne (by decide), update_self]

variable {disk : BondDisk}

theorem Journalled.writeJournal {old : JournalRecord} (journalled : Journalled old disk)
    (record : JournalRecord) : ∃ after, exec disk (writeJournal record) = (after, .ok ()) := by
  obtain ⟨mode, standing⟩ := journalled.directory
  obtain ⟨given, file⟩ := exists_file_of_content journalled.text
  obtain ⟨kept, applied⟩ :=
    @apply_write_file _ _ (update disk .bondDir (some _)) .journal
      (by simp [file]) (utf8 (journalText _))
  unfold Recovery.writeJournal
  rw [exec_directory (by simp [standing])]
  exact ⟨_, exec_call applied _⟩

section

variable {record : JournalRecord} {disk : BondDisk}
  (journalled : Journalled record disk) (peer : Unbroken record.peerId)
  (addr : Unbroken record.peerAddress)
include journalled peer addr

theorem Journalled.readJournal : exec disk readJournal = (disk, .ok (some record)) := by
  obtain ⟨mode, standing⟩ := exists_file_of_content journalled.text
  rw [run_readJournal, standing]
  dsimp only
  rw [decodeJournal_of_unbroken peer addr]
  rfl

theorem Journalled.markCommitPending :
    ∃ after, exec disk markCommitPending = (after, .ok ()) ∧ Journalled record.marked after := by
  obtain ⟨after, written⟩ := journalled.writeJournal _
  refine ⟨after, ?_, journalled_of_writeJournal written⟩
  unfold Recovery.markCommitPending
  rw [exec_bind (journalled.readJournal peer addr)]
  exact written

end

def markTimes : ℕ → RecoveryM Unit
  | 0 => pure ()
  | count + 1 => do
    markCommitPending
    markTimes count

theorem Journalled.markTimes (journalled : Journalled record disk)
    (peer : Unbroken record.peerId) (addr : Unbroken record.peerAddress) (count : ℕ) : ∃ after,
    exec disk (markTimes (count + 1)) = (after, .ok ()) ∧ Journalled record.marked after := by
  induction count generalizing record disk with
  | zero =>
    obtain ⟨after, marked, journalled⟩ := journalled.markCommitPending peer addr
    refine ⟨after, ?_, journalled⟩
    unfold Recovery.markTimes
    rw [exec_bind marked]
    rfl
  | succ count induction =>
    obtain ⟨middle, marked, journalled⟩ := journalled.markCommitPending peer addr
    obtain ⟨after, rest, journalled⟩ := induction journalled peer addr
    refine ⟨after, ?_, journalled⟩
    unfold Recovery.markTimes
    rw [exec_bind marked]
    exact rest

/--
A journal that was written reads back, and marking it any number of times
changes nothing but the state.
-/
theorem journal_round_trip :
    (∀ (record : JournalRecord) (disk after : BondDisk),
      Unbroken record.peerId → Unbroken record.peerAddress →
        exec disk (writeJournal record) = (after, .ok ()) →
          exec after readJournal = (after, .ok (some record))) ∧
      ∀ (record : JournalRecord) (disk after : BondDisk) (count : ℕ),
        Unbroken record.peerId → Unbroken record.peerAddress →
          exec disk (writeJournal record) = (after, .ok ()) →
            ∃ final,
              exec after (markTimes (count + 1)) = (final, .ok ()) ∧
                exec final readJournal =
                  (final, .ok (some { record with state := .commitPending })) := by
  refine ⟨?_, ?_⟩
  · intro record disk after peer addr written
    exact (journalled_of_writeJournal written).readJournal peer addr
  · intro record disk after count peer addr written
    obtain ⟨final, marked, journalled⟩ := (journalled_of_writeJournal written).markTimes peer addr _
    exact ⟨final, marked, journalled.readJournal peer addr⟩

def stagedRecord : JournalRecord where
  transaction := List.Vector.replicate 16 7
  peerId := "a1".toList
  peerAddress := "AA:BB".toList
  state := .preCommit

/-- On an empty disk the journal is written, read, marked twice and read again. -/
theorem stagedRecord_round_trip :
    ∃ after final,
      exec (fun _ => none) (writeJournal stagedRecord) = (after, .ok ()) ∧
        exec after readJournal = (after, .ok (some stagedRecord)) ∧
        exec after (markTimes 2) = (final, .ok ()) ∧
        exec final readJournal =
          (final, .ok (some { stagedRecord with state := .commitPending })) := by
  have succeeds : (exec (fun _ => none) (writeJournal stagedRecord)).2 = .ok () := by
    decide +kernel
  have peer : Unbroken stagedRecord.peerId := by simp [Unbroken, stagedRecord]
  have addr : Unbroken stagedRecord.peerAddress := by simp [Unbroken, stagedRecord]
  generalize written : exec (fun _ => none) (writeJournal stagedRecord) = both at succeeds
  obtain ⟨after, res⟩ := both
  subst succeeds
  obtain ⟨final, marked, read⟩ := journal_round_trip.2 _ _ _ 1 peer addr written
  exact ⟨after, final, rfl, journal_round_trip.1 _ _ _ peer addr written, marked, read⟩

/-- How many bytes of the new text a crash leaves, if the write began. -/
def bytesWritten (record : JournalRecord) : CrashPoint → Option ℕ
  | ⟨0, _⟩ | ⟨1, _⟩ => none
  | ⟨2, cut⟩ => cut
  | ⟨_ + 3, _⟩ => some (utf8 (journalText record.marked)).length

/-- The journal that a crash of `mark_commit_pending` leaves. -/
theorem crash_markCommitPending {bytes : List UInt8} {directoryMode mode : ℕ}
    (directory : disk .bondDir = some (.directory directoryMode))
    (file : disk .journal = some (.file bytes mode))
    (decoded : decodeJournal bytes = .ok record) (point : CrashPoint) :
    crash disk markCommitPending point .journal =
      match bytesWritten record point with
      | none => disk .journal
      | some count => some (.file ((utf8 (journalText record.marked)).take count) mode) := by
  have start :
      crash disk markCommitPending point = crash disk (writeJournal record.marked) point := by
    unfold markCommitPending readJournal
    rw [bind_assoc, crash_readFile_bind, readReply_of_file file]
    simp only [decoded]
    rfl
  have made : (Action.createDirAll .bondDir).apply disk = some disk := by
    simp [Action.apply, directory]
  have narrowed : (Action.setPermissions .bondDir 0o700).apply disk =
      some (update disk .bondDir (some (.directory 0o700))) := by
    simp [Action.apply, directory, Node.withMode]
  have kept : update disk .bondDir (some (.directory 0o700)) .journal =
      some (.file bytes mode) := by
    rw [update_of_ne (by decide), file]
  have written :
      (Action.write .journal
          (utf8 (journalText record.marked))).apply
          (update disk .bondDir (some (.directory 0o700))) =
        some
          (update
            (update disk .bondDir (some (.directory 0o700))) .journal
            (some (.file (utf8 (journalText record.marked)) mode))) := by
    simp only [Action.apply, overwrite, kept]
  rw [start]
  unfold writeJournal
  obtain ⟨calls, cut⟩ := point
  -- The three calls make the directory, narrow it and write the journal.
  rcases calls with _ | _ | _ | calls
  · cases cut <;> rfl
  · rw [crash_call_bind made]
    cases cut <;> rfl
  · rw [crash_call_bind made, crash_call_bind narrowed]
    cases cut with
    | none => exact kept.trans file.symm
    | some count =>
      change (overwrite _ BondPath.journal _).getD _ .journal = _
      simp only [overwrite, kept, Option.getD_some, update_self, bytesWritten]
  · rw [crash_call_bind made, crash_call_bind narrowed, crash_call written]
    simp [bytesWritten]

theorem exists_file_of_read (read : (exec disk readJournal).2 = .ok (some record)) :
    ∃ bytes mode, disk .journal = some (.file bytes mode) ∧
    decodeJournal bytes = .ok record ∧ '\n' ∉ record.peerId ∧ '\n' ∉ record.peerAddress := by
  rw [run_readJournal] at read
  rcases found : disk .journal with _ | ⟨bytes, mode⟩ | mode
  · simp [found] at read
  · rw [found] at read
    have decoded : decodeJournal bytes = .ok record := by
      cases res : decodeJournal bytes with
      | error error => simp [res, Except.map] at read
      | ok other =>
        simp only [res, Except.map, Except.ok.injEq, Option.some.injEq] at read
        rw [read]
    refine ⟨bytes, mode, rfl, decoded, ?_⟩
    unfold decodeJournal at decoded
    split at decoded
    · cases decoded
    · rename_i text _
      cases parsed : readJournalText text with
      | error fault =>
        rw [mapError_eq_ok_iff, parsed] at decoded
        cases decoded
      | ok other =>
        have same : other = record := by
          rw [mapError_eq_ok_iff, parsed] at decoded
          exact Except.ok.inj decoded
        subst same
        obtain ⟨_, _, parsed⟩ := bind_eq_ok parsed
        obtain ⟨_, _, parsed⟩ := bind_eq_ok parsed
        obtain ⟨_, _, parsed⟩ := bind_eq_ok parsed
        obtain ⟨peerId, peerField, parsed⟩ := bind_eq_ok parsed
        obtain ⟨addr, addressField, parsed⟩ := bind_eq_ok parsed
        have fields := Except.ok.inj parsed
        rw [← fields]
        exact ⟨not_mem_of_field (requiredField_eq_ok peerField),
            not_mem_of_field (requiredField_eq_ok addressField)⟩
  · simp [found] at read

/--
After a crash of `mark_commit_pending` the journal reads back as the record,
with or without the decision, exactly when the write had not begun or what it
left survives.
-/
theorem markCommitPending_crash_iff {disk : BondDisk} {record : JournalRecord} {directoryMode : ℕ}
    (directory : disk .bondDir = some (.directory directoryMode))
    (read : (exec disk readJournal).2 = .ok (some record)) (point : CrashPoint) :
    ReadsBack record (crash disk markCommitPending point) ↔
      ∀ count, bytesWritten record point = some count → Survives record count := by
  obtain ⟨bytes, mode, file, decoded, single, unbroken⟩ := exists_file_of_read read
  have left := crash_markCommitPending directory file decoded point
  unfold ReadsBack
  rw [run_readJournal, left]
  cases written : bytesWritten record point with
  | none =>
    refine iff_of_true (.inl ?_) nofun
    simp only [file, decoded]
    rfl
  | some count =>
    simp only [Option.some.injEq, forall_eq']
    rw [← decodeJournal_cut_iff single unbroken]
    cases decodeJournal ((utf8 (journalText record.marked)).take count) with
    | error error | ok other => simp [Except.map]

def stagedDisk : BondDisk
  | .bondDir => some (.directory 0o700)
  | .journal => some (.file (utf8 (journalText stagedRecord)) 0o644)
  | _ => none

/-- Cut off inside the word `state`, the journal is that of before. -/
theorem stagedDisk_crash_in_state :
    ReadsBack stagedRecord
      (crash stagedDisk markCommitPending ⟨2, some (addressEnd stagedRecord + 4)⟩) := by
  refine (markCommitPending_crash_iff rfl (by decide +kernel) _).mpr ?_
  rintro count ⟨⟩
  unfold Survives EndsCr
  decide +kernel

/-- Cut off inside the address, the journal names another address. -/
theorem stagedDisk_crash_in_address :
    (exec
        (crash stagedDisk markCommitPending
          ⟨2, some (addressEnd stagedRecord - 1)⟩) readJournal).2 =
        .ok (some { stagedRecord with peerAddress := "AA:B".toList }) ∧
      ¬ ReadsBack stagedRecord
        (crash stagedDisk markCommitPending ⟨2, some (addressEnd stagedRecord - 1)⟩) := by
  unfold ReadsBack
  decide

end DeskUnlock.Recovery
