import DeskUnlock.Foundation.HexFields
import DeskUnlock.Foundation.Results
import DeskUnlock.Pairing.PairTransaction

/-!
# The recovery journal

`syauth-core/src/pair_recovery.rs`: the text of `pairing-v2.journal` as
`write_journal` renders it and `read_journal` parses it.  The identifier is
read by slicing the text at byte offsets, which panics inside a character; a
panic is the fault `panicked` here.
-/

namespace DeskUnlock.Recovery

open Results Texts List
open Pairing (TransactionId)

/-- Coarse journal state. -/
inductive JournalState where
  | preCommit
  | commitPending
deriving DecidableEq

def JournalState.asStr : JournalState → Text
  | .preCommit => "pre_commit".toList
  | .commitPending => "commit_pending".toList

/-- Parsed `pairing-v2.journal`. -/
@[ext]
structure JournalRecord where
  transaction : TransactionId
  peerId : Text
  peerAddress : Text
  state : JournalState
deriving DecidableEq

/-- Why a journal text is not accepted. -/
inductive JournalFault where
  | malformed
  | panicked
deriving DecidableEq

def journalLine (name value : Text) : Text := name ++ '=' :: value ++ ['\n']

def journalText (record : JournalRecord) : Text :=
  journalLine "version".toList "2".toList ++
    journalLine "transaction_id".toList (hexText record.transaction.toList) ++
    journalLine "peer_id".toList record.peerId ++
    journalLine "peer_address".toList record.peerAddress ++
    journalLine "state".toList record.state.asStr

def transactionByte (text : Text) (i : Fin 16) : Except JournalFault UInt8 :=
  match slice text (i * 2) (i * 2 + 2) with
  | none => .error .panicked
  | some digits =>
    match fromStrRadix16 digits with
    | none => .error .malformed
    | some byte => .ok byte

def parseTransactionId (text : Text) : Except JournalFault TransactionId :=
  if (utf8 text).length ≠ 32 then .error .malformed else List.Vector.mOfFn (transactionByte text)

/-- `field(name).ok_or(Malformed)?`. -/
def requiredField (name text : Text) : Except JournalFault Text :=
  match field name text with
  | none => .error .malformed
  | some value => .ok value

def parseJournalState (value : Text) : Except JournalFault JournalState :=
  if value = "pre_commit".toList then .ok .preCommit
  else if value = "commit_pending".toList then .ok .commitPending else .error .malformed

/-- The part of `read_journal` that parses the text of the file. -/
def readJournalText (text : Text) : Except JournalFault JournalRecord := do
  let idText ← requiredField "transaction_id".toList text
  let tx ← parseTransactionId idText
  let state ← parseJournalState ((field "state".toList text).getD "pre_commit".toList)
  let peerId ← requiredField "peer_id".toList text
  let peerAddress ← requiredField "peer_address".toList text
  return { transaction := tx, peerId, peerAddress, state }

theorem requiredField_eq_ok {name text value : Text} (found : requiredField name text = .ok value) :
    field name text = some value := by
  unfold requiredField at found
  split at found
  · cases found
  · rename_i present
    rw [present]
    exact congrArg _ (Except.ok.inj found)

theorem parseTransactionId_eq :
    parseTransactionId = hexField 16 (fun _ => .malformed) (fun _ => .malformed) .panicked :=
  rfl

theorem parseTransactionId_hexText {id : TransactionId} :
    parseTransactionId (hexText id.toList) = .ok id := by
  rw [parseTransactionId_eq, hexField_hexText]

def journalUntilAddress (tx : TransactionId) (peerId rest : Text) : Text :=
  "version".toList ++ '=' :: "2".toList ++ '\n' ::
    ("transaction_id".toList ++ '=' :: hexText tx.toList ++ '\n' ::
      ("peer_id".toList ++ '=' :: peerId ++ '\n' :: ("peer_address".toList ++ '=' :: rest)))

theorem journalText_eq {record : JournalRecord} :
    journalText record =
      journalUntilAddress record.transaction record.peerId
        (record.peerAddress ++ '\n' :: journalLine "state".toList record.state.asStr) := by
  have regroup (version two identifier hex peer peerId addr
      peerAddress state : Text) :
      journalLine version two ++ journalLine identifier hex ++
          journalLine peer peerId ++ journalLine addr peerAddress ++ state =
        version ++ '=' :: two ++ '\n' ::
          (identifier ++ '=' :: hex ++ '\n' ::
            (peer ++ '=' :: peerId ++ '\n' ::
              (addr ++ '=' :: (peerAddress ++ '\n' :: state)))) := by
    simp [journalLine]
  exact regroup _ _ _ _ _ _ _ _ _

variable {tx : TransactionId}

theorem journalUntilAddress_append {peerId first second : Text} :
    journalUntilAddress tx peerId (first ++ second) =
      journalUntilAddress tx peerId first ++ second := by
  have regroup (version identifier peer addr : Text) :
      version ++ '\n' :: (identifier ++ '\n' ::
          (peer ++ '\n' :: (addr ++ '=' :: (first ++ second)))) =
        version ++ '\n' :: (identifier ++ '\n' ::
          (peer ++ '\n' :: (addr ++ '=' :: first))) ++ second := by
    simp
  exact regroup _ _ _ _

theorem field_journalUntilAddress {name : Text} (plain : '=' ∉ name) (tx : TransactionId)
    {peerId : Text} (single : '\n' ∉ peerId) (rest : Text) :
    field name (journalUntilAddress tx peerId rest) =
      if name = "version".toList then some "2".toList
      else if name = "transaction_id".toList then some (hexText tx.toList)
      else if name = "peer_id".toList then some (stripCr peerId)
      else field name ("peer_address".toList ++ '=' :: rest) := by
  have identifier : '\n' ∉ "transaction_id".toList ++ '=' :: hexText tx.toList :=
    not_mem_named (by decide) fun inside => @hexText_forall (· ≠ '\n') (by decide) _ _ inside rfl
  have peer : '\n' ∉ "peer_id".toList ++ '=' :: peerId := not_mem_named (by decide) single
  have uncut : stripCr (hexText tx.toList) = hexText tx.toList :=
    if_neg fun ends => @hexText_forall (· ≠ '\r') (by decide) _ _ (mem_of_getLast? ends) rfl
  have version : '\n' ∉ "version".toList ++ '=' :: "2".toList := by decide
  have two : stripCr "2".toList = "2".toList := by decide
  unfold journalUntilAddress
  rw [field_named_line plain (by decide) version]
  rw [field_named_line plain (by decide) identifier]
  rw [field_named_line plain (by decide) peer]
  rw [uncut, two]

theorem readJournalText_journalUntilAddress {peerId : Text} (single : '\n' ∉ peerId) {rest : Text} :
    readJournalText (journalUntilAddress tx peerId rest) = do
      let state ←
        parseJournalState
          ((field "state".toList ("peer_address".toList ++ '=' :: rest)).getD "pre_commit".toList)
      let peerAddress ← requiredField "peer_address".toList ("peer_address".toList ++ '=' :: rest)
      return ⟨tx, stripCr peerId, peerAddress, state⟩ := by
  have read (name : Text) (plain : '=' ∉ name) := field_journalUntilAddress plain tx single rest
  have identifier := read "transaction_id".toList (by decide)
  have peer := read "peer_id".toList (by decide)
  have addr := read "peer_address".toList (by decide)
  have state := read "state".toList (by decide)
  rw [if_neg (by decide), if_pos rfl] at identifier
  rw [if_neg (by decide), if_neg (by decide), if_pos rfl] at peer
  rw [if_neg (by decide), if_neg (by decide), if_neg (by decide)] at addr state
  unfold readJournalText
  simp only [requiredField, identifier, peer, addr, state]
  simp only [bind, Except.bind, parseTransactionId_hexText]

variable {peerId peerAddress : Text}

theorem readJournalText_open (single : '\n' ∉ peerId) (unbroken : '\n' ∉ peerAddress) :
    readJournalText (journalUntilAddress tx peerId peerAddress) =
    .ok ⟨tx, stripCr peerId, peerAddress, .preCommit⟩ := by
  have line : '\n' ∉ "peer_address".toList ++ '=' :: peerAddress :=
    not_mem_named (by decide) unbroken
  have addr :
      field "peer_address".toList
          ("peer_address".toList ++ '=' :: peerAddress) =
        some peerAddress := by
    rw [field_named_open (by decide) (by decide) line, if_pos rfl]
  have state :
      field "state".toList
          ("peer_address".toList ++ '=' :: peerAddress) =
        none := by
    rw [field_named_open (by decide) (by decide) line, if_neg (by decide)]
  rw [readJournalText_journalUntilAddress single, state, requiredField, addr]
  rfl

theorem readJournalText_line (single : '\n' ∉ peerId) (unbroken : '\n' ∉ peerAddress)
    {rest : Text} :
    readJournalText
        (journalUntilAddress tx peerId (peerAddress ++ '\n' :: rest)) = do
      let state ← parseJournalState ((field "state".toList rest).getD "pre_commit".toList)
      return ⟨tx, stripCr peerId, stripCr peerAddress, state⟩ := by
  have line : '\n' ∉ "peer_address".toList ++ '=' :: peerAddress :=
    not_mem_named (by decide) unbroken
  have assoc :
      "peer_address".toList ++ '=' :: (peerAddress ++ '\n' :: rest) =
        "peer_address".toList ++ '=' :: peerAddress ++ '\n' :: rest := by
    rw [append_assoc, cons_append]
  rw [readJournalText_journalUntilAddress single, assoc]
  rw [field_named_line (by decide) (by decide) line,
    requiredField, field_named_line (by decide) (by decide) line]
  rfl

variable {record : JournalRecord}

theorem readJournalText_journalText (single : '\n' ∉ record.peerId)
    (unbroken : '\n' ∉ record.peerAddress) (peerKept : stripCr record.peerId = record.peerId)
    (addressKept : stripCr record.peerAddress = record.peerAddress) :
    readJournalText (journalText record) = .ok record := by
  have state :
      field "state".toList (journalLine "state".toList record.state.asStr) =
        some record.state.asStr := by
    cases record.state <;> decide
  have parsed : parseJournalState record.state.asStr = .ok record.state := by
    cases record.state <;> decide
  rw [journalText_eq, readJournalText_line single unbroken, state,
    Option.getD_some, parsed, peerKept, addressKept]
  rfl

theorem stripCr_of_plain {text : Text} (plain : ∀ char ∈ text, char ≠ '\r') : stripCr text = text :=
  if_neg fun ends => plain _ (mem_of_getLast? ends) rfl

def Unbroken (text : Text) : Prop := ∀ char ∈ text, char ≠ '\n' ∧ char ≠ '\r'

theorem readJournalText_of_unbroken (peer : Unbroken record.peerId)
    (addr : Unbroken record.peerAddress) : readJournalText (journalText record) = .ok record := by
  apply readJournalText_journalText
  · exact fun inside => (peer _ inside).1 rfl
  · exact fun inside => (addr _ inside).1 rfl
  · exact stripCr_of_plain fun char inside => (peer _ inside).2
  · exact stripCr_of_plain fun char inside => (addr _ inside).2

theorem segments_journalUntilAddress (tx : TransactionId)
    (single : '\n' ∉ peerId) (unbroken : '\n' ∉ peerAddress) :
    segments (journalUntilAddress tx peerId peerAddress) =
      ([ "version".toList ++ '=' :: "2".toList,
          "transaction_id".toList ++ '=' :: hexText tx.toList, "peer_id".toList ++ '=' :: peerId ],
        "peer_address".toList ++ '=' :: peerAddress) := by
  have version : '\n' ∉ "version".toList ++ '=' :: "2".toList := by decide
  have identifier : '\n' ∉ "transaction_id".toList ++ '=' :: hexText tx.toList :=
    not_mem_named (by decide) fun inside => @hexText_forall (· ≠ '\n') (by decide) _ _ inside rfl
  have peer : '\n' ∉ "peer_id".toList ++ '=' :: peerId := not_mem_named (by decide) single
  have line : '\n' ∉ "peer_address".toList ++ '=' :: peerAddress :=
    not_mem_named (by decide) unbroken
  unfold journalUntilAddress
  rw [segments_append_newline version, segments_append_newline identifier,
    segments_append_newline peer, segments_of_unterminated line]

/-- Nothing shorter has this address. -/
theorem readJournalText_cut {peerId peerAddress cut : Text} (single : '\n' ∉ peerId)
    (unbroken : '\n' ∉ peerAddress) (shorter : cut <+: journalUntilAddress tx peerId peerAddress)
    (read : readJournalText cut = .ok record) (same : record.peerAddress = peerAddress) :
    cut = journalUntilAddress tx peerId peerAddress := by
  obtain ⟨_, _, read⟩ := bind_eq_ok read
  obtain ⟨_, _, read⟩ := bind_eq_ok read
  obtain ⟨_, _, read⟩ := bind_eq_ok read
  obtain ⟨_, _, read⟩ := bind_eq_ok read
  obtain ⟨addr, found, read⟩ := bind_eq_ok read
  have address_eq : addr = peerAddress := by rw [← same, ← Except.ok.inj read]
  rw [address_eq] at found
  have lines := segments_journalUntilAddress tx single unbroken
  apply eq_of_field_of_prefix shorter _ _ (requiredField_eq_ok found)
  · rw [lines]
    intro line mem
    simp only [mem_cons, not_mem_nil, or_false] at mem
    rcases mem with rfl | rfl | rfl
    · rw [keyed_named (by decide) (by decide), if_neg (by decide)]
    · rw [keyed_named (by decide) (by decide), if_neg (by decide)]
    · rw [keyed_named (by decide) (by decide), if_neg (by decide)]
  · rw [lines]

end DeskUnlock.Recovery
