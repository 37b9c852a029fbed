import DeskUnlock.Recovery.StoreLogic

/-!
# The fields of the bond file

`hex_pubkey` and `rfc3339_dt` of `syauth-core/src/bond.rs` turn a record into
the strings that TOML holds and back; TOML itself and RFC 3339 are libraries.
`save` writes these strings to a temporary file, flushes it and renames it:
the calls behind the one action `persist` of the store are spelled out here,
with what of them a power failure may undo.
-/

namespace DeskUnlock.Recovery

open FilePrograms Texts List Function Option
open Pairing (Pubkey)

/-- Why `hex_pubkey::deserialize` does not return a key. -/
inductive PubkeyFault where
  | length (found : ℕ)
  | parse (byte : ℕ)
  | panicked
deriving DecidableEq

/-- `hex_pubkey::deserialize`. -/
def deserializePubkey : Text → Except PubkeyFault Pubkey := hexField 32 .length .parse .panicked

theorem hexParsers_exactAt_iff (text : Text) :
    (ExactAt .panicked deserializePubkey text ↔ ¬ Misread 32 text) ∧
      (ExactAt .panicked parseTransactionId text ↔ ¬ Misread 16 text) := by
  constructor
  · exact hexField_exactAt_iff fun _ => ⟨nofun, nofun⟩
  · rw [parseTransactionId_eq]
    exact hexField_exactAt_iff fun _ => ⟨nofun, nofun⟩

/-- A sign before every digit is read as a zero, and a slice may end inside `é`. -/
theorem hexParsers_misread :
    deserializePubkey (List.replicate 32 "+f".toList).flatten = .ok (List.Vector.replicate 32 15) ∧
      parseTransactionId (List.replicate 16 "+f".toList).flatten =
        .ok (List.Vector.replicate 16 15) ∧
      hexDecode (List.replicate 32 "+f".toList).flatten = none ∧
      deserializePubkey ("aé".toList ++ List.replicate 61 'a') = .error .panicked ∧
      parseTransactionId ("aé".toList ++ List.replicate 29 'a') = .error .panicked ∧
      readJournalText ("transaction_id=aé".toList ++ List.replicate 29 'a') = .error .panicked := by
  decide +kernel

/-- A record as TOML holds it. -/
structure BondRow where
  peerId : Text
  pubkey : Text
  name : Text
  createdAt : Text
  status : BondStatus
deriving DecidableEq

structure RowFile where
  schemaVersion : Nat
  rows : List BondRow
deriving DecidableEq

/-- TOML over these rows, and the RFC 3339 format of a time. -/
structure FieldCodecs where
  fromToml : Text → Option RowFile
  toToml : RowFile → Option Text
  parse : Text → Option OffsetDateTime
  format : OffsetDateTime → Option Text

def FieldCodecs.RoundTrip (codecs : FieldCodecs) : Prop :=
  (∀ file text, codecs.toToml file = some text → codecs.fromToml text = some file) ∧
    ∀ time text, codecs.format time = some text → codecs.parse text = some time

section

variable (codecs : FieldCodecs)

def serializeBond (bond : Bond) : Option BondRow := do
  let createdAt ← codecs.format bond.createdAt
  return ⟨bond.peerId, hexText bond.pubkey.toList, bond.name, createdAt, bond.status⟩

/-- A panic of the key's reader returns no record either. -/
def deserializeBond (row : BondRow) : Option Bond := do
  let pubkey ← (deserializePubkey row.pubkey).toOption
  let createdAt ← codecs.parse row.createdAt
  return ⟨row.peerId, pubkey, row.name, createdAt, row.status⟩

/-- The store's codec of whole files, from the codecs of their fields. -/
def Primitives.withFields (libs : Primitives) : Primitives :=
  { libs with
    fromToml := fun raw => do
      let file ← codecs.fromToml raw
      let bonds ← file.rows.mapM (deserializeBond codecs)
      return ⟨file.schemaVersion, bonds⟩
    toToml := fun file => do
      let rows ← file.bonds.mapM (serializeBond codecs)
      codecs.toToml ⟨file.schemaVersion, rows⟩ }

variable {codecs} (roundTrip : codecs.RoundTrip)

include roundTrip

theorem deserializeBond_serialized {bond : Bond} {row : BondRow}
    (serialized : serializeBond codecs bond = some row) :
    deserializeBond codecs row = some bond := by
  obtain ⟨createdAt, formatted, same⟩ := bind_eq_some_iff.mp serialized
  cases same
  have key : deserializePubkey (hexText bond.pubkey.toList) = .ok bond.pubkey := hexField_hexText
  simp only [deserializeBond, key, roundTrip.2 _ _ formatted]
  rfl

theorem mapM_deserializeBond {bonds : List Bond} {rows : List BondRow}
    (serialized : bonds.mapM (serializeBond codecs) = some rows) :
    rows.mapM (deserializeBond codecs) = some bonds := by
  induction bonds generalizing rows with
  | nil =>
    cases serialized
    rfl
  | cons bond bonds induction =>
    rw [mapM_cons] at serialized
    obtain ⟨row, first, serialized⟩ := bind_eq_some_iff.mp serialized
    obtain ⟨others, rest, same⟩ := bind_eq_some_iff.mp serialized
    cases same
    rw [mapM_cons, deserializeBond_serialized roundTrip first, induction rest]
    rfl

theorem withFields_roundTrip (libs : Primitives) : (libs.withFields codecs).RoundTrip := by
  intro file text written
  obtain ⟨rows, serialized, written⟩ := bind_eq_some_iff.mp written
  simp only [Primitives.withFields, roundTrip.1 _ _ written,
    mapM_deserializeBond roundTrip serialized, bind_eq_bind, bind_some]
  rfl

end

/-- The store stands under the path, whole. -/
def Saved (libs : Primitives) (store : BondStore) (path : BondPath) (disk : BondDisk) :
    Prop :=
  ∃ text, libs.toToml ⟨BOND_SCHEMA_VERSION_LATEST, store.bonds⟩ = some text ∧
    disk path = some (.file (utf8 text) BOND_FILE_MODE)

/-- Whichever calls fail, the path keeps its file or gets the whole store. -/
theorem holds_saved (libs : Primitives) {path : BondPath} (outside : path ≠ .bondDir)
    (store : BondStore) (disk : BondDisk) :
    Fallible.Holds (fun _ => True)
      (fun after => after path = disk path ∨ Saved libs store path after)
      (fun after reply => reply = .ok () → Saved libs store path after)
      (store.save libs path) disk := by
  apply holds_saveStore
  · exact fun left same => .inl (same _ outside)
  · exact fun _ _ _ => nofun
  · intro left text _ serialized
    have saved : Saved libs store path
        (update left path (some (.file (utf8 text) BOND_FILE_MODE))) :=
      ⟨text, serialized, update_self _ _ _⟩
    exact ⟨.inr saved, fun _ => saved⟩

/-- A file, and whether its content has reached the medium. -/
structure Inode where
  bytes : List UInt8
  mode : ℕ
  synced : Bool
deriving DecidableEq

def Inode.node (file : Inode) : Node := .file file.bytes file.mode

/--
The temporary file, what the path names, and what it names on the medium: the
directory is not flushed, so that the old entry may come back.
-/
structure SaveFiles where
  temp : Option Inode
  target : Option Inode
  stored : Option Inode

/-- The calls of `save` on its temporary file. -/
inductive SaveCall where
  | newIn
  | setTempFileMode (mode : ℕ)
  | writeAll (bytes : List UInt8)
  | syncAll
  | persist

def SaveCall.perform (files : SaveFiles) : SaveCall → SaveFiles
  | .newIn => { files with temp := some ⟨[], 0o600, false⟩ }
  | .setTempFileMode mode => { files with temp := files.temp.map ({ · with mode }) }
  | .writeAll bytes =>
    { files with
      temp := files.temp.map fun file =>
        { file with bytes := file.bytes ++ bytes, synced := false } }
  | .syncAll => { files with temp := files.temp.map ({ · with synced := true }) }
  | .persist => { files with temp := none, target := files.temp }

def saveCalls (bytes : List UInt8) : List SaveCall :=
  [.newIn, .setTempFileMode BOND_FILE_MODE, .writeAll bytes, .syncAll, .persist]

/-- The files after `point.calls` calls, and `point.cut` bytes of a write. -/
def SaveFiles.crash (files : SaveFiles) : List SaveCall → CrashPoint → SaveFiles
  | [], _ => files
  | .writeAll bytes :: _, ⟨0, some count⟩ => (SaveCall.writeAll (bytes.take count)).perform files
  | _ :: _, ⟨0, _⟩ => files
  | call :: rest, ⟨calls + 1, cut⟩ => (call.perform files).crash rest ⟨calls, cut⟩

/-- What may stand under the path after a power failure; of a file that was not
flushed, anything. -/
def SaveFiles.Leaves (files : SaveFiles) (content : Option (List UInt8)) : Prop :=
  ∃ entry ∈ [files.target, files.stored],
    content.isSome = entry.isSome ∧ ∀ file ∈ entry, file.synced = true → content = some file.bytes

/-- The path names a flushed file, or none. -/
def SaveFiles.Settled (files : SaveFiles) : Prop :=
  files.stored = files.target ∧ ∀ file ∈ files.target, file.synced = true

theorem SaveFiles.crash_saveCalls (files : SaveFiles) (bytes : List UInt8) (point : CrashPoint) :
    let left := files.crash (saveCalls bytes) point
    left.stored = files.stored ∧
      (left.target = files.target ∨ left.target = some ⟨bytes, BOND_FILE_MODE, true⟩) := by
  rcases point with ⟨_ | _ | _ | _ | _ | calls, _ | count⟩
  all_goals first | exact ⟨rfl, .inl rfl⟩ | exact ⟨rfl, .inr rfl⟩

/-- A crash inside `persist` leaves the old content or all of the new one. -/
theorem SaveFiles.leaves_crash {files : SaveFiles} (settled : files.Settled)
    {bytes : List UInt8} {point : CrashPoint} {content : Option (List UInt8)}
    (leaves : (files.crash (saveCalls bytes) point).Leaves content) :
    content = files.target.map Inode.bytes ∨ content = some bytes := by
  obtain ⟨stored, target⟩ := files.crash_saveCalls _ _
  obtain ⟨entry, mem, present, flushed⟩ := leaves
  have old (same : entry = files.target) : content = files.target.map Inode.bytes := by
    subst same
    cases standing : files.target with
    | none =>
      rw [standing] at present
      simpa using present
    | some file => exact flushed _ standing (settled.2 _ standing)
  simp only [mem_cons, not_mem_nil, or_false] at mem
  rcases mem with rfl | rfl
  · rcases target with kept | replaced
    · exact .inl (old kept)
    · exact .inr (flushed _ replaced rfl)
  · exact .inl (old (stored.trans settled.1))

/-- The calls together are the one action of the store. -/
theorem saveCalls_persist {disk after : BondDisk} {path : BondPath} {bytes : List UInt8}
    (persisted : (Action.persist path bytes BOND_FILE_MODE).apply disk = some after)
    {files : SaveFiles} :
    after path = ((saveCalls bytes).foldl SaveCall.perform files).target.map Inode.node := by
  rw [Action.apply_persist persisted, update_self]
  rfl

theorem saved_store_loads_back {codecs : FieldCodecs} (roundTrip : codecs.RoundTrip)
    (libs : Primitives) {store : BondStore}
    (hashed : ∀ bond ∈ store.bonds, bond.peerId = libs.peerIdFromPubkey bond.pubkey)
    {path : BondPath} (outside : path ≠ .bondDir) (disk : BondDisk) :
    let libraries := libs.withFields codecs
    let saving := store.save libraries path
    ((Fallible.exec disk saving).2 = .ok () →
        (Fallible.exec (Fallible.exec disk saving).1 (BondStore.load libraries path)).2 =
          .ok store) ∧
      (∀ point, let left := Fallible.crash disk saving point
        left path = disk path ∨ Saved libraries store path left) ∧
      ∀ (files : SaveFiles) bytes,
        (∀ after, (Action.persist path bytes BOND_FILE_MODE).apply disk = some after →
          after path = ((saveCalls bytes).foldl SaveCall.perform files).target.map Inode.node) ∧
        ∀ point content, files.Settled → (files.crash (saveCalls bytes) point).Leaves content →
          content = files.target.map Inode.bytes ∨ content = some bytes := by
  intro libraries saving
  have holds := holds_saved libraries outside store disk
  refine ⟨fun succeeded => ?_, holds.crash trivial, fun files bytes => ⟨?_, ?_⟩⟩
  · obtain ⟨text, serialized, standing⟩ := (holds.run trivial).2 succeeded
    rw [exec_load, standing]
    exact loadReply_saved _ (withFields_roundTrip roundTrip _) serialized hashed path BOND_FILE_MODE
  · exact fun after persisted => saveCalls_persist persisted
  · exact fun point content settled => files.leaves_crash settled

def revokedPhone : Bond := pairedBond 7 (.revoked "phone lost".toList)

def revokedRow : BondRow where
  peerId := revokedPhone.peerId
  pubkey := hexText revokedPhone.pubkey.toList
  name := revokedPhone.name
  createdAt := "1970-01-01T00:00:00Z".toList
  status := revokedPhone.status

def revokedText : Text :=
  tomlHeader 1 ++ tomlTable revokedRow.peerId revokedRow.pubkey revokedRow.name
    revokedRow.createdAt revokedRow.status

/-- A codec for the file of one revoked phone. -/
def revokedCodecs : FieldCodecs where
  fromToml text := if text = revokedText then some ⟨1, [revokedRow]⟩ else none
  toToml file := if file = ⟨1, [revokedRow]⟩ then some revokedText else none
  parse text := if text = rfc3339 ⟨0, 0⟩ then some ⟨0, 0⟩ else none
  format time := if time = ⟨0, 0⟩ then some (rfc3339 time) else none

theorem revokedCodecs_roundTrip : revokedCodecs.RoundTrip := by
  constructor
  · intro file text written
    simp only [revokedCodecs, ite_none_right_eq_some, some.injEq] at written ⊢
    exact ⟨written.2.symm, written.1.symm⟩
  · intro time text written
    simp only [revokedCodecs, ite_none_right_eq_some, some.injEq] at written ⊢
    obtain ⟨rfl, rfl⟩ := written
    exact ⟨rfl, rfl⟩

/-- The libraries of the store, with this codec. -/
def revokedLibs : Primitives := Primitives.withFields revokedCodecs (.knowing [])

/-- The attempt to save that phone, where nothing is on disk yet. -/
def revokedSave : BondDisk × Except BondError Unit :=
  Fallible.exec (fun _ => none) (BondStore.save revokedLibs ⟨[revokedPhone]⟩ .bonds)

theorem revokedSave_succeeds : revokedSave.2 = .ok () := by decide +kernel

theorem revoked_store_loads_back :
    revokedSave.1 .bonds = some (.file (utf8 revokedText) BOND_FILE_MODE) ∧
      (Fallible.exec revokedSave.1 (BondStore.load revokedLibs .bonds)).2 =
        .ok ⟨[revokedPhone]⟩ := by
  have hashed : ∀ bond ∈ [revokedPhone],
      bond.peerId = (Primitives.knowing []).peerIdFromPubkey bond.pubkey := by
    decide +kernel
  have outside : BondPath.bonds ≠ .bondDir := by decide
  refine ⟨by decide +kernel, ?_⟩
  exact (saved_store_loads_back revokedCodecs_roundTrip _ hashed outside _).1 revokedSave_succeeds

end DeskUnlock.Recovery
