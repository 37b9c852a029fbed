import DeskUnlock.Foundation.FileProgram
import DeskUnlock.Recovery.Journal

/-!
# The bond store

`syauth-core/src/bond.rs`.  The store is written to a temporary file and
renamed into place.  The hash, the key derivation and the TOML codec are
libraries outside the repository: they are the fields of `Primitives`.
-/

namespace DeskUnlock.Recovery

open FilePrograms Texts
open Pairing (Pubkey)

def PEER_ID_BLAKE3_BYTES : Nat := 16

def BOND_FILE_MODE : Nat := 0o600

def BOND_DIR_MODE : Nat := 0o700

def BOND_SCHEMA_VERSION_LATEST : Nat := 1

def BOND_HKDF_INFO_V1 : List UInt8 := utf8 "syauth-bond-v1".toList

def BOND_KEY_DERIVED_BYTES : Nat := 32

def BOND_DIR_PERMISSION_MASK : Nat := 0o777

/-- Status of a bonded peer at the time it was last mutated. -/
inductive BondStatus where
  | bonded
  | revoked (reason : Text)
deriving DecidableEq

/-- A point in time with the offset it is displayed in. -/
structure OffsetDateTime where
  unixNanos : Int
  offsetSeconds : Int
deriving DecidableEq

/-- A single bonded peer recorded on disk. -/
structure Bond where
  peerId : Text
  pubkey : Pubkey
  name : Text
  createdAt : OffsetDateTime
  status : BondStatus
deriving DecidableEq

/-- On-disk representation of the entire bond file. -/
structure BondFile where
  schemaVersion : Nat
  bonds : List Bond
deriving DecidableEq

/-- In-memory bond store. -/
structure BondStore where bonds : List Bond
deriving DecidableEq

abbrev BondKey := List.Vector UInt8 BOND_KEY_DERIVED_BYTES

/-- The libraries that the bond store is built on. -/
structure Primitives where
  /-- `blake3::hash`. -/
  blake3 : List UInt8 → List.Vector UInt8 32
  /-- HKDF-SHA256 without salt, expanded to the width of a bond key. -/
  hkdf : List UInt8 → List UInt8 → Option BondKey
  /-- `toml::from_str`. -/
  fromToml : Text → Option BondFile
  /-- `toml::to_string`. -/
  toToml : BondFile → Option Text

namespace Primitives

/-- What the TOML codec writes, it reads back. -/
def RoundTrip (libs : Primitives) : Prop :=
  ∀ file text, libs.toToml file = some text → libs.fromToml text = some file

variable (libs : Primitives)

def peerIdFromPubkey (pubkey : Pubkey) : Text :=
  hexText ((libs.blake3 pubkey.toList).toList.take PEER_ID_BLAKE3_BYTES)

def bondKeyFromPubkeys (hostPubkey phonePubkey : Pubkey) : BondKey :=
  (libs.hkdf (hostPubkey.toList ++ phonePubkey.toList)
    BOND_HKDF_INFO_V1).getD (List.Vector.replicate _ 0)

end Primitives

/-! ### The text of the file -/

def twoDigits (value : Nat) : Text := [Nat.digitChar (value / 10 % 10), Nat.digitChar (value % 10)]

/-- RFC 3339, for a time on the first day of the epoch. -/
def rfc3339 (time : OffsetDateTime) : Text :=
  let seconds := (time.unixNanos / 1000000000).toNat
  "1970-01-01T".toList ++ twoDigits (seconds / 3600) ++ ':' :: twoDigits (seconds / 60 % 60) ++
    ':' :: twoDigits (seconds % 60) ++ ['Z']

def tomlLine (key value : Text) : Text := key ++ " = \"".toList ++ value ++ "\"\n".toList

/-- The fields of a status; `kind` is the tag of the enumeration. -/
def tomlStatus : BondStatus → Text
  | .bonded => tomlLine "kind".toList "Bonded".toList
  | .revoked reason => tomlLine "kind".toList "Revoked".toList ++ tomlLine "reason".toList reason

/-- A `[[bond]]` table. -/
def tomlTable (peerId pubkey name createdAt : Text) (status : BondStatus) : Text :=
  "\n[[bond]]\n".toList ++ tomlLine "peer_id".toList peerId ++ tomlLine "pubkey".toList pubkey ++
    tomlLine "name".toList name ++ tomlLine "created_at".toList createdAt ++
    "\n[bond.status]\n".toList ++ tomlStatus status

def tomlHeader (schemaVersion : Nat) : Text :=
  "schema_version = ".toList ++ (Nat.repr schemaVersion).toList ++ ['\n']

/-- The text of a bond file whose strings need no escapes. -/
def tomlText (file : BondFile) : Text :=
  tomlHeader file.schemaVersion ++
    file.bonds.flatMap fun bond =>
      tomlTable bond.peerId (hexText bond.pubkey.toList) bond.name (rfc3339 bond.createdAt)
        bond.status

/--
Libraries that know the text of these files.  A key is its own hash, and two
keys derive their exclusive or.
-/
def Primitives.knowing (files : List BondFile) : Primitives where
  blake3 bytes := if sized : bytes.length = 32 then ⟨bytes, sized⟩ else .replicate 32 0
  hkdf secret _ :=
    if sized : secret.length = 64 then
      some ⟨List.zipWith (· ^^^ ·) (secret.take 32) (secret.drop 32), by simp [sized]; rfl⟩
    else none
  fromToml text := files.find? (tomlText · = text)
  toToml file :=
    if files.find? (tomlText · = tomlText file) = some file then some (tomlText file) else none

theorem Primitives.knowing_roundTrip {files : List BondFile} : (knowing files).RoundTrip := by
  intro file text written
  simp only [knowing, Option.ite_none_right_eq_some, Option.some.injEq] at written ⊢
  rw [← written.2]
  exact written.1

/-- A phone with such a key, paired at the epoch. -/
def pairedBond (byte : UInt8) (status : BondStatus) : Bond where
  peerId := hexText (List.replicate PEER_ID_BLAKE3_BYTES byte)
  pubkey := .replicate 32 byte
  name := "phone".toList
  createdAt := ⟨0, 0⟩
  status := status

def firstPeer : Text := (pairedBond 1 .bonded).peerId

def secondPeer : Text := (pairedBond 2 .bonded).peerId

def byPhone : BondStatus := .revoked "phone: device dissociated".toList

/--
The paths below the bond directory.  A peer identifier is the hexadecimal
form of a hash, so that distinct arguments are distinct file names.
-/
inductive BondPath where
  | bondDir
  /-- `bonds.toml`. -/
  | bonds
  /-- `pairing-v2.journal`. -/
  | journal
  /-- `pairing-v2.pending`. -/
  | pendingBond
  /-- `keys`. -/
  | keysDir
  /-- `keys/<peer_id>.bin`. -/
  | activeKey (peerId : Text)
  /-- `keys/<peer_id>.bin.tmp`. -/
  | activeKeyTmp (peerId : Text)
  /-- `keys/.pending-<peer_id>.bin`. -/
  | pendingKey (peerId : Text)
  /-- `keys/.pending-<peer_id>.bin.tmp`. -/
  | pendingKeyTmp (peerId : Text)
deriving DecidableEq

abbrev BondDisk := Disk BondPath

/-- The errors of the bond store. -/
inductive BondError where
  | io (path : BondPath) (source : IoError)
  | parse
  | serialize
  | unsupportedSchemaVersion (found supportedUpTo : Nat)
  | alreadyBonded (peerId : Text)
  | unknownPeer (peerId : Text)
  | parentDirTooPermissive (path : BondPath) (mode expected : Nat)
  | peerIdMismatch (found expected : Text)
deriving DecidableEq

namespace BondStore

def empty : BondStore := ⟨[]⟩

def bonds? (store : BondStore) (peerId : Text) : Bool := store.bonds.any (·.peerId = peerId)

def add (store : BondStore) (bond : Bond) : Except BondError BondStore :=
  if store.bonds? bond.peerId then .error (.alreadyBonded bond.peerId)
  else .ok ⟨store.bonds ++ [bond]⟩

def remove (store : BondStore) (peerId : Text) : Except BondError BondStore :=
  if store.bonds? peerId then .ok ⟨store.bonds.eraseP (·.peerId = peerId)⟩
  else .error (.unknownPeer peerId)

/-- Revoking a revoked bond keeps the first reason. -/
def markRevoked (store : BondStore) (peerId reason : Text) : Except BondError BondStore :=
  match store.bonds.findIdx? (·.peerId = peerId) with
  | none => .error (.unknownPeer peerId)
  | some i =>
    .ok ⟨store.bonds.modify i fun bond =>
      match bond.status with
      | .revoked _ => bond
      | .bonded => { bond with status := .revoked reason }⟩

end BondStore

section

variable (libs : Primitives)

def checkPeerIds : List Bond → Except BondError Unit
  | [] => .ok ()
  | bond :: rest =>
    let expected := libs.peerIdFromPubkey bond.pubkey
    if bond.peerId ≠ expected then .error (.peerIdMismatch bond.peerId expected)
    else checkPeerIds rest

/-- The part of `BondStore::load` after the text was read. -/
def parseBondStore (raw : Text) : Except BondError BondStore := do
  match libs.fromToml raw with
  | none => throw .parse
  | some parsed =>
    if BOND_SCHEMA_VERSION_LATEST < parsed.schemaVersion then
      throw (.unsupportedSchemaVersion parsed.schemaVersion BOND_SCHEMA_VERSION_LATEST)
    checkPeerIds libs parsed.bonds
    return ⟨parsed.bonds⟩

def decodeBondStore (path : BondPath) (bytes : List UInt8) : Except BondError BondStore :=
  match utf8Decode? bytes with
  | none => .error (.io path .failed)
  | some raw => parseBondStore libs raw

def BondStore.load (path : BondPath) :
    Fallible BondPath BondError BondStore := do
  match ← readFile path with
  | .error .notFound => return .empty
  | .error error => throw (.io path error)
  | .ok bytes => ExceptT.mk (Prog.done (decodeBondStore libs path bytes))

def BondStore.serializeToToml (store : BondStore) : Except BondError (List UInt8) :=
  match libs.toToml ⟨BOND_SCHEMA_VERSION_LATEST, store.bonds⟩ with
  | none => .error .serialize
  | some text => .ok (utf8 text)

def privateMode (mode : Nat) : Bool :=
  (mode &&& BOND_DIR_PERMISSION_MASK) &&& (BOND_DIR_PERMISSION_MASK ^^^ BOND_DIR_MODE) = 0

def ensureParentDir (parent : BondPath) :
    Fallible BondPath BondError Unit := do
  match ← pathMetadata parent with
  | .ok (.directory mode) =>
    if !privateMode mode then
      throw (.parentDirTooPermissive parent (mode &&& BOND_DIR_PERMISSION_MASK) BOND_DIR_MODE)
  | .ok (.file _ _) => throw (.io parent .failed)
  | .error .notFound =>
    call (.createDirAll parent) (.io parent)
    call (.setPermissions parent BOND_DIR_MODE) (.io parent)
  | .error error => throw (.io parent error)

def BondStore.save (store : BondStore) (path : BondPath) :
    Fallible BondPath BondError Unit := do
  ensureParentDir .bondDir
  let bytes ← ExceptT.mk (Prog.done (store.serializeToToml libs))
  call (.persist path bytes BOND_FILE_MODE) (.io path)

end

end DeskUnlock.Recovery
