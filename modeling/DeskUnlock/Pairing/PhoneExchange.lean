import DeskUnlock.Pairing.PhoneDriver

/-!
# The exchange after the Bluetooth bond

`runPostBondExchange` of `pair/impl/RealPairBackend.kt` in `syauth-android`,
the part of a pairing session before the operator compares the codes.
-/

namespace DeskUnlock.Pairing.Phone

open Texts

def PAIR_PUBKEY_LEN : Nat := 32

def PAIR_BOND_KEY_LEN : Nat := 32

def GATT_EXCHANGE_MISSING_REASON : Text := "no GATT exchange wired".toList

def KEYSTORE_UNAVAILABLE_REASON : Text :=
  "Keystore Ed25519 generator unavailable on this device".toList

def KEYSTORE_MINT_FAILED_PREFIX : Text := "Keystore Ed25519 mint failed: ".toList

def KEYSTORE_ALIAS_PREFIX : Text := "syauth.ed25519.".toList

def UPDATE_REQUIRED_REASON : Text :=
  "This version of DeskUnlock must be updated before pairing.".toList

/-- What the phone brings to the exchange, and what the peer answers. -/
structure ExchangeSetup where
  address : Text
  /-- Whether a GATT exchange is wired. -/
  gattExchange : Bool
  /-- The public key that `mintKeystoreEd25519` returned, or its error. -/
  material : Except Text (Option Bytes)
  /-- What `exchangePubkeys` returned, or its error. -/
  hostPubkey : Except Text Bytes
  peerDisplayName : Option Text
  pickedName : Text

/-- `LescResult.Bonded`. -/
structure LescBonded where
  bondKey : Bytes
  peerName : Text
  keystoreAlias : Text
  phonePubkey : Bytes

def keystoreAlias (addr : Text) : Text := KEYSTORE_ALIAS_PREFIX ++ addr.filter (· ≠ ':')

def mintedKey : Except Text (Option Bytes) → Except Text Bytes
  | .error msg => .error (KEYSTORE_MINT_FAILED_PREFIX ++ msg)
  | .ok none => .error KEYSTORE_UNAVAILABLE_REASON
  | .ok (some pubkey) => .ok pubkey

def exchangedKey : Except Text Bytes → Except Text Bytes
  | .error msg => .error ("pair-service exchange failed: ".toList ++ msg)
  | .ok hostPubkey =>
    if hostPubkey.length ≠ PAIR_PUBKEY_LEN then
      .error ("host pubkey wrong length: ".toList ++ hostPubkey.length.repr.toList)
    else .ok hostPubkey

def offeredTransaction : Option Bytes → Except Text TransactionId
  | none => .error UPDATE_REQUIRED_REASON
  | some capability =>
    if offered :
        capability.length = TRANSACTION_MESSAGE_LEN ∧
          capability.getD 0 0 = TRANSACTION_VERSION ∧ capability.getD 17 0 = OP_CAPABILITY then
      .ok (transactionField capability (by rw [offered.1]; decide))
    else .error UPDATE_REQUIRED_REASON

def derivedKey (bondKey : Bytes) : Except Text Bytes :=
  if bondKey.length ≠ PAIR_BOND_KEY_LEN then
    .error ("bond_key wrong length: ".toList ++ bondKey.length.repr.toList)
  else .ok bondKey

def ofResult {Value : Type} (res : Except Text Value) : PhoneM Value := ExceptT.mk (pure res)

def runPostBondExchange (derive : Bytes → Bytes → Bytes)
    (setup : ExchangeSetup) : PhoneM (TransactionId × LescBonded) := do
  ofResult (if setup.gattExchange then .ok () else .error GATT_EXCHANGE_MISSING_REASON)
  let phonePubkey ← ofResult (mintedKey setup.material)
  let hostPubkey ← ofResult (exchangedKey setup.hostPubkey)
  let capability ← readTransactionMessage
  let id ← ofResult (offeredTransaction capability)
  ensure (writeTransactionMessage (message id OP_CAPABILITY))
    "pairing protocol v2 capability write refused".toList false
  let bondKey ← ofResult (derivedKey (derive hostPubkey phonePubkey))
  let pickedName := if setup.pickedName = [] then "Computer DeskUnlock".toList else setup.pickedName
  let bonded : LescBonded :=
    { bondKey
      peerName := setup.peerDisplayName.getD pickedName
      keystoreAlias := keystoreAlias setup.address
      phonePubkey }
  return (id, bonded)

end DeskUnlock.Pairing.Phone
