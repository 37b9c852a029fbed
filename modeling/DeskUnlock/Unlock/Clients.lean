import DeskUnlock.Unlock.Server

/-!
# The clients of the socket

`syauth-pam/src/auth.rs` and `syauth-cli/src/unlock_request.rs`.  Both pick a
bonded peer, send one challenge request and act on the response: the PAM
module on its `reason`, the unlock request on its `ok`.

A client is a program; the questions of `ClientQuestion` are its calls of the
operating system and of the bond store.
-/

namespace DeskUnlock.Unlock

open Texts Dialogues
open Pairing (Bytes)
open Recovery (Bond BondStore BondError BondPath)
open Rpc (Response)

/-- `Path::join` with a relative name. -/
def joinPath (directory name : Text) : Text :=
  if directory = [] ∨ directory.getLast? = some '/' then directory ++ name
  else directory ++ '/' :: name

def KEYS_DIR_NAME : Text := "keys".toList

def bondsPath (bondDir : Text) : Text := joinPath bondDir "bonds.toml".toList

def shownPath (bondDir : Text) : BondPath → Text
  | .bondDir => bondDir
  | .bonds => bondsPath bondDir
  | .journal => joinPath bondDir "pairing-v2.journal".toList
  | .pendingBond => joinPath bondDir "pairing-v2.pending".toList
  | .keysDir => joinPath bondDir KEYS_DIR_NAME
  | .activeKey peerId => joinPath (joinPath bondDir KEYS_DIR_NAME) (peerId ++ ".bin".toList)
  | .activeKeyTmp peerId => joinPath (joinPath bondDir KEYS_DIR_NAME) (peerId ++ ".bin.tmp".toList)
  | .pendingKey peerId =>
    joinPath (joinPath bondDir KEYS_DIR_NAME) (".pending-".toList ++ peerId ++ ".bin".toList)
  | .pendingKeyTmp peerId =>
    joinPath (joinPath bondDir KEYS_DIR_NAME) (".pending-".toList ++ peerId ++ ".bin.tmp".toList)

def octal (number : Nat) : Text := "0o".toList ++ Nat.toDigits 8 number

def bondErrorText (bondDir : Text) : BondError → Text
  | .io path _ => "bond i/o failed at ".toList ++ shownPath bondDir path
  | .parse => "bond file parse error".toList
  | .serialize => "bond file serialize error".toList
  | .unsupportedSchemaVersion found supportedUpTo =>
    "unsupported bond schema_version: file is v".toList ++ decimal found ++
      ", this build understands up to v".toList ++ decimal supportedUpTo
  | .alreadyBonded peerId => "peer already bonded: peer_id=".toList ++ peerId
  | .unknownPeer peerId => "unknown peer: peer_id=".toList ++ peerId
  | .parentDirTooPermissive path mode expected =>
    "bond parent directory at ".toList ++ shownPath bondDir path ++
      " has too-permissive mode ".toList ++ octal mode ++
      " (expected ".toList ++ octal expected ++ ")".toList
  | .peerIdMismatch found expected =>
    "bond peer_id mismatch: file says ".toList ++ found ++
      ", BLAKE3(pubkey) gives ".toList ++ expected

def PAM_SUCCESS : Int := 0

def PAM_AUTH_ERR : Int := 7

def PAM_AUTHINFO_UNAVAIL : Int := 9

inductive AuthOutcome where
  | success (peerId : Text)
  | authInfoUnavail (reason : Text) (peerId : Option Text)
  | authErr (reason : Text) (peerId : Option Text)
deriving DecidableEq

def AuthOutcome.toPamCode : AuthOutcome → Int
  | .success _ => PAM_SUCCESS
  | .authInfoUnavail _ _ => PAM_AUTHINFO_UNAVAIL
  | .authErr _ _ => PAM_AUTH_ERR

/-- The raw wait status of a process. -/
abbrev ExitStatus := Int

inductive UnlockRequestError where
  | noBondedPeer (reason : Text)
  | connect (path source : Text)
  | exchange (reason : Text)
  | refused (reason : Text)
  | unlock (bin source : Text)
  | unlockStatus (bin arg : Text) (status : ExitStatus)
deriving DecidableEq

/-- How a run of the unlock request ends. -/
inductive UnlockExit where
  | ok
  | error (error : UnlockRequestError)
  /-- The random generator of the system failed. -/
  | panicked
deriving DecidableEq

/-- What a client asks of its system. -/
inductive ClientQuestion where
  /-- `BondStore::load` of the `bonds.toml` in a directory. -/
  | loadBonds (bondDir : Text)
  /-- A nonce of the system's random generator. -/
  | random
  | defaultSocketPath
  | connect (socket : Text)
  | setReadTimeout (milliseconds : Nat)
  | setWriteTimeout (milliseconds : Nat)
  | tryClone
  | write (bytes : Bytes)
  | readExact (count : Nat)
  | loginctlBin
  | runCommand (bin arg : Text)
  | print (line : Text)
  | appendLastLog (out : AuthOutcome)

abbrev ClientAnswer : ClientQuestion → Type
  | .loadBonds _ => Except BondError BondStore
  | .random => Except Text Nonce
  | .defaultSocketPath => Text
  | .connect _ => Except Text Unit
  | .setReadTimeout _ => Except Text Unit
  | .setWriteTimeout _ => Except Text Unit
  | .tryClone => Except Text Unit
  | .write _ => Except Text Unit
  | .readExact _ => Except Text Bytes
  | .loginctlBin => Text
  | .runCommand _ _ => Except Text ExitStatus
  | .print _ => Unit
  | .appendLastLog _ => Unit

abbrev ClientM := Dialogue ClientQuestion ClientAnswer

abbrev ClientTurn := Turn ClientQuestion ClientAnswer

def call (ask : ClientQuestion) : ClientM (ClientAnswer ask) := .ask ask .done

/--
The newest bond whose status is `Bonded`: `first_bonded` of the PAM module and
the choice of `newest_bonded_peer`.  Of equally old ones, the last.
-/
def newestBonded (store : BondStore) : Option Bond :=
  (store.bonds.filter (·.status = .bonded)).foldl
    (fun newest bond =>
      match newest with
      | none => some bond
      | some newest =>
        if bond.createdAt.unixNanos < newest.createdAt.unixNanos then some newest else some bond)
    none

def DAEMON_WRITE_TIMEOUT : Nat := 50

def DAEMON_RESPONSE_BUDGET : Nat := 20000

def OUTCOME_REASON_OFFLINE : Text := "offline".toList

def OUTCOME_REASON_ADAPTER_MISSING : Text := "adapter-missing".toList

def REASON_NO_BONDS_CONFIGURED : Text := "no bonds configured".toList

def REASON_NO_BONDED_PEER : Text := "no bonded peer".toList

structure PamConfig where
  socketPath : Text
  bondDir : Text
  /-- In milliseconds. -/
  authTimeout : Nat

def outcomeReasonToPam (reason : Text) : Int × Text :=
  if reason = OUTCOME_REASON_OK then (PAM_SUCCESS, OUTCOME_REASON_OK)
  else if reason = OUTCOME_REASON_DENIED then (PAM_AUTH_ERR, OUTCOME_REASON_DENIED)
  else if reason = OUTCOME_REASON_REPLAY then (PAM_AUTH_ERR, OUTCOME_REASON_REPLAY)
  else if reason = OUTCOME_REASON_BAD_SIGNATURE then (PAM_AUTH_ERR, OUTCOME_REASON_BAD_SIGNATURE)
  else if reason = OUTCOME_REASON_RESPONSE_TIMEOUT then
    (PAM_AUTHINFO_UNAVAIL, OUTCOME_REASON_RESPONSE_TIMEOUT)
  else if reason = OUTCOME_REASON_OFFLINE then (PAM_AUTHINFO_UNAVAIL, OUTCOME_REASON_OFFLINE)
  else if reason = OUTCOME_REASON_BUSY then (PAM_AUTHINFO_UNAVAIL, OUTCOME_REASON_BUSY)
  else if reason = OUTCOME_REASON_UNKNOWN_PEER then
    (PAM_AUTHINFO_UNAVAIL, OUTCOME_REASON_UNKNOWN_PEER)
  else if reason = OUTCOME_REASON_TRANSPORT_ERROR then
    (PAM_AUTHINFO_UNAVAIL, OUTCOME_REASON_TRANSPORT_ERROR)
  else if reason = OUTCOME_REASON_ADAPTER_MISSING then
    (PAM_AUTHINFO_UNAVAIL, OUTCOME_REASON_ADAPTER_MISSING)
  else (PAM_AUTH_ERR, "unknown-reason".toList)

section

variable (codecs : Codecs)

/-- Every error of the store is the same to the module. -/
def resolvePeerId (cfg : PamConfig) : ClientM (Except AuthOutcome Text) := do
  match ← call (.loadBonds cfg.bondDir) with
  | .error _ =>
    return .error (.authInfoUnavail REASON_NO_BONDS_CONFIGURED none)
  | .ok store =>
    match newestBonded store with
    | none => return .error (.authInfoUnavail REASON_NO_BONDED_PEER none)
    | some bond => return .ok bond.peerId

def daemonRoundTrip (socketPath peerId : Text) (nonce : Nonce)
    (authTimeout : Nat) : ClientM (Except Unit Response) := do
  match ← call (.connect socketPath) with
  | .error _ => return .error ()
  | .ok () =>
    match ← call (.setWriteTimeout DAEMON_WRITE_TIMEOUT) with
    | .error _ => return .error ()
    | .ok () =>
      match ← call (.setReadTimeout (min authTimeout DAEMON_RESPONSE_BUDGET)) with
      | .error _ => return .error ()
      | .ok () =>
        match ← Rpc.writeFrame codecs.request
          (fun bytes => call (.write bytes))
          (.challenge peerId nonce.toList) with
        | .error _ => return .error ()
        | .ok () =>
          let resp ← Rpc.readFrame codecs.response fun count => call (.readExact count)
          return resp.mapError fun _ => ()

/-- The end of `authenticate_inner`: what the response means. -/
def pamVerdict (peerId : Text) : Except Unit Response → AuthOutcome
  | .ok (.challenge _ _ reason) =>
    let (code, staticReason) := outcomeReasonToPam reason
    if code = PAM_SUCCESS then .success peerId
    else if code = PAM_AUTHINFO_UNAVAIL then .authInfoUnavail staticReason (some peerId)
    else .authErr staticReason (some peerId)
  | _ => .authInfoUnavail OUTCOME_REASON_TRANSPORT_ERROR (some peerId)

def authenticateInner (cfg : PamConfig) : ClientM AuthOutcome := do
  match ← resolvePeerId cfg with
  | .error out => return out
  | .ok peerId =>
    match ← call .random with
    | .error _ =>
      return .authInfoUnavail OUTCOME_REASON_TRANSPORT_ERROR (some peerId)
    | .ok nonce =>
      let resp ← daemonRoundTrip codecs cfg.socketPath peerId nonce cfg.authTimeout
      return pamVerdict peerId resp

def authenticate (cfg : PamConfig) : ClientM AuthOutcome := do
  let out ← authenticateInner codecs cfg
  call (.appendLastLog out)
  return out

def CONNECT_TIMEOUT : Nat := 500

def UNLOCK_SESSION_ARG : Text := "unlock-session".toList

structure UnlockRequestOpts where
  socket : Option Text
  bondDir : Text
  peerId : Option Text
  timeoutSecs : Nat
  dryRun : Bool

def newestBondedPeer (bondDir : Text) :
    ClientM (Except UnlockRequestError Text) := do
  match ← call (.loadBonds bondDir) with
  | .error error =>
    return .error (.noBondedPeer (bondErrorText bondDir error))
  | .ok store =>
    match newestBonded store with
    | none =>
      return .error (.noBondedPeer ("no bonded peer in ".toList ++ bondsPath bondDir))
    | some bond => return .ok bond.peerId

/-- `none` if the random generator fails, which is a panic. -/
def challenge (socket peerId : Text) (timeoutMs : Nat) :
    ClientM (Option (Except UnlockRequestError Response)) := do
  match ← call .random with
  | .error _ => return none
  | .ok nonce =>
    match ← call (.connect socket) with
    | .error source => return some (.error (.connect socket source))
    | .ok () =>
      match ← call (.setReadTimeout timeoutMs) with
      | .error error => return some (.error (.exchange error))
      | .ok () =>
        match ← call (.setWriteTimeout CONNECT_TIMEOUT) with
        | .error error => return some (.error (.exchange error))
        | .ok () =>
          match ← call .tryClone with
          | .error error => return some (.error (.exchange error))
          | .ok () =>
            match ← Rpc.writeFrame codecs.request
              (fun bytes => call (.write bytes))
              (.challenge peerId nonce.toList) with
            | .error error =>
              return some (.error (.exchange error.text))
            | .ok () =>
              let resp ← Rpc.readFrame codecs.response fun count => call (.readExact count)
              return some (resp.mapError fun error => .exchange error.text)

def unlockSession (bin : Text) : ClientM (Except UnlockRequestError Unit) := do
  match ← call (.runCommand bin UNLOCK_SESSION_ARG) with
  | .error source => return .error (.unlock bin source)
  | .ok status =>
    if status = 0 then
      return .ok ()
    else
      return .error (.unlockStatus bin UNLOCK_SESSION_ARG status)

def peerLine (verb peerId reason dryRun : Text) : Text :=
  verb ++ " peer=".toList ++ peerId ++ " reason=".toList ++ reason ++ " dry-run=".toList ++ dryRun

/-- `run` once the peer is chosen and the response is there. -/
def actOnResponse (debug : Response → Text) (opts : UnlockRequestOpts)
    (peerId : Text) : Response → ClientM UnlockExit
  | .challenge ok _ reason => do
      if !ok then
        return .error (.refused reason)
      else if opts.dryRun then
        call (.print (peerLine "verified".toList peerId reason "1".toList))
        return .ok
      else
        let bin ← call .loginctlBin
        match ← unlockSession bin with
        | .error error => return .error error
        | .ok () =>
          call (.print (peerLine "unlocked".toList peerId reason "0".toList))
          return .ok
  | resp =>
    return .error (.refused ("unexpected response: ".toList ++ debug resp))

def choosePeer (opts : UnlockRequestOpts) : ClientM (Except UnlockRequestError Text) :=
  match opts.peerId with
  | some peerId => pure (.ok peerId)
  | none => newestBondedPeer opts.bondDir

def chooseSocket (opts : UnlockRequestOpts) : ClientM Text :=
  match opts.socket with
  | some socket => pure socket
  | none => call .defaultSocketPath

/-- `run`; `debug` is the derived formatting of a response. -/
def unlockRequest (debug : Response → Text) (opts : UnlockRequestOpts) :
    ClientM UnlockExit := do
  match ← choosePeer opts with
  | .error error => return .error error
  | .ok peerId =>
    let socket ← chooseSocket opts
    match ← challenge codecs socket peerId (opts.timeoutSecs * 1000) with
    | none => return .panicked
    | some (.error error) => return .error error
    | some (.ok resp) => actOnResponse debug opts peerId resp

end

end DeskUnlock.Unlock
