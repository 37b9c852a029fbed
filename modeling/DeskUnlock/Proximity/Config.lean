import DeskUnlock.Proximity.Decimal

/-!
# Configuration of the proximity engine

The configuration is a file of `name=value` lines.  The engine reads it anew
at each tick and writes it back whenever it moves the baseline; the commands
that choose a profile, enable the engine or reset the baseline write it too.
-/

namespace DeskUnlock.Proximity

open Texts

inductive Profile where
  | near
  | balanced
  | wide
deriving DecidableEq

/-- The values `profile_value` knows for a profile, in dB and seconds. -/
structure ProfileValues where
  farDelta : Text
  nearDelta : Text
  farPersistence : Nat
  nearPersistence : Nat
  returnDelta : Text

def profileValue : Profile → ProfileValues
  | .near =>
    { farDelta := "-5".toList
      nearDelta := "-3".toList, farPersistence := 6, nearPersistence := 3
      returnDelta := "-2".toList }
  | .balanced =>
    { farDelta := "-7".toList
      nearDelta := "-2".toList, farPersistence := 8, nearPersistence := 4
      returnDelta := "-3".toList }
  | .wide =>
    { farDelta := "-9".toList
      nearDelta := "-6".toList, farPersistence := 10, nearPersistence := 5
      returnDelta := "-4".toList }

def Profile.text : Profile → Text
  | .near => "near".toList
  | .balanced => "balanced".toList
  | .wide => "wide".toList

/-- The profile a text names, where `profile_valid` accepts it. -/
def profileValid (text : Text) : Option Profile :=
  if text = "near".toList then some .near else if text = "balanced".toList then some .balanced
  else if text = "wide".toList then some .wide else none

/-- What the engine knows of its configuration; no baseline is the empty text. -/
structure Config where
  profile : Profile := .balanced
  enabled : Bool := true
  baseline : Text := []
deriving DecidableEq

def ALGORITHM_VERSION : Text := "1".toList

/--
The shell reads a line into a key and a value.  The value is all that follows
the first equals sign, without a single equals sign at its end.
-/
def readPair (line : Text) : Text × Text :=
  (line.takeWhile (· != '='),
    if (((line.dropWhile (· != '=')).drop 1).dropWhile (· != '=')) = ['='] then
      ((line.dropWhile (· != '=')).drop 1).takeWhile (· != '=')
    else (line.dropWhile (· != '=')).drop 1)

/-- What the loop of `load_config` has gathered. -/
structure LoadedConfig where
  config : Config := {}
  legacyPeer : Bool := false
deriving DecidableEq

def LoadedConfig.readLine (loaded : LoadedConfig) (key value : Text) :
    LoadedConfig :=
  if key = "profile".toList then
    match profileValid value with
    | some profile => { loaded with config.profile := profile }
    | none => loaded
  else if key = "enabled".toList then
    if value = "0".toList then { loaded with config.enabled := false }
    else if value = "1".toList then { loaded with config.enabled := true } else loaded
  else if key = "baseline".toList then
    if isDecimal value then { loaded with config.baseline := value } else loaded
  else if key = "baseline_peer".toList then { loaded with legacyPeer := true }
  else if key = "algorithm_version".toList then
    if value = ALGORITHM_VERSION then loaded else { loaded with config.baseline := [] }
  else loaded

/-- The loop of `load_config` over the complete lines of a readable file. -/
def readConfig : Option Text → LoadedConfig
  | none => {}
  | some text =>
    (segments text).1.foldl
      (fun loaded line => loaded.readLine (readPair line).1 (readPair line).2) {}

def Config.text (config : Config) : Text :=
  "algorithm_version=".toList ++ ALGORITHM_VERSION ++
    "\nenabled=".toList ++ (if config.enabled then "1" else "0").toList ++
    "\nprofile=".toList ++ config.profile.text ++
    "\nbaseline=".toList ++ config.baseline ++ "\n".toList

example :
    (readConfig (some "baseline=-60.50\nprofile=wide\n".toList)).config =
      { profile := .wide, baseline := "-60.50".toList } := by
  decide +kernel

end DeskUnlock.Proximity
