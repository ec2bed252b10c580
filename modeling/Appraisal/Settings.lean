/-
The settings of the service, from the environment.

Five variables are looked at, and each of them has a default. The stage of operation is recognized by two
words each and is development otherwise. The port is a number of sixteen bits. How many evaluations are
kept is a positive number, around which blanks are forgiven. The host is only looked at when an address is
made of it, so a bad host is found out last.

The numbers of the ruleset are no settings.
-/
import Appraisal.Address
import Appraisal.Text.Blank
import Appraisal.Text.Number

set_option autoImplicit false

namespace Appraisal

/-- The stage of operation. -/
inductive Environment where
  | development | test | production
  deriving DecidableEq

namespace Environment

/-- The name of a stage. -/
def name : Environment → String
  | .development => "Development"
  | .test => "Test"
  | .production => "Production"

/-- The stage that a word stands for, in any case and with blanks around it. -/
def ofText (text : String) : Environment :=
  match Text.lower (Text.trim text) with
  | "prod" | "production" => .production
  | "test" | "ci" => .test
  | _ => .development

end Environment

/-- Why the settings cannot be used. -/
inductive SettingsError where
  | invalidPort
  | invalidHost
  | invalidCacheSize (value : String)
  deriving DecidableEq

/-- The error in words. -/
def SettingsError.message : SettingsError → String
  | .invalidPort => "APP_PORT must be a valid u16"
  | .invalidHost => "APP_HOST must parse to an IPv4 or IPv6 address"
  | .invalidCacheSize value =>
    "APP_CACHE_MAX_ENTRIES must be a positive integer (got '" ++ value ++ "')"

/-- The settings of the service. -/
structure Settings where
  environment : Environment
  host : String
  port : Nat
  logLevel : String
  maxEntries : Nat
  deriving DecidableEq

namespace Settings

/-- So many evaluations are kept if nobody says otherwise. -/
def defaultMaxEntries : Nat := 1024

/-- A port. -/
def portOf? (text : String) : Option Nat :=
  (Text.natural? text).filter (· < UInt16.size)

/-- A number of evaluations to keep: positive, and not beyond what a word of the machine holds. -/
def maxEntriesOf? (text : String) : Option Nat :=
  (Text.natural? (Text.trim text)).filter fun n => 0 < n && n < UInt64.size

/-- The settings in an environment. Of two bad values the port is reported. -/
def load (setting? : String → Option String) : Except SettingsError Settings := do
  let environment := Environment.ofText ((setting? "APP_ENV").getD "development")
  let host := (setting? "APP_HOST").getD "127.0.0.1"
  let some port := portOf? ((setting? "APP_PORT").getD "3000") | throw .invalidPort
  let logLevel := (setting? "APP_LOG_LEVEL").getD "info"
  let maxEntries ← match setting? "APP_CACHE_MAX_ENTRIES" with
    | none => pure defaultMaxEntries
    | some text =>
      match maxEntriesOf? text with
      | some n => pure n
      | none => throw (.invalidCacheSize text)
  return { environment, host, port, logLevel, maxEntries }

/-- The address of a host; a name that means this machine is the only one that is known. -/
def addressOf (host : String) : Except SettingsError Address :=
  if Text.sameLetters host "localhost" then .ok Address.loopback
  else
    match Address.ofText? host with
    | some address => .ok address
    | none => .error .invalidHost

/-- Where the service is to be reached, with its port. -/
def socketText (settings : Settings) : Except SettingsError String :=
  (addressOf settings.host).map (Address.withPort settings.port)

end Settings

end Appraisal
