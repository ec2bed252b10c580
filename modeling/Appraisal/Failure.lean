/-
Everything that can go wrong, as one type.

A failure belongs to a part of the program, and its sentence starts with the name of that part. Behind
every failure stands a cause, whose sentence is the rest; some causes were themselves caused by something
that is not told.
-/
import Appraisal.Admission
import Appraisal.Json.Decoder
import Appraisal.Settings

set_option autoImplicit false

namespace Appraisal

/-- What can go wrong with logging. -/
inductive TelemetryError where
  | badFilter (value : String)
  | subscriber (reason : String)
  deriving DecidableEq

/-- The error in words. -/
def TelemetryError.message : TelemetryError → String
  | .badFilter value => "invalid log level/filter '" ++ value ++ "': unable to build EnvFilter"
  | .subscriber reason => "telemetry error: " ++ reason

/-- A failure of the program. -/
inductive Failure where
  | settings (error : SettingsError)
  | telemetry (error : TelemetryError)
  | io (reason : String)
  | server (reason : String)
  | refused (refusal : Refusal)
  | malformed (error : Json.DecodeError)

namespace Failure

/-- The name of the part that failed. -/
def kind : Failure → String
  | .settings _ => "Config"
  | .telemetry _ => "Telemetry"
  | .io _ => "Io"
  | .server _ => "Server"
  | .refused _ => "Input"
  | .malformed _ => "Json"

/-- The part that failed, as a sentence starts with it. -/
def opening : Failure → String
  | .settings _ => "configuration error: "
  | .telemetry _ => "telemetry error: "
  | .io _ => "io error: "
  | .server _ => "server error: "
  | .refused _ => "invalid buyer input: "
  | .malformed _ => "malformed json: "

/-- The cause in words. -/
def cause : Failure → String
  | .settings error => error.message
  | .telemetry error => error.message
  | .io reason => reason
  | .server reason => reason
  | .refused refusal => refusal.message
  | .malformed error => error.message

/-- Was the cause itself caused by something else? -/
def isDeep : Failure → Bool
  | .settings .invalidHost | .telemetry _ | .server _ => true
  | _ => false

/-- The failure in words. -/
def message (failure : Failure) : String :=
  failure.opening ++ failure.cause

end Failure

end Appraisal
