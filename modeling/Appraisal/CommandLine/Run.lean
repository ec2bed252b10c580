/-
The command line as a function: from the arguments and the world around them to what is printed.

The world is three things, the variables of the environment, the content of files and the time. A run ends
in one of four ways. It prints something and is done; it prints something and fails; it was asked for what
makes no sense; or its settings are accepted and the service can start, which is the business of whoever
runs the program.
-/
import Appraisal.CommandLine.Arguments
import Appraisal.CommandLine.Listing
import Appraisal.Deal.Format
import Appraisal.Failure
import Appraisal.LogFilter

set_option autoImplicit false

namespace Appraisal.CommandLine

open Json

/-- What a run can see. -/
structure World where
  /-- A variable of the environment. -/
  setting? : String → Option String
  /-- The content of a file, or why it cannot be read. -/
  fileText : String → Except String String
  /-- The present moment as a timestamp. -/
  now : String

/-- How a run ends. -/
inductive Outcome where
  | done (output : String)
  | failed (output : String) (failure : Failure)
  | misused
  | serving (settings : Settings) (address : String)

namespace Outcome

/-- The exit code of a run. -/
def code : Outcome → UInt8
  | done _ | serving .. => 0
  | failed .. => 1
  | misused => 2

/-- What is printed as the output. -/
def output : Outcome → String
  | done output | failed output _ => output
  | misused | serving .. => ""

/-- What is printed as a complaint, in a line of its own. -/
def complaint : Outcome → String
  | failed _ failure => "application error: " ++ failure.message ++ "\n"
  | misused => "error: invalid arguments\n\nFor more information, try '--help'.\n"
  | done _ | serving .. => ""

end Outcome

/-! ## Commands -/

/-- A run that may fail before it prints anything. -/
def orFail (run : Except Failure Outcome) : Outcome :=
  match run with
  | .ok outcome => outcome
  | .error failure => .failed "" failure

/-- Starts the service: the settings, what overrides them, the log filter, the address. -/
def serve (world : World) (host : Option String) (port : Option Nat) : Except Failure Outcome := do
  let loaded ← (Settings.load world.setting?).mapError .settings
  let settings := { loaded with host := host.getD loaded.host, port := port.getD loaded.port }
  if !LogFilter.isValid settings.logLevel then
    throw (.telemetry (.badFilter settings.logLevel))
  let address ← settings.socketText.mapError .settings
  return .serving settings address

/-- Evaluates the deal in a file. -/
def evaluate (world : World) (path : String) (timestamp : Option String) (asJson : Bool) :
    Except Failure Outcome := do
  let text ← (world.fileText path).mapError .io
  let deal : Deal ← (decodeText decode text).mapError .malformed
  let timestamp := timestamp.getD world.now
  (deal.vet timestamp).mapError .refused
  let evaluation := deal.evaluate timestamp
  return .done (if asJson then evaluationJsonText evaluation else evaluationText evaluation)

/-- Shows the samples from one on, behind what was printed already. -/
def showSamples (timestamp : String) (withTrace : Bool) (output : String) : List Sample → Outcome
  | [] => .done output
  | sample :: rest =>
    match sample.deal.vet timestamp with
    | .error refusal => .failed output (.refused refusal)
    | .ok _ =>
      let evaluation := sample.deal.evaluate timestamp
      showSamples timestamp withTrace (output ++ sampleText sample.name evaluation withTrace) rest

/-- Carries out a command. -/
def carryOut (world : World) : Command → Outcome
  | .serve host port => orFail (serve world host port)
  | .evaluate path timestamp asJson => orFail (evaluate world path timestamp asJson)
  | .rules asJson => .done (if asJson then registryText else rulesText)
  | .demo timestamp withTrace =>
    showSamples (timestamp.getD world.now) withTrace demoTitle Sample.all
  | .help none => .done helpText
  | .help (some topic) => .done (topicText topic)
  | .version => .done versionText

/-- Runs the program with the given arguments. -/
def run (world : World) (arguments : List String) : Outcome :=
  match read arguments with
  | some command => carryOut world command
  | none => .misused

end Appraisal.CommandLine
