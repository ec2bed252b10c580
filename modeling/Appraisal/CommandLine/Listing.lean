/-
What the commands print: the published rules, a single evaluation, the samples, and how to use them.
-/
import Appraisal.Evaluation.Format
import Appraisal.Evaluation.Report
import Appraisal.Json.Printer
import Appraisal.Rule.Format
import Appraisal.Samples

set_option autoImplicit false

namespace Appraisal.CommandLine

/-- Lines as one text, every line closed by a line feed. -/
def linesText (lines : List String) : String :=
  String.join (lines.map (· ++ "\n"))

/-! ## The rules -/

/-- What is said about a rule that is no longer applied. -/
def statusText : RuleStatus → String
  | .active => ""
  | .deprecated successor => " (deprecated, see " ++ successor ++ ")"

/-- The line about a rule. -/
def ruleLine (rule : Rule) : String :=
  "  " ++ Trace.severityColumn rule.severity ++ " " ++ rule.id ++ statusText rule.status ++ " - "
    ++ rule.description

/-- The lines about the rules of a stage. -/
def stageLines (stage : Stage) : List String :=
  stage.label :: (Rule.catalog.filter (·.stage = stage)).map ruleLine

/-- The line about a threshold. -/
def thresholdLine : String × Quantity → String
  | (name, quantity) => "  " ++ name ++ ": " ++ Decimal.plain quantity.toFloat

/-- The rules by stage, and the thresholds. -/
def rulesText : String :=
  linesText <|
    ["Rule registry (compiler " ++ evaluatorVersion ++ " / schema " ++ schemaVersion
        ++ " / ruleset " ++ rulesetVersion ++ ")"]
      ++ Stage.order.flatMap stageLines
      ++ ["Thresholds:"]
      ++ Threshold.table.map thresholdLine

/-- The registry as JSON. -/
def registryText : String :=
  Json.indented registryJson ++ "\n"

/-! ## Evaluations -/

/-- An evaluation as a report with its trace. -/
def evaluationText (evaluation : Evaluation) : String :=
  Report.text evaluation ++ evaluation.trace.summary ++ "\n"

/-- An evaluation as JSON. -/
def evaluationJsonText (evaluation : Evaluation) : String :=
  Json.indented (encode evaluation) ++ "\n"

/-- The first line in front of the samples. -/
def demoTitle : String :=
  "Scratch-and-dent buyer's tool demo\n"

/-- A sample with its evaluation: the report, and the trace in lines or in one line. -/
def sampleText (name : String) (evaluation : Evaluation) (withTrace : Bool) : String :=
  "\n== " ++ name ++ " ==\n" ++ Report.text evaluation
    ++ (if withTrace then evaluation.trace.summary else "  " ++ evaluation.trace.compactSummary)
    ++ "\n"

/-! ## Help -/

/-- The name and the version of the program. -/
def versionText : String :=
  "Scratch & Dent Buyer's Tool 0.1.0\n"

/-- How to use the program. -/
def helpText : String :=
  linesText
    ["Evaluate scratch-and-dent appliance deals and serve the decision compiler over HTTP",
     "",
     "Usage: buyers-tool [COMMAND]",
     "",
     "Commands:",
     "  serve     Start the HTTP service (default command)",
     "  evaluate  Compile a buyer input file and print the recommendation with its trace",
     "  rules     List the rule registry, thresholds, and version triple",
     "  demo      Run the built-in sample deals through the compiler",
     "  help      Print this message or the help of the given subcommand(s)",
     "",
     "Options:",
     "  -h, --help     Print help",
     "  -V, --version  Print version"]

/-- How to use a command. -/
def topicText : String → String
  | "serve" =>
    linesText
      ["Start the HTTP service (default command)",
       "",
       "Usage: buyers-tool serve [OPTIONS]",
       "",
       "Options:",
       "      --host <HOST>  Override the configured host for the HTTP server",
       "      --port <PORT>  Override the configured port for the HTTP server",
       "  -h, --help         Print help"]
  | "evaluate" =>
    linesText
      ["Compile a buyer input file and print the recommendation with its trace",
       "",
       "Usage: buyers-tool evaluate [OPTIONS] --input <INPUT>",
       "",
       "Options:",
       "      --input <INPUT>          Path to a JSON buyer input file",
       "      --timestamp <TIMESTAMP>  Compile timestamp recorded in the trace (RFC 3339). Defaults to now",
       "      --json                   Print the full compiler output as JSON instead of the readable report",
       "  -h, --help                   Print help"]
  | "rules" =>
    linesText
      ["List the rule registry, thresholds, and version triple",
       "",
       "Usage: buyers-tool rules [OPTIONS]",
       "",
       "Options:",
       "      --json  Print the registry catalog as JSON",
       "  -h, --help  Print help"]
  | "demo" =>
    linesText
      ["Run the built-in sample deals through the compiler",
       "",
       "Usage: buyers-tool demo [OPTIONS]",
       "",
       "Options:",
       "      --timestamp <TIMESTAMP>  Compile timestamp recorded in every trace (RFC 3339). Defaults to now",
       "      --trace                  Include the rule-by-rule trace for each scenario",
       "  -h, --help                   Print help"]
  | _ => helpText

end Appraisal.CommandLine
