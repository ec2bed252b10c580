/-
The trace of an evaluation: what was checked, in which order, and under which versions.

A trace is the record that stays. It names the deal by its fingerprint and carries the findings as they
were made, so that the verdict can be followed without evaluating anything again. It can be read in two
groupings: in sections, which are stretches of findings with one segment in the order in which they were
made, and by segment, sorted by name.
-/
import Appraisal.Ledger
import Appraisal.Rule.Thresholds

set_option autoImplicit false

namespace Appraisal

/-- The record of one evaluation. -/
structure Trace where
  findings : List Finding
  stages : List Stage
  haltedAt : Option Stage
  haltedBy : Option String
  evaluatorVersion : String
  schemaVersion : String
  rulesetVersion : String
  timestamp : String
  fingerprint : String
  deriving DecidableEq

/-- The trace of a ledger that is closed, halted at a finding of a stage or not at all. -/
def Ledger.trace (ledger : Ledger) (halt : Option (Stage × Finding)) (timestamp fingerprint : String) :
    Trace where
  findings := ledger.findings
  stages := ledger.stages
  haltedAt := halt.map Prod.fst
  haltedBy := halt.map fun (_, blocker) => blocker.ruleId
  evaluatorVersion := Appraisal.evaluatorVersion
  schemaVersion := Appraisal.schemaVersion
  rulesetVersion := Appraisal.rulesetVersion
  timestamp
  fingerprint

namespace Trace

/-- Did the evaluation stop before its end? -/
def isHalted (trace : Trace) : Bool :=
  trace.haltedAt.isSome

/-- The findings that weigh in the verdict, in order. -/
def failures (trace : Trace) : List Finding :=
  trace.findings.filter Finding.isFailure

/-! ## Groupings -/

/-- Findings under the segment that they share. -/
abbrev Group := String × List Finding

/-- Puts a finding in front of the sections behind it: into the first one if that has its segment. -/
def prependToSections (finding : Finding) : List Group → List Group
  | (name, members) :: rest =>
    if name = finding.segment then (name, finding :: members) :: rest
    else (finding.segment, [finding]) :: (name, members) :: rest
  | [] => [(finding.segment, [finding])]

/-- Findings cut where the segment changes. -/
def sectionsOf : List Finding → List Group
  | [] => []
  | finding :: rest => prependToSections finding (sectionsOf rest)

/-- The findings of a trace, cut where the segment changes. -/
def sections (trace : Trace) : List Group :=
  sectionsOf trace.findings

/-- Adds a finding to the group of its segment; the groups stay sorted by segment. -/
def addToGroups (finding : Finding) : List Group → List Group
  | [] => [(finding.segment, [finding])]
  | (name, members) :: rest =>
    if name = finding.segment then (name, members ++ [finding]) :: rest
    else if finding.segment < name then (finding.segment, [finding]) :: (name, members) :: rest
    else (name, members) :: addToGroups finding rest

/-- The findings of a trace by segment, sorted by segment. -/
def groups (trace : Trace) : List Group :=
  trace.findings.foldl (fun groups finding => addToGroups finding groups) []

/-! ## Summaries -/

/-- Where and by what the evaluation was halted, in one word. -/
def haltText (trace : Trace) : String :=
  match trace.haltedAt, trace.haltedBy with
  | some stage, some ruleId => stage.label ++ ":" ++ ruleId
  | some stage, none => stage.label
  | none, _ => "none"

/-- The trace in one line, as far as its parts are in one line each. -/
def compactSummary (trace : Trace) : String :=
  "hash=" ++ trace.fingerprint
    ++ " compiler=" ++ trace.evaluatorVersion
    ++ " schema=" ++ trace.schemaVersion
    ++ " ruleset=" ++ trace.rulesetVersion
    ++ " modules=" ++ toString trace.stages.length
    ++ " rules=" ++ toString trace.findings.length
    ++ " failed=" ++ toString trace.failures.length
    ++ " halted=" ++ trace.haltText
    ++ " at=" ++ trace.timestamp

/-- A severity with blanks behind it, so that what follows stands in one column. -/
def severityColumn (severity : Severity) : String :=
  let word := Vocabulary.word severity
  word ++ String.ofList (List.replicate (7 - word.length) ' ')

/-- One finding as a line of a summary. -/
def findingLine (finding : Finding) : String :=
  "    " ++ (if finding.passed then "PASS" else "FAIL") ++ " " ++ severityColumn finding.severity
    ++ " " ++ finding.ruleId ++ " - " ++ finding.message

/-- A section as lines of a summary, its segment first. -/
def sectionLines : Group → List String
  | (name, members) => ("  [" ++ name ++ "]") :: members.map findingLine

/-- The line about a halt, if there was one. -/
def haltLines (trace : Trace) : List String :=
  match trace.haltedAt with
  | none => []
  | some stage =>
    ["  halted at " ++ stage.label ++ " by " ++ trace.haltedBy.getD "unknown rule"]

/-- The trace in lines, one a finding. -/
def summaryLines (trace : Trace) : List String :=
  ["Compiler trace " ++ trace.fingerprint,
   "  versions: compiler " ++ trace.evaluatorVersion ++ " / schema " ++ trace.schemaVersion
     ++ " / ruleset " ++ trace.rulesetVersion,
   "  timestamp: " ++ trace.timestamp,
   "  executed: " ++ " -> ".intercalate (trace.stages.map Stage.label)]
    ++ trace.haltLines
    ++ trace.sections.flatMap sectionLines
    ++ ["  " ++ toString trace.findings.length ++ " rule(s) evaluated, "
          ++ toString trace.failures.length ++ " failed"]

/-- The trace in lines, as one text without a line feed at its end. -/
def summary (trace : Trace) : String :=
  "\n".intercalate trace.summaryLines

end Trace

end Appraisal
