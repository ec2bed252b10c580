/-
The written form of a trace.

The two members about a halt are always written, as `null` when there was none, and an object without them
is read as if they were `null`. A trace that was kept under other versions is read like any other; its
versions are data.
-/
import Appraisal.Rule.Format
import Appraisal.Trace.Basic

set_option autoImplicit false

namespace Appraisal

open Json

instance : Codec Trace where
  encode t := .object [
    ("rules", encode t.findings),
    ("executionOrder", encode t.stages),
    ("haltedAtModule", encode t.haltedAt),
    ("haltedByRuleId", encode t.haltedBy),
    ("compilerVersion", encode t.evaluatorVersion),
    ("schemaVersion", encode t.schemaVersion),
    ("rulesetVersion", encode t.rulesetVersion),
    ("timestamp", encode t.timestamp),
    ("inputHash", encode t.fingerprint)]
  decode := record "struct CompilerTrace"
    ["rules", "executionOrder", "haltedAtModule", "haltedByRuleId", "compilerVersion",
      "schemaVersion", "rulesetVersion", "timestamp", "inputHash"] fun r =>
      Trace.mk <$> r.get "rules" <*> r.get "executionOrder" <*> r.get? "haltedAtModule"
        <*> r.get? "haltedByRuleId" <*> r.get "compilerVersion" <*> r.get "schemaVersion"
        <*> r.get "rulesetVersion" <*> r.get "timestamp" <*> r.get "inputHash"

end Appraisal
