import Metering.Records
import Metering.Reporting

/-!
# The service's answers

What clients can ask the service for, and what it answers. An answer is a
status and a content; that of a failure is its wording.

* `Api.Call`: what can be asked for;
* `Api.answer`: the answer, and what it does to the store.
-/

namespace Metering.Api

/-- What a client asks for. -/
inductive Call where
  /-- A greeting. -/
  | greeting
  /-- The name of the service and its version. -/
  | version
  /-- The usage of a period. -/
  | usage (period : Period)
  /-- The removal of what is before an instant. -/
  | purge (cutoffMs : Int64)
deriving Repr, DecidableEq

/-- What an answer holds. -/
inductive Content where
  /-- A plain text. -/
  | plain (s : String)
  /-- A document. -/
  | document (d : Document)

/-- An answer of the service. -/
structure Answer where
  /-- The status, a number of the web's protocol. -/
  status : Nat
  /-- The content. -/
  content : Content

/-- The name of the service. -/
def serviceName : String := "usagelog"

/-- The version of the service. -/
def serviceVersion : String := "0.3.0"

/-- The status of a failure: the caller's fault if the period is invalid, and
    otherwise that of the service. -/
def statusOf : ReportError → Nat
  | .invalidPeriod _ => 400
  | .store _ => 500

/-- The answer to a call that failed. -/
def failed (e : ReportError) : Answer :=
  ⟨statusOf e, .document (.record [("error", .text e.message)])⟩

/-- The answer to a call that may have failed. -/
def answered {α : Type} (encode : α → Document) : Except ReportError α → Answer
  | .ok a => ⟨200, .document (encode a)⟩
  | .error e => failed e

/-- A report as it is sent, with the period that was asked for. -/
def usageDocument (period : Period) (r : Report) : Document :=
  .record [("period", period.document), ("summaries", .list (r.rows.map Report.Row.document))]

/-- The answer to a call, and what it does to the store. -/
def answer {σ : Type} [SnapshotStore σ] (policy : FetchPolicy) : Call → StateM σ Answer
  | .greeting => pure ⟨200, .plain (serviceName ++ ": usage reporting")⟩
  | .version => pure ⟨200, .document <|
      .record [("name", .text serviceName), ("version", .text serviceVersion)]⟩
  | .usage period => do
    let result ← (Reporting.summary policy period).run
    pure (answered (usageDocument period) result)
  | .purge cutoffMs => do
    let result ← (Reporting.purge cutoffMs).run
    pure (answered PurgeCounts.document result)

end Metering.Api
