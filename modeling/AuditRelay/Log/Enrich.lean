import AuditRelay.Id
import AuditRelay.Log.Basic

/-!
# Enrichment

Before a log is published it is given an id, the place it came from, a description and its outcome
among the details.
-/

namespace AuditRelay.Log

/-- Joins the texts that are not empty with single spaces. -/
def joinNonempty (parts : List String) : String :=
  " ".intercalate (parts.filter (· ≠ ""))

/-- What a log is about in a few words: operation, kind and name of the object, and outcome. -/
def describe (l : Log) : String :=
  joinNonempty [l.operation, l.object.kind, l.object.name, Status.nameOrEmpty l.status]

/-- Fills in what a caller does not give. -/
def enrich (l : Log) (origin : Origin) (id : String) : Log :=
  { l with
    id := id
    origin := origin
    description := l.describe
    detail := l.detail.insert statusKey (Status.nameOrEmpty l.status) }

end AuditRelay.Log
