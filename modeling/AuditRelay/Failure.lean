import AuditRelay.Json.Fault

/-!
# Failures

What can go wrong on the way of a log from a producer to the broker.
-/

namespace AuditRelay

/-- A failure and its cause. -/
inductive Failure where
  /-- The broker cannot be reached. -/
  | connection (reason : String)
  /-- The broker did not take a log. -/
  | publish (topic reason : String)
  /-- A log could not be written or read. -/
  | serialization (error : Json.Error)
  /-- The settings are of no use. -/
  | config (reason : String)
  /-- The stream behind the topic cannot be had. -/
  | stream (reason : String)
  /-- The queue takes no more logs. -/
  | queueClosed
  /-- An attempt was given up because the pipeline shut down. -/
  | cancelled
  /-- The process log cannot be set up. -/
  | logging (reason : String)

/-- The text of a failure. -/
def Failure.message : Failure → String
  | connection reason => "Connection error: " ++ reason
  | publish topic reason =>
    "Failed to publish audit log to topic '" ++ topic ++ "': " ++ reason
  | serialization error => "Serialization error: " ++ error.message
  | config reason => "Configuration error: " ++ reason
  | stream reason => "Stream error: " ++ reason
  | queueClosed => "Audit queue closed"
  | cancelled => "Audit pipeline cancelled"
  | logging reason => "Logging error: " ++ reason

end AuditRelay
