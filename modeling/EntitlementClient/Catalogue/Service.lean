import EntitlementClient.Operation.Basic

/-!
# `EntitlementClient.Catalogue.Service`: the server itself

Status, revocation list, statistics, serials, events, jobs and rules. Most of these
operations take no options.
-/

set_option autoImplicit false

namespace EntitlementClient.Service

open Operation

/-- Gets the status of the server. -/
def getStatus : Operation := fixed .get "/status"

/-- Gets the certificate revocation list as text. -/
def getCrl : Operation := getAs textPlain "/crl"

/-- Has the server compute its statistics. -/
def putStatistics : Operation := fixed .put "/statistics/generate"

/-- Gets a certificate serial. -/
def getSerial : Operation := getById "/serials" "serial_id"

/-- Gets all events. -/
def getEvents : Operation := fixed .get "/events"

/-- Gets a job. -/
def getJob : Operation := getById "/jobs" "job_id"

/-- Gets the jobs of an owner. -/
def getOwnerJobs : Operation :=
  { method := .get
    parameters := optional ["owner"]
    path := [.text "/jobs"]
    query := [.options ["owner"]] }

/-- Asks whether jobs are started. -/
def getSchedulerStatus : Operation := fixed .get "/jobs/scheduler"

/-- Has jobs started, or not. The body is the option itself. -/
def setSchedulerStatus : Operation :=
  { method := .post
    parameters := [("status", .flag false)]
    requirements := [.present ["status"]]
    path := [.text "/jobs/scheduler"]
    body := some (.bare "status" .same) }

/-- Cancels a job. -/
def deleteJob : Operation := deleteById "/jobs" "job_id"

/-- Gets the rules as text. -/
def getRules : Operation := getAs textPlain "/rules"

/-- Returns to the built-in rules. -/
def deleteRules : Operation := fixed .delete "/rules"

/-- The operations with their names. -/
def catalogue : List (String × Operation) :=
  [("get_status", getStatus), ("get_crl", getCrl), ("put_statistics", putStatistics),
    ("get_serial", getSerial), ("get_events", getEvents), ("get_job", getJob),
    ("get_owner_jobs", getOwnerJobs), ("get_scheduler_status", getSchedulerStatus),
    ("set_scheduler_status", setSchedulerStatus), ("delete_job", deleteJob),
    ("get_rules", getRules), ("delete_rules", deleteRules)]

end EntitlementClient.Service
