import WebhookClient.Operation.Basic

/-!
# Operations on access and statistics

Access of customers to their part of the service is granted and withdrawn by application. The
service counts what it is used for.
-/

set_option autoImplicit false

namespace WebhookClient.Operation.Authentication

/-- Grants access to the portal of an application. -/
def appPortalAccess : Operation where
  name := "authentication.app_portal_access"
  method := .post
  path := servicePath [.fixed "auth", .fixed "app-portal-access", .id "app_id"]
  payload := some ⟨AppPortalAccessIn⟩
  answer := .one ⟨AppPortalAccessOut⟩

/-- Ends all access to an application. -/
def expireAll : Operation where
  name := "authentication.expire_all"
  method := .post
  path := servicePath [.fixed "auth", .fixed "app", .id "app_id", .fixed "expire-all"]
  payload := some ⟨ApplicationTokenExpireIn⟩
  answer := .one ⟨Unit⟩

/-- Grants access to the dashboard of an application. -/
def dashboardAccess : Operation where
  name := "authentication.dashboard_access"
  method := .post
  path := servicePath [.fixed "auth", .fixed "dashboard-access", .id "app_id"]
  answer := .one ⟨DashboardAccessOut⟩

/-- Ends the access of the token in use. -/
def logout : Operation where
  name := "authentication.logout"
  method := .post
  path := servicePath [.fixed "auth", .fixed "logout"]
  answer := .one ⟨Unit⟩

/-- All operations on access. -/
def all : List Operation := [appPortalAccess, expireAll, dashboardAccess, logout]

end WebhookClient.Operation.Authentication

namespace WebhookClient.Operation.Statistics

/-- Starts to count the use of applications. -/
def aggregateAppStats : Operation where
  name := "statistics.aggregate_app_stats"
  method := .post
  path := servicePath [.fixed "stats", .fixed "usage", .fixed "app"]
  payload := some ⟨AppUsageStatsIn⟩
  answer := .one ⟨AppUsageStatsOut⟩

/-- Starts to count the use of event types. -/
def aggregateEventTypes : Operation where
  name := "statistics.aggregate_event_types"
  method := .put
  path := servicePath [.fixed "stats", .fixed "usage", .fixed "event-types"]
  answer := .one ⟨BackgroundTaskOut⟩

/-- All operations on statistics. -/
def all : List Operation := [aggregateAppStats, aggregateEventTypes]

end WebhookClient.Operation.Statistics
