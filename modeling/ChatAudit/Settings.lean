import ChatAudit.Dict
import ChatAudit.Text.Integer

/-! Settings of the console. -/
namespace ChatAudit

structure Settings where
  apiBaseUrl : String
  apiToken : String
  requestTimeout : Int
  sessionsPageSize : Int
  messagesPageSize : Int
  defaultTimeRange : String
  logLevel : String
  pageTitle : String := "Security Chat Audit"
  pageIcon : String := "shield"
  layout : String := "wide"
deriving Repr

namespace Settings

/-- A variable that holds no integer counts as unset. -/
def intVariable (name : String) (default : Int) (env : Dict String) : Int :=
  match (env.lookup? name).map Text.readInteger with
  | some (.ok n) => n
  | _ => default

def textVariable (name default : String) (env : Dict String) : String :=
  (env.lookup? name).getD default

def ofEnvironment (env : Dict String) : Settings where
  apiBaseUrl := textVariable "SECURITY_API_BASE_URL" "http://localhost:8080/api/v1" env
  apiToken := textVariable "SECURITY_API_TOKEN" "" env
  requestTimeout := intVariable "REQUEST_TIMEOUT" 120 env
  sessionsPageSize := intVariable "SESSIONS_PAGE_SIZE" 50 env
  messagesPageSize := intVariable "MESSAGES_PAGE_SIZE" 200 env
  defaultTimeRange := textVariable "DEFAULT_TIME_RANGE" "24h" env
  logLevel := textVariable "LOG_LEVEL" "INFO" env

end Settings
end ChatAudit
