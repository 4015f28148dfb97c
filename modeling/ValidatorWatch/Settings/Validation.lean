import ValidatorWatch.Decimal.Written
import ValidatorWatch.Settings.Basic
/-!
# Validation of settings

Settings that the monitor does not start with. The checks are made one after another, in a fixed
order, and the first one that fails is told: times and counts, thresholds, credentials of the
channels in use, and then the validators in name order.
-/

namespace ValidatorWatch

/-- Why settings cannot be used. -/
inductive SettingsError where
  | loadFailed (path : String) (reason : String)
  | parseError (path : String) (reason : String)
  | invalidValue (field : String) (reason : String)
  | missingRequired (field : String)
  | duplicateValidator (name : String)
  deriving DecidableEq, Inhabited

namespace SettingsError

/-- The words for it. -/
def message : SettingsError → String
  | .loadFailed path reason => s!"Failed to load config from '{path}': {reason}"
  | .parseError path reason => s!"Failed to parse '{path}': {reason}"
  | .invalidValue field reason => s!"Invalid value for '{field}': {reason}"
  | .missingRequired field => s!"Missing required configuration: '{field}'"
  | .duplicateValidator name => s!"Validator '{name}' is defined more than once"

end SettingsError

namespace Settings

/-- A check: nothing, or what is wrong. -/
abbrev Check := Except SettingsError Unit

/-- Fails unless the condition holds. -/
def require (ok : Bool) (e : SettingsError) : Check :=
  if ok then .ok () else .error e

/-- The shortest check interval in seconds. -/
def minCheckInterval : Nat := 10

/-- The longest check interval in seconds. -/
def maxCheckInterval : Nat := 3600

/-- Times and counts. -/
def checkTimes (s : Settings) : Check := do
  require (minCheckInterval ≤ s.checkIntervalSeconds && s.checkIntervalSeconds ≤ maxCheckInterval)
    (.invalidValue "check_interval_seconds"
      (s!"must be between {minCheckInterval} and {maxCheckInterval}, " ++
        s!"got {s.checkIntervalSeconds}"))
  require (0 < s.probeTimeoutSeconds && s.probeTimeoutSeconds < s.checkIntervalSeconds)
    (.invalidValue "probe_timeout_seconds" "must be positive and shorter than the check interval")
  require (0 < s.alertThreshold) (.invalidValue "alert_threshold" "must be at least 1")
  require (s.checkIntervalSeconds ≤ s.reportIntervalSeconds)
    (.invalidValue "extended_report_interval_seconds" "must not be shorter than the check interval")

/-- A pair of thresholds: positive, at most a hundred, the warning below the critical one. -/
def checkThresholds (name : String) (warning critical : Float) : Check :=
  require ((0 : Float) < warning && critical ≤ (100 : Float) && warning < critical)
    (.invalidValue s!"thresholds.{name}"
      (s!"warning ({Decimal.plain warning}) must be below critical ({Decimal.plain critical}) " ++
        "and both within (0, 100]"))

/-- All pairs of thresholds. -/
def checkResources (t : ResourceThresholds) : Check := do
  checkThresholds "cpu" t.cpuWarning t.cpuCritical
  checkThresholds "memory" t.memoryWarning t.memoryCritical
  checkThresholds "disk" t.diskWarning t.diskCritical

/-- A credential that a channel in use needs. -/
def checkCredential (enabled : Bool) (field value : String) : Check :=
  require (!enabled || !value.isEmpty) (.missingRequired field)

/-- The credentials of the channels in use. -/
def checkChannels (s : Settings) : Check := do
  checkCredential s.telegram.enabled "telegram.token" s.telegram.token
  checkCredential s.telegram.enabled "telegram.chat_id" s.telegram.chatId
  checkCredential s.pushover.enabled "pushover.user_key" s.pushover.userKey
  checkCredential s.pushover.enabled "pushover.app_token" s.pushover.appToken
  checkCredential s.discord.enabled "discord.webhook_url" s.discord.webhookUrl

/-- What is said of a port that does not exist. -/
def portReason : String :=
  "ports must be between 1 and 65535"

/-- A validator: its name, its host, its ports and its key. -/
def checkValidator (name : String) (v : ValidatorEntry) : Check := do
  require (!Text.isAllBlank name)
    (.invalidValue "validators" "validator name must not be empty")
  require (!Text.isAllBlank v.host) (.missingRequired s!"validators.{name}.host")
  require (v.metricsPort ≠ 0 && v.rpcPort ≠ 0) (.invalidValue s!"validators.{name}" portReason)
  require (v.exporterPort ≠ some 0)
    (.invalidValue s!"validators.{name}.node_exporter_port" portReason)
  require (PublicKey.isValid v.normalizedKey)
    (.invalidValue s!"validators.{name}.validator_secp"
      "expected 66 hex characters starting with 02 or 03")

/-- All validators; there is at least one. -/
def checkValidators (s : Settings) : Check := do
  require (!s.validators.isEmpty) (.missingRequired "validators")
  s.validators.entries.forM fun e => checkValidator e.1 e.2

/-- Checks all settings. -/
def validate (s : Settings) : Check := do
  s.checkTimes
  checkResources s.thresholds
  s.checkChannels
  s.checkValidators

end Settings

end ValidatorWatch
