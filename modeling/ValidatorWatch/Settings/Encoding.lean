import ValidatorWatch.Settings.Basic
import ValidatorWatch.Validator.Encoding
/-!
# Settings as documents

The document form of settings. Reading fills in the defaults; a name that is not known is passed
over. Validators have files of their own, so they are no part of the main document.
-/

namespace ValidatorWatch

open Document

namespace TelegramChannel

/-- The members of a chat, in order. -/
def memberNames : List String :=
  ["enabled", "token", "chat_id", "api_url"]

/-- Writes a chat. -/
def toValue (c : TelegramChannel) : Value :=
  .obj [("enabled", .bool c.enabled), ("token", .str c.token), ("chat_id", .str c.chatId),
    ("api_url", .str c.apiUrl)]

/-- Reads a chat. -/
def ofValue? (format : Format) (v : Value) : Option TelegramChannel := do
  let f ← v.fieldsIn? format memberNames
  let d : TelegramChannel := {}
  return {
    enabled := ← f.withDefault? "enabled" d.enabled Value.bool?
    token := ← f.withDefault? "token" d.token Value.text?
    chatId := ← f.withDefault? "chat_id" d.chatId Value.text?
    apiUrl := ← f.withDefault? "api_url" d.apiUrl Value.text? }

end TelegramChannel

namespace PushoverChannel

/-- The members of devices, in order. -/
def memberNames : List String :=
  ["enabled", "user_key", "app_token", "api_url", "sound"]

/-- Writes devices. -/
def toValue (c : PushoverChannel) : Value :=
  .obj [("enabled", .bool c.enabled), ("user_key", .str c.userKey),
    ("app_token", .str c.appToken), ("api_url", .str c.apiUrl), ("sound", .str c.sound)]

/-- Reads devices. -/
def ofValue? (format : Format) (v : Value) : Option PushoverChannel := do
  let f ← v.fieldsIn? format memberNames
  let d : PushoverChannel := {}
  return {
    enabled := ← f.withDefault? "enabled" d.enabled Value.bool?
    userKey := ← f.withDefault? "user_key" d.userKey Value.text?
    appToken := ← f.withDefault? "app_token" d.appToken Value.text?
    apiUrl := ← f.withDefault? "api_url" d.apiUrl Value.text?
    sound := ← f.withDefault? "sound" d.sound Value.text? }

end PushoverChannel

namespace DiscordChannel

/-- The members of a webhook, in order. -/
def memberNames : List String :=
  ["enabled", "webhook_url"]

/-- Writes a webhook. -/
def toValue (c : DiscordChannel) : Value :=
  .obj [("enabled", .bool c.enabled), ("webhook_url", .str c.webhookUrl)]

/-- Reads a webhook. -/
def ofValue? (format : Format) (v : Value) : Option DiscordChannel := do
  let f ← v.fieldsIn? format memberNames
  let d : DiscordChannel := {}
  return {
    enabled := ← f.withDefault? "enabled" d.enabled Value.bool?
    webhookUrl := ← f.withDefault? "webhook_url" d.webhookUrl Value.text? }

end DiscordChannel

namespace HuginnService

/-- The members of the service, in order. -/
def memberNames : List String :=
  ["enabled", "endpoints", "check_interval_seconds", "timeout_seconds"]

/-- Writes the service. -/
def toValue (s : HuginnService) : Value :=
  .obj [("enabled", .bool s.enabled), ("endpoints", .ofNameMap .str s.endpoints),
    ("check_interval_seconds", .nat s.lifetimeSeconds),
    ("timeout_seconds", .nat s.timeoutSeconds)]

/-- Reads the service. -/
def ofValue? (format : Format) (v : Value) : Option HuginnService := do
  let f ← v.fieldsIn? format memberNames
  let d : HuginnService := {}
  return {
    enabled := ← f.withDefault? "enabled" d.enabled Value.bool?
    endpoints := ← f.withDefault? "endpoints" d.endpoints (Value.mapOf? Value.text?)
    lifetimeSeconds :=
      ← f.withDefault? "check_interval_seconds" d.lifetimeSeconds (Value.nat? 64)
    timeoutSeconds := ← f.withDefault? "timeout_seconds" d.timeoutSeconds (Value.nat? 64) }

end HuginnService

namespace GmonadsService

/-- The members of the service, in order. -/
def memberNames : List String :=
  ["enabled", "base_url", "check_interval_seconds", "timeout_seconds"]

/-- Writes the service. -/
def toValue (s : GmonadsService) : Value :=
  .obj [("enabled", .bool s.enabled), ("base_url", .str s.baseUrl),
    ("check_interval_seconds", .nat s.lifetimeSeconds),
    ("timeout_seconds", .nat s.timeoutSeconds)]

/-- Reads the service. -/
def ofValue? (format : Format) (v : Value) : Option GmonadsService := do
  let f ← v.fieldsIn? format memberNames
  let d : GmonadsService := {}
  return {
    enabled := ← f.withDefault? "enabled" d.enabled Value.bool?
    baseUrl := ← f.withDefault? "base_url" d.baseUrl Value.text?
    lifetimeSeconds :=
      ← f.withDefault? "check_interval_seconds" d.lifetimeSeconds (Value.nat? 64)
    timeoutSeconds := ← f.withDefault? "timeout_seconds" d.timeoutSeconds (Value.nat? 64) }

end GmonadsService

namespace ValidatorEntry

/-- The members of a validator, in order. -/
def memberNames : List String :=
  ["host", "network", "metrics_port", "rpc_port", "node_exporter_port", "validator_secp", "enabled"]

/-- Writes a validator. -/
def toValue (v : ValidatorEntry) : Value :=
  .obj [("host", .str v.host), ("network", .str v.network.name),
    ("metrics_port", .nat v.metricsPort), ("rpc_port", .nat v.rpcPort),
    ("node_exporter_port", countValue v.exporterPort), ("validator_secp", .str v.publicKey),
    ("enabled", .bool v.enabled)]

/-- Reads a validator. -/
def ofValue? (format : Format) (v : Value) : Option ValidatorEntry := do
  let f ← v.fieldsIn? format memberNames
  return {
    host := ← f.required? "host" Value.text?
    network := ← f.withDefault? "network" .testnet (Value.wordIn? format Network.ofName?)
    metricsPort := ← f.withDefault? "metrics_port" 8889 (Value.nat? 16)
    rpcPort := ← f.withDefault? "rpc_port" 8080 (Value.nat? 16)
    exporterPort := ← f.optional? "node_exporter_port" (Value.nat? 16)
    publicKey := ← f.required? "validator_secp" Value.text?
    enabled := ← f.withDefault? "enabled" true Value.bool? }

end ValidatorEntry

namespace Settings

/-- The members of the main document, in order. -/
def memberNames : List String :=
  ["host", "port", "check_interval_seconds", "probe_timeout_seconds", "alert_threshold",
    "extended_report_interval_seconds", "alert_cooldown_seconds", "emergency_cooldown_seconds",
    "state_dir", "database_path", "history_retention_days", "dashboard_dir", "thresholds",
    "telegram", "pushover", "discord", "huginn", "gmonads"]

/-- Writes the main document. -/
def toValue (s : Settings) : Value :=
  .obj [("host", .str s.host), ("port", .nat s.port),
    ("check_interval_seconds", .nat s.checkIntervalSeconds),
    ("probe_timeout_seconds", .nat s.probeTimeoutSeconds),
    ("alert_threshold", .nat s.alertThreshold),
    ("extended_report_interval_seconds", .nat s.reportIntervalSeconds),
    ("alert_cooldown_seconds", countValue s.alertCooldownSeconds),
    ("emergency_cooldown_seconds", .nat s.emergencyCooldownSeconds),
    ("state_dir", .str s.stateFolder), ("database_path", .str s.historyPath),
    ("history_retention_days", .nat s.retentionDays), ("dashboard_dir", .str s.dashboardFolder),
    ("thresholds", s.thresholds.toValue), ("telegram", s.telegram.toValue),
    ("pushover", s.pushover.toValue), ("discord", s.discord.toValue),
    ("huginn", s.huginn.toValue), ("gmonads", s.gmonads.toValue)]

/-- Reads the main document; it names no validators. -/
def ofValue? (format : Format) (v : Value) : Option Settings := do
  let f ← v.fieldsIn? format memberNames
  let d : Settings := {}
  return {
    host := ← f.withDefault? "host" d.host Value.text?
    port := ← f.withDefault? "port" d.port (Value.nat? 16)
    checkIntervalSeconds :=
      ← f.withDefault? "check_interval_seconds" d.checkIntervalSeconds (Value.nat? 64)
    probeTimeoutSeconds :=
      ← f.withDefault? "probe_timeout_seconds" d.probeTimeoutSeconds (Value.nat? 64)
    alertThreshold := ← f.withDefault? "alert_threshold" d.alertThreshold (Value.nat? 32)
    reportIntervalSeconds :=
      ← f.withDefault? "extended_report_interval_seconds" d.reportIntervalSeconds (Value.nat? 64)
    alertCooldownSeconds := ← f.optional? "alert_cooldown_seconds" (Value.nat? 64)
    emergencyCooldownSeconds :=
      ← f.withDefault? "emergency_cooldown_seconds" d.emergencyCooldownSeconds (Value.nat? 64)
    stateFolder := ← f.withDefault? "state_dir" d.stateFolder Value.text?
    historyPath := ← f.withDefault? "database_path" d.historyPath Value.text?
    retentionDays := ← f.withDefault? "history_retention_days" d.retentionDays (Value.nat? 32)
    dashboardFolder := ← f.withDefault? "dashboard_dir" d.dashboardFolder Value.text?
    thresholds := ← f.withDefault? "thresholds" {} (ResourceThresholds.ofValue? format)
    telegram := ← f.withDefault? "telegram" {} (TelegramChannel.ofValue? format)
    pushover := ← f.withDefault? "pushover" {} (PushoverChannel.ofValue? format)
    discord := ← f.withDefault? "discord" {} (DiscordChannel.ofValue? format)
    huginn := ← f.withDefault? "huginn" {} (HuginnService.ofValue? format)
    gmonads := ← f.withDefault? "gmonads" {} (GmonadsService.ofValue? format) }

/-- Reads a validator file, a document with a record of validators in it. -/
def readValidators? (format : Format) (v : Value) : Option (NameMap ValidatorEntry) := do
  let f ← v.fieldsIn? format ["validators"]
  f.withDefault? "validators" .empty (Value.mapOf? (ValidatorEntry.ofValue? format))

end Settings

end ValidatorWatch
