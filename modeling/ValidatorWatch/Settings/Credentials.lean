import ValidatorWatch.Document.Record
import ValidatorWatch.Settings.Basic
/-!
# Credentials

The credentials of the channels may be kept apart from the other settings: in a file of their own
and in the environment. The environment wins over the file, and the file over the main settings. A
blank value does not count, and blanks around a value are dropped.
-/

namespace ValidatorWatch

open Document

/-- The five credentials, as far as a source gives them. -/
structure Credentials where
  telegramToken : Option String := none
  telegramChatId : Option String := none
  pushoverUserKey : Option String := none
  pushoverAppToken : Option String := none
  discordWebhookUrl : Option String := none
  deriving DecidableEq, Inhabited

namespace Credentials

/-- A given value, unless it is blank. -/
def given? (value : Option String) : Option String :=
  (value.filter fun s => !Text.isAllBlank s).map Text.trim

/-- A given value, or else the present one. -/
def override (value : Option String) (present : String) : String :=
  (given? value).getD present

/-- Puts the credentials into settings. -/
def overlay (c : Credentials) (s : Settings) : Settings :=
  { s with
    telegram := { s.telegram with
      token := override c.telegramToken s.telegram.token
      chatId := override c.telegramChatId s.telegram.chatId }
    pushover := { s.pushover with
      userKey := override c.pushoverUserKey s.pushover.userKey
      appToken := override c.pushoverAppToken s.pushover.appToken }
    discord := { s.discord with
      webhookUrl := override c.discordWebhookUrl s.discord.webhookUrl } }

/-- The credentials in the environment, by the names of the variables. -/
def ofEnvironment (get : String → Option String) : Credentials where
  telegramToken := get "TELEGRAM_TOKEN"
  telegramChatId := get "TELEGRAM_CHAT_ID"
  pushoverUserKey := get "PUSHOVER_USER_KEY"
  pushoverAppToken := get "PUSHOVER_APP_TOKEN"
  discordWebhookUrl := get "DISCORD_WEBHOOK_URL"

/-- A part of a file of credentials; it may be missing. -/
def section? (format : Format) (f : Fields) (name : String) (members : List String) :
    Option Fields := do
  (← f.withDefault? name (.obj []) some).fieldsIn? format members

/-- Reads a file of credentials. -/
def ofValue? (format : Format) (v : Value) : Option Credentials := do
  let f ← v.fieldsIn? format ["telegram", "pushover", "discord"]
  let telegram ← section? format f "telegram" ["token", "chat_id"]
  let pushover ← section? format f "pushover" ["user_key", "app_token"]
  let discord ← section? format f "discord" ["webhook_url"]
  return {
    telegramToken := ← telegram.optional? "token" Value.text?
    telegramChatId := ← telegram.optional? "chat_id" Value.text?
    pushoverUserKey := ← pushover.optional? "user_key" Value.text?
    pushoverAppToken := ← pushover.optional? "app_token" Value.text?
    discordWebhookUrl := ← discord.optional? "webhook_url" Value.text? }

end Credentials

end ValidatorWatch
