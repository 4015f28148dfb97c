import ValidatorWatch.Alert.Dispatch
import ValidatorWatch.Http.Exchange
import ValidatorWatch.Settings.Basic
/-!
# Messages on the wire

How a notification is handed to each of the three channels. Telegram takes a text with markup,
Pushover a record with a priority, and Discord a card with a color. A status of success means that
the message was taken.

In the text for Telegram the three characters that mean something in its markup are escaped. So the
only tags are those around the title, and title and body can be told from the text.
-/

namespace ValidatorWatch

open Document
open Http
open Time (Instant)

/-! ## Telegram -/

/-- A character of a text with markup. -/
def escapeMarkupChar (c : Char) : List Char :=
  if c = '&' then "&amp;".toList
  else if c = '<' then "&lt;".toList
  else if c = '>' then "&gt;".toList
  else [c]

/-- A text that has no markup of its own. -/
def escapeMarkup (s : String) : List Char :=
  s.toList.flatMap escapeMarkupChar

namespace Notification

/-- The text with markup: the title in bold type, an empty line, and the body. -/
def markupText (n : Notification) : String :=
  String.ofList ("<b>".toList ++ escapeMarkup n.title ++ "</b>\n\n".toList ++ escapeMarkup n.body)

end Notification

namespace TelegramChannel

/-- The name of the channel in messages about it. -/
def name : String := "telegram"

/-- Messages that may go out in a minute. -/
def messagesPerMinute : Nat := 10

/-- Where messages go. -/
def url (c : TelegramChannel) : String :=
  let base := Text.dropEnd '/' c.apiUrl
  s!"{base}/bot{c.token}/sendMessage"

/-- The request for a message. -/
def request (c : TelegramChannel) (n : Notification) : Request :=
  .post c.url (.obj [("chat_id", .str c.chatId), ("text", .str n.markupText),
    ("parse_mode", .str "HTML")])

end TelegramChannel

/-! ## Pushover -/

namespace PushoverChannel

/-- The name of the channel in messages about it. -/
def name : String := "pushover"

/-- The priority that has to be acknowledged. -/
def emergencyPriority : Nat := 2

/-- Seconds between two reminders of a message that was not acknowledged. -/
def retrySeconds : Nat := 30

/-- Seconds after which reminders end. -/
def expireSeconds : Nat := 3600

/-- The members that only critical messages have. -/
def reminders (n : Notification) : List (String × Value) :=
  if n.severity = .critical then [("retry", .nat retrySeconds), ("expire", .nat expireSeconds)]
  else []

/-- The request for a message. -/
def request (c : PushoverChannel) (n : Notification) : Request :=
  let priority := if n.severity = .critical then emergencyPriority else 0
  .post c.apiUrl (.obj ([("token", .str c.appToken), ("user", .str c.userKey),
    ("title", .str n.title), ("message", .str n.body), ("priority", .nat priority),
    ("sound", .str c.sound)] ++ reminders n))

end PushoverChannel

/-! ## Discord -/

namespace Notification

/-- The color of a card: green for reports, otherwise by severity. -/
def color (n : Notification) : Nat :=
  match n.category, n.severity with
  | some .extendedReport, _ => 0x2ecc71
  | _, .critical => 0xe74c3c
  | _, .warning => 0xf39c12
  | _, .info => 0x3498db

end Notification

namespace DiscordChannel

/-- The name of the channel in messages about it. -/
def name : String := "discord"

/-- Messages that may go out in a minute. -/
def messagesPerMinute : Nat := 5

/-- The request for a message. -/
def request (c : DiscordChannel) (n : Notification) : Request :=
  .post c.webhookUrl (.obj [("embeds", .arr [.obj [("title", .str n.title),
    ("description", .str n.body), ("color", .nat n.color),
    ("timestamp", .str n.time.offsetStamp)]])])

end DiscordChannel

/-! ## Delivery -/

/-- What a channel says to a request, by what became of it. -/
def deliveryOf (channel : String) : Exchange → Delivery
  | .answered status _ => if isSuccess status then .ok () else .error (.rejected channel status)
  | .refused reason => .error (.delivery channel reason)
  | .silent => .error (.timeout channel)

/-- A notifier that sends requests over a wire. -/
def wireNotifier (wire : Wire) (channel : String) (request : Notification → Request) : Notifier :=
  fun n message => deliveryOf channel (wire (request message).endpoint n)

namespace Dispatcher

/-- The line of each channel in use. -/
def linesOf (s : Settings) (wire : Wire) (now : Instant) : ByChannel (Option Line) where
  primary :=
    if s.telegram.enabled then
      some ⟨wireNotifier wire TelegramChannel.name s.telegram.request,
        some (.perMinute TelegramChannel.messagesPerMinute now), 0⟩
    else none
  emergency :=
    if s.pushover.enabled then
      some ⟨wireNotifier wire PushoverChannel.name s.pushover.request, none, 0⟩
    else none
  secondary :=
    if s.discord.enabled then
      some ⟨wireNotifier wire DiscordChannel.name s.discord.request,
        some (.perMinute DiscordChannel.messagesPerMinute now), 0⟩
    else none

/-- The dispatcher that settings describe. -/
def ofSettings (s : Settings) (wire : Wire) (now : Instant) : Dispatcher where
  lines := linesOf s wire now
  cooldown := s.cooldown
  emergencyCooldown := s.emergencyCooldown

/-- The request that an attempt made. -/
def requestOf (s : Settings) (a : Attempt) : Request :=
  match a.channel with
  | .primary => s.telegram.request a.notification
  | .emergency => s.pushover.request a.notification
  | .secondary => s.discord.request a.notification

end Dispatcher

end ValidatorWatch
