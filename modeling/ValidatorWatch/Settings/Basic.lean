import ValidatorWatch.PublicKey
import ValidatorWatch.Source.Network
import ValidatorWatch.Validator.Resource
/-!
# Settings

What the monitor is told: how often to check, where to keep things, which channels and services to
use, and which validators there are. Everything but the validators and the credentials has a
default.

Numbers of seconds are counts without sign. A cooldown is a signed span of 64 bits, so a count
beyond that range wraps around.
-/

namespace ValidatorWatch

open Time (Span)

/-- The chat that primary messages go to. -/
structure TelegramChannel where
  enabled : Bool := true
  token : String := ""
  chatId : String := ""
  apiUrl : String := "https://api.telegram.org"
  deriving DecidableEq, Inhabited

/-- The devices that emergency messages go to. -/
structure PushoverChannel where
  enabled : Bool := false
  userKey : String := ""
  appToken : String := ""
  apiUrl : String := "https://api.pushover.net/1/messages.json"
  sound : String := "siren"
  deriving DecidableEq, Inhabited

/-- The webhook that secondary messages go to. -/
structure DiscordChannel where
  enabled : Bool := false
  webhookUrl : String := ""
  deriving DecidableEq, Inhabited

/-- The address of huginn for a network, unless settings name another. -/
def defaultEndpoint : Network → String
  | .testnet => "https://validator-api-testnet.huginn.tech/monad-api"
  | .mainnet => "https://validator-api.huginn.tech/monad-api"

/-- Whether and how huginn is asked. -/
structure HuginnService where
  enabled : Bool := true
  endpoints : NameMap String := .ofList (Network.all.map fun n => (n.name, defaultEndpoint n))
  lifetimeSeconds : Nat := 3600
  timeoutSeconds : Nat := 10
  deriving Inhabited

/-- Whether and how gmonads is asked. -/
structure GmonadsService where
  enabled : Bool := true
  baseUrl : String := "https://www.gmonads.com/api/v1/public"
  lifetimeSeconds : Nat := 120
  timeoutSeconds : Nat := 10
  deriving DecidableEq, Inhabited

/-- A validator, and the file that it was declared in. -/
structure ValidatorEntry where
  host : String
  network : Network := .testnet
  metricsPort : Nat := 8889
  rpcPort : Nat := 8080
  exporterPort : Option Nat := none
  publicKey : String
  enabled : Bool := true
  file : String := ""
  deriving DecidableEq, Inhabited

/-- All settings. -/
structure Settings where
  host : String := "0.0.0.0"
  port : Nat := 8181
  checkIntervalSeconds : Nat := 60
  probeTimeoutSeconds : Nat := 10
  alertThreshold : Nat := 3
  reportIntervalSeconds : Nat := 21600
  alertCooldownSeconds : Option Nat := none
  emergencyCooldownSeconds : Nat := 1800
  stateFolder : String := "state"
  historyPath : String := "data/history.db"
  retentionDays : Nat := 7
  dashboardFolder : String := "dashboard"
  thresholds : ResourceThresholds := {}
  telegram : TelegramChannel := {}
  pushover : PushoverChannel := {}
  discord : DiscordChannel := {}
  huginn : HuginnService := {}
  gmonads : GmonadsService := {}
  validators : NameMap ValidatorEntry := .empty
  deriving Inhabited

namespace HuginnService

/-- The address of huginn for a network. -/
def endpoint (s : HuginnService) (n : Network) : String :=
  (s.endpoints.get? n.name).getD (defaultEndpoint n)

end HuginnService

namespace ValidatorEntry

/-- The page of the node's figures. -/
def metricsUrl (v : ValidatorEntry) : String :=
  s!"http://{v.host}:{v.metricsPort}/metrics"

/-- The address of the RPC endpoint. -/
def rpcUrl (v : ValidatorEntry) : String :=
  s!"http://{v.host}:{v.rpcPort}"

/-- The page of the host's figures, if there is one. -/
def exporterUrl (v : ValidatorEntry) : Option String :=
  v.exporterPort.map fun port => s!"http://{v.host}:{port}/metrics"

/-- The key in the form that is compared. -/
def normalizedKey (v : ValidatorEntry) : String :=
  PublicKey.normalize v.publicKey

end ValidatorEntry

namespace Settings

/-- A count as a signed number of 64 bits. -/
def signedSeconds (n : Nat) : Int :=
  Int.bmod n (Nat.pow 2 64)

/-- Check intervals that pass, by default, between two messages of one category. -/
def cooldownIntervals : Nat := 5

/-- The time between two messages of one category on a channel. -/
def cooldown (s : Settings) : Span :=
  .ofSeconds (signedSeconds
    (s.alertCooldownSeconds.getD (s.checkIntervalSeconds * cooldownIntervals)))

/-- The time between two emergency messages. -/
def emergencyCooldown (s : Settings) : Span :=
  .ofSeconds (signedSeconds s.emergencyCooldownSeconds)

/-- The time for a whole check. -/
def probeLimit (s : Settings) : Span :=
  .ofSeconds s.probeTimeoutSeconds

/-- The time for one source: three quarters of that for a whole check. -/
def sourceDeadline (s : Settings) : Span :=
  ⟨s.probeLimit.nanos * 3 / 4⟩

/-- The validators that are checked, in name order. -/
def enabledValidators (s : Settings) : List (String × ValidatorEntry) :=
  s.validators.entries.filter fun e => e.2.enabled

end Settings

end ValidatorWatch
