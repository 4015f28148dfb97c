import ValidatorWatch.Settings.Basic
import ValidatorWatch.Source.Huginn
import ValidatorWatch.Source.Scrape
/-!
# Probing a validator

A probe asks every source of a validator that is configured: the node, its RPC endpoint, its host,
and the two services. They are asked at the same time, so none waits for another, and each has its
own deadline. The two services share what is kept of gmonads, as huginn may ask it for a reference
validator.
-/

namespace ValidatorWatch

open Http
open Time (Instant Span)

/-- How validators are probed. A service that is not used has no settings. -/
structure Prober where
  pageLimit : Span
  deadline : Span
  huginn : Option HuginnSettings
  gmonads : Option GmonadsSettings

namespace Prober

/-- The settings of gmonads, if it is used. -/
def gmonadsOf (s : Settings) : Option GmonadsSettings :=
  if s.gmonads.enabled then
    some ⟨s.gmonads.baseUrl, .ofSeconds (Settings.signedSeconds s.gmonads.lifetimeSeconds),
      .ofSeconds s.gmonads.timeoutSeconds⟩
  else none

/-- The settings of huginn, if it is used. -/
def huginnOf (s : Settings) : Option HuginnSettings :=
  if s.huginn.enabled then
    some { endpoint := s.huginn.endpoint
           lifetime := .ofSeconds (Settings.signedSeconds s.huginn.lifetimeSeconds)
           timeoutSeconds := s.huginn.timeoutSeconds
           gmonads := gmonadsOf s }
  else none

/-- The prober that settings describe. -/
def ofSettings (s : Settings) : Prober where
  pageLimit := s.sourceDeadline
  deadline := s.sourceDeadline
  huginn := huginnOf s
  gmonads := gmonadsOf s

/-- Asks a source that may not be configured. -/
def whenSome {α β : Type} (x : Option α) (ask : α → SourceLookup β) : SourceLookup (Option β) := do
  match x with
  | some a => return some (← ask a)
  | none => return none

/-- Probes a validator. -/
def probe (p : Prober) (now : Instant) (name : String) (v : ValidatorEntry) (questionId : String) :
    SourceLookup Bundle := do
  let key := v.normalizedKey
  let node ← Scrape.nodeMetrics p.pageLimit v.metricsUrl
  let rpc ← Scrape.rpcHealthy p.pageLimit v.rpcUrl questionId
  let resources ← whenSome v.exporterUrl (Scrape.resources p.pageLimit name)
  let secondary ← whenSome p.gmonads fun s =>
    Gmonads.membershipWithin s now v.network key p.deadline
  let primary ← whenSome p.huginn fun s =>
    Huginn.uptimeWithin s now v.network key p.deadline
  return {
    node := node
    resources := resources
    rpc := some rpc
    primary := primary
    secondary := secondary
    collectedAt := now }

/-- The figures of a network, if they are known. -/
def networkHealth? (p : Prober) (now : Instant) (n : Network) :
    SourceLookup (Option NetworkHealth) := do
  match p.gmonads with
  | none => return none
  | some s =>
    match ← Gmonads.networkHealth s now n with
    | .ok h => return some h
    | .error _ => return none

end Prober

end ValidatorWatch
