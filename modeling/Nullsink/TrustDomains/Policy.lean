import Nullsink.Lib.Runtime
import Nullsink.TrustDomains.ModuleGraph

/-! The trust-domain policy of `scripts/trust-domain-policy.ts` and the build's check of it in
`scripts/assert-trust-domains.ts`: the imports of the sources, the metafiles of the bundler and the
bytes of the compiled executables.
-/

namespace Nullsink.TrustDomains

open PosixPath Ecma

-----------------------------------------------------------------------------------------
-- The policy
-----------------------------------------------------------------------------------------

inductive Service where
  | proxy
  | ledger
  | payments
  deriving DecidableEq

def Service.all : List Service := [.proxy, .ledger, .payments]

/-- The composition roots. -/
def Service.root : Service → String
  | .proxy => "proxy.ts"
  | .ledger => "ledger-service.ts"
  | .payments => "payments.ts"

def intentionalSharedRuntime : Finset String :=
  {
    "endpoints/read-throttle.ts", "env.ts", "http/body.ts", "http/errors.ts", "http/headers.ts",
    "http/index.ts", "log.ts", "metrics.ts", "ratelimit.ts", "version.ts"
  }

def intentionalProxyLedgerRuntime : Finset String :=
  {
    "ledger/hash.ts", "ledger/wire.ts", "log.ts", "version.ts"
  }

def intentionalPaymentsLedgerRuntime : Finset String :=
  {
    "credit-wire.ts", "ledger/sqlite.ts", "log.ts", "version.ts"
  }

def intentionalProxyOnlyRuntime : Finset String :=
  {
    "cost/index.ts", "cost/prices.json", "cost/pricing.ts", "cost/usage/anthropic.ts",
    "cost/usage/index.ts", "cost/usage/openai.ts", "cost/usage/types.ts", "endpoints/proxy.ts",
    "endpoints/reads.ts", "handler.ts", "hold.ts", "http/proxy-token.ts", "ledger/client.ts",
    "providers/anthropic.ts", "providers/index.ts", "providers/openai.ts",
    "providers/tinfoil.ts", "proxy.ts", "shutdown.ts"
  }

def intentionalPaymentsOnlyRuntime : Finset String :=
  {
    "credit-sender.ts", "endpoints/buy.ts", "endpoints/payment-reads.ts",
    "endpoints/payments.ts", "endpoints/types.ts", "ledger/orders.ts", "ledger/orderstatus.ts",
    "ledger/poll.ts", "ledger/settle.ts", "payments-handler.ts", "payments.ts",
    "pricing-config.ts", "rails/bitcoin.ts", "rails/catalog.ts", "rails/index.ts",
    "rails/monero.ts", "rails/rate.ts", "rails/units.ts"
  }

def intentionalLedgerOnlyRuntime : Finset String :=
  {
    "credit-server.ts", "ledger-service.ts", "ledger/db.ts", "ledger/server.ts"
  }

def intentionalNonServiceModules : Finset String :=
  {
    "providers/types.ts", "rails/types.ts", "ledger/financials.ts", "ledger/port.ts",
    "token-format.ts"
  }

def trackedSourceExtensions : List String :=
  [".ts", ".tsx", ".mts", ".cts", ".js", ".jsx", ".mjs", ".cjs", ".json"]

-----------------------------------------------------------------------------------------
-- The inspection
-----------------------------------------------------------------------------------------

/-- The name of a module under the source directory. -/
def sourceModuleName (srcDir path : String) : Option String :=
  let name := relative srcDir path
  if name = "" ∨ "../".toList <+: name.toList ∨ isAbsolute name then none else some name

/-- `name.slice(name.lastIndexOf("."))`; without a dot that is the last character. -/
def sliceFromLastDot (name : String) : String :=
  let back := name.toList.reverse.takeWhile (fun c => c ≠ '.')
  if back.length = name.toList.length then String.ofList (back.take 1)
  else String.ofList ('.' :: back.reverse)

/-- A file that `allSourceModules` takes for a module, by its name under the source directory. -/
def tracked (name : String) : Bool :=
  sliceFromLastDot ((segments name).getLast?.getD "") ∈ trackedSourceExtensions

/-- The modules under the source directory that are known by their extension. -/
def allSourceModules (tree : SourceTree) (srcDir : String) : Finset String :=
  ((tree.files.filterMap (sourceModuleName srcDir)).filter tracked).toFinset

def namedModules (modules : List String) (srcDir : String) : Finset String :=
  (modules.filterMap (sourceModuleName srcDir)).toFinset

structure TrustDomainInspection where
  proxy : Finset String
  ledger : Finset String
  payments : Finset String
  shared : Finset String
  proxyLedgerShared : Finset String
  paymentsLedgerShared : Finset String
  proxyOnly : Finset String
  ledgerOnly : Finset String
  paymentsOnly : Finset String
  unexpectedShared : Finset String
  staleSharedAllowances : Finset String
  unexpectedProxyLedgerShared : Finset String
  staleProxyLedgerSharedAllowances : Finset String
  unexpectedPaymentsLedgerShared : Finset String
  stalePaymentsLedgerSharedAllowances : Finset String
  unexpectedProxyOnly : Finset String
  staleProxyOnlyAllowances : Finset String
  unexpectedPaymentsOnly : Finset String
  stalePaymentsOnlyAllowances : Finset String
  unexpectedLedgerOnly : Finset String
  staleLedgerOnlyAllowances : Finset String
  reachedNonService : Finset String
  unclassifiedSource : Finset String
  staleNonServiceAllowances : Finset String
  outsideSource : Finset String
  unresolved : List (String × String)
  opaqueImports : List (String × String)

/-- The inspection of three walks and the modules of the source directory. -/
def inspect (srcDir coreDir : String) (proxyGraph ledgerGraph paymentsGraph : RuntimeModuleGraph)
    (sourceModules : Finset String)
    : TrustDomainInspection :=
  let proxy := namedModules proxyGraph.modules srcDir
  let ledger := namedModules ledgerGraph.modules srcDir
  let payments := namedModules paymentsGraph.modules srcDir
  let shared := proxy ∩ payments
  let proxyLedgerShared := proxy ∩ ledger
  let paymentsLedgerShared := payments ∩ ledger
  let serviceModules := proxy ∪ ledger ∪ payments
  let outside :=
    (proxyGraph.modules ++ ledgerGraph.modules ++ paymentsGraph.modules).filter
      (fun path => sourceModuleName srcDir path = none)
  {
    proxy
    ledger
    payments
    shared
    proxyLedgerShared
    paymentsLedgerShared
    proxyOnly := proxy \ (payments ∪ ledger)
    ledgerOnly := ledger \ (proxy ∪ payments)
    paymentsOnly := payments \ (proxy ∪ ledger)
    unexpectedShared := shared \ intentionalSharedRuntime
    staleSharedAllowances := intentionalSharedRuntime \ shared
    unexpectedProxyLedgerShared := proxyLedgerShared \ intentionalProxyLedgerRuntime
    staleProxyLedgerSharedAllowances := intentionalProxyLedgerRuntime \ proxyLedgerShared
    unexpectedPaymentsLedgerShared := paymentsLedgerShared \ intentionalPaymentsLedgerRuntime
    stalePaymentsLedgerSharedAllowances := intentionalPaymentsLedgerRuntime \ paymentsLedgerShared
    unexpectedProxyOnly := (proxy \ (payments ∪ ledger)) \ intentionalProxyOnlyRuntime
    staleProxyOnlyAllowances := intentionalProxyOnlyRuntime \ (proxy \ (payments ∪ ledger))
    unexpectedPaymentsOnly := (payments \ (proxy ∪ ledger)) \ intentionalPaymentsOnlyRuntime
    stalePaymentsOnlyAllowances := intentionalPaymentsOnlyRuntime \ (payments \ (proxy ∪ ledger))
    unexpectedLedgerOnly := (ledger \ (proxy ∪ payments)) \ intentionalLedgerOnlyRuntime
    staleLedgerOnlyAllowances := intentionalLedgerOnlyRuntime \ (ledger \ (proxy ∪ payments))
    reachedNonService := serviceModules ∩ intentionalNonServiceModules
    unclassifiedSource := (sourceModules \ serviceModules) \ intentionalNonServiceModules
    staleNonServiceAllowances := intentionalNonServiceModules \ sourceModules
    outsideSource := (outside.map (relative coreDir)).toFinset
    unresolved := proxyGraph.unresolved ++ ledgerGraph.unresolved ++ paymentsGraph.unresolved
    opaqueImports :=
      proxyGraph.opaqueImports ++ ledgerGraph.opaqueImports ++ paymentsGraph.opaqueImports
  }

/-- `inspectTrustDomains(coreDir)`; `none` is the throw of a walk. -/
def inspectTrustDomains (tree : SourceTree) (coreDir : String) : Option TrustDomainInspection := do
  let srcDir := resolve coreDir "src"
  let proxyGraph ← tree.runtimeModuleGraph [resolve srcDir Service.proxy.root]
  let ledgerGraph ← tree.runtimeModuleGraph [resolve srcDir Service.ledger.root]
  let paymentsGraph ← tree.runtimeModuleGraph [resolve srcDir Service.payments.root]
  return inspect srcDir coreDir proxyGraph ledgerGraph paymentsGraph (allSourceModules tree srcDir)

-----------------------------------------------------------------------------------------
-- The failures
-----------------------------------------------------------------------------------------

/-- An importer with what it imports, as a failure names it. -/
def arrow (entry : String × String) : String := entry.1 ++ " -> " ++ entry.2

/-- The failures of an inspection, in the order they are looked at. -/
def TrustDomainInspection.checks (d : TrustDomainInspection) : List (String × Finset String) :=
  [
    ("unresolved local runtime imports", (d.unresolved.map arrow).toFinset),
    ("opaque runtime imports are forbidden", (d.opaqueImports.map arrow).toFinset),
    ("service roots reach local modules outside src", d.outsideSource),
    ("unreviewed modules are shared by proxy + payments", d.unexpectedShared),
    ("proxy + payments shared-module allowances are stale", d.staleSharedAllowances),
    ("unreviewed modules are shared by proxy + ledger", d.unexpectedProxyLedgerShared),
    ("proxy + ledger shared-module allowances are stale", d.staleProxyLedgerSharedAllowances),
    ("unreviewed modules are shared by payments + ledger", d.unexpectedPaymentsLedgerShared),
    ("payments + ledger shared-module allowances are stale",
      d.stalePaymentsLedgerSharedAllowances),
    ("unreviewed modules are proxy-only", d.unexpectedProxyOnly),
    ("proxy-only allowances are stale or misowned", d.staleProxyOnlyAllowances),
    ("unreviewed modules are payments-only", d.unexpectedPaymentsOnly),
    ("payments-only allowances are stale or misowned", d.stalePaymentsOnlyAllowances),
    ("unreviewed modules are ledger-only", d.unexpectedLedgerOnly),
    ("ledger-only allowances are stale or misowned", d.staleLedgerOnlyAllowances),
    ("non-service modules are reachable by a service", d.reachedNonService),
    ("src modules lack an owner", d.unclassifiedSource),
    ("non-service module allowances are stale", d.staleNonServiceAllowances)
  ]

/-- The source modules that the bundler's metafiles list for each binary. -/
structure BundledModules where
  proxyInputs : Finset String
  ledgerInputs : Finset String
  paymentsInputs : Finset String

def BundledModules.inputs (bundled : BundledModules) : Service → Finset String
  | .proxy => bundled.proxyInputs
  | .ledger => bundled.ledgerInputs
  | .payments => bundled.paymentsInputs

/-- The failures of the metafiles against an inspection. -/
def BundledModules.checks (bundled : BundledModules) (d : TrustDomainInspection)
    : List (String × Finset String) :=
  [
    ("proxy metafile contains modules absent from its AST graph", bundled.proxyInputs \ d.proxy),
    ("ledger metafile contains modules absent from its AST graph",
      bundled.ledgerInputs \ d.ledger),
    ("payments metafile contains modules absent from its AST graph",
      bundled.paymentsInputs \ d.payments),
    ("Bun embedded an unreviewed module in both service binaries",
      (bundled.proxyInputs ∩ bundled.paymentsInputs) \ intentionalSharedRuntime),
    ("Bun embedded an unreviewed module in proxy + ledger",
      (bundled.proxyInputs ∩ bundled.ledgerInputs) \ intentionalProxyLedgerRuntime),
    ("Bun embedded an unreviewed module in payments + ledger",
      (bundled.paymentsInputs ∩ bundled.ledgerInputs) \ intentionalPaymentsLedgerRuntime)
  ]

-----------------------------------------------------------------------------------------
-- The build
-----------------------------------------------------------------------------------------

def Service.executable : Service → String
  | .proxy => "nullsink-proxy-linux-x64"
  | .ledger => "nullsink-ledger-linux-x64"
  | .payments => "nullsink-payments-linux-x64"

def Service.metafile : Service → String
  | .proxy => "nullsink-proxy.metafile.json"
  | .ledger => "nullsink-ledger.metafile.json"
  | .payments => "nullsink-payments.metafile.json"

/-- The texts that only the behavior of one service has in its executable. -/
def Service.markers : Service → List String
  | .proxy => ["no providers configured", "unhandled proxy request error"]
  | .ledger => ["INTO applied_orders", "retired_ledger_sessions"]
  | .payments => ["INTO credit_outbox", "FROM pending_orders", "incomingTransfers"]

/-- What a build left behind: the bytes of each executable and the text of each metafile, `none` for
a file that does not exist.
-/
structure BuildOutput where
  executable : Service → Option (List UInt8)
  metafile : Service → Option String

/-- How the check ends other than by passing. -/
inductive Exit where
  | threw
  | missing (file : String)
  | failed (label : String) (values : Finset String)
  | noInputs (file : String)
  | noRoot
  | lacks (service : Service) (markers : List String)

namespace BuildOutput

variable (build : BuildOutput)

/-- The files of a build, with whether each exists. -/
def files : List (String × Bool) :=
  Service.all.map (fun service => (service.executable, (build.executable service).isSome))
  ++ Service.all.map (fun service => (service.metafile, (build.metafile service).isSome))

/-- The first file that does not exist ends the check. -/
def requireFiles : Except Exit Unit :=
  match build.files.find? (fun file => ¬file.2) with
  | none => .ok ()
  | some (file, _) => .error (.missing file)

/-- `Object.keys(value)` of a value that is an object or an array. -/
def objectKeys : Json → Option (List String)
  | .object fields => some (fields.map Prod.fst)
  | .array items => some ((Json.indexed items).map Prod.fst)
  | _ => none

/-- The source modules that a service's metafile lists. -/
def bundledSourceModules (js : Runtime) (srcDir cwd : String) (service : Service)
    : Except Exit (Finset String) :=
  match (build.metafile service).bind js.parse with
  | none => .error .threw
  | some .null => .error .threw
  | some parsed =>
      match (parsed.get? "inputs").bind objectKeys with
      | none => .error (.noInputs service.metafile)
      | some inputs =>
          .ok (namedModules
            (inputs.map (fun input => if isAbsolute input then input else resolve cwd input))
            srcDir)

def bundledModules (js : Runtime) (srcDir cwd : String) : Except Exit BundledModules := do
  let proxyInputs ← build.bundledSourceModules js srcDir cwd .proxy
  let ledgerInputs ← build.bundledSourceModules js srcDir cwd .ledger
  let paymentsInputs ← build.bundledSourceModules js srcDir cwd .payments
  return ⟨proxyInputs, ledgerInputs, paymentsInputs⟩

/-- `has(binary, needle)`: the bytes of a text stand somewhere in an executable. -/
def has (service : Service) (needle : String) : Bool :=
  needle.toUTF8.data.toList <:+: (build.executable service).getD []

/-- The positive control: a service that lacks a marker of its own. -/
def requireMarkers (service : Service) : Except Exit Unit :=
  let missing := service.markers.filter (fun marker => ¬build.has service marker)
  if missing = [] then .ok () else .error (.lacks service missing)

/-- The markers of one service in the executable of another. -/
def symbols (service owner : Service) : Finset String :=
  (owner.markers.filter (fun marker => build.has service marker)).toFinset

/-- The failures of the executables. -/
def checks : List (String × Finset String) :=
  [
    ("compiled proxy contains payments symbols", build.symbols .proxy .payments),
    ("compiled proxy contains ledger symbols", build.symbols .proxy .ledger),
    ("compiled ledger contains payments symbols", build.symbols .ledger .payments),
    ("compiled ledger contains proxy symbols", build.symbols .ledger .proxy),
    ("compiled payments contains proxy symbols", build.symbols .payments .proxy),
    ("compiled payments contains ledger symbols", build.symbols .payments .ledger)
  ]

end BuildOutput

-----------------------------------------------------------------------------------------
-- The check
-----------------------------------------------------------------------------------------

/-- `fail` on each list in turn: the first with values in it ends the check. -/
def failFirst (checks : List (String × Finset String)) : Except Exit Unit :=
  match checks.find? (fun check => check.2 ≠ ∅) with
  | none => .ok ()
  | some (label, values) => .error (.failed label values)

/-- The composition root of each service is in its own bundle. -/
def requireRoots (bundled : BundledModules) : Except Exit Unit :=
  if Service.proxy.root ∉ bundled.proxyInputs ∨ Service.ledger.root ∉ bundled.ledgerInputs
    ∨ Service.payments.root ∉ bundled.paymentsInputs
  then .error .noRoot
  else .ok ()

/-- The check of a build, run in the directory `cwd`. -/
def assertTrustDomains (js : Runtime) (tree : SourceTree) (coreDir cwd : String)
    (build : BuildOutput)
    : Except Exit Unit := do
  build.requireFiles
  let trustDomains ← (inspectTrustDomains tree coreDir).elim (.error .threw) .ok
  failFirst trustDomains.checks
  let bundled ← build.bundledModules js (resolve coreDir "src") cwd
  requireRoots bundled
  failFirst (bundled.checks trustDomains)
  build.requireMarkers .payments
  build.requireMarkers .proxy
  build.requireMarkers .ledger
  failFirst build.checks

end Nullsink.TrustDomains
