import Nullsink.TrustDomains.Policy

/-! What the build's check of the trust domains establishes: it passes exactly when each service can
load the modules it owns and no other, was bundled of them and carries its own markers alone, so
that no chain of imports leads from one domain into another's own.
-/

namespace Nullsink.TrustDomains

open PosixPath SourceTree Ecma

-----------------------------------------------------------------------------------------
-- Ownership
-----------------------------------------------------------------------------------------

/-- The modules that the policy lets a service load. -/
def Service.modules : Service → Finset String
  | .proxy =>
      intentionalProxyOnlyRuntime ∪ intentionalSharedRuntime ∪ intentionalProxyLedgerRuntime
  | .ledger =>
      intentionalLedgerOnlyRuntime ∪ intentionalProxyLedgerRuntime
        ∪ intentionalPaymentsLedgerRuntime
  | .payments =>
      intentionalPaymentsOnlyRuntime ∪ intentionalSharedRuntime
        ∪ intentionalPaymentsLedgerRuntime

/-- The file a service starts from. -/
def Service.entry (srcDir : String) (service : Service) : String :=
  resolve "/" (resolve srcDir service.root)

/-- The modules of the source directory that a service can load. -/
def Loadable (tree : SourceTree) (srcDir : String) (service : Service) (name : String) : Prop :=
  ∃ file, tree.Reached (service.entry srcDir) file ∧ sourceModuleName srcDir file = some name

/-- The policy, as it is meant. -/
structure Separated (tree : SourceTree) (srcDir : String) : Prop where
  exists_entry : ∀ service : Service, tree.isFile (service.entry srcDir) = true
  /-- A service can load what it owns and nothing else of the source directory. -/
  loadable : ∀ service name, Loadable tree srcDir service name ↔ name ∈ service.modules
  /-- Nor anything outside of it. -/
  inside
    : ∀ (service : Service) file, tree.Reached (service.entry srcDir) file
        → (sourceModuleName srcDir file).isSome
  /-- Every import that a service can run into is known. -/
  resolved
    : ∀ (service : Service) file specifier, tree.Reached (service.entry srcDir) file
        → ¬tree.Unresolved file specifier
  readable
    : ∀ (service : Service) file expression, tree.Reached (service.entry srcDir) file
        → ¬tree.Opaque file expression
  /-- Every module of the source directory has an owner, or is known to have none. -/
  owned
    : ∀ name, name ∈ allSourceModules tree srcDir
        ↔ (∃ service : Service, name ∈ service.modules) ∨ name ∈ intentionalNonServiceModules

/-- The bundler put a service's root and no module but its own into the binary. -/
structure Bundled (bundled : BundledModules) : Prop where
  root : ∀ service : Service, service.root ∈ bundled.inputs service
  within : ∀ service : Service, bundled.inputs service ⊆ service.modules

/-- Each executable is there, with all the markers of its service and none of another's. -/
structure Marked (build : BuildOutput) : Prop where
  exists_executable : ∀ service : Service, (build.executable service).isSome
  has_iff
    : ∀ (service owner : Service) marker, marker ∈ owner.markers
        → (build.has service marker = true ↔ owner = service)

-----------------------------------------------------------------------------------------
-- The sets
-----------------------------------------------------------------------------------------

/-- Three sets with reviewed intersections and remainders are the unions of these. -/
theorem union_of_parts {Name : Type} [DecidableEq Name]
    {first second third own both other : Finset Name}
    (rest : first \ (second ∪ third) = own) (meets : first ∩ second = both)
    (meetsOther : first ∩ third = other)
    : first = own ∪ both ∪ other := by
  subst rest meets meetsOther
  ext name
  simp only [Finset.mem_union, Finset.mem_sdiff, Finset.mem_inter]
  tauto

/-- Two differences that are empty make an equality. -/
theorem eq_of_sdiff_empty {Name : Type} [DecidableEq Name] {found allowed : Finset Name}
    (unexpected : found \ allowed = ∅) (stale : allowed \ found = ∅)
    : found = allowed :=
  Finset.Subset.antisymm (Finset.sdiff_eq_empty_iff_subset.mp unexpected)
    (Finset.sdiff_eq_empty_iff_subset.mp stale)

theorem failFirst_ok_iff {checks : List (String × Finset String)}
    : failFirst checks = .ok () ↔ ∀ check ∈ checks, check.2 = ∅ := by
  unfold failFirst
  split
  · rename_i none
    simpa using none
  · rename_i label values first
    have found : (label, values).2 ≠ ∅ := by simpa using List.find?_some first
    simp only [reduceCtorEq, false_iff]
    exact fun clear => found (clear _ (List.mem_of_find?_eq_some first))

theorem Service.forall_iff {p : Service → Prop}
    : (∀ service, p service) ↔ p .proxy ∧ p .ledger ∧ p .payments := by
  refine ⟨fun each => ⟨each .proxy, each .ledger, each .payments⟩, ?_⟩
  intro each service
  obtain ⟨proxy, ledger, payments⟩ := each
  cases service
  · exact proxy
  · exact ledger
  · exact payments

theorem Service.mem_modules_iff {name : String}
    : name ∈ Service.proxy.modules ∪ Service.ledger.modules ∪ Service.payments.modules
      ↔ ∃ service : Service, name ∈ service.modules := by
  simp only [Finset.mem_union]
  constructor
  · rintro ((member | member) | member)
    · exact ⟨.proxy, member⟩
    · exact ⟨.ledger, member⟩
    · exact ⟨.payments, member⟩
  · rintro ⟨service, member⟩
    cases service <;> simp [member]

/-- What the policy lists fits together. -/
theorem policy_consistent
    : Service.proxy.modules ∩ Service.payments.modules = intentionalSharedRuntime
      ∧ Service.proxy.modules ∩ Service.ledger.modules = intentionalProxyLedgerRuntime
      ∧ Service.payments.modules ∩ Service.ledger.modules = intentionalPaymentsLedgerRuntime
      ∧ Service.proxy.modules \ (Service.payments.modules ∪ Service.ledger.modules)
        = intentionalProxyOnlyRuntime
      ∧ Service.payments.modules \ (Service.proxy.modules ∪ Service.ledger.modules)
        = intentionalPaymentsOnlyRuntime
      ∧ Service.ledger.modules \ (Service.proxy.modules ∪ Service.payments.modules)
        = intentionalLedgerOnlyRuntime
      ∧ (Service.proxy.modules ∪ Service.ledger.modules ∪ Service.payments.modules)
          ∩ intentionalNonServiceModules
        = ∅ := by
  decide +kernel

/-- The modules of every service have extensions that make them source modules. -/
theorem modules_tracked {name : String}
    (member : name ∈ Service.proxy.modules ∪ Service.ledger.modules ∪ Service.payments.modules)
    : tracked name = true := by
  revert name
  decide +kernel

-----------------------------------------------------------------------------------------
-- The inspection
-----------------------------------------------------------------------------------------

section Inspection

variable {srcDir coreDir : String} {proxyGraph ledgerGraph paymentsGraph : RuntimeModuleGraph}
  {sourceModules : Finset String}

/-- An inspection has no failure exactly when the three walks failed nowhere, stayed inside, and
named what the policy lists.
-/
theorem checks_pass_iff
    (known
      : ∀ name ∈ namedModules proxyGraph.modules srcDir ∪ namedModules ledgerGraph.modules srcDir
          ∪ namedModules paymentsGraph.modules srcDir,
          tracked name = true → name ∈ sourceModules)
    : (∀ check
        ∈ (inspect srcDir coreDir proxyGraph ledgerGraph paymentsGraph sourceModules).checks,
          check.2 = ∅)
      ↔ (proxyGraph.unresolved = [] ∧ ledgerGraph.unresolved = [] ∧ paymentsGraph.unresolved = [])
        ∧ (proxyGraph.opaqueImports = [] ∧ ledgerGraph.opaqueImports = []
          ∧ paymentsGraph.opaqueImports = [])
        ∧ (∀ path ∈ proxyGraph.modules ++ ledgerGraph.modules ++ paymentsGraph.modules,
          sourceModuleName srcDir path ≠ none)
        ∧ namedModules proxyGraph.modules srcDir = Service.proxy.modules
        ∧ namedModules ledgerGraph.modules srcDir = Service.ledger.modules
        ∧ namedModules paymentsGraph.modules srcDir = Service.payments.modules
        ∧ sourceModules
          = Service.proxy.modules ∪ Service.ledger.modules ∪ Service.payments.modules
            ∪ intentionalNonServiceModules := by
  generalize named : namedModules proxyGraph.modules srcDir = proxy at known ⊢
  generalize namedLedger : namedModules ledgerGraph.modules srcDir = ledger at known ⊢
  generalize namedPayments : namedModules paymentsGraph.modules srcDir = payments at known ⊢
  simp only [TrustDomainInspection.checks, inspect, named, namedLedger, namedPayments,
    List.forall_mem_cons, List.toFinset_eq_empty_iff, List.map_eq_nil_iff, List.append_eq_nil_iff,
    and_assoc, List.filter_eq_nil_iff]
  constructor
  · rintro ⟨noneP, noneL, noneY, clearP, clearL, clearY, inside, s1, s2, a1, a2, b1, b2, p1, p2, y1,
      y2, l1, l2, nonService, unclassified, stale, -⟩
    have shared := eq_of_sdiff_empty s1 s2
    have proxyLedger := eq_of_sdiff_empty a1 a2
    have paymentsLedger := eq_of_sdiff_empty b1 b2
    have proxyOnly := eq_of_sdiff_empty p1 p2
    have paymentsOnly := eq_of_sdiff_empty y1 y2
    have ledgerOnly := eq_of_sdiff_empty l1 l2
    have whole : proxy = Service.proxy.modules := union_of_parts proxyOnly shared proxyLedger
    have wholeLedger : ledger = Service.ledger.modules := by
      refine union_of_parts ledgerOnly ?_ ?_
      · rw [Finset.inter_comm, proxyLedger]
      · rw [Finset.inter_comm, paymentsLedger]
    have wholePayments : payments = Service.payments.modules := by
      refine union_of_parts paymentsOnly ?_ paymentsLedger
      rw [Finset.inter_comm, shared]
    refine ⟨noneP, noneL, noneY, clearP, clearL, clearY, fun path member => ?_, whole, wholeLedger,
      wholePayments, ?_⟩
    · simpa using inside path member
    · subst whole wholeLedger wholePayments
      refine Finset.Subset.antisymm (fun name member => ?_) (fun name member => ?_)
      · by_contra apart
        rw [Finset.mem_union, not_or] at apart
        have unowned : name ∈ (sourceModules \ (Service.proxy.modules ∪ Service.ledger.modules
            ∪ Service.payments.modules)) \ intentionalNonServiceModules := by
          simp only [Finset.mem_sdiff]
          exact ⟨⟨member, apart.1⟩, apart.2⟩
        rw [unclassified] at unowned
        exact absurd unowned (Finset.notMem_empty name)
      · rcases Finset.mem_union.mp member with service | exempt
        · exact known name service (modules_tracked service)
        · exact Finset.sdiff_eq_empty_iff_subset.mp stale exempt
  · rintro ⟨noneP, noneL, noneY, clearP, clearL, clearY, inside, rfl, rfl, rfl, rfl⟩
    obtain ⟨shared, proxyLedger, paymentsLedger, proxyOnly, paymentsOnly, ledgerOnly, apart⟩ :=
      policy_consistent
    refine ⟨noneP, noneL, noneY, clearP, clearL, clearY, ?_, ?_⟩
    · simpa using inside
    · rw [shared, proxyLedger, paymentsLedger, proxyOnly, paymentsOnly, ledgerOnly, apart]
      simp [-Finset.union_assoc]

end Inspection

-----------------------------------------------------------------------------------------
-- The check
-----------------------------------------------------------------------------------------

section Check

variable {tree : SourceTree} {coreDir srcDir : String}

/-- The walk of a service names what the service can load. -/
theorem mem_namedModules {service : Service} {graph : RuntimeModuleGraph} {name : String}
    (walked : tree.runtimeModuleGraph [resolve srcDir service.root] = some graph)
    : name ∈ namedModules graph.modules srcDir ↔ Loadable tree srcDir service name := by
  simp only [namedModules, List.mem_toFinset, List.mem_filterMap,
    (runtimeModuleGraph_exact walked).1]
  rfl

/-- A walk has no failure exactly when no file it reaches has one. -/
theorem unresolved_eq_nil_iff {service : Service} {graph : RuntimeModuleGraph}
    (walked : tree.runtimeModuleGraph [resolve srcDir service.root] = some graph)
    : graph.unresolved = []
      ↔ ∀ file specifier, tree.Reached (service.entry srcDir) file
          → ¬tree.Unresolved file specifier := by
  rw [List.eq_nil_iff_forall_not_mem, Prod.forall]
  refine forall₂_congr fun file specifier => ?_
  rw [(runtimeModuleGraph_exact walked).2.1, not_and]
  rfl

theorem opaqueImports_eq_nil_iff {service : Service} {graph : RuntimeModuleGraph}
    (walked : tree.runtimeModuleGraph [resolve srcDir service.root] = some graph)
    : graph.opaqueImports = []
      ↔ ∀ file expression, tree.Reached (service.entry srcDir) file
          → ¬tree.Opaque file expression := by
  rw [List.eq_nil_iff_forall_not_mem, Prod.forall]
  refine forall₂_congr fun file expression => ?_
  rw [(runtimeModuleGraph_exact walked).2.2, not_and]
  rfl

/-- The modules that a walk names are files of the source directory. -/
theorem mem_allSourceModules {service : Service} {graph : RuntimeModuleGraph} {name : String}
    (walked : tree.runtimeModuleGraph [resolve srcDir service.root] = some graph)
    (named : name ∈ namedModules graph.modules srcDir) (known : tracked name = true)
    : name ∈ allSourceModules tree srcDir := by
  obtain ⟨file, reached, own⟩ := (mem_namedModules walked).mp named
  have entry : tree.isFile (service.entry srcDir) = true :=
    runtimeModuleGraph_isSome_iff.mp (Option.isSome_of_eq_some walked)
  have stored := reached.isFile entry
  simp only [allSourceModules, List.mem_toFinset, List.mem_filter, List.mem_filterMap]
  exact ⟨⟨file, by simpa [isFile] using stored, own⟩, known⟩

/-- A walk stays inside exactly when every file it reaches has a name. -/
theorem inside_iff {service : Service} {graph : RuntimeModuleGraph}
    (walked : tree.runtimeModuleGraph [resolve srcDir service.root] = some graph)
    : (∀ path ∈ graph.modules, sourceModuleName srcDir path ≠ none)
      ↔ ∀ file, tree.Reached (service.entry srcDir) file
          → (sourceModuleName srcDir file).isSome := by
  refine forall_congr' fun file => ?_
  rw [(runtimeModuleGraph_exact walked).1, Option.isSome_iff_ne_none]
  rfl

/-- A walk names the modules of its service exactly when the service can load just these. -/
theorem namedModules_eq_iff {service : Service} {graph : RuntimeModuleGraph}
    (walked : tree.runtimeModuleGraph [resolve srcDir service.root] = some graph)
    : namedModules graph.modules srcDir = service.modules
      ↔ ∀ name, Loadable tree srcDir service name ↔ name ∈ service.modules := by
  rw [Finset.ext_iff]
  refine forall_congr' fun name => ?_
  rw [mem_namedModules walked]

/-- Whether three walks have no failure together is whether the policy is kept. -/
theorem walks_pass_iff {proxyGraph ledgerGraph paymentsGraph : RuntimeModuleGraph}
    (proxy : tree.runtimeModuleGraph [resolve srcDir Service.proxy.root] = some proxyGraph)
    (ledger : tree.runtimeModuleGraph [resolve srcDir Service.ledger.root] = some ledgerGraph)
    (payments
      : tree.runtimeModuleGraph [resolve srcDir Service.payments.root] = some paymentsGraph)
    : (∀ check
        ∈ (inspect srcDir coreDir proxyGraph ledgerGraph paymentsGraph
            (allSourceModules tree srcDir)).checks,
          check.2 = ∅)
      ↔ Separated tree srcDir := by
  have known
      : ∀ name ∈ namedModules proxyGraph.modules srcDir ∪ namedModules ledgerGraph.modules srcDir
          ∪ namedModules paymentsGraph.modules srcDir,
          tracked name = true → name ∈ allSourceModules tree srcDir := by
    intro name member
    simp only [Finset.mem_union] at member
    rcases member with (named | named) | named
    · exact mem_allSourceModules proxy named
    · exact mem_allSourceModules ledger named
    · exact mem_allSourceModules payments named
  have owned
      : allSourceModules tree srcDir
          = Service.proxy.modules ∪ Service.ledger.modules ∪ Service.payments.modules
            ∪ intentionalNonServiceModules
        ↔ ∀ name, name ∈ allSourceModules tree srcDir
            ↔ (∃ service : Service, name ∈ service.modules)
              ∨ name ∈ intentionalNonServiceModules := by
    rw [Finset.ext_iff]
    refine forall_congr' fun name => ?_
    rw [Finset.mem_union, Service.mem_modules_iff]
  rw [checks_pass_iff known, unresolved_eq_nil_iff proxy, unresolved_eq_nil_iff ledger,
    unresolved_eq_nil_iff payments, opaqueImports_eq_nil_iff proxy,
    opaqueImports_eq_nil_iff ledger, opaqueImports_eq_nil_iff payments, List.forall_mem_append,
    List.forall_mem_append, inside_iff proxy, inside_iff ledger, inside_iff payments,
    namedModules_eq_iff proxy, namedModules_eq_iff ledger, namedModules_eq_iff payments, owned]
  constructor
  · rintro ⟨resolved, readable, ⟨⟨insideP, insideL⟩, insideY⟩, ownP, ownL, ownY, owned⟩
    have entry {service : Service} {graph : RuntimeModuleGraph}
        (walked : tree.runtimeModuleGraph [resolve srcDir service.root] = some graph)
        : tree.isFile (service.entry srcDir) = true :=
      runtimeModuleGraph_isSome_iff.mp (Option.isSome_of_eq_some walked)
    exact {
      exists_entry := Service.forall_iff.mpr ⟨entry proxy, entry ledger, entry payments⟩
      loadable := Service.forall_iff.mpr ⟨ownP, ownL, ownY⟩
      inside := Service.forall_iff.mpr ⟨insideP, insideL, insideY⟩
      resolved := Service.forall_iff.mpr resolved
      readable := Service.forall_iff.mpr readable
      owned
    }
  · intro separated
    obtain ⟨insideP, insideL, insideY⟩ := Service.forall_iff.mp separated.inside
    obtain ⟨ownP, ownL, ownY⟩ := Service.forall_iff.mp separated.loadable
    exact ⟨Service.forall_iff.mp separated.resolved, Service.forall_iff.mp separated.readable,
      ⟨⟨insideP, insideL⟩, insideY⟩, ownP, ownL, ownY, separated.owned⟩

/-- An inspection without failures is the policy kept. -/
theorem inspection_iff
    : (∃ trustDomains, inspectTrustDomains tree coreDir = some trustDomains
        ∧ ∀ check ∈ trustDomains.checks, check.2 = ∅)
      ↔ Separated tree (resolve coreDir "src") := by
  constructor
  · rintro ⟨trustDomains, inspected, clear⟩
    obtain ⟨proxyGraph, proxy, rest⟩ := Option.bind_eq_some_iff.mp inspected
    obtain ⟨ledgerGraph, ledger, rest⟩ := Option.bind_eq_some_iff.mp rest
    obtain ⟨paymentsGraph, payments, built⟩ := Option.bind_eq_some_iff.mp rest
    obtain rfl := Option.some.inj built
    exact (walks_pass_iff proxy ledger payments).mp clear
  · intro separated
    have walks (service : Service) :=
      runtimeModuleGraph_isSome_iff.mpr (separated.exists_entry service)
    obtain ⟨proxyGraph, proxy⟩ := Option.isSome_iff_exists.mp (walks .proxy)
    obtain ⟨ledgerGraph, ledger⟩ := Option.isSome_iff_exists.mp (walks .ledger)
    obtain ⟨paymentsGraph, payments⟩ := Option.isSome_iff_exists.mp (walks .payments)
    refine ⟨inspect (resolve coreDir "src") coreDir proxyGraph ledgerGraph paymentsGraph _, ?_,
      (walks_pass_iff proxy ledger payments).mpr separated⟩
    rw [inspectTrustDomains, proxy, ledger, payments]
    rfl

theorem Separated.inspected (separated : Separated tree (resolve coreDir "src"))
    {trustDomains : TrustDomainInspection}
    (inspected : inspectTrustDomains tree coreDir = some trustDomains)
    : trustDomains.proxy = Service.proxy.modules ∧ trustDomains.ledger = Service.ledger.modules
      ∧ trustDomains.payments = Service.payments.modules := by
  obtain ⟨proxyGraph, proxy, rest⟩ := Option.bind_eq_some_iff.mp inspected
  obtain ⟨ledgerGraph, ledger, rest⟩ := Option.bind_eq_some_iff.mp rest
  obtain ⟨paymentsGraph, payments, built⟩ := Option.bind_eq_some_iff.mp rest
  obtain rfl := Option.some.inj built
  exact ⟨(namedModules_eq_iff proxy).mpr (separated.loadable .proxy),
    (namedModules_eq_iff ledger).mpr (separated.loadable .ledger),
    (namedModules_eq_iff payments).mpr (separated.loadable .payments)⟩

/-- The bundles pass against an inspection that names what the policy lists exactly when each is of
its own service's modules.
-/
theorem bundled_iff {trustDomains : TrustDomainInspection} {bundled : BundledModules}
    (proxy : trustDomains.proxy = Service.proxy.modules)
    (ledger : trustDomains.ledger = Service.ledger.modules)
    (payments : trustDomains.payments = Service.payments.modules)
    : (Service.proxy.root ∈ bundled.proxyInputs ∧ Service.ledger.root ∈ bundled.ledgerInputs
        ∧ Service.payments.root ∈ bundled.paymentsInputs
        ∧ ∀ check ∈ bundled.checks trustDomains, check.2 = ∅)
      ↔ Bundled bundled := by
  obtain ⟨shared, proxyLedger, paymentsLedger, _⟩ := policy_consistent
  simp only [BundledModules.checks, List.forall_mem_cons, Finset.sdiff_eq_empty_iff_subset, proxy,
    ledger, payments]
  constructor
  · rintro ⟨rootP, rootL, rootY, insideP, insideL, insideY, _⟩
    exact {
      root := Service.forall_iff.mpr ⟨rootP, rootL, rootY⟩
      within := Service.forall_iff.mpr ⟨insideP, insideL, insideY⟩
    }
  · rintro ⟨root, within⟩
    refine ⟨root .proxy, root .ledger, root .payments, within .proxy, within .ledger,
      within .payments, ?_, ?_, ?_, by simp⟩
    · exact shared ▸ Finset.inter_subset_inter (within .proxy) (within .payments)
    · exact proxyLedger ▸ Finset.inter_subset_inter (within .proxy) (within .ledger)
    · exact paymentsLedger ▸ Finset.inter_subset_inter (within .payments) (within .ledger)

/-- A service that can load a module of another one shares it by the policy. -/
def sharedBy : Service → Service → Finset String
  | .proxy, .payments => intentionalSharedRuntime
  | .payments, .proxy => intentionalSharedRuntime
  | .proxy, .ledger => intentionalProxyLedgerRuntime
  | .ledger, .proxy => intentionalProxyLedgerRuntime
  | .payments, .ledger => intentionalPaymentsLedgerRuntime
  | .ledger, .payments => intentionalPaymentsLedgerRuntime
  | service, _ => service.modules

theorem modules_inter (first second : Service)
    : first.modules ∩ second.modules = sharedBy first second := by
  cases first <;> cases second <;> decide +kernel

end Check

-----------------------------------------------------------------------------------------
-- The build
-----------------------------------------------------------------------------------------

section Build

variable {build : BuildOutput}

theorem requireFiles_ok_iff
    : build.requireFiles = .ok ()
      ↔ (∀ service, (build.executable service).isSome) ∧ ∀ service, (build.metafile service).isSome
    := by
  have whole
      : (∀ file ∈ build.files, file.2 = true)
        ↔ (∀ service, (build.executable service).isSome)
          ∧ ∀ service, (build.metafile service).isSome := by
    rw [Service.forall_iff, Service.forall_iff]
    simp [BuildOutput.files, Service.all, and_assoc]
  rw [← whole]
  unfold BuildOutput.requireFiles
  split
  · rename_i found
    simpa using found
  · rename_i file known first
    have gone := List.find?_some first
    simp only [reduceCtorEq, false_iff]
    intro present
    obtain rfl : known = true := present _ (List.mem_of_find?_eq_some first)
    simp at gone

theorem requireMarkers_ok_iff {service : Service}
    : build.requireMarkers service = .ok ()
      ↔ ∀ marker ∈ service.markers, build.has service marker = true := by
  simp [BuildOutput.requireMarkers, List.filter_eq_nil_iff]

theorem requireRoots_ok_iff {bundled : BundledModules}
    : requireRoots bundled = .ok ()
      ↔ Service.proxy.root ∈ bundled.proxyInputs ∧ Service.ledger.root ∈ bundled.ledgerInputs
        ∧ Service.payments.root ∈ bundled.paymentsInputs := by
  simp [requireRoots]

/-- No executable has symbols of another service exactly when none of the six lists has any. -/
theorem symbols_clear_iff
    : (∀ check ∈ build.checks, check.2 = ∅)
      ↔ ∀ service owner : Service, service ≠ owner → ∀ marker ∈ owner.markers,
          build.has service marker = false := by
  have empty {service owner : Service}
      : build.symbols service owner = ∅
        ↔ ∀ marker ∈ owner.markers, build.has service marker = false := by
    simp [BuildOutput.symbols]
  simp only [BuildOutput.checks, List.forall_mem_cons, empty]
  constructor
  · rintro ⟨proxyPayments, proxyLedger, ledgerPayments, ledgerProxy, paymentsProxy,
      paymentsLedger, _⟩
    rintro (_ | _ | _) (_ | _ | _) apart
    all_goals first | exact (apart rfl).elim | assumption
  · intro clear
    exact ⟨clear .proxy .payments (by simp), clear .proxy .ledger (by simp),
      clear .ledger .payments (by simp), clear .ledger .proxy (by simp),
      clear .payments .proxy (by simp), clear .payments .ledger (by simp), by simp⟩

theorem marked_iff
    : (∀ service, (build.executable service).isSome) ∧ build.requireMarkers .payments = .ok ()
        ∧ build.requireMarkers .proxy = .ok () ∧ build.requireMarkers .ledger = .ok ()
        ∧ (∀ check ∈ build.checks, check.2 = ∅)
      ↔ Marked build := by
  simp only [requireMarkers_ok_iff, symbols_clear_iff]
  constructor
  · rintro ⟨present, payments, proxy, ledger, clear⟩
    refine ⟨present, fun service owner marker own => ⟨fun found => ?_, ?_⟩⟩
    · by_contra apart
      rw [clear service owner (Ne.symm apart) marker own] at found
      cases found
    · rintro rfl
      cases owner
      · exact proxy marker own
      · exact ledger marker own
      · exact payments marker own
  · intro marked
    have carries (service : Service) (marker : String) (own : marker ∈ service.markers)
        : build.has service marker = true :=
      (marked.has_iff service service marker own).mpr rfl
    refine ⟨marked.exists_executable, carries .payments, carries .proxy, carries .ledger, ?_⟩
    intro service owner apart marker own
    by_contra found
    exact apart ((marked.has_iff service owner marker own).mp (by simpa using found)).symm

/-- Modules are read only of metafiles that exist. -/
theorem metafile_of_bundledModules {js : Runtime} {srcDir cwd : String} {bundled : BundledModules}
    (listed : build.bundledModules js srcDir cwd = .ok bundled) (service : Service)
    : (build.metafile service).isSome := by
  have read {modules : Finset String}
      (named : build.bundledSourceModules js srcDir cwd service = .ok modules)
      : (build.metafile service).isSome := by
    unfold BuildOutput.bundledSourceModules at named
    cases found : build.metafile service with
    | none => simp [found] at named
    | some text => rfl
  obtain ⟨proxyInputs, proxy, rest⟩ := Except.bind_eq_ok.mp listed
  obtain ⟨ledgerInputs, ledger, rest⟩ := Except.bind_eq_ok.mp rest
  obtain ⟨paymentsInputs, payments, _⟩ := Except.bind_eq_ok.mp rest
  cases service
  · exact read proxy
  · exact read ledger
  · exact read payments

end Build

/-- A module that a service can load, or that its binary was bundled of. -/
def Carried (js : Runtime) (tree : SourceTree) (srcDir cwd : String) (build : BuildOutput)
    (service : Service) (name : String)
    : Prop :=
  Loadable tree srcDir service name
  ∨ ∃ bundled, build.bundledModules js srcDir cwd = .ok bundled ∧ name ∈ bundled.inputs service

/-- The check of a build passes exactly when the policy is kept, each binary was bundled of its own
modules and carries the markers of its own service only; and then what two services both carry is
reviewed.
-/
theorem trust_domains_exact (js : Runtime) (tree : SourceTree) (coreDir cwd : String)
    (build : BuildOutput)
    : (assertTrustDomains js tree coreDir cwd build = .ok ()
        ↔ Separated tree (resolve coreDir "src")
          ∧ (∃ bundled, build.bundledModules js (resolve coreDir "src") cwd = .ok bundled
            ∧ Bundled bundled)
          ∧ Marked build)
      ∧ (assertTrustDomains js tree coreDir cwd build = .ok ()
        → ∀ first second name,
            Carried js tree (resolve coreDir "src") cwd build first name
            → Carried js tree (resolve coreDir "src") cwd build second name
            → name ∈ sharedBy first second) := by
  have exact'
      : assertTrustDomains js tree coreDir cwd build = .ok ()
        ↔ Separated tree (resolve coreDir "src")
          ∧ (∃ bundled, build.bundledModules js (resolve coreDir "src") cwd = .ok bundled
            ∧ Bundled bundled)
          ∧ Marked build := by
    constructor
    · intro passed
      obtain ⟨_, files, passed⟩ := Except.bind_eq_ok.mp passed
      obtain ⟨trustDomains, walked, passed⟩ := Except.bind_eq_ok.mp passed
      obtain ⟨_, clear, passed⟩ := Except.bind_eq_ok.mp passed
      obtain ⟨bundled, listed, passed⟩ := Except.bind_eq_ok.mp passed
      obtain ⟨_, roots, passed⟩ := Except.bind_eq_ok.mp passed
      obtain ⟨_, fits, passed⟩ := Except.bind_eq_ok.mp passed
      obtain ⟨_, payments, passed⟩ := Except.bind_eq_ok.mp passed
      obtain ⟨_, proxy, passed⟩ := Except.bind_eq_ok.mp passed
      obtain ⟨_, ledger, symbols⟩ := Except.bind_eq_ok.mp passed
      have inspected : inspectTrustDomains tree coreDir = some trustDomains := by
        cases found : inspectTrustDomains tree coreDir with
        | none => simp [found] at walked
        | some known => simpa [found] using walked
      have separated := inspection_iff.mp ⟨_, inspected, failFirst_ok_iff.mp clear⟩
      obtain ⟨proxyOwn, ledgerOwn, paymentsOwn⟩ := separated.inspected inspected
      obtain ⟨rootP, rootL, rootY⟩ := requireRoots_ok_iff.mp roots
      refine ⟨separated, ⟨bundled, listed, (bundled_iff proxyOwn ledgerOwn paymentsOwn).mp
        ⟨rootP, rootL, rootY, failFirst_ok_iff.mp fits⟩⟩, marked_iff.mp ?_⟩
      exact ⟨(requireFiles_ok_iff.mp files).1, payments, proxy, ledger,
        failFirst_ok_iff.mp symbols⟩
    · rintro ⟨separated, ⟨bundled, listed, fits⟩, marked⟩
      obtain ⟨trustDomains, inspected, clear⟩ := inspection_iff.mpr separated
      obtain ⟨proxyOwn, ledgerOwn, paymentsOwn⟩ := separated.inspected inspected
      obtain ⟨rootP, rootL, rootY, within⟩ := (bundled_iff proxyOwn ledgerOwn paymentsOwn).mpr fits
      obtain ⟨present, payments, proxy, ledger, symbols⟩ := marked_iff.mpr marked
      have files := requireFiles_ok_iff.mpr ⟨present, metafile_of_bundledModules listed⟩
      have roots := requireRoots_ok_iff.mpr ⟨rootP, rootL, rootY⟩
      refine Except.bind_eq_ok.mpr ⟨_, files, Except.bind_eq_ok.mpr ⟨trustDomains, ?_, ?_⟩⟩
      · rw [inspected]
        rfl
      refine Except.bind_eq_ok.mpr ⟨_, failFirst_ok_iff.mpr clear, ?_⟩
      refine Except.bind_eq_ok.mpr ⟨bundled, listed, Except.bind_eq_ok.mpr ⟨_, roots, ?_⟩⟩
      refine Except.bind_eq_ok.mpr ⟨_, failFirst_ok_iff.mpr within, ?_⟩
      refine Except.bind_eq_ok.mpr ⟨_, payments, Except.bind_eq_ok.mpr ⟨_, proxy, ?_⟩⟩
      exact Except.bind_eq_ok.mpr ⟨_, ledger, failFirst_ok_iff.mpr symbols⟩
  refine ⟨exact', fun passed first second name here there => ?_⟩
  obtain ⟨separated, ⟨bundled, listed, fits⟩, _⟩ := exact'.mp passed
  have owned {service : Service}
      (carried : Carried js tree (resolve coreDir "src") cwd build service name)
      : name ∈ service.modules := by
    rcases carried with loadable | ⟨found, same, member⟩
    · exact (separated.loadable service name).mp loadable
    · cases listed.symm.trans same
      exact fits.within service member
  rw [← modules_inter, Finset.mem_inter]
  exact ⟨owned here, owned there⟩

end Nullsink.TrustDomains
