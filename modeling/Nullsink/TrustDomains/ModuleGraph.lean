import Nullsink.Lib.PosixPath
import Nullsink.Lib.Worklist
import Nullsink.TrustDomains.Imports

/-! The runtime modules that an entry file loads: `runtimeModuleGraph` of
`scripts/trust-domain-graph.ts`, and that it finds exactly what the imports lead to.
-/

namespace Nullsink.TrustDomains

open PosixPath

/-- The regular files, under every path that the sources name them by, with the parser's reading of
each.
-/
structure SourceTree where
  files : List String
  parse : String → Node

-----------------------------------------------------------------------------------------
-- Resolution
-----------------------------------------------------------------------------------------

def sourceExtensions : List String :=
  [".ts", ".tsx", ".mts", ".cts", ".js", ".jsx", ".mjs", ".cjs", ".json"]

def parsedExtensions : List String :=
  [".ts", ".tsx", ".mts", ".cts", ".js", ".jsx", ".mjs", ".cjs"]

def jsToTsExtensions (suffix : String) : List String :=
  if suffix = ".js" then [".ts", ".tsx"]
  else if suffix = ".jsx" then [".tsx", ".ts"]
  else if suffix = ".mjs" then [".mts", ".ts"]
  else if suffix = ".cjs" then [".cts", ".ts"]
  else []

/-- A package or a builtin is none of the repository's. -/
def isLocal (specifier : String) : Bool :=
  specifier.toList.head? = some '.' ∨ isAbsolute specifier

/-- The paths a local specifier may stand for, in the order they are tried. -/
def candidates (importer specifier : String) : List String :=
  let base := if isAbsolute specifier then specifier else resolve (dirname importer) specifier
  let suffix := extname base
  if suffix ≠ "" then
    let stem := String.ofList (base.toList.take (base.toList.length - suffix.toList.length))
    (jsToTsExtensions suffix).map (fun mapped => stem ++ mapped) ++ [base]
  else
    base :: sourceExtensions.map (fun extension => base ++ extension)
      ++ sourceExtensions.map (fun extension => resolve base ("index" ++ extension))

namespace SourceTree

variable (tree : SourceTree)

def isFile (path : String) : Bool := path ∈ tree.files

def resolveLocalModule (importer specifier : String) : Option String :=
  if isLocal specifier then (candidates importer specifier).find? tree.isFile else none

-----------------------------------------------------------------------------------------
-- The graph
-----------------------------------------------------------------------------------------

/-- What the scan of a file finds; a file that is not parsed has no imports. -/
def scan (file : String) : RuntimeImportScan :=
  if extname file ∈ parsedExtensions then runtimeModuleSpecifiers (tree.parse file) else ⟨[], []⟩

/-- The files and what the local imports of each resolve to. -/
def importGraph : Worklist.Graph String where
  next file :=
    if tree.isFile file then
      some ((tree.scan file).specifiers.filterMap (tree.resolveLocalModule file))
    else none
  nodes := tree.files.toFinset
  mem_nodes := by
    intro file targets found
    obtain ⟨known, _⟩ := Option.ite_none_right_eq_some.mp found
    simpa [isFile] using known

end SourceTree

structure RuntimeModuleGraph where
  modules : List String
  unresolved : List (String × String)
  opaqueImports : List (String × String)

namespace SourceTree

variable (tree : SourceTree)

/-- What a visited file adds to the failures, each under its importer. -/
def visitFile (failures : List (String × String) × List (String × String)) (file : String)
    : List (String × String) × List (String × String) :=
  let missing :=
    (tree.scan file).specifiers.filter
      (fun specifier => isLocal specifier ∧ tree.resolveLocalModule file specifier = none)
  (
    failures.1 ++ missing.map (fun specifier => (file, specifier)),
    failures.2 ++ (tree.scan file).opaqueImports.map (fun expression => (file, expression))
  )

/-- The walk from some entries; `none` is its throw on an entry that does not exist. -/
def runtimeModuleGraph (entries : List String) : Option RuntimeModuleGraph :=
  (Worklist.walk tree.importGraph tree.visitFile [] ([], [])
    (Worklist.push (entries.map (resolve "/")) [])).map
    (fun (modules, unresolved, opaqueImports) => ⟨modules, unresolved, opaqueImports⟩)

-----------------------------------------------------------------------------------------
-- What the walk finds
-----------------------------------------------------------------------------------------

/-- A file loads another one when it runs. -/
def Imports (importer target : String) : Prop :=
  tree.isFile importer = true ∧ extname importer ∈ parsedExtensions
  ∧ ∃ specifier, Loads (tree.parse importer) (.literal specifier)
    ∧ tree.resolveLocalModule importer specifier = some target

/-- A file that a run of an entry can load. -/
def Reached (entry file : String) : Prop := Relation.ReflTransGen tree.Imports entry file

/-- A local import of a file that no file answers. -/
def Unresolved (importer specifier : String) : Prop :=
  extname importer ∈ parsedExtensions ∧ Loads (tree.parse importer) (.literal specifier)
  ∧ isLocal specifier = true ∧ tree.resolveLocalModule importer specifier = none

/-- An import whose target cannot be read off. -/
def Opaque (importer expression : String) : Prop :=
  extname importer ∈ parsedExtensions ∧ Loads (tree.parse importer) (.unknown expression)

variable {tree}

theorem mem_specifiers {file specifier : String}
    : specifier ∈ (tree.scan file).specifiers
      ↔ extname file ∈ parsedExtensions ∧ Loads (tree.parse file) (.literal specifier) := by
  unfold scan
  by_cases parsed : extname file ∈ parsedExtensions
  · rw [if_pos parsed, and_iff_right parsed]
    exact @found_runtimeModuleSpecifiers (tree.parse file) (.literal specifier)
  · simp [parsed]

theorem mem_opaqueImports {file expression : String}
    : expression ∈ (tree.scan file).opaqueImports ↔ tree.Opaque file expression := by
  unfold scan Opaque
  by_cases parsed : extname file ∈ parsedExtensions
  · rw [if_pos parsed, and_iff_right parsed]
    exact @found_runtimeModuleSpecifiers (tree.parse file) (.unknown expression)
  · simp [parsed]

theorem edge_iff {importer target : String}
    : tree.importGraph.Edge importer target ↔ tree.Imports importer target := by
  unfold Worklist.Graph.Edge Imports importGraph
  by_cases known : tree.isFile importer
  · simp only [known, if_true, Option.some.injEq, exists_eq_left', true_and, List.mem_filterMap,
      mem_specifiers]
    simp only [and_assoc, exists_and_left]
  · simp [known]

/-- Imports lead to files only. -/
theorem Reached.isFile {entry file : String} (reached : tree.Reached entry file)
    (known : tree.isFile entry = true)
    : tree.isFile file = true := by
  induction reached with
  | refl => exact known
  | tail _ edge _ =>
      obtain ⟨_, _, specifier, _, found⟩ := edge
      unfold resolveLocalModule at found
      split at found
      · exact List.find?_some found
      · cases found

theorem reaches_iff {entry file : String}
    : tree.importGraph.Reaches [entry] file ↔ tree.Reached entry file := by
  have edges : tree.importGraph.Edge = tree.Imports := by
    ext importer target
    exact edge_iff
  simp [Worklist.Graph.Reaches, Reached, edges]

/-- The failures of a walk are those of the files it visits; by induction on the files. -/
theorem mem_failures {files : List String}
    {failures : List (String × String) × List (String × String)} {importer text : String}
    : ((importer, text) ∈ (files.foldl tree.visitFile failures).1
        ↔ (importer, text) ∈ failures.1 ∨ importer ∈ files ∧ tree.Unresolved importer text)
      ∧ ((importer, text) ∈ (files.foldl tree.visitFile failures).2
        ↔ (importer, text) ∈ failures.2 ∨ importer ∈ files ∧ tree.Opaque importer text) := by
  induction files generalizing failures with
  | nil => simp
  | cons file rest ih =>
      rw [List.foldl_cons, ih.1, ih.2]
      constructor
      · simp only [visitFile, List.mem_append, List.mem_map, List.mem_filter, mem_specifiers,
          Prod.mk.injEq, List.mem_cons, Unresolved, decide_eq_true_eq]
        grind
      · simp only [visitFile, List.mem_append, List.mem_map, mem_opaqueImports, Prod.mk.injEq,
          List.mem_cons]
        grind

/-- The walk from a file finds exactly what the file's imports lead to, with their failures. -/
theorem runtimeModuleGraph_exact {entry : String} {graph : RuntimeModuleGraph}
    (walked : tree.runtimeModuleGraph [entry] = some graph)
    : (∀ file, file ∈ graph.modules ↔ tree.Reached (resolve "/" entry) file)
      ∧ (∀ importer specifier, (importer, specifier) ∈ graph.unresolved
        ↔ tree.Reached (resolve "/" entry) importer ∧ tree.Unresolved importer specifier)
      ∧ ∀ importer expression, (importer, expression) ∈ graph.opaqueImports
        ↔ tree.Reached (resolve "/" entry) importer ∧ tree.Opaque importer expression := by
  obtain ⟨⟨modules, unresolved, opaqueImports⟩, ran, rfl⟩ := Option.map_eq_some_iff.mp walked
  obtain ⟨_, exact, visited, _⟩ := Worklist.walk_exact ran
  obtain ⟨rfl, rfl⟩ := Prod.mk.inj visited
  have reached (file : String) : file ∈ modules ↔ tree.Reached (resolve "/" entry) file :=
    (exact file).trans reaches_iff
  refine ⟨reached, fun importer specifier => ?_, fun importer expression => ?_⟩
  · rw [mem_failures.1]
    simp [reached]
  · rw [mem_failures.2]
    simp [reached]

/-- The walk from a file ends exactly when the file exists. -/
theorem runtimeModuleGraph_isSome_iff {entry : String}
    : (tree.runtimeModuleGraph [entry]).isSome ↔ tree.isFile (resolve "/" entry) = true := by
  rw [runtimeModuleGraph, Option.isSome_map, List.map_singleton, Worklist.walk_isSome_iff]
  constructor
  · intro nodes
    have known := nodes _ (Worklist.Graph.reaches_entry (List.mem_singleton.mpr rfl))
    by_contra missing
    simp [importGraph, missing] at known
  · intro known file reached
    have found := (reaches_iff.mp reached).isFile known
    simp [importGraph, found]

end SourceTree

end Nullsink.TrustDomains
