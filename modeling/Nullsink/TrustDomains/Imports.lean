import Mathlib.Data.List.Dedup

/-! The runtime imports of a source file, as `scripts/trust-domain-graph.ts` scans its syntax tree.
The parser is TypeScript's; a tree keeps what the scan tells apart.
-/

namespace Nullsink.TrustDomains

-----------------------------------------------------------------------------------------
-- Syntax trees
-----------------------------------------------------------------------------------------

/-- What an import binds besides its default name. The elements are known by their `isTypeOnly`. -/
inductive NamedBindings where
  | namespaceImport
  | namedImports (elements : List Bool)

structure ImportClause where
  isTypeOnly : Bool
  name : Option String
  namedBindings : Option NamedBindings

inductive ExportClause where
  | namespaceExport
  | namedExports (elements : List Bool)

/-- A node of a syntax tree. Those that can be the argument of a call have their source text. -/
inductive Node where
  | stringLiteralLike (source text : String)
  | identifier (text : String)
  | importKeyword
  | propertyAccess (source : String) (expression : Node) (name : String)
  | call (source : String) (expression : Node) (typeArguments arguments : List Node)
  | importDeclaration (importClause : Option ImportClause) (moduleSpecifier : Node)
  | exportDeclaration (isTypeOnly : Bool) (exportClause : Option ExportClause)
    (moduleSpecifier : Option Node)
  | importEquals (isTypeOnly : Bool) (externalModule : Option Node)
  | other (source : String) (children : List Node)

namespace Node

/-- `getText(source)`. -/
def getText : Node → String
  | .stringLiteralLike source _ => source
  | .identifier text => text
  | .importKeyword => "import"
  | .propertyAccess source _ _ => source
  | .call source _ _ _ => source
  | .other source _ => source
  | _ => ""

def literalText : Node → Option String
  | .stringLiteralLike _ text => some text
  | _ => none

/-- A call of `require` or of `module.require`. -/
def isRequire : Node → Bool
  | .identifier text => text = "require"
  | .propertyAccess _ (.identifier text) name => text = "module" ∧ name = "require"
  | _ => false

def isDynamicImport : Node → Bool
  | .importKeyword => true
  | _ => false

end Node

/-- A side-effect import and an empty one run; an import of types only does not. -/
def importClauseHasRuntimeValue : Option ImportClause → Bool
  | none => true
  | some clause =>
      if clause.isTypeOnly then false
      else if clause.name.any (fun name => name ≠ "") then true
      else
        match clause.namedBindings with
        | none => false
        | some .namespaceImport => true
        | some (.namedImports elements) => elements = [] ∨ elements.any (fun typeOnly => ¬typeOnly)

def exportDeclarationHasRuntimeValue (isTypeOnly : Bool) (exportClause : Option ExportClause)
    : Bool :=
  if isTypeOnly then false
  else
    match exportClause with
    | none => true
    | some .namespaceExport => true
    | some (.namedExports elements) => elements = [] ∨ elements.any (fun typeOnly => ¬typeOnly)

-----------------------------------------------------------------------------------------
-- The scan
-----------------------------------------------------------------------------------------

/-- A runtime import of a literal target, or of one that only the running program knows. -/
inductive RuntimeImport where
  | literal (specifier : String)
  | unknown (expression : String)

/-- What the scan has found, in the order it came upon it. -/
structure RuntimeImportScan where
  specifiers : List String
  opaqueImports : List String
  deriving DecidableEq

namespace RuntimeImportScan

def add (scan : RuntimeImportScan) (node : Option Node) : RuntimeImportScan :=
  match node.bind Node.literalText with
  | some text => { scan with specifiers := scan.specifiers ++ [text] }
  | none => scan

def addOpaque (scan : RuntimeImportScan) (expression : String) : RuntimeImportScan :=
  { scan with opaqueImports := scan.opaqueImports ++ [expression] }

end RuntimeImportScan

/-- What a call adds by itself. -/
def visitCall (scan : RuntimeImportScan) (expression : Node) (arguments : List Node)
    : RuntimeImportScan :=
  if expression.isDynamicImport ∨ expression.isRequire then
    match arguments.head? with
    | none => scan.addOpaque "<missing>"
    | some argument =>
        if argument.literalText = none then scan.addOpaque argument.getText
        else scan.add (some argument)
  else scan

mutual

def visit (scan : RuntimeImportScan) : Node → RuntimeImportScan
  | .importDeclaration importClause moduleSpecifier =>
      if importClauseHasRuntimeValue importClause then scan.add (some moduleSpecifier) else scan
  | .exportDeclaration isTypeOnly exportClause moduleSpecifier =>
      if moduleSpecifier.isSome ∧ exportDeclarationHasRuntimeValue isTypeOnly exportClause then
        scan.add moduleSpecifier
      else scan
  | .importEquals isTypeOnly externalModule =>
      if isTypeOnly then scan else scan.add externalModule
  | .call _ expression typeArguments arguments =>
      visitAll (visitAll (visit (visitCall scan expression arguments) expression) typeArguments)
        arguments
  | .propertyAccess _ expression _ => visit scan expression
  | .other _ children => visitAll scan children
  | .stringLiteralLike _ _ => scan
  | .identifier _ => scan
  | .importKeyword => scan

/-- `forEachChild(node, visit)`. -/
def visitAll (scan : RuntimeImportScan) : List Node → RuntimeImportScan
  | [] => scan
  | node :: rest => visitAll (visit scan node) rest

end

/-- Every runtime import of a file, each specifier and each expression once. -/
def runtimeModuleSpecifiers (source : Node) : RuntimeImportScan :=
  let found := visit ⟨[], []⟩ source
  ⟨found.specifiers.eraseDups, found.opaqueImports.eraseDups⟩

-----------------------------------------------------------------------------------------
-- What the scan finds
-----------------------------------------------------------------------------------------

/-- A file that has a node loads a module when it runs: an import that is not erased, a call with a
literal, or a call whose target cannot be read off.
-/
inductive Loads : Node → RuntimeImport → Prop
  | imported {importClause moduleSpecifier text}
    (runs : importClauseHasRuntimeValue importClause = true)
    (literal : moduleSpecifier.literalText = some text)
    : Loads (.importDeclaration importClause moduleSpecifier) (.literal text)
  | reexported {isTypeOnly exportClause moduleSpecifier text}
    (runs : exportDeclarationHasRuntimeValue isTypeOnly exportClause = true)
    (literal : moduleSpecifier.literalText = some text)
    : Loads (.exportDeclaration isTypeOnly exportClause (some moduleSpecifier)) (.literal text)
  | imports {externalModule text} (literal : externalModule.literalText = some text)
    : Loads (.importEquals false (some externalModule)) (.literal text)
  | called {source expression typeArguments argument rest text}
    (loader : expression.isDynamicImport = true ∨ expression.isRequire = true)
    (literal : argument.literalText = some text)
    : Loads (.call source expression typeArguments (argument :: rest)) (.literal text)
  | unknown {source expression typeArguments argument rest}
    (loader : expression.isDynamicImport = true ∨ expression.isRequire = true)
    (computed : argument.literalText = none)
    : Loads (.call source expression typeArguments (argument :: rest)) (.unknown argument.getText)
  | missing {source expression typeArguments}
    (loader : expression.isDynamicImport = true ∨ expression.isRequire = true)
    : Loads (.call source expression typeArguments []) (.unknown "<missing>")
  | callee {source expression typeArguments arguments target} (inside : Loads expression target)
    : Loads (.call source expression typeArguments arguments) target
  | argument {source expression typeArguments arguments child target}
    (member : child ∈ typeArguments ++ arguments) (inside : Loads child target)
    : Loads (.call source expression typeArguments arguments) target
  | object {source expression name target} (inside : Loads expression target)
    : Loads (.propertyAccess source expression name) target
  | child {source children child target} (member : child ∈ children) (inside : Loads child target)
    : Loads (.other source children) target

namespace RuntimeImportScan

def Found (scan : RuntimeImportScan) : RuntimeImport → Prop
  | .literal specifier => specifier ∈ scan.specifiers
  | .unknown expression => expression ∈ scan.opaqueImports

variable {scan : RuntimeImportScan} {target : RuntimeImport}

theorem found_add {node : Option Node}
    : (scan.add node).Found target
      ↔ scan.Found target
        ∨ ∃ text, node.bind Node.literalText = some text ∧ target = .literal text := by
  unfold add
  cases literal : node.bind Node.literalText with
  | none => simp
  | some text => cases target <;> simp [Found, eq_comm]

theorem found_addOpaque {expression : String}
    : (scan.addOpaque expression).Found target
      ↔ scan.Found target ∨ target = .unknown expression := by
  cases target <;> simp [addOpaque, Found]

end RuntimeImportScan

theorem found_visitCall {scan : RuntimeImportScan} {expression : Node} {arguments : List Node}
    {target : RuntimeImport}
    : (visitCall scan expression arguments).Found target
      ↔ scan.Found target
        ∨ ((expression.isDynamicImport = true ∨ expression.isRequire = true)
          ∧ ((arguments = [] ∧ target = .unknown "<missing>")
            ∨ ∃ argument rest, arguments = argument :: rest
              ∧ ((argument.literalText = none ∧ target = .unknown argument.getText)
                ∨ ∃ text, argument.literalText = some text ∧ target = .literal text))) := by
  unfold visitCall
  by_cases loader : expression.isDynamicImport ∨ expression.isRequire
  · rw [if_pos loader]
    cases arguments with
    | nil => simp [RuntimeImportScan.found_addOpaque, loader]
    | cons argument rest =>
        cases literal : argument.literalText with
        | none => simp [RuntimeImportScan.found_addOpaque, loader, literal]
        | some text => simp [RuntimeImportScan.found_add, loader, literal]
  · simp [loader]

mutual

/-- The scan of a node finds exactly what the node loads; by induction on the tree. -/
theorem found_visit (scan : RuntimeImportScan) (node : Node) (target : RuntimeImport)
    : (visit scan node).Found target ↔ scan.Found target ∨ Loads node target := by
  cases node with
  | stringLiteralLike source text =>
      exact ⟨Or.inl, fun found => found.elim id nofun⟩
  | identifier text => exact ⟨Or.inl, fun found => found.elim id nofun⟩
  | importKeyword => exact ⟨Or.inl, fun found => found.elim id nofun⟩
  | propertyAccess source expression name =>
      rw [visit, found_visit scan expression target]
      refine or_congr_right ⟨.object, ?_⟩
      rintro ⟨⟩
      assumption
  | call source expression typeArguments arguments =>
      rw [visit, found_visitAll, found_visitAll, found_visit, found_visitCall]
      constructor
      · rintro ((((before | ⟨loader, own⟩) | inside) | ⟨child, member, inside⟩)
          | ⟨child, member, inside⟩)
        · exact Or.inl before
        · rcases own with ⟨rfl, rfl⟩ | ⟨argument, rest, rfl, ⟨computed, rfl⟩ | ⟨text, literal, rfl⟩⟩
          · exact Or.inr (.missing loader)
          · exact Or.inr (.unknown loader computed)
          · exact Or.inr (.called loader literal)
        · exact Or.inr (.callee inside)
        · exact Or.inr (.argument (List.mem_append_left _ member) inside)
        · exact Or.inr (.argument (List.mem_append_right _ member) inside)
      · rintro (before | loads)
        · exact Or.inl (Or.inl (Or.inl (Or.inl before)))
        · cases loads with
          | called loader literal =>
              exact Or.inl (Or.inl (Or.inl (Or.inr
                ⟨loader, Or.inr ⟨_, _, rfl, Or.inr ⟨_, literal, rfl⟩⟩⟩)))
          | unknown loader computed =>
              exact Or.inl (Or.inl (Or.inl (Or.inr
                ⟨loader, Or.inr ⟨_, _, rfl, Or.inl ⟨computed, rfl⟩⟩⟩)))
          | missing loader =>
              exact Or.inl (Or.inl (Or.inl (Or.inr ⟨loader, Or.inl ⟨rfl, rfl⟩⟩)))
          | callee inside => exact Or.inl (Or.inl (Or.inr inside))
          | argument member inside =>
              rcases List.mem_append.mp member with typed | given
              · exact Or.inl (Or.inr ⟨_, typed, inside⟩)
              · exact Or.inr ⟨_, given, inside⟩
  | importDeclaration importClause moduleSpecifier =>
      rw [visit]
      by_cases runs : importClauseHasRuntimeValue importClause
      · rw [if_pos runs, RuntimeImportScan.found_add]
        refine or_congr_right ⟨fun ⟨text, literal, same⟩ => same ▸ .imported runs literal, ?_⟩
        intro loads
        cases loads with
        | imported _ literal => exact ⟨_, literal, rfl⟩
      · rw [if_neg runs]
        refine ⟨Or.inl, fun found => found.elim id fun loads => ?_⟩
        cases loads with
        | imported kept _ => exact absurd kept runs
  | exportDeclaration isTypeOnly exportClause moduleSpecifier =>
      rw [visit]
      by_cases runs
          : moduleSpecifier.isSome ∧ exportDeclarationHasRuntimeValue isTypeOnly exportClause
      · rw [if_pos runs, RuntimeImportScan.found_add]
        refine or_congr_right ⟨?_, fun loads => ?_⟩
        · rintro ⟨text, literal, rfl⟩
          obtain ⟨specifier, rfl, read⟩ := Option.bind_eq_some_iff.mp literal
          exact .reexported runs.2 read
        · cases loads with
          | reexported _ literal => exact ⟨_, literal, rfl⟩
      · rw [if_neg runs]
        refine ⟨Or.inl, fun found => found.elim id fun loads => ?_⟩
        cases loads with
        | reexported kept _ => exact absurd ⟨rfl, kept⟩ runs
  | importEquals isTypeOnly externalModule =>
      rw [visit]
      cases isTypeOnly with
      | true => exact ⟨Or.inl, fun found => found.elim id nofun⟩
      | false =>
          rw [if_neg (by simp), RuntimeImportScan.found_add]
          refine or_congr_right ⟨?_, fun loads => ?_⟩
          · rintro ⟨text, literal, rfl⟩
            obtain ⟨specifier, rfl, read⟩ := Option.bind_eq_some_iff.mp literal
            exact .imports read
          · cases loads with
            | imports literal => exact ⟨_, literal, rfl⟩
  | other source children =>
      rw [visit, found_visitAll]
      refine or_congr_right ⟨fun ⟨child, member, inside⟩ => .child member inside, fun loads => ?_⟩
      cases loads with
      | child member inside => exact ⟨_, member, inside⟩

theorem found_visitAll (scan : RuntimeImportScan) (nodes : List Node) (target : RuntimeImport)
    : (visitAll scan nodes).Found target
      ↔ scan.Found target ∨ ∃ node ∈ nodes, Loads node target := by
  cases nodes with
  | nil => simp [visitAll]
  | cons node rest =>
      rw [visitAll, found_visitAll, found_visit]
      simp [or_assoc]

end

/-- The scan of a file finds exactly what the file loads when it runs. -/
theorem found_runtimeModuleSpecifiers {source : Node} {target : RuntimeImport}
    : (runtimeModuleSpecifiers source).Found target ↔ Loads source target := by
  have scanned := found_visit ⟨[], []⟩ source target
  cases target with
  | literal specifier =>
      simpa [RuntimeImportScan.Found, runtimeModuleSpecifiers, List.mem_eraseDups] using scanned
  | unknown expression =>
      simpa [RuntimeImportScan.Found, runtimeModuleSpecifiers, List.mem_eraseDups] using scanned

/-- A type-only import is erased, an empty one is not, and a computed `require` is noted. -/
example
    : runtimeModuleSpecifiers
        (.other ""
          [
            .importDeclaration (some ⟨true, some "T", none⟩) (.stringLiteralLike "'./t'" "./t"),
            .importDeclaration (some ⟨false, none, some (.namedImports [])⟩)
              (.stringLiteralLike "'./e'" "./e"),
            .call "require(name)" (.identifier "require") [] [.identifier "name"]
          ])
      = ⟨["./e"], ["name"]⟩ := by
  decide +kernel

end Nullsink.TrustDomains
