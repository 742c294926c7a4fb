import Mathlib.Data.List.Basic

/-! POSIX paths as a JavaScript runtime computes with them. A path is a text; what is computed from
it goes by its segments.
-/

namespace PosixPath

/-- The names between the slashes. -/
def segments (path : String) : List String :=
  ((path.toList.splitOn '/').filter (fun name => name ≠ [])).map String.ofList

def isAbsolute (path : String) : Bool := path.toList.head? = some '/'

/-- An absolute path through its segments. -/
def absolute (names : List String) : String := "/" ++ "/".intercalate names

/-- Segments without `.`, and with each `..` taken back. -/
def normalize (names : List String) : List String :=
  names.foldl
    (fun done name => if name = "." then done else if name = ".." then done.dropLast
      else done ++ [name]) []

/-- `resolve(dir, path)`, for an absolute directory. -/
def resolve (dir path : String) : String :=
  if isAbsolute path then absolute (normalize (segments path))
  else absolute (normalize (segments dir ++ segments path))

/-- `dirname(path)` of an absolute path. -/
def dirname (path : String) : String := absolute (segments path).dropLast

/-- `extname(path)`: what follows the last dot of the last segment, unless that dot comes first. -/
def extname (path : String) : String :=
  match (segments path).getLast? with
  | none => ""
  | some name =>
      let back := name.toList.reverse.takeWhile (fun c => c ≠ '.')
      if name = ".." ∨ name.toList.length ≤ back.length + 1 then ""
      else String.ofList ('.' :: back.reverse)

/-- `relative(base, path)`, for absolute paths. -/
def relative (base path : String) : String :=
  let start := normalize (segments base)
  let target := normalize (segments path)
  let common := ((start.zip target).takeWhile (fun pair => pair.1 = pair.2)).length
  "/".intercalate (List.replicate (start.length - common) ".." ++ target.drop common)

example : resolve "/core/src/ledger" "../http" = "/core/src/http" := by decide +kernel

example : extname "/core/src/.env" = "" ∧ extname "/core/src/a.b.ts" = ".ts" := by decide +kernel

example : relative "/core/src" "/core/cli/x.ts" = "../cli/x.ts" := by decide +kernel

end PosixPath
