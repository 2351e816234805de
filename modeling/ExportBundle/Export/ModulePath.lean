/-! The path of a module inside a package: the package and the offset with a slash between them,
where every run of slashes counts as one. -/

namespace ExportBundle.Export.ModulePath

/-- Each run of slashes becomes a single one. -/
def collapse : List Char → List Char
  | '/' :: '/' :: r => collapse ('/' :: r)
  | c :: r => c :: collapse r
  | [] => []

def join (package offset : String) : String :=
  String.ofList (collapse (package.toList ++ '/' :: offset.toList))

end ExportBundle.Export.ModulePath
