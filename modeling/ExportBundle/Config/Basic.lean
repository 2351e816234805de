import ExportBundle.Config.Merge
import ExportBundle.Json.Printer
import ExportBundle.Path

/-! The configuration of a project. Defaults come first, then the project's own document, then a
local one; the result is checked field by field, and the first field that is wrong is reported. -/

namespace ExportBundle

open Json (Value)

structure Config where
  exports : List Value
  out : Path
  polyfills : List String
  minify : Bool
  host : Option Path
  keepTemp : Bool
  root : Path
  deriving Inhabited

/-- What is wrong with a configuration. Values are kept as literals. -/
inductive ConfigError where
  | notAnObject (shown : String)
  | localNotAnObject (shown : String)
  | badExports (shown : String)
  | badText (key shown : String)
  | badPolyfills (shown : String)
  | badFlag (key shown : String)
  | badRoot (root : Path)
  /-- Documents that cannot be merged, or a value that would have to be shown. -/
  | obstacle (o : Json.Obstacle)
  deriving DecidableEq, Repr

def ConfigError.message : ConfigError → String
  | .notAnObject shown => "Expected a config Object, encountered " ++ shown ++ "."
  | .localNotAnObject shown => "Expected a local config Object, encountered " ++ shown ++ "."
  | .badExports shown => "Expected non-empty Array exports, encountered " ++ shown ++ "."
  | .badText key shown => "Expected non-empty String " ++ key ++ ", encountered " ++ shown ++ "."
  | .badPolyfills shown =>
    "Expected Array of non-empty String polyfills, encountered " ++ shown ++ "."
  | .badFlag key shown => "Expected Boolean " ++ key ++ ", encountered " ++ shown ++ "."
  | .badRoot _ => "embedded null byte"
  | .obstacle o => o.message

namespace Config

def fileName : String := "anywhere.config.json"

def localFileName : String := "anywhere.config.local.json"

def defaults : OrderedMap String Value :=
  [("exports", .null), ("out", .str "dist"), ("polyfills", .arr []), ("minify", .bool true),
   ("host", .null), ("keep_temp", .bool false)]

section

variable [Depths]

def complain (error : String → ConfigError) (v : Value) : ConfigError :=
  match v.shown .literal with
  | .ok s => error s
  | .error o => .obstacle o

def field (fields : OrderedMap String Value) (key : String) : Value :=
  (fields.get? key).getD .null

def requiredText (fields : OrderedMap String Value) (key : String) : Except ConfigError String :=
  match (field fields key).nonEmptyText? with
  | some s => .ok s
  | none => .error (complain (.badText key) (field fields key))

def requiredFlag (fields : OrderedMap String Value) (key : String) : Except ConfigError Bool :=
  match (field fields key).bool? with
  | some b => .ok b
  | none => .error (complain (.badFlag key) (field fields key))

def requiredExports (fields : OrderedMap String Value) : Except ConfigError (List Value) :=
  match field fields "exports" with
  | .arr (e :: r) => .ok (e :: r)
  | v => .error (complain .badExports v)

def texts? (v : Value) : Option (List String) := do
  let items ← v.items?
  items.mapM Value.nonEmptyText?

def requiredTexts (fields : OrderedMap String Value) (key : String) :
    Except ConfigError (List String) :=
  match texts? (field fields key) with
  | some l => .ok l
  | none => .error (complain .badPolyfills (field fields key))

def optionalText (fields : OrderedMap String Value) (key : String) :
    Except ConfigError (Option String) :=
  match field fields key with
  | .null => .ok none
  | _ => some <$> requiredText fields key

def layers (document localDocument : Value) : Except ConfigError (OrderedMap String Value) :=
  match document with
  | .obj members =>
    match localDocument with
    | .null => (merge defaults members).mapError .obstacle
    | .obj overrides => do
      let merged ← (merge defaults members).mapError .obstacle
      (merge merged overrides).mapError .obstacle
    | v => .error (complain .localNotAnObject v)
  | v => .error (complain .notAnObject v)

def ofFields (fields : OrderedMap String Value) (root : Path) : Except ConfigError Config := do
  let exports ← requiredExports fields
  let out ← requiredText fields "out"
  let polyfills ← requiredTexts fields "polyfills"
  let host ← optionalText fields "host"
  let minify ← requiredFlag fields "minify"
  let keepTemp ← requiredFlag fields "keep_temp"
  return { exports, polyfills, minify, keepTemp, root, out := root.child out,
           host := host.map root.child }

def ofDocuments (document localDocument : Value) (root : Path) : Except ConfigError Config := do
  let fields ← layers document localDocument
  if root.hasNull then throw (.badRoot root)
  ofFields fields root

end

def entries (c : Config) : List Value :=
  c.polyfills.map (fun p => .obj [("name", .str p)]) ++ c.exports

end Config

end ExportBundle
