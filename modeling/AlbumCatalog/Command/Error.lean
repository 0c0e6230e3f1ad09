import AlbumCatalog.Album.Store
import AlbumCatalog.Config.Error
import AlbumCatalog.Filter.Error
import AlbumCatalog.Filter.Parse

/-!
# Failures of commands
-/

namespace AlbumCatalog

inductive CommandError
  | parse (e : ParseError)
  | evaluate (e : EvalError)
  | store (e : StoreError)
  | config (e : ConfigError)

namespace CommandError

def message : CommandError → String
  | parse e => e.diagnostic
  | evaluate e => "filter error: " ++ e.message
  | store e => "album store error: " ++ e.message
  | config e => "configuration error: " ++ e.message

/-- The kind of failure, for programs to read. -/
def code : CommandError → String
  | parse _ | evaluate _ => "FILTER_ERROR"
  | store _ => "STORE_ERROR"
  | config _ => "CONFIG_ERROR"

def exitStatus : CommandError → Nat
  | parse _ | evaluate _ => 1
  | store _ | config _ => 5

def json (e : CommandError) : Json :=
  .object [("error", .object [("code", .string e.code), ("message", .string e.message)])]

/-- The last words of a program that failed. -/
def report (asJson : Bool) (e : CommandError) : String :=
  if asJson then e.json.pretty ++ "\n" else "Error: " ++ e.message ++ "\n"

end CommandError

end AlbumCatalog
