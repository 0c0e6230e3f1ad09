import AlbumCatalog.Album.Sort
import AlbumCatalog.File.Path

/-!
# Commands

What a user can ask for. The flags hold for every command.
-/

namespace AlbumCatalog

structure Flags where
  verbose : Bool := false
  quiet : Bool := false
  json : Bool := false
  noColor : Bool := false
  albums : Option Path := none
  deriving DecidableEq, Repr

structure ListOptions where
  filter : Option String := none
  sort : Option SortField := none
  reverse : Bool := false
  limit : Option Nat := none
  offset : Nat := 0
  strict : Bool := false
  deriving DecidableEq, Repr

inductive Shell
  | bash
  | zsh
  | fish
  | powershell
  deriving DecidableEq, Repr

namespace Shell

def all : List Shell :=
  [bash, zsh, fish, powershell]

def text : Shell → String
  | bash => "bash"
  | zsh => "zsh"
  | fish => "fish"
  | powershell => "powershell"

def ofText? (word : String) : Option Shell :=
  all.find? (·.text == word)

end Shell

inductive ConfigCommand
  | showing
  | path
  | writing (force : Bool)
  deriving DecidableEq, Repr

inductive Command
  | check (expression : String)
  | tokens (expression : String)
  | list (options : ListOptions)
  | importing (source : Path)
  | config (what : ConfigCommand)
  | completions (shell : Shell)
  deriving DecidableEq, Repr

structure Invocation where
  flags : Flags
  command : Option Command
  deriving DecidableEq, Repr

end AlbumCatalog
