import AlbumCatalog.Command.Basic

/-!
# The form of arguments

Arguments are read on levels: the program, then a command, then a command of that command. Each
level has switches, settings that take a value, and commands that lead to a level below it or an
operand.
-/

namespace AlbumCatalog

inductive Switch
  | verbose
  | quiet
  | json
  | noColor
  | reverse
  | strict
  | force
  deriving DecidableEq, Repr

inductive Setting
  | albums
  | filter
  | sort
  | limit
  | offset
  deriving DecidableEq, Repr

inductive Operand
  | expression
  | source
  | shell
  deriving DecidableEq, Repr

inductive Level
  | program
  | check
  | tokens
  | list
  | importing
  | config
  | configShow
  | configPath
  | configInit
  | completions
  deriving DecidableEq, Repr

/-- What stands behind the dashes of an argument. -/
inductive Mark
  | switch (s : Switch)
  | setting (s : Setting)
  | help
  | version
  deriving DecidableEq, Repr

/-- What a word that names a command leads to. -/
inductive Subcommand
  | level (l : Level)
  | help
  deriving DecidableEq, Repr

namespace Level

/-- The words for commands of a level, apart from `help`. -/
def commands : Level → List (String × Level)
  | program =>
    [("check", check), ("c", check), ("tokens", tokens), ("list", list), ("l", list),
      ("import", importing), ("config", config), ("completions", completions)]
  | config => [("show", configShow), ("path", configPath), ("init", configInit)]
  | _ => []

def hasCommands (l : Level) : Bool :=
  !l.commands.isEmpty

/-- The command that a word names. Each level with commands has `help` too. -/
def subcommand? (l : Level) (word : String) : Option Subcommand :=
  if l.hasCommands && word == "help" then some .help else .level <$> l.commands.lookup word

def operand? : Level → Option Operand
  | check | tokens => some .expression
  | importing => some .source
  | completions => some .shell
  | _ => none

/-- The arguments of every level, by their names. -/
def sharedMarks : List (String × Mark) :=
  [("verbose", .switch .verbose), ("quiet", .switch .quiet), ("json", .switch .json),
    ("no-color", .switch .noColor), ("albums", .setting .albums), ("help", .help),
    ("version", .version)]

def ownMarks : Level → List (String × Mark)
  | list =>
    [("filter", .setting .filter), ("sort", .setting .sort), ("reverse", .switch .reverse),
      ("limit", .setting .limit), ("offset", .setting .offset), ("strict", .switch .strict)]
  | configInit => [("force", .switch .force)]
  | _ => []

/-- The argument that a name behind two dashes stands for. -/
def mark? (l : Level) (name : String) : Option Mark :=
  (sharedMarks ++ l.ownMarks).lookup name

/-- The argument that a letter behind one dash stands for. -/
def letter? (l : Level) (letter : Char) : Option Mark :=
  match letter with
  | 'v' => l.mark? "verbose"
  | 'q' => l.mark? "quiet"
  | 'h' => l.mark? "help"
  | 'V' => l.mark? "version"
  | 'f' => l.mark? "filter"
  | _ => none

end Level

end AlbumCatalog
