import AlbumCatalog.File.System

/-!
# File trees

A tree holds the files and directories of a file system as a value. A walk goes from directory to
directory, one component at a time; it ends in an error at a component that is missing or that is a
file with more components behind it.

The scope is directories and regular files. There are no symbolic links, no second names for a file
and no permissions, so that a path names one place, which only the directories on the way decide.
An operation that fails leaves the tree as it was; there is no state of a file half written or
half moved.
-/

namespace AlbumCatalog

/-- A place in the tree, named by the components from the root to it. -/
abbrev Location := List String

/-- What stands at a place: a directory or a regular file, and never a link. -/
inductive Entry
  | directory
  | file (content : ByteArray)

/-- The root is always a directory, whatever the entries say. -/
structure FileTree where
  entries : List (Location × Entry) := []
  workingDirectory : Location := []

namespace FileTree

def lookup? (t : FileTree) (l : Location) : Option Entry :=
  if l = [] then some .directory else t.entries.lookup l

def erase (t : FileTree) (l : Location) : FileTree :=
  { t with entries := t.entries.filter fun (k, _) => k ≠ l }

def set (t : FileTree) (l : Location) (e : Entry) : FileTree :=
  { t with entries := (l, e) :: (t.erase l).entries }

/-- Adds an entry and the directories above it that are missing. -/
def place (t : FileTree) (l : Location) (e : Entry) : FileTree :=
  let above := (List.range l.length).map fun n => l.take n
  (above.foldl (fun t l => if (t.lookup? l).isSome then t else t.set l .directory) t).set l e

/-- The files, each with its place below the working directory. -/
def filesBelow (t : FileTree) : List (Location × ByteArray) :=
  t.entries.filterMap fun
    | (l, .file content) =>
      if t.workingDirectory.isPrefixOf l then
        some (l.drop t.workingDirectory.length, content)
      else none
    | (_, .directory) => none

/-! ## Walking -/

def longestName : Nat := 255

def longestPath : Nat := 4095

/-- Succeeds where there is a directory to go on from. -/
def requireDirectory (t : FileTree) (l : Location) : Except FileError Unit :=
  match t.lookup? l with
  | none => .error .notFound
  | some (.file _) => .error .notADirectory
  | some .directory => .ok ()

/-- The place that a component leads to from a directory. Nothing need be there. -/
def step (t : FileTree) (here : Location) (name : String) : Except FileError Location := do
  t.requireDirectory here
  if name = "." then .ok here
  else if name = ".." then .ok here.dropLast
  else if longestName < name.utf8ByteSize then .error .nameTooLong
  else .ok (here ++ [name])

def walk (t : FileTree) : Location → List String → Except FileError Location
  | here, [] => .ok here
  | here, name :: names => do t.walk (← t.step here name) names

/-- Refuses a path that no file system takes. -/
def checkPath (p : Path) : Except FileError Unit :=
  if p.text.toList.contains '\x00' then .error .zeroInName
  else if p.text.isEmpty then .error .notFound
  else if longestPath < p.text.utf8ByteSize then .error .nameTooLong
  else .ok ()

def startOf (t : FileTree) (p : Path) : Location :=
  if p.isAbsolute then [] else t.workingDirectory

/-- The entry at a path. A path that ends in a slash has none but a directory. -/
def find (t : FileTree) (p : Path) : Except FileError Entry := do
  checkPath p
  match t.lookup? (← t.walk (t.startOf p) p.components) with
  | none => .error .notFound
  | some .directory => .ok .directory
  | some (.file content) => if p.endsInSlash then .error .notADirectory else .ok (.file content)

/-- The directory that holds the last component of a path, and that component. -/
def holder (t : FileTree) (p : Path) : Except FileError (Location × String) := do
  checkPath p
  let names := p.components
  let l ← t.walk (t.startOf p) names.dropLast
  t.requireDirectory l
  .ok (l, names.getLast?.getD ".")

def isDots (name : String) : Bool :=
  name == "." || name == ".."

/-! ## Operations -/

def isPresent (t : FileTree) (p : Path) : Bool :=
  match t.find p with
  | .ok _ => true
  | .error _ => false

def isDirectory (t : FileTree) (p : Path) : Bool :=
  match t.find p with
  | .ok .directory => true
  | _ => false

def readText (t : FileTree) (p : Path) : Except FileError String := do
  match ← t.find p with
  | .directory => .error .isADirectory
  | .file content => ((String.fromUTF8? content).map .ok).getD (.error .notText)

def writeText (t : FileTree) (p : Path) (text : String) : Except FileError FileTree := do
  let (l, name) ← t.holder p
  if p.endsInSlash then .error .isADirectory
  else
    let target ← t.step l name
    match t.lookup? target with
    | some .directory => .error .isADirectory
    | _ => .ok (t.set target (.file text.toUTF8))

/-- Moves a file, and no directory. -/
def moveFile (t : FileTree) (source target : Path) : Except FileError FileTree := do
  let (sourceDir, sourceName) ← t.holder source
  let (targetDir, targetName) ← t.holder target
  if isDots sourceName || isDots targetName then .error .busy
  else
    let old ← t.step sourceDir sourceName
    let new ← t.step targetDir targetName
    match t.lookup? old with
    | none => .error .notFound
    | some .directory => .error .isADirectory
    | some (.file content) =>
      if source.endsInSlash || target.endsInSlash then .error .notADirectory
      else
        match t.lookup? new with
        | some .directory => .error .isADirectory
        | _ => .ok ((t.erase old).set new (.file content))

def makeDirectory (t : FileTree) (p : Path) : Except FileError FileTree := do
  let (l, name) ← t.holder p
  if isDots name then .error .alreadyExists
  else
    let target ← t.step l name
    match t.lookup? target with
    | some _ => .error .alreadyExists
    | none => .ok (t.set target .directory)

/-- Goes on with a changed tree, or with the same tree after an error: no operation is left half
done. -/
def change (f : FileTree → Except FileError FileTree) : ExceptT FileError (StateM FileTree) Unit :=
  ExceptT.mk fun t =>
    match f t with
    | .ok t' => (.ok (), t')
    | .error e => (.error e, t)

instance : FileSystem (StateM FileTree) where
  isPresent p := return (← get).isPresent p
  isDirectory p := return (← get).isDirectory p
  readText p := ExceptT.mk fun t => (t.readText p, t)
  writeText p text := change fun t => t.writeText p text
  moveFile source target := change fun t => t.moveFile source target
  makeDirectory p := change fun t => t.makeDirectory p

@[simp]
theorem lookup?_root (t : FileTree) : t.lookup? [] = some .directory := rfl

@[simp]
theorem workingDirectory_set (t : FileTree) (l : Location) (e : Entry) :
    (t.set l e).workingDirectory = t.workingDirectory := rfl

@[simp]
theorem workingDirectory_erase (t : FileTree) (l : Location) :
    (t.erase l).workingDirectory = t.workingDirectory := rfl

theorem lookup_cons_ne {l k : Location} (h : l ≠ k) (e : Entry) (rest : List (Location × Entry)) :
    ((k, e) :: rest).lookup l = rest.lookup l := by
  have : (l == k) = false := beq_eq_false_iff_ne.mpr h
  simp [List.lookup_cons, this]

theorem lookup_filter_eq (k : Location) (entries : List (Location × Entry)) :
    (entries.filter fun (x, _) => x ≠ k).lookup k = none := by
  induction entries with
  | nil => rfl
  | cons head rest ih =>
    obtain ⟨x, e⟩ := head
    by_cases hx : x = k
    · simpa [hx] using ih
    · simpa [hx, lookup_cons_ne (Ne.symm hx)] using ih

theorem lookup_filter_ne {k l : Location} (h : l ≠ k) (entries : List (Location × Entry)) :
    (entries.filter fun (x, _) => x ≠ k).lookup l = entries.lookup l := by
  induction entries with
  | nil => rfl
  | cons head rest ih =>
    obtain ⟨x, e⟩ := head
    by_cases hx : x = k
    · subst hx
      rw [lookup_cons_ne h, ← ih]
      simp
    · rw [List.filter_cons_of_pos (by simpa using hx), List.lookup_cons, List.lookup_cons, ih]

theorem lookup?_erase (t : FileTree) (k l : Location) :
    (t.erase k).lookup? l =
      if l = [] then some .directory else if l = k then none else t.lookup? l := by
  unfold lookup? erase
  split
  · rfl
  · split
    · subst l; exact lookup_filter_eq k t.entries
    · exact lookup_filter_ne ‹_› t.entries

theorem lookup?_set (t : FileTree) (k l : Location) (e : Entry) :
    (t.set k e).lookup? l =
      if l = [] then some .directory else if l = k then some e else t.lookup? l := by
  unfold lookup? set erase
  split
  · rfl
  · split
    · subst l; simp
    · rw [lookup_cons_ne ‹_›, lookup_filter_ne ‹_›]

end FileTree

end AlbumCatalog
