import AlbumCatalog.Calendar.Timestamp

/-!
# Albums

An album record, what may be granted on it, and the fields by which a filter refers to it.
-/

namespace AlbumCatalog

inductive Permission
  | read
  | write
  | edit
  | delete
  deriving DecidableEq, Repr

namespace Permission

def all : List Permission :=
  [read, write, edit, delete]

def name : Permission → String
  | read => "album.read"
  | write => "album.write"
  | edit => "album.edit"
  | delete => "album.delete"

def ofName? (name : String) : Option Permission :=
  all.find? (·.name == name)

/-- What is said of a word that names no permission. -/
def unknown (word : String) : String :=
  "invalid permission: " ++ word

end Permission

/-- What one user or group may do with an album. -/
structure Grant where
  owner : String
  permissions : List Permission
  deriving DecidableEq, Repr

/-- Whether one of the grants gives its owner the permission. -/
def grants (gs : List Grant) (owner : String) (p : Permission) : Bool :=
  gs.any fun g => g.owner == owner && g.permissions.contains p

/-- The numbers that an album may have. -/
def IsId (n : Int) : Prop :=
  -2147483648 ≤ n ∧ n ≤ 2147483647

instance (n : Int) : Decidable (IsId n) :=
  inferInstanceAs (Decidable (_ ∧ _))

structure Album where
  id : { n : Int // IsId n }
  name : String
  description : String
  location : String
  owner : String
  createdAt : Instant
  tags : List String
  userGrants : List Grant
  groupGrants : List Grant
  deriving DecidableEq

namespace Album

def hasUserPermission (a : Album) (user : String) (p : Permission) : Bool :=
  grants a.userGrants user p

def hasGroupPermission (a : Album) (group : String) (p : Permission) : Bool :=
  grants a.groupGrants group p

def userOwners (a : Album) : List String :=
  a.userGrants.map Grant.owner

def groupOwners (a : Album) : List String :=
  a.groupGrants.map Grant.owner

end Album

/-- The attributes of an album that a filter can compare. -/
inductive Field
  | name
  | description
  | location
  | owner
  | date
  | tag
  | userPermissions
  | groupPermissions
  deriving DecidableEq, Repr

namespace Field

def all : List Field :=
  [name, description, location, owner, date, tag, userPermissions, groupPermissions]

/-- The name by which a filter mentions the field; its letter case counts. -/
def text : Field → String
  | name => "name"
  | description => "description"
  | location => "location"
  | owner => "owner"
  | date => "date"
  | tag => "tag"
  | userPermissions => "permissions.user"
  | groupPermissions => "permissions.group"

def ofText? (word : String) : Option Field :=
  all.find? (·.text == word)

end Field

end AlbumCatalog
