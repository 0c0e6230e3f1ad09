import AlbumCatalog.Album.Query
import AlbumCatalog.Album.Json
import AlbumCatalog.Listing.Cell

/-!
# Lists of albums as output

A table with one line per album, or a JSON document of the whole page.
-/

namespace AlbumCatalog

/-- A line of the table; all columns but the last have a fixed width. -/
def albumLine (id date owner location tags name : List Char) : List Char :=
  padRight 6 id ++ ' ' :: padRight 11 date ++ ' ' :: padRight 12 owner ++
    ' ' :: padRight 15 location ++ ' ' :: padRight 20 tags ++ ' ' :: name

def albumHeader : List Char :=
  albumLine "ID".toList "Date".toList "Owner".toList "Location".toList "Tags".toList "Name".toList

def Album.line (colors : Bool) (a : Album) : List Char :=
  albumLine (decimalInt a.id) a.createdAt.date.dayText (truncate 12 a.owner.toList)
    (truncate 15 a.location.toList) (tagsCell 20 a.tags)
    (Style.bold.paintIf colors a.name.toList)

/-- The albums in a table, or a sentence that there are none. -/
def albumTable (colors : Bool) (albums : List Album) : String :=
  match albums with
  | [] => "No albums found.\n"
  | albums =>
    String.ofList
      (Style.dimmed.paintIf colors albumHeader ++ '\n' ::
        albums.flatMap fun a => a.line colors ++ ['\n'])

/-- A member that is left out when its list is empty. -/
def grantsMember (key : String) (gs : List Grant) : List (String × Json) :=
  if gs.isEmpty then [] else [(key, .array (gs.map Grant.json))]

def Album.listedJson (a : Album) : Json :=
  .object ([
    ("id", .number a.id),
    ("name", .string a.name),
    ("description", .string a.description),
    ("location", .string a.location),
    ("owner", .string a.owner),
    ("created_at", .string (String.ofList a.createdAt.offsetText)),
    ("tags", .array (a.tags.map Json.string))] ++
    grantsMember "user_permissions" a.userGrants ++
    grantsMember "group_permissions" a.groupGrants)

def Page.json (p : Page) : Json :=
  .object [
    ("albums", .array (p.albums.map Album.listedJson)),
    ("total", .number p.total),
    ("skipped", .number p.skipped)]

end AlbumCatalog
