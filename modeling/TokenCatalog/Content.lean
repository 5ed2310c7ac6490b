import TokenCatalog.Moment
import TokenCatalog.SortedMap
import TokenCatalog.Text.Bytes

namespace TokenCatalog

/-!
# Cached content — what was last fetched under each id

* `Content` — a body with where it came from, its etag and when it was fetched;
* `ContentStore` — contents by id;
* `manifestId`, `nativeId`, `customId` — the ids with a meaning of their own.
-/

/-- A fetched body. -/
structure Content where
  sourceUrl : String
  etag : String
  body : Bytes
  fetchedAt : Moment
  deriving DecidableEq, Repr, Inhabited

/-- Contents by the id of their list. -/
abbrev ContentStore := SortedMap String Content

namespace ContentStore

/-- The id of the cached manifest. -/
def manifestId : String := "__manifest__"

/-- The id of the list of native tokens. -/
def nativeId : String := "native"

/-- The id of the list of custom tokens. -/
def customId : String := "custom"

/-- The etag cached under an id. -/
def etag? (s : ContentStore) (id : String) : Option String := (s.get? id).map (·.etag)

end ContentStore

end TokenCatalog
