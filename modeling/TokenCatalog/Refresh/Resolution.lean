import TokenCatalog.Fetch
import TokenCatalog.Manifest
import TokenCatalog.World

namespace TokenCatalog.Manifest

/-!
# Resolving the manifest — the best one at hand

The manifest is fetched if there is a URL for it; where that brings no new one, the cached manifest
is used, else the empty one.  The cached etag is sent only to the URL that issued it.

* `cached?` — the cached manifest, if it can be read;
* `request` — what is asked of the manifest's URL;
* `fresh?` — what an answer brings;
* `resolve` — the manifest after an answer, and the world in which it is cached.
-/

/-- The cached manifest and its content, if both can be read. -/
def cached? (c : Config) (w : World) : Option (Manifest × Content) := do
  let content ← w.content? ContentStore.manifestId
  let manifest ← decode? c.validator content.body
  return (manifest, content)

/-- The manifest to use where nothing new is fetched. -/
def fallback (c : Config) (w : World) : Manifest := ((cached? c w).map (·.1)).getD {}

/-- The etag to send to a URL. -/
def etagFor (c : Config) (w : World) (url : String) : String :=
  match cached? c w with
  | some (_, content) => if content.sourceUrl = url then content.etag else ""
  | none => ""

/-- What is asked of a manifest's URL. -/
def request (c : Config) (w : World) (url : String) : Request := ⟨url, etagFor c w url⟩

/-- The manifest that an answer brings, and the content to cache for it. -/
def fresh? (c : Config) (w : World) (url : String) (a : Answer) : Option (Manifest × Content) :=
  match a with
  | .ok ⟨some body, etag⟩ =>
    (decode? c.validator body).map fun m =>
      (m, { sourceUrl := url, etag, body, fetchedAt := w.moment })
  | _ => none

/-- The manifest to use after an answer, and the world after it has been cached. -/
def resolve (c : Config) (w : World) (url : String) (old : Manifest) (a : Answer) :
    Manifest × World :=
  match fresh? c w url a with
  | some (m, content) => (m, w.write ContentStore.manifestId content)
  | none => (old, w)

end TokenCatalog.Manifest
