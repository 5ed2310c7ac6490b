import TokenCatalog.Json.Record

namespace TokenCatalog

open Json (Field Fields Record Reader)

/-!
# Versions — major, minor and patch

* `Version` — ordered by major, then minor, then patch;
* `Version.toText` — the three with points between;
* `Version.record`, `Version.toJson` — as JSON; every part may be absent and is then zero.
-/

/-- The version of a list or a manifest. -/
structure Version where
  major : UInt32 := 0
  minor : UInt32 := 0
  patch : UInt32 := 0
  deriving DecidableEq, Repr, Inhabited

namespace Version

/-- Major first, then minor, then patch. -/
instance : Ord Version where
  compare v w := (compare v.major w.major).then
    ((compare v.minor w.minor).then (compare v.patch w.patch))

/-- The parts with points between. -/
def toText (v : Version) : String :=
  s!"{v.major.toNat}.{v.minor.toNat}.{v.patch.toNat}"

/-- How a version is read. -/
def record : Record [UInt32, UInt32, UInt32] Version where
  name := "Version"
  fields :=
    .cons (.withDefault "major" (fun _ => Reader.uint32) 0) <|
    .cons (.withDefault "minor" (fun _ => Reader.uint32) 0) <|
    .cons (.withDefault "patch" (fun _ => Reader.uint32) 0) .nil
  make := fun (major, minor, patch, ()) => { major, minor, patch }

/-- A version as a document. -/
def toJson (v : Version) : Json :=
  .object [
    ("major", .nat v.major.toUInt64),
    ("minor", .nat v.minor.toUInt64),
    ("patch", .nat v.patch.toUInt64)]

end Version

end TokenCatalog
