import SiteConfig.Schema
import SiteConfig.Table
import SiteConfig.Value

/-!
# Listings of the schema

- `Listing.ofBlock?`: the fields of the configuration, or of a list of blocks inside it.
- `Listing.table`, `Listing.document`: the listing as a table and as a document.
-/

namespace SiteConfig.Schema

/-- A block by its dotted name, and its fields. -/
structure Listing where
  block : String
  fields : List FieldSpec
  deriving Repr

namespace Listing

/-- The name of the block that everything belongs to. -/
def rootBlock : String := "site_config"

/-- The listing of the whole configuration, or of the blocks under one of its fields. -/
def ofBlock? : Option String → Option Listing
  | none => some ⟨rootBlock, siteConfig⟩
  | some name =>
    ((find? siteConfig name).bind entries?).map fun fields => ⟨rootBlock ++ "." ++ name, fields⟩

/-- How case counts in a field, in a word. -/
def caseRule (spec : FieldSpec) : String :=
  if spec.ignoresCase then "insensitive"
  else if spec.suppressesCase then "diff-suppressed"
  else ""

/-- The columns of a listing. -/
def columns (spec : FieldSpec) : List (String × Value) :=
  [("name", .text spec.name), ("type", .text spec.kind.name), ("required", .bool spec.required),
    ("computed", .bool spec.computed),
    ("default", .text ((spec.preset.map Preset.shown).getD "")),
    ("allowed", .text (", ".intercalate spec.allowed)), ("case", .text (caseRule spec))]

/-- A cell as a text. -/
def shown : Value → String
  | .text s => s
  | .bool true => "true"
  | .bool false => "false"
  | _ => ""

/-- The names of the columns. -/
def header : List String :=
  (columns {name := "", kind := .bool}).map Prod.fst

/-- The listing as a table. -/
def table (listing : Listing) : String :=
  Table.render header (listing.fields.map fun spec => (columns spec).map fun (_, v) => shown v)

/-- The listing as a document. -/
def document (listing : Listing) : Value :=
  .object [("block", .text listing.block),
    ("fields", .list (listing.fields.map fun spec => .object (columns spec)))]

end Listing

end SiteConfig.Schema
