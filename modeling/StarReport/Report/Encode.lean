import StarReport.Report.Binding
import StarReport.Report.Listing
import StarReport.Tree.Decode

/-!
Requests and listings as trees. Both fields of a request may be left out.
-/

set_option autoImplicit false
set_option relaxedAutoImplicit false

namespace StarReport.Report

open Tree.Decoder

def Request.decode : Tree.Decoder Request :=
  record ⟨[], []⟩
    [.optional "dimensions" (list text)
        fun dimensions request => { request with dimensions := dimensions },
      .optional "measures" (list text)
        fun measures request => { request with measures := measures }]

/-- A field says what it is before its name. -/
def Field.encode : Field → Tree
  | .dimension name => .object [("type", .string "dimension"), ("name", .string name)]
  | .measure name function =>
    .object [("type", .string "measure"), ("name", .string name),
      ("function", .string function.text)]

def encodeListing (fields : List Field) : Tree := .list (fields.map Field.encode)

/-- The answer to a request: its statement, or null for an empty request. -/
def encodeStatement (sql : Option String) : Tree :=
  .object [("sql", (sql.map Tree.string).getD .null)]

end StarReport.Report
