import StarReport.Document.Basic
import StarReport.Tree.Basic

/-!
Schema documents as trees, with every field written out. A missing primary key is null.
-/

set_option autoImplicit false
set_option relaxedAutoImplicit false

namespace StarReport.Document

open StarReport.Tree (object string)

def ForeignKeyEntry.encode (entry : ForeignKeyEntry) : Tree :=
  object [("column", string entry.column), ("target", string entry.target)]

def TableEntry.encode (entry : TableEntry) : Tree :=
  object [("name", string entry.name),
    ("primary_key", (entry.primaryKey.map string).getD .null),
    ("foreign_keys", .list (entry.foreignKeys.map ForeignKeyEntry.encode))]

def DimensionEntry.encode (entry : DimensionEntry) : Tree :=
  object [("name", string entry.name), ("table", string entry.table),
    ("column", string entry.column)]

def MetricEntry.encode (entry : MetricEntry) : Tree :=
  object [("table", string entry.table), ("column", string entry.column)]

def MeasureEntry.encode (entry : MeasureEntry) : Tree :=
  object [("name", string entry.name), ("function", string entry.function.text),
    ("table", string entry.table), ("column", string entry.column)]

def StarEntry.encode (entry : StarEntry) : Tree :=
  object [("fact", string entry.fact),
    ("dimensions", .list (entry.dimensions.map DimensionEntry.encode)),
    ("metrics", .list (entry.metrics.map MetricEntry.encode)),
    ("measures", .list (entry.measures.map MeasureEntry.encode))]

def encode (document : Document) : Tree :=
  object [("database", string document.database),
    ("tables", .list (document.tables.map TableEntry.encode)),
    ("star", document.star.encode)]

end StarReport.Document
