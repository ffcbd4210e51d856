import StarReport.Document.Basic
import StarReport.Tree.Decode

/-!
Schema documents from trees. The fields of each entry are listed in the order in which a list may
give them; lists of entries and the primary key may be left out.
-/

set_option autoImplicit false
set_option relaxedAutoImplicit false

namespace StarReport.Document

open Tree.Decoder

def ForeignKeyEntry.decode : Tree.Decoder ForeignKeyEntry :=
  record ⟨"", ""⟩
    [.needed "column" text fun column entry => { entry with column := column },
      .needed "target" text fun target entry => { entry with target := target }]

def TableEntry.decode : Tree.Decoder TableEntry :=
  record ⟨"", none, []⟩
    [.needed "name" text fun name entry => { entry with name := name },
      .optional "primary_key" optionalText fun key entry => { entry with primaryKey := key },
      .optional "foreign_keys" (list ForeignKeyEntry.decode)
        fun keys entry => { entry with foreignKeys := keys }]

def DimensionEntry.decode : Tree.Decoder DimensionEntry :=
  record ⟨"", "", ""⟩
    [.needed "name" text fun name entry => { entry with name := name },
      .needed "table" text fun table entry => { entry with table := table },
      .needed "column" text fun column entry => { entry with column := column }]

def MetricEntry.decode : Tree.Decoder MetricEntry :=
  record ⟨"", ""⟩
    [.needed "table" text fun table entry => { entry with table := table },
      .needed "column" text fun column entry => { entry with column := column }]

def MeasureEntry.decode : Tree.Decoder MeasureEntry :=
  record ⟨"", .other "", "", ""⟩
    [.needed "name" text fun name entry => { entry with name := name },
      .needed "function" text fun function entry => { entry with function := .ofText function },
      .needed "table" text fun table entry => { entry with table := table },
      .needed "column" text fun column entry => { entry with column := column }]

def StarEntry.decode : Tree.Decoder StarEntry :=
  record ⟨"", [], [], []⟩
    [.needed "fact" text fun fact entry => { entry with fact := fact },
      .optional "dimensions" (list DimensionEntry.decode)
        fun dimensions entry => { entry with dimensions := dimensions },
      .optional "metrics" (list MetricEntry.decode)
        fun metrics entry => { entry with metrics := metrics },
      .optional "measures" (list MeasureEntry.decode)
        fun measures entry => { entry with measures := measures }]

def decode : Tree.Decoder Document :=
  record ⟨"", [], ⟨"", [], [], []⟩⟩
    [.needed "database" text fun database document => { document with database := database },
      .optional "tables" (list TableEntry.decode)
        fun tables document => { document with tables := tables },
      .needed "star" StarEntry.decode fun star document => { document with star := star }]

end StarReport.Document
