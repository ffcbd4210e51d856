import StarReport.Document.Encode
import StarReport.Proofs.Tree.Reading
import StarReport.Schema.Load

/-!
The JSON values that stand for a schema document: at every level an object with its fields in any
order among others, or the list of its fields. They are the values that the decoder takes.
-/

set_option autoImplicit false
set_option relaxedAutoImplicit false

namespace StarReport.Document

open StarReport.Star (AggregateFunction)
open StarReport.Tree (Decoder Meaning)
open Tree.Meaning (Slot)
open Tree.Decoder (MakesUp)

/-! ### What stands for a document -/

/-- A text stands for the function that it is read as, and is the spelling of that function. -/
def functionText : Meaning AggregateFunction := fun tree function =>
  tree = .string function.text ∧ function = .ofText function.text

def ForeignKeyEntry.Represents : Meaning ForeignKeyEntry :=
  Meaning.record
    [.needed "column" ForeignKeyEntry.column Meaning.text,
      .needed "target" ForeignKeyEntry.target Meaning.text]

def TableEntry.Represents : Meaning TableEntry :=
  Meaning.record
    [.needed "name" TableEntry.name Meaning.text,
      .optional "primary_key" TableEntry.primaryKey Meaning.optionalText none,
      .optional "foreign_keys" TableEntry.foreignKeys (Meaning.list ForeignKeyEntry.Represents) []]

def DimensionEntry.Represents : Meaning DimensionEntry :=
  Meaning.record
    [.needed "name" DimensionEntry.name Meaning.text,
      .needed "table" DimensionEntry.table Meaning.text,
      .needed "column" DimensionEntry.column Meaning.text]

def MetricEntry.Represents : Meaning MetricEntry :=
  Meaning.record
    [.needed "table" MetricEntry.table Meaning.text,
      .needed "column" MetricEntry.column Meaning.text]

def MeasureEntry.Represents : Meaning MeasureEntry :=
  Meaning.record
    [.needed "name" MeasureEntry.name Meaning.text,
      .needed "function" MeasureEntry.function functionText,
      .needed "table" MeasureEntry.table Meaning.text,
      .needed "column" MeasureEntry.column Meaning.text]

def StarEntry.Represents : Meaning StarEntry :=
  Meaning.record
    [.needed "fact" StarEntry.fact Meaning.text,
      .optional "dimensions" StarEntry.dimensions (Meaning.list DimensionEntry.Represents) [],
      .optional "metrics" StarEntry.metrics (Meaning.list MetricEntry.Represents) [],
      .optional "measures" StarEntry.measures (Meaning.list MeasureEntry.Represents) []]

/-- The tree stands for the document. -/
def Represents : Meaning Document :=
  Meaning.record
    [.needed "database" Document.database Meaning.text,
      .optional "tables" Document.tables (Meaning.list TableEntry.Represents) [],
      .needed "star" Document.star StarEntry.Represents]

/-! ### Reading of entries -/

attribute [local simp] Decoder.Part.ofText Decoder.Part.ofList Slot.needed Slot.optional

attribute [ext] ForeignKeyEntry TableEntry DimensionEntry MetricEntry MeasureEntry StarEntry Document

def ForeignKeyEntry.parts : List (Decoder.Part ForeignKeyEntry) :=
  [.ofText "column" column (fun column entry => { entry with column := column }) fun _ _ => rfl,
    .ofText "target" target (fun target entry => { entry with target := target }) fun _ _ => rfl]

theorem ForeignKeyEntry.makesUp : MakesUp ForeignKeyEntry.parts ⟨"", ""⟩ := by
  constructor <;> simp [parts, ForeignKeyEntry.ext_iff]

theorem ForeignKeyEntry.reads : ForeignKeyEntry.decode.Reads ForeignKeyEntry.Represents :=
  makesUp.reads_record

def TableEntry.parts : List (Decoder.Part TableEntry) :=
  [.ofText "name" name (fun name entry => { entry with name := name }) fun _ _ => rfl,
    ⟨.optional "primary_key" primaryKey Meaning.optionalText none, Decoder.optionalText,
      fun key entry => { entry with primaryKey := key }, Decoder.reads_optionalText,
      fun _ _ => rfl⟩,
    .ofList ForeignKeyEntry.reads "foreign_keys" foreignKeys
      (fun keys entry => { entry with foreignKeys := keys }) fun _ _ => rfl]

theorem TableEntry.makesUp : MakesUp TableEntry.parts ⟨"", none, []⟩ := by
  constructor <;> simp [parts, TableEntry.ext_iff]

theorem TableEntry.reads : TableEntry.decode.Reads TableEntry.Represents :=
  makesUp.reads_record

def DimensionEntry.parts : List (Decoder.Part DimensionEntry) :=
  [.ofText "name" name (fun name entry => { entry with name := name }) fun _ _ => rfl,
    .ofText "table" table (fun table entry => { entry with table := table }) fun _ _ => rfl,
    .ofText "column" column (fun column entry => { entry with column := column }) fun _ _ => rfl]

theorem DimensionEntry.makesUp : MakesUp DimensionEntry.parts ⟨"", "", ""⟩ := by
  constructor <;> simp [parts, DimensionEntry.ext_iff]

theorem DimensionEntry.reads : DimensionEntry.decode.Reads DimensionEntry.Represents :=
  makesUp.reads_record

def MetricEntry.parts : List (Decoder.Part MetricEntry) :=
  [.ofText "table" table (fun table entry => { entry with table := table }) fun _ _ => rfl,
    .ofText "column" column (fun column entry => { entry with column := column }) fun _ _ => rfl]

theorem MetricEntry.makesUp : MakesUp MetricEntry.parts ⟨"", ""⟩ := by
  constructor <;> simp [parts, MetricEntry.ext_iff]

theorem MetricEntry.reads : MetricEntry.decode.Reads MetricEntry.Represents :=
  makesUp.reads_record

/-- A function is read as a text and kept as the function of that spelling. -/
def decodeFunction : Decoder AggregateFunction :=
  fun dialect tree => (Decoder.text dialect tree).map .ofText

theorem reads_function : decodeFunction.Reads functionText := by
  intro tree function
  have read : decodeFunction Json.dialect tree = .ok function ↔
      ∃ spelling, (tree.intact = true ∧ tree = .string spelling) ∧ .ofText spelling = function := by
    change (Decoder.text Json.dialect tree).map _ = _ ↔ _
    rw [FirstFailure.map_ok]
    exact exists_congr fun spelling => and_congr_left' (Decoder.reads_text tree spelling)
  rw [read]
  constructor
  · rintro ⟨spelling, ⟨whole, rfl⟩, rfl⟩
    exact ⟨whole, by rw [AggregateFunction.text_ofText], by rw [AggregateFunction.text_ofText]⟩
  · rintro ⟨whole, same, known⟩
    exact ⟨function.text, ⟨whole, same⟩, known.symm⟩

def MeasureEntry.parts : List (Decoder.Part MeasureEntry) :=
  [.ofText "name" name (fun name entry => { entry with name := name }) fun _ _ => rfl,
    ⟨.needed "function" function functionText, decodeFunction,
      fun function entry => { entry with function := function }, reads_function, fun _ _ => rfl⟩,
    .ofText "table" table (fun table entry => { entry with table := table }) fun _ _ => rfl,
    .ofText "column" column (fun column entry => { entry with column := column }) fun _ _ => rfl]

theorem MeasureEntry.makesUp : MakesUp MeasureEntry.parts ⟨"", .other "", "", ""⟩ := by
  constructor <;> simp [parts, MeasureEntry.ext_iff]

theorem MeasureEntry.decode_eq :
    MeasureEntry.decode = Decoder.record ⟨"", .other "", "", ""⟩ (parts.map Decoder.Part.field) := by
  have field : (Decoder.Field.needed "function" Decoder.text
      fun function (entry : MeasureEntry) => { entry with function := .ofText function }) =
        .needed "function" decodeFunction
          fun function entry => { entry with function := function } := by
    refine congrArg (Decoder.Field.mk _ _) ?_
    funext dialect tree entry
    change (Decoder.text dialect tree).map _ = ((Decoder.text dialect tree).map _).map _
    cases Decoder.text dialect tree <;> rfl
  rw [MeasureEntry.decode, field]
  rfl

theorem MeasureEntry.reads : MeasureEntry.decode.Reads MeasureEntry.Represents :=
  decode_eq ▸ makesUp.reads_record

def StarEntry.parts : List (Decoder.Part StarEntry) :=
  [.ofText "fact" fact (fun fact entry => { entry with fact := fact }) fun _ _ => rfl,
    .ofList DimensionEntry.reads "dimensions" dimensions
      (fun dimensions entry => { entry with dimensions := dimensions }) fun _ _ => rfl,
    .ofList MetricEntry.reads "metrics" metrics
      (fun metrics entry => { entry with metrics := metrics }) fun _ _ => rfl,
    .ofList MeasureEntry.reads "measures" measures
      (fun measures entry => { entry with measures := measures }) fun _ _ => rfl]

theorem StarEntry.makesUp : MakesUp StarEntry.parts ⟨"", [], [], []⟩ := by
  constructor <;> simp [parts, StarEntry.ext_iff]

theorem StarEntry.reads : StarEntry.decode.Reads StarEntry.Represents :=
  makesUp.reads_record

def parts : List (Decoder.Part Document) :=
  [.ofText "database" database (fun database document => { document with database := database })
      fun _ _ => rfl,
    .ofList TableEntry.reads "tables" tables
      (fun tables document => { document with tables := tables }) fun _ _ => rfl,
    ⟨.needed "star" star StarEntry.Represents, StarEntry.decode,
      fun star document => { document with star := star }, StarEntry.reads, fun _ _ => rfl⟩]

theorem makesUp : MakesUp parts ⟨"", [], ⟨"", [], [], []⟩⟩ := by
  constructor <;> simp [parts, Document.ext_iff]

theorem reads : decode.Reads Represents := makesUp.reads_record

/-! ### Documents as trees -/

attribute [local simp] Meaning.Members Meaning.valuesOf Meaning.text Slot.Says

theorem ForeignKeyEntry.represents_encode (entry : ForeignKeyEntry) :
    ForeignKeyEntry.Represents entry.encode entry := by
  refine .inl ⟨_, rfl, ?_⟩
  simp

theorem TableEntry.represents_encode (entry : TableEntry) :
    TableEntry.Represents entry.encode entry := by
  have key : Meaning.optionalText ((entry.primaryKey.map Tree.string).getD .null)
      entry.primaryKey := by
    cases entry.primaryKey <;> rfl
  have keys := Meaning.list_map fun (key : ForeignKeyEntry) (_ : key ∈ entry.foreignKeys) =>
    key.represents_encode
  refine .inl ⟨_, rfl, ?_⟩
  simp [key, keys]

theorem DimensionEntry.represents_encode (entry : DimensionEntry) :
    DimensionEntry.Represents entry.encode entry := by
  refine .inl ⟨_, rfl, ?_⟩
  simp

theorem MetricEntry.represents_encode (entry : MetricEntry) :
    MetricEntry.Represents entry.encode entry := by
  refine .inl ⟨_, rfl, ?_⟩
  simp

theorem MeasureEntry.represents_encode {entry : MeasureEntry} {spelling : String}
    (read : entry.function = .ofText spelling) : MeasureEntry.Represents entry.encode entry := by
  have known : functionText (.string entry.function.text) entry.function := by
    rw [read, AggregateFunction.text_ofText]
    exact ⟨by rw [AggregateFunction.text_ofText], by rw [AggregateFunction.text_ofText]⟩
  refine .inl ⟨_, rfl, ?_⟩
  simp [known]

/-- Every function of the star was read from some text. -/
def StarEntry.Spelled (entry : StarEntry) : Prop :=
  ∀ measure ∈ entry.measures, ∃ spelling, measure.function = .ofText spelling

theorem StarEntry.represents_encode {entry : StarEntry} (spelled : entry.Spelled) :
    StarEntry.Represents entry.encode entry := by
  have dimensions := Meaning.list_map fun (dimension : DimensionEntry)
    (_ : dimension ∈ entry.dimensions) => dimension.represents_encode
  have metrics := Meaning.list_map fun (metric : MetricEntry) (_ : metric ∈ entry.metrics) =>
    metric.represents_encode
  have measures : Meaning.list MeasureEntry.Represents
      (.list (entry.measures.map MeasureEntry.encode)) entry.measures :=
    Meaning.list_map fun measure mem =>
      let ⟨_, read⟩ := spelled measure mem
      MeasureEntry.represents_encode read
  refine .inl ⟨_, rfl, ?_⟩
  simp [dimensions, metrics, measures]

theorem represents_encode {document : Document} (spelled : document.star.Spelled) :
    Represents document.encode document := by
  have tables := Meaning.list_map fun (table : TableEntry) (_ : table ∈ document.tables) =>
    table.represents_encode
  have star := StarEntry.represents_encode spelled
  refine .inl ⟨_, rfl, ?_⟩
  simp [tables, star]

theorem TableEntry.intact_encode (entry : TableEntry) : entry.encode.intact = true := by
  have key : ((entry.primaryKey.map Tree.string).getD .null).intact = true := by
    cases entry.primaryKey <;> rfl
  simp [encode, ForeignKeyEntry.encode, Tree.intact_object, Tree.intact_list, Tree.intact_string,
    key]

theorem StarEntry.intact_encode (entry : StarEntry) : entry.encode.intact = true := by
  simp [encode, DimensionEntry.encode, MetricEntry.encode, MeasureEntry.encode, Tree.intact_object,
    Tree.intact_list, Tree.intact_string]

theorem intact_encode (document : Document) : document.encode.intact = true := by
  simp [encode, TableEntry.intact_encode, StarEntry.intact_encode, Tree.intact_object,
    Tree.intact_list, Tree.intact_string]

/-- A text is decoded to what its value stands for. -/
theorem ofText_json (text : String) (document : Document) :
    Document.ofText .json text = .ok document ↔
      ∃ tree, Json.tree? text = some tree ∧ Represents tree document := by
  have opened : Document.ofText .json text = .ok document ↔
      ∃ decoded, decode Json.dialect (Json.read text).1 = .ok decoded ∧
        (if (Json.read text).2.isEmpty then .ok decoded else .error .malformed) =
          (.ok document : Except Tree.Fault Document) := by
    change (Json.decode decode text).mapError _ = _ ↔ _
    rw [FirstFailure.mapError_ok]
    exact FirstFailure.bind_ok
  rw [opened, Json.tree?]
  simp only [reads _ _]
  cases (Json.read text).2.isEmpty with
  | false => simp
  | true => simp [and_assoc]

/-- A value is decoded to a document if and only if it stands for it, and a text if its value does. A
value stands for one document at most, and what a document is written as is decoded to it again. -/
theorem decode_iff_represents :
    (∀ (tree : Tree) (document : Document),
      decode Json.dialect tree = .ok document ↔ tree.intact = true ∧ Represents tree document) ∧
    (∀ (tree : Tree) (document document' : Document), tree.intact = true →
      Represents tree document → Represents tree document' → document = document') ∧
    (∀ document : Document, document.star.Spelled →
      decode Json.dialect document.encode = .ok document) ∧
    ∀ (text : String) (document : Document), Document.ofText .json text = .ok document ↔
      ∃ tree, Json.tree? text = some tree ∧ Represents tree document := by
  refine ⟨reads, ?_, ?_, ofText_json⟩
  · intro tree document document' whole stands stands'
    have decoded := (reads tree document).mpr ⟨whole, stands⟩
    have decoded' := (reads tree document').mpr ⟨whole, stands'⟩
    exact Except.ok.inj (decoded.symm.trans decoded')
  · intro document spelled
    exact (reads _ _).mpr ⟨document.intact_encode, represents_encode spelled⟩

/-- Objects and lists mixed, with the fields out of order, one of no record repeated and some left
out. -/
def mixed : Tree :=
  .object
    [("note", .null),
      ("star", .list
        [.string "FactSales", .list [], .list [],
          .list [.object
            [("column", .string "Quantity"), ("function", .string "median"),
              ("table", .string "FactSales"), ("name", .string "Units")]]]),
      ("note", .list [.excess]),
      ("tables", .list
        [.list [.string "FactSales"],
          .object [("primary_key", .null), ("name", .string "DimStore")]]),
      ("database", .string "StarDB")]

theorem represents_mixed : Represents mixed
    ⟨"StarDB", [⟨"FactSales", none, []⟩, ⟨"DimStore", none, []⟩],
      ⟨"FactSales", [], [], [⟨"Units", .other "median", "FactSales", "Quantity"⟩]⟩⟩ :=
  ((decode_iff_represents.1 mixed _).mp (by decide)).2

end StarReport.Document
