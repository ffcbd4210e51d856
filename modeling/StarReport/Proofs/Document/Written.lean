import StarReport.Proofs.Document.Represented
import StarReport.Proofs.Json.Written
import StarReport.Proofs.Toml.Written
import StarReport.Proofs.Tree.Dialect

/-!
Documents as texts of either format. The two texts have different values, as a missing primary key
is null in the one and left out in the other, and both values stand for the document. JSON is read
as what a value stands for; a value without numbers means the same in TOML.
-/

set_option autoImplicit false
set_option relaxedAutoImplicit false

namespace StarReport.Document

open StarReport.Tree (Decoder Meaning object string)

/-! ### Documents without their missing keys -/

/-- The tree of an entry in which a missing primary key is left out. -/
def TableEntry.concise (entry : TableEntry) : Tree :=
  object (("name", string entry.name) ::
    ((entry.primaryKey.toList.map fun key => ("primary_key", string key)) ++
      [("foreign_keys", .list (entry.foreignKeys.map ForeignKeyEntry.encode))]))

/-- The tree of a document in which missing primary keys are left out. -/
def concise (document : Document) : Tree :=
  object [("database", string document.database),
    ("tables", .list (document.tables.map TableEntry.concise)),
    ("star", document.star.encode)]

section Represented

attribute [local simp] Meaning.Members Meaning.valuesOf Meaning.text Meaning.Slot.Says
  Meaning.Slot.needed Meaning.Slot.optional Meaning.Slot.Omitted

theorem TableEntry.represents_concise (entry : TableEntry) :
    TableEntry.Represents entry.concise entry := by
  have keys := Meaning.list_map fun (key : ForeignKeyEntry) (_ : key ∈ entry.foreignKeys) =>
    key.represents_encode
  refine .inl ⟨_, rfl, ?_⟩
  cases key : entry.primaryKey with
  | none => simp [keys, key]
  | some characters => simp [keys, key, Meaning.optionalText]

theorem represents_concise {document : Document} (spelled : document.star.Spelled) :
    Represents document.concise document := by
  have tables := Meaning.list_map fun (table : TableEntry) (_ : table ∈ document.tables) =>
    table.represents_concise
  have star := StarEntry.represents_encode spelled
  refine .inl ⟨_, rfl, ?_⟩
  simp [tables, star]

end Represented

/-! ### JSON texts -/

theorem TableEntry.plain_encode (entry : TableEntry) : Json.plain entry.encode = true := by
  have key : Json.plain ((entry.primaryKey.map string).getD .null) = true := by
    cases entry.primaryKey <;> rfl
  simp [encode, ForeignKeyEntry.encode, Json.plain_object, Json.plain_list, Json.plain_string, key]

theorem StarEntry.plain_encode (entry : StarEntry) : Json.plain entry.encode = true := by
  simp [encode, DimensionEntry.encode, MetricEntry.encode, MeasureEntry.encode, Json.plain_object,
    Json.plain_list, Json.plain_string]

theorem plain_encode (document : Document) : Json.plain document.encode = true := by
  simp [encode, TableEntry.plain_encode, StarEntry.plain_encode, Json.plain_object,
    Json.plain_list, Json.plain_string]

theorem TableEntry.plain_concise (entry : TableEntry) : Json.plain entry.concise = true := by
  cases key : entry.primaryKey <;>
    simp [concise, ForeignKeyEntry.encode, Json.plain_object, Json.plain_list, Json.plain_string,
      key]

theorem plain_concise (document : Document) : Json.plain document.concise = true := by
  simp [concise, TableEntry.plain_concise, StarEntry.plain_encode, Json.plain_object,
    Json.plain_list, Json.plain_string]

/-! ### TOML texts -/

section Spelled

open Toml (Bare Scanner Spells array gap_skipBlanks pair quoted scanLine scanPair scanValueWithin
  skipBlanks spells_array spells_inlineRecord spells_line spells_pair spells_quoted)

variable (depth : Nat)

/-- A member of an inline table at the given depth. -/
private abbrev member (depth : Nat) : Scanner (List String × Tree) :=
  scanPair (skipBlanks false) (scanValueWithin depth)

variable {depth} in
private theorem spells_member {key : String} (bare : Bare key) {text : List Char} {tree : Tree}
    (spells : Spells (scanValueWithin depth) text tree) :
    Spells (member depth) (pair key text) ([key], tree) :=
  spells_pair gap_skipBlanks bare spells

private theorem spells_text {key : String} (bare : Bare key) (characters : String) :
    Spells (member depth) (pair key (quoted characters)) ([key], string characters) :=
  spells_member bare (spells_quoted depth characters)

variable {depth} in
private theorem spells_map {α : Type} {write : α → List Char} {encode : α → Tree}
    (each : ∀ entry, Spells (scanValueWithin depth) (write entry) (encode entry))
    (entries : List α) :
    Spells (scanValueWithin (depth + 1)) (array (entries.map write))
      (.list (entries.map encode)) := by
  refine spells_array ?_
  rw [List.forall₂_map_left_iff, List.forall₂_map_right_iff, List.forall₂_same]
  exact fun entry _ => each entry

theorem ForeignKeyEntry.spells_toml (entry : ForeignKeyEntry) :
    Spells (scanValueWithin (depth + 1)) entry.toml entry.encode := by
  have column := spells_text depth (by decide : Bare "column") entry.column
  have target := spells_text depth (by decide : Bare "target") entry.target
  exact spells_inlineRecord (by simp) (.cons column (.cons target .nil))

theorem TableEntry.spells_toml (entry : TableEntry) :
    Spells (scanValueWithin (depth + 3)) entry.toml entry.concise := by
  have name := spells_text (depth + 2) (by decide : Bare "name") entry.name
  have key := spells_text (depth + 2) (by decide : Bare "primary_key")
  have keys := spells_member (by decide : Bare "foreign_keys")
    (spells_map (ForeignKeyEntry.spells_toml depth) entry.foreignKeys)
  rw [toml, concise]
  cases entry.primaryKey with
  | none => exact spells_inlineRecord (by simp) (.cons name (.cons keys .nil))
  | some characters =>
    exact spells_inlineRecord (by simp) (.cons name (.cons (key characters) (.cons keys .nil)))

theorem DimensionEntry.spells_toml (entry : DimensionEntry) :
    Spells (scanValueWithin (depth + 1)) entry.toml entry.encode := by
  have name := spells_text depth (by decide : Bare "name") entry.name
  have table := spells_text depth (by decide : Bare "table") entry.table
  have column := spells_text depth (by decide : Bare "column") entry.column
  exact spells_inlineRecord (by simp) (.cons name (.cons table (.cons column .nil)))

theorem MetricEntry.spells_toml (entry : MetricEntry) :
    Spells (scanValueWithin (depth + 1)) entry.toml entry.encode := by
  have table := spells_text depth (by decide : Bare "table") entry.table
  have column := spells_text depth (by decide : Bare "column") entry.column
  exact spells_inlineRecord (by simp) (.cons table (.cons column .nil))

theorem MeasureEntry.spells_toml (entry : MeasureEntry) :
    Spells (scanValueWithin (depth + 1)) entry.toml entry.encode := by
  have name := spells_text depth (by decide : Bare "name") entry.name
  have function := spells_text depth (by decide : Bare "function") entry.function.text
  have table := spells_text depth (by decide : Bare "table") entry.table
  have column := spells_text depth (by decide : Bare "column") entry.column
  exact spells_inlineRecord (by simp)
    (.cons name (.cons function (.cons table (.cons column .nil))))

theorem StarEntry.spells_toml (entry : StarEntry) :
    Spells (scanValueWithin (depth + 3)) entry.toml entry.encode := by
  have fact := spells_text (depth + 2) (by decide : Bare "fact") entry.fact
  have dimensions := spells_member (by decide : Bare "dimensions")
    (spells_map (DimensionEntry.spells_toml depth) entry.dimensions)
  have metrics := spells_member (by decide : Bare "metrics")
    (spells_map (MetricEntry.spells_toml depth) entry.metrics)
  have measures := spells_member (by decide : Bare "measures")
    (spells_map (MeasureEntry.spells_toml depth) entry.measures)
  exact spells_inlineRecord (by simp)
    (.cons fact (.cons dimensions (.cons metrics (.cons measures .nil))))

/-- The TOML text of a document is read as its tree. -/
theorem tree?_toml (document : Document) : Toml.tree? document.toml = some document.concise := by
  have database := spells_line (by decide : Bare "database") (spells_quoted 80 document.database)
  have tables := spells_line (by decide : Bare "tables")
    (spells_map (TableEntry.spells_toml 76) document.tables)
  have star := spells_line (by decide : Bare "star") (document.star.spells_toml 77)
  have lines : document.toml = String.ofList (([pair "database" (quoted document.database),
      pair "tables" (array (document.tables.map TableEntry.toml)),
      pair "star" document.star.toml]).flatMap (· ++ ['\n'])) := by
    simp [toml]
  rw [lines, concise]
  exact Toml.tree?_written (by simp) (.cons database (.cons tables (.cons star .nil)))

end Spelled

/-! ### Reading of either text -/

section Carried

open Tree.Decoder (carries_optionalText carries_record carries_text)

theorem ForeignKeyEntry.carries : ForeignKeyEntry.decode.Carries :=
  carries_record _ ⟨carries_text.needed _ _, carries_text.needed _ _⟩

theorem TableEntry.carries : TableEntry.decode.Carries :=
  carries_record _ ⟨carries_text.needed _ _, carries_optionalText.optional _ _,
    ForeignKeyEntry.carries.list.optional _ _⟩

theorem DimensionEntry.carries : DimensionEntry.decode.Carries :=
  carries_record _ ⟨carries_text.needed _ _, carries_text.needed _ _, carries_text.needed _ _⟩

theorem MetricEntry.carries : MetricEntry.decode.Carries :=
  carries_record _ ⟨carries_text.needed _ _, carries_text.needed _ _⟩

theorem MeasureEntry.carries : MeasureEntry.decode.Carries :=
  carries_record _ ⟨carries_text.needed _ _, carries_text.needed _ _, carries_text.needed _ _,
    carries_text.needed _ _⟩

theorem StarEntry.carries : StarEntry.decode.Carries :=
  carries_record _ ⟨carries_text.needed _ _, DimensionEntry.carries.list.optional _ _,
    MetricEntry.carries.list.optional _ _, MeasureEntry.carries.list.optional _ _⟩

theorem carries : decode.Carries :=
  carries_record _ ⟨carries_text.needed _ _, TableEntry.carries.list.optional _ _,
    StarEntry.carries.needed _ _⟩

end Carried

/-- A TOML text is decoded to what its value stands for, if there are no numbers in it. -/
theorem ofText_toml {text : String} {tree : Tree} {document : Document}
    (read : Toml.tree? text = some tree) (isPlain : Json.plain tree = true)
    (stands : Represents tree document) : Document.ofText .toml text = .ok document := by
  obtain ⟨intact, held⟩ := Json.whole_of_plain tree isPlain
  have taken := (reads tree document).mpr ⟨intact, stands⟩
  have carried := carries Toml.dialect tree document held taken
  have decoded : Toml.decode decode text = .ok document := by
    rw [Toml.decode, read]
    exact carried
  exact FirstFailure.mapError_ok.mpr decoded

/-- A JSON text and a TOML text that are read as the values of a document. -/
structure Texts (document : Document) (json toml : String) : Prop where
  json : Json.tree? json = some document.encode
  toml : Toml.tree? toml = some document.concise

theorem texts_written (document : Document) :
    document.Texts (Json.write document.encode) document.toml :=
  ⟨Json.tree?_write document.plain_encode, document.tree?_toml⟩

/-- Both texts of a document are decoded to it. -/
theorem Texts.decoded {document : Document} {json toml : String} (texts : document.Texts json toml)
    (spelled : document.star.Spelled) :
    Document.ofText .json json = .ok document ∧ Document.ofText .toml toml = .ok document :=
  ⟨(ofText_json json document).mpr ⟨_, texts.json, represents_encode spelled⟩,
    ofText_toml texts.toml document.plain_concise (represents_concise spelled)⟩

end StarReport.Document
