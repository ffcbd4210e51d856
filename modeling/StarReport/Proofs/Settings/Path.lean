import StarReport.Proofs.Schema.OneFormat
import StarReport.Proofs.Tree.Unread
import StarReport.Settings.Basic

/-!
Settings that differ in the path of the schema alone. One file may hold settings and a schema
document at the same time, since each passes over what belongs to the other. Such a file comes to
the same schema whatever path it names, and fails to come to one alike.
-/

set_option autoImplicit false
set_option relaxedAutoImplicit false

namespace StarReport

open StarReport.Tree (Dialect passes_list passes_record)
open Tree.Decoder

namespace Settings

/-- What the settings of the schema say besides the path. -/
def besidesPath : Tree → List (Characters × Tree)
  | .record members => members.filter (·.1 ≠ some "path")
  | .list items => items.tail.map (none, ·)
  | tree => [(none, tree)]

/-- Tables that say the same but for the path of the schema. -/
structure DifferInPath (members members' : List (Characters × Tree)) : Prop where
  others : members.filter (·.1 ≠ some "schema") = members'.filter (·.1 ≠ some "schema")
  schema : (members.filter (·.1 = some "schema")).flatMap (besidesPath ·.2) =
    (members'.filter (·.1 = some "schema")).flatMap (besidesPath ·.2)

/-- Texts that hold settings which differ in the path of the schema alone. -/
def TextsDifferInPath (text text' : String) : Prop :=
  ∃ members members' settings settings', DifferInPath members members' ∧
    Toml.tree? text = some (.record members) ∧ Toml.tree? text' = some (.record members') ∧
    ofText text = .ok settings ∧ ofText text' = .ok settings'

variable {dialect : Dialect} {tree : Tree} {members members' : List (Characters × Tree)}
  {settings settings' : Settings}

theorem passes_of_optionalText {path : Option String}
    (read : optionalText dialect tree = .ok path) : dialect.passes tree = true := by
  cases tree with
  | null => simp [Dialect.passes, Tree.intact, Tree.held]
  | text => simp [Dialect.passes, Tree.intact, Tree.held]
  | _ => cases read

/-- The path of the schema passes, so the settings of the schema do if all besides does. -/
theorem passes_iff_besidesPath {schema : SchemaSettings}
    (read : SchemaSettings.decode dialect tree = .ok schema) :
    dialect.passes tree = true ↔ ∀ member ∈ besidesPath tree, dialect.passes member.2 = true := by
  have path_passes {value after : SchemaSettings} {tree : Tree}
      (read : (Field.optional "path" optionalText fun path settings : _ =>
        { settings with path := path }).read dialect tree value = .ok after) :
      dialect.passes tree = true := by
    obtain ⟨_, read, _⟩ := FirstFailure.map_ok.mp read
    exact passes_of_optionalText read
  cases tree with
  | record entries =>
    obtain ⟨_, taken, _⟩ := FirstFailure.bind_ok.mp read
    rw [passes_record, besidesPath]
    constructor
    · intro passes member kept
      exact passes member (List.mem_of_mem_filter kept)
    · intro passes member held
      by_cases named : member.1 = some "path"
      · obtain ⟨characters, tree⟩ := member
        cases named
        obtain ⟨_, _, read⟩ := read_of_members taken held rfl
        exact path_passes read
      · exact passes member (List.mem_filter.mpr ⟨held, by simpa using named⟩)
  | list items =>
    rw [passes_list, besidesPath]
    cases items with
    | nil => simp
    | cons first rest =>
      obtain ⟨_, read, _⟩ := FirstFailure.bind_ok.mp read
      rw [List.forall_mem_cons, List.tail_cons, List.forall_mem_map]
      exact and_iff_right (path_passes read)
  | _ => simp [besidesPath]

/-- Where settings are read, what stands under `schema` passes if all passes besides the path. -/
theorem passes_schema_iff (read : decode dialect (.record members) = .ok settings) :
    (∀ member ∈ members, member.1 = some "schema" → dialect.passes member.2 = true) ↔
      ∀ member ∈ (members.filter (·.1 = some "schema")).flatMap (besidesPath ·.2),
        dialect.passes member.2 = true := by
  obtain ⟨_, taken, _⟩ := FirstFailure.bind_ok.mp read
  have schema {tree : Tree} (held : (some "schema", tree) ∈ members) :
      dialect.passes tree = true ↔
        ∀ member ∈ besidesPath tree, dialect.passes member.2 = true := by
    obtain ⟨_, _, read⟩ := read_of_members taken held rfl
    obtain ⟨_, read, _⟩ := FirstFailure.map_ok.mp read
    exact passes_iff_besidesPath read
  simp only [List.mem_flatMap, List.mem_filter, decide_eq_true_eq]
  constructor
  · rintro passes member ⟨⟨_, tree⟩, ⟨held, rfl⟩, among⟩
    exact (schema held).mp (passes _ held rfl) member among
  · rintro passes ⟨_, tree⟩ held rfl
    exact (schema held).mpr fun member among => passes member ⟨_, ⟨held, rfl⟩, among⟩

/-- Each passes over the path of the other: what a document is read from is the same. -/
theorem DifferInPath.decode_ok_iff (differ : DifferInPath members members')
    (read : decode dialect (.record members) = .ok settings)
    (read' : decode dialect (.record members') = .ok settings') (document : Document) :
    Document.decode dialect (.record members) = .ok document ↔
      Document.decode dialect (.record members') = .ok document := by
  have without (members : List (Characters × Tree)) :
      Document.decode dialect (.record members) = .ok document ↔
        (∀ member ∈ members, member.1 = some "schema" → dialect.passes member.2 = true) ∧
          Document.decode dialect (.record (members.filter (·.1 ≠ some "schema"))) =
            .ok document :=
    record_ok_without rfl
  rw [without members, without members', passes_schema_iff read, passes_schema_iff read',
    differ.schema, differ.others]

/-- Files that hold such settings hold the same document, or none. -/
theorem TextsDifferInPath.ofText_eq {text text' : String} (differ : TextsDifferInPath text text')
    (format : Format) : (Document.ofText format text).mapError Schema.LoadError.message =
      (Document.ofText format text').mapError Schema.LoadError.message := by
  obtain ⟨members, members', settings, settings', differ, tree, tree', read, read'⟩ := differ
  cases format with
  | json =>
    obtain ⟨fault, refused⟩ := Document.ofText_json_of_toml tree
    obtain ⟨fault', refused'⟩ := Document.ofText_json_of_toml tree'
    rw [refused, refused']
    rfl
  | toml =>
    have decoded := FirstFailure.mapError_ok.mp read
    have decoded' := FirstFailure.mapError_ok.mp read'
    rw [Toml.decode, tree] at decoded
    rw [Toml.decode, tree'] at decoded'
    have same := differ.decode_ok_iff decoded decoded'
    simp only [Document.ofText, Toml.decode, tree, tree']
    cases taken : Document.decode Toml.dialect (.record members) with
    | ok document => rw [(same document).mp taken]
    | error fault =>
      cases taken' : Document.decode Toml.dialect (.record members') with
      | ok document => cases taken.symm.trans ((same document).mpr taken')
      | error fault' => rfl

end Settings

/-- Files that agree on a path: it leads to the same entry in both, or to settings that differ in
the path of the schema alone. -/
def Files.AgreeOn (files files' : Files) (path : String) : Prop :=
  files.find path = files'.find path ∨
    ∃ entry entry' text text', files.find path = .ok entry ∧ files'.find path = .ok entry' ∧
      entry.text = .ok text ∧ entry'.text = .ok text' ∧ Settings.TextsDifferInPath text text'

/-- The same schema is loaded from texts that hold the same document, and of others the same is
told. -/
theorem Schema.ofText_of_document {format : Format} {text text' : String}
    (same : (Document.ofText format text).mapError Schema.LoadError.message =
      (Document.ofText format text').mapError Schema.LoadError.message) (id : Star.StarId) :
    (Schema.ofText id format text).mapError Schema.LoadError.message =
      (Schema.ofText id format text').mapError Schema.LoadError.message := by
  have read (text : String) : (Schema.ofText id format text).mapError Schema.LoadError.message =
      (Document.ofText format text).mapError Schema.LoadError.message >>= fun document =>
        ((Schema.build id document).mapError LoadError.invalid).mapError LoadError.message := by
    unfold Schema.ofText
    cases Document.ofText format text <;> rfl
  rw [read, read, same]

/-- The same schema is loaded from files that agree on its path, or the same error is told. -/
theorem Files.AgreeOn.load_eq {files files' : Files} {path : String}
    (agree : files.AgreeOn files' path) (id : Star.StarId) :
    (Schema.load files path id).mapError Schema.LoadError.message =
      (Schema.load files' path id).mapError Schema.LoadError.message := by
  rcases agree with same | ⟨entry, entry', text, text', found, found', held, held', differ⟩
  · rw [Schema.load, Schema.load, same]
  · rw [Schema.load, Schema.load, found, found']
    simp only [Schema.ofEntry, held, held']
    cases Format.ofPath path with
    | error cause => rfl
    | ok format => exact Schema.ofText_of_document (differ.ofText_eq format) id

end StarReport
