import StarReport.Proofs.Schema.Coherence
import StarReport.Schema.Load

/-!
Loading from files. A schema is loaded just where the file at its path is a readable text that holds
a document which builds the schema, so that the star of every loaded schema owns its members.
-/

set_option autoImplicit false
set_option relaxedAutoImplicit false

namespace StarReport

open StarReport.Star (StarId)

theorem Files.Entry.text_toUTF8 (text : String) (modified : Int) :
    (Files.Entry.file text.toUTF8 modified).text = .ok text := by
  have read : String.fromUTF8? text.toUTF8 = some text := dif_pos text.isValidUTF8
  rw [Files.Entry.text, read]

/-- The file at a path holds the document, in the format that the extension of the path names. -/
def Document.InFile (document : Document) (files : Files) (path : String) : Prop :=
  ∃ entry format text, files.find path = .ok entry ∧ Format.ofPath path = .ok format ∧
    entry.text = .ok text ∧ Document.ofText format text = .ok document

namespace Schema

theorem ofEntry_eq_ok {id : StarId} {path : String} {entry : Files.Entry} {schema : Schema} :
    ofEntry id path entry = .ok schema ↔ ∃ format text document, Format.ofPath path = .ok format ∧
      entry.text = .ok text ∧ Document.ofText format text = .ok document ∧
        build id document = .ok schema := by
  simp only [ofEntry, ofText, FirstFailure.bind_ok, FirstFailure.mapError_ok]
  constructor
  · rintro ⟨format, named, text, held, document, decoded, built⟩
    exact ⟨format, text, document, named, held, decoded, built⟩
  · rintro ⟨format, text, document, named, held, decoded, built⟩
    exact ⟨format, named, text, held, document, decoded, built⟩

/-- A schema is loaded where the file holds a document that builds it. -/
theorem load_eq_ok {files : Files} {path : String} {id : StarId} {schema : Schema} :
    load files path id = .ok schema ↔
      ∃ document : Document, document.InFile files path ∧ build id document = .ok schema := by
  unfold load
  cases found : files.find path with
  | error obstacle =>
    constructor
    · intro absurdity
      cases absurdity
    · rintro ⟨document, ⟨entry, _, _, leads, _⟩, _⟩
      cases found.symm.trans leads
  | ok entry =>
    refine ofEntry_eq_ok.trans ⟨?_, ?_⟩
    · rintro ⟨format, text, document, named, held, decoded, built⟩
      exact ⟨document, ⟨entry, format, text, found, named, held, decoded⟩, built⟩
    · rintro ⟨document, ⟨entry', format, text, leads, named, held, decoded⟩, built⟩
      obtain rfl := Except.ok.inj (found.symm.trans leads)
      exact ⟨format, text, document, named, held, decoded, built⟩

/-- Every schema that is loaded has a star that owns its members. -/
theorem owns_of_ofEntry {id : StarId} {path : String} {entry : Files.Entry} {schema : Schema}
    (loaded : ofEntry id path entry = .ok schema) : schema.star.Owns := by
  obtain ⟨_, _, _, _, _, _, built⟩ := ofEntry_eq_ok.mp loaded
  exact (coherent_of_build built).2.reached.owns

theorem owns_of_load {files : Files} {path : String} {id : StarId} {schema : Schema}
    (loaded : load files path id = .ok schema) : schema.star.Owns := by
  obtain ⟨_, _, built⟩ := load_eq_ok.mp loaded
  exact (coherent_of_build built).2.reached.owns

end Schema

end StarReport
