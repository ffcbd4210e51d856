import StarReport.Proofs.Document.Written
import StarReport.Proofs.Report.Membership
import StarReport.Proofs.Schema.Coherence
import StarReport.Proofs.Schema.Freshness

/-!
One schema in two formats. The texts of a document in JSON and in TOML load as what is built from
the document, or fail as building does. The two stars differ in their identities alone, so that a
request made of either comes to the same report.
-/

set_option autoImplicit false
set_option relaxedAutoImplicit false

namespace StarReport.Schema

open Report (Options Request)
open StarReport.Star (StarId)

variable {document : Document} {json toml : String}

/-- A text that is decoded to a document loads as what the document builds. -/
theorem ofText_of_decoded {format : Format} {text : String}
    (decoded : Document.ofText format text = .ok document) (id : StarId) :
    ofText id format text = (build id document).mapError .invalid := by
  rw [ofText, decoded]
  rfl

/-- The loads of one document under two identities are one schema under either. -/
theorem loaded_under (document : Document) (id id' : StarId) :
    ((build id document).mapError LoadError.invalid).map (·.under id') =
      (build id' document).mapError .invalid := by
  rw [← build_under document id id']
  cases build id document <;> rfl

/-- A star that was built answers a request as the same star under another identity does. -/
theorem bind_under {id : StarId} {schema : Schema} (built : build id document = .ok schema)
    (id' : StarId) (request : Request) (options : Options) :
    request.bind schema.star options = request.bind (schema.under id').star options := by
  have owns := (coherent_of_build built).2.reached.owns
  exact (Report.bind_copy id' owns request options).symm

/-- A document loads from its texts in either format as what is built from it: with the same error,
or as one schema whose star has the identity asked for. Every request comes to the same statement or
the same error on both stars. The texts that the document is written as are such texts. -/
theorem formats_agree (spelled : document.star.Spelled) :
    document.Texts (Json.write document.encode) document.toml ∧
    ∀ json toml, document.Texts json toml →
      (∀ id, ofText id .json json = (build id document).mapError .invalid ∧
        ofText id .toml toml = (build id document).mapError .invalid) ∧
      ∀ id id', (ofText id .json json).map (·.under id') = ofText id' .toml toml ∧
        ∀ schema schema', ofText id .json json = .ok schema →
          ofText id' .toml toml = .ok schema' → ∀ request options,
            Request.bind request schema.star options =
              Request.bind request schema'.star options := by
  refine ⟨document.texts_written, fun json toml texts => ?_⟩
  obtain ⟨fromJson, fromToml⟩ := texts.decoded spelled
  have loadsJson := ofText_of_decoded fromJson
  have loadsToml := ofText_of_decoded fromToml
  refine ⟨fun id => ⟨loadsJson id, loadsToml id⟩, fun id id' => ?_⟩
  have same : (ofText id .json json).map (·.under id') = ofText id' .toml toml := by
    rw [loadsJson id, loadsToml id', loaded_under]
  refine ⟨same, fun schema schema' loaded loaded' request options => ?_⟩
  have built : build id document = .ok schema :=
    FirstFailure.mapError_ok.mp ((loadsJson id).symm.trans loaded)
  rw [loaded, loaded'] at same
  obtain rfl := Except.ok.inj same
  exact bind_under built id' request options

/-- A document whose texts need escapes, with no primary key in one table and an empty one in
another. -/
private def escaped : Document :=
  ⟨"Star \"DB\"\\\x00\x07",
    [⟨"Fact\nSales\t", none, [⟨"Geschäft\r", ""⟩]⟩, ⟨"", some "", []⟩],
    ⟨"Fact\nSales\t", [⟨"'\x7f'", "", "\u2028😀"⟩], [⟨"Fact\nSales\t", "]]"⟩],
      [⟨"\"\"\"", .other "median", "Fact\nSales\t", "#"⟩]⟩⟩

private def escapedSchema : Schema :=
  let key : Warehouse.TableKey := ⟨some "Star \"DB\"\\\x00\x07", "Fact\nSales\t", none⟩
  let facts : Warehouse.Table := ⟨key, [⟨key, "Geschäft\r", "", some ""⟩]⟩
  let shops : Warehouse.Table := ⟨⟨some "Star \"DB\"\\\x00\x07", "", some ""⟩, []⟩
  ⟨⟨"Star \"DB\"\\\x00\x07", [facts, shops]⟩, ⟨0⟩, facts,
    [⟨"'\x7f'", shops, "\u2028😀", some ⟨0⟩⟩], [⟨facts, "]]", some ⟨0⟩⟩],
    [⟨"\"\"\"", ⟨facts, "#", some ⟨0⟩⟩, .other "median"⟩]⟩

private theorem build_escaped : build ⟨0⟩ escaped = .ok escapedSchema := by rfl

theorem formats_agree_escaped : escaped.star.Spelled ∧
    ofText ⟨0⟩ .json (Json.write escaped.encode) = .ok escapedSchema ∧
    ofText ⟨1⟩ .toml escaped.toml = .ok (escapedSchema.under ⟨1⟩) := by
  have spelled : escaped.star.Spelled := by
    intro measure mem
    obtain rfl := List.mem_singleton.mp mem
    exact ⟨"median", rfl⟩
  obtain ⟨texts, agree⟩ := formats_agree spelled
  obtain ⟨loads, same⟩ := agree _ _ texts
  have json : ofText ⟨0⟩ .json (Json.write escaped.encode) = .ok escapedSchema := by
    rw [(loads ⟨0⟩).1, build_escaped]
    rfl
  refine ⟨spelled, json, ?_⟩
  rw [← (same ⟨0⟩ ⟨1⟩).1, json]
  rfl

end StarReport.Schema
