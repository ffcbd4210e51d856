import Mathlib.Data.List.Nodup
import StarReport.Proofs.Warehouse.Database

/-!
Declarations on one table. A foreign key declares a column and a target, and records as its source
the table with the primary key of that moment. Moving the table renews every source, while giving it
a primary key leaves them as they are, so a declaration that comes again is recognised exactly where
the recorded primary key is the one that the table has now.
-/

set_option autoImplicit false
set_option relaxedAutoImplicit false

namespace StarReport.Warehouse

/-- What a foreign key says beside where it starts. -/
structure Declaration where
  column : String
  targetName : String
  targetPrimaryKey : Option String
deriving DecidableEq

def Declaration.of (column : String) (target : Table) : Declaration :=
  ⟨column, target.name, target.primaryKey⟩

def ForeignKey.declaration (edge : ForeignKey) : Declaration :=
  ⟨edge.column, edge.targetName, edge.targetPrimaryKey⟩

/-- The foreign key that says so and starts at the table of the given key. -/
def Declaration.edge (key : TableKey) (declaration : Declaration) : ForeignKey :=
  ⟨key, declaration.column, declaration.targetName, declaration.targetPrimaryKey⟩

theorem Declaration.edge_injective (key : TableKey) : Function.Injective (edge key) := by
  rintro ⟨column, aim, aimKey⟩ ⟨column', aim', aimKey'⟩ same
  simpa [edge] using same

namespace Table

variable {table target : Table} {column : String}

def declarations (table : Table) : List Declaration :=
  table.foreignKeys.map ForeignKey.declaration

/-- No column and target are declared by two foreign keys of the table. -/
def DistinctEdges (table : Table) : Prop := table.declarations.Nodup

instance (table : Table) : Decidable table.DistinctEdges :=
  inferInstanceAs (Decidable table.declarations.Nodup)

/-- Every foreign key starts at the table, up to the primary key that it recorded. -/
def Aligned (table : Table) : Prop :=
  ∀ edge ∈ table.foreignKeys, edge.source = { table.key with primaryKey := edge.source.primaryKey }

/-! ### Alignment -/

theorem aligned_named (name : String) (primaryKey : Option String) :
    (named name primaryKey).Aligned := by
  simp [Aligned, named]

theorem Aligned.withPrimaryKey (aligned : table.Aligned) (column : String) :
    (table.withPrimaryKey column).Aligned := aligned

theorem Aligned.addForeignKey (aligned : table.Aligned) (column : String) (target : Table) :
    (table.addForeignKey column target).Aligned := by
  intro edge member
  rcases mem_addForeignKey.mp member with held | rfl
  · exact aligned edge held
  · rfl

theorem aligned_attach (table : Table) (database : Option String) :
    (table.attach database).Aligned := by
  intro edge member
  obtain ⟨old, _, rfl⟩ := List.mem_map.mp member
  rfl

/-- A foreign key is determined by what it declares and the primary key that it recorded. -/
theorem Aligned.edge_eq (aligned : table.Aligned) {edge : ForeignKey}
    (held : edge ∈ table.foreignKeys) (same : edge.declaration = .of column target)
    (recorded : edge.source.primaryKey = table.primaryKey) :
    edge = table.edgeTo column target := by
  have source := aligned edge held
  rw [recorded] at source
  obtain ⟨origin, declared, aim, aimKey⟩ := edge
  obtain ⟨rfl, rfl, rfl⟩ := Declaration.mk.injEq .. ▸ same
  exact congrArg (ForeignKey.mk · _ _ _) source

/-! ### Declaring -/

theorem addForeignKey_eq_self (declared : table.edgeTo column target ∈ table.foreignKeys) :
    table.addForeignKey column target = table := by
  have present : id (table.edgeTo column target) ∈ table.foreignKeys.map id := by simpa using declared
  rw [addForeignKey, Distinct.insert_of_mem present]

theorem declarations_addForeignKey (fresh : table.edgeTo column target ∉ table.foreignKeys) :
    (table.addForeignKey column target).declarations = table.declarations ++ [.of column target] := by
  have absent : id (table.edgeTo column target) ∉ table.foreignKeys.map id := by simpa using fresh
  simp only [declarations, addForeignKey, Distinct.insert_of_not_mem absent, List.map_append]
  rfl

/-- A further declaration keeps the declarations distinct exactly where those that are equal to it
recorded the primary key that the table has now. -/
theorem distinctEdges_addForeignKey (aligned : table.Aligned) (column : String) (target : Table) :
    (table.addForeignKey column target).DistinctEdges ↔
      table.DistinctEdges ∧ ∀ edge ∈ table.foreignKeys, edge.declaration = .of column target →
        edge.source.primaryKey = table.primaryKey := by
  by_cases declared : table.edgeTo column target ∈ table.foreignKeys
  · rw [addForeignKey_eq_self declared]
    refine ⟨fun distinct => ⟨distinct, fun edge held same => ?_⟩, And.left⟩
    rw [List.inj_on_of_nodup_map distinct held declared same]
    rfl
  · rw [DistinctEdges, declarations_addForeignKey declared, ← List.concat_eq_append,
      List.nodup_concat]
    refine ⟨fun ⟨fresh, distinct⟩ => ⟨distinct, fun edge held same => ?_⟩,
      fun ⟨distinct, recorded⟩ => ⟨fun present => ?_, distinct⟩⟩
    · exact absurd (List.mem_map.mpr ⟨edge, held, same⟩) fresh
    · obtain ⟨edge, held, same⟩ := List.mem_map.mp present
      exact declared (aligned.edge_eq held same (recorded edge held same) ▸ held)

/-! ### Moving -/

@[simp] theorem declarations_attach (table : Table) (database : Option String) :
    (table.attach database).declarations = table.declarations := by
  simp only [declarations, attach, List.map_map]
  rfl

theorem distinctEdges_attach (table : Table) (database : Option String) :
    (table.attach database).DistinctEdges ↔ table.DistinctEdges := by
  rw [DistinctEdges, declarations_attach, DistinctEdges]

/-- Once the sources are renewed, two foreign keys that declare the same are equal. -/
theorem nodup_attach (table : Table) (database : Option String) :
    (table.attach database).foreignKeys.Nodup ↔ table.DistinctEdges := by
  have renewed : (table.attach database).foreignKeys =
      table.declarations.map (Declaration.edge { table.key with database := database }) := by
    simp only [declarations, attach, List.map_map]
    rfl
  rw [renewed, List.nodup_map_iff (Declaration.edge_injective _), DistinctEdges]

end Table

end StarReport.Warehouse
