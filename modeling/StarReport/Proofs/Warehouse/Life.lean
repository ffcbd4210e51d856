import Mathlib.Data.List.Induction
import StarReport.Proofs.Warehouse.Declaration

/-!
The life of a table: what was done to it since it was made, one event after the other. Whatever the
order of the operations on tables and databases, each table that comes out has a life, and its life
alone decides whether its declarations are distinct: they are unless a declaration came again after
the table had changed its primary key and before it moved.
-/

set_option autoImplicit false
set_option relaxedAutoImplicit false

namespace StarReport.Warehouse

inductive Event where
  | identify (column : String)
  | declare (column : String) (target : Table)
  | move (database : Option String)
deriving DecidableEq

namespace Event

def apply (table : Table) : Event → Table
  | identify column => table.withPrimaryKey column
  | declare column target => table.addForeignKey column target
  | move database => table.attach database

/-- Whether the declaration comes again while the primary key it recorded is not the current one. -/
def clashes (declaration : Declaration) (recorded current : Option String) : List Event → Bool
  | [] => false
  | identify column :: rest => clashes declaration recorded (some column) rest
  | declare column target :: rest =>
    (.of column target = declaration && recorded ≠ current) ||
      clashes declaration recorded current rest
  | move _ :: rest => clashes declaration current current rest

/-- Whether no declaration clashes with what comes after it; `current` is the primary key before the
first event. -/
def settled (current : Option String) : List Event → Bool
  | [] => true
  | identify column :: rest => settled (some column) rest
  | declare column target :: rest =>
    !clashes (.of column target) current current rest && settled current rest
  | move _ :: rest => settled current rest

theorem clashes_declare {declaration : Declaration} {recorded current : Option String}
    {column : String} {target : Table} {rest : List Event} :
    clashes declaration recorded current (declare column target :: rest) = false ↔
      (declaration = .of column target → recorded = current) ∧
        clashes declaration recorded current rest = false := by
  rw [clashes, Bool.or_eq_false_iff, Bool.and_eq_false_imp, decide_eq_true_iff,
    decide_eq_false_iff_not, not_not, eq_comm]

end Event

open Event (settled clashes clashes_declare)

namespace Table

variable {table : Table}

def after (table : Table) (events : List Event) : Table := events.foldl Event.apply table

/-- The table of the given name after a life. -/
def live (name : String) (life : List Event) : Table := (named name none).after life

/-- Declaring what the table has already changes nothing, whenever in the life it happens. -/
def Quiet (name : String) (life : List Event) : Prop :=
  ∀ before column target rest, life = before ++ .declare column target :: rest →
    .of column target ∈ (live name before).declarations →
      (live name before).addForeignKey column target = live name before

theorem live_append (name : String) (life events : List Event) :
    live name (life ++ events) = (live name life).after events :=
  List.foldl_append

/-! ### What a life does to the declarations -/

theorem Aligned.apply (aligned : table.Aligned) (event : Event) : (event.apply table).Aligned := by
  cases event with
  | identify column => exact aligned.withPrimaryKey column
  | declare column target => exact aligned.addForeignKey column target
  | move database => exact aligned_attach table database

theorem Aligned.after (aligned : table.Aligned) (events : List Event) :
    (table.after events).Aligned := by
  induction events generalizing table with
  | nil => exact aligned
  | cons event rest ih => exact ih (aligned.apply event)

theorem aligned_live (name : String) (life : List Event) : (live name life).Aligned :=
  (aligned_named name none).after life

/-- Declarations stay distinct exactly where they are so at first, none of them clashes with an
event, and the events settle. -/
theorem distinctEdges_after (aligned : table.Aligned) (events : List Event) :
    (table.after events).DistinctEdges ↔ table.DistinctEdges ∧
      (∀ edge ∈ table.foreignKeys,
        clashes edge.declaration edge.source.primaryKey table.primaryKey events = false) ∧
      settled table.primaryKey events := by
  -- Forward over the events: every foreign key held so far is checked against all that is to come.
  induction events generalizing table with
  | nil => simp [after, clashes, settled]
  | cons event rest ih =>
    change ((event.apply table).after rest).DistinctEdges ↔ _
    rw [ih (aligned.apply event)]
    cases event with
    | identify column => rfl
    | move database =>
      -- Every foreign key records the primary key of the moved table.
      have renewed : (∀ edge ∈ (table.attach database).foreignKeys,
          clashes edge.declaration edge.source.primaryKey table.primaryKey rest = false) ↔
          ∀ edge ∈ table.foreignKeys,
            clashes edge.declaration table.primaryKey table.primaryKey rest = false :=
        List.forall_mem_map
      exact and_congr (distinctEdges_attach table database) (and_congr renewed Iff.rfl)
    | declare column target =>
      have declared : (∀ edge ∈ (table.addForeignKey column target).foreignKeys,
          clashes edge.declaration edge.source.primaryKey table.primaryKey rest = false) ↔
          (∀ edge ∈ table.foreignKeys,
            clashes edge.declaration edge.source.primaryKey table.primaryKey rest = false) ∧
          clashes (.of column target) table.primaryKey table.primaryKey rest = false := by
        simp only [mem_addForeignKey, or_imp, forall_and, forall_eq]
        rfl
      refine (and_congr (distinctEdges_addForeignKey aligned column target)
        (and_congr declared Iff.rfl)).trans ?_
      simp only [settled, Bool.and_eq_true, Bool.not_eq_true', clashes_declare]
      constructor
      · rintro ⟨⟨distinct, recorded⟩, ⟨clear, fresh⟩, settles⟩
        exact ⟨distinct, fun edge held => ⟨recorded edge held, clear edge held⟩, fresh, settles⟩
      · rintro ⟨distinct, clear, fresh, settles⟩
        exact ⟨⟨distinct, fun edge held => (clear edge held).1⟩,
          ⟨fun edge held => (clear edge held).2, fresh⟩, settles⟩

theorem distinctEdges_live (name : String) (life : List Event) :
    (live name life).DistinctEdges ↔ settled none life := by
  rw [live, distinctEdges_after (aligned_named name none)]
  simp [DistinctEdges, declarations, named, primaryKey]

/-- What was done before declares nothing twice if the whole life does not. -/
theorem distinctEdges_of_append {name : String} {life events : List Event}
    (distinct : (live name (life ++ events)).DistinctEdges) : (live name life).DistinctEdges := by
  rw [live_append] at distinct
  exact ((distinctEdges_after (aligned_live name life) events).mp distinct).1

/-! ### Declaring again -/

private theorem addForeignKey_of_distinct {target : Table} {column : String}
    (aligned : table.Aligned) (distinct : (table.addForeignKey column target).DistinctEdges)
    (present : .of column target ∈ table.declarations) :
    table.addForeignKey column target = table := by
  obtain ⟨edge, held, same⟩ := List.mem_map.mp present
  have recorded := ((distinctEdges_addForeignKey aligned column target).mp distinct).2 edge held same
  apply addForeignKey_eq_self
  exact aligned.edge_eq held same recorded ▸ held

private theorem Quiet.dropLast {name : String} {life : List Event} {event : Event}
    (quiet : Quiet name (life ++ [event])) : Quiet name life := by
  intro before column target rest split
  refine quiet before column target (rest ++ [event]) ?_
  rw [split, List.append_assoc, List.cons_append]

/-- A life is quiet exactly where it ends with distinct declarations. -/
theorem quiet_iff (name : String) (life : List Event) :
    Quiet name life ↔ (live name life).DistinctEdges := by
  constructor
  · intro quiet
    induction life using List.reverseRecOn with
    | nil => simp [live, after, DistinctEdges, declarations, named]
    | append_singleton before event ih =>
      have distinct := ih quiet.dropLast
      rw [live_append]
      cases event with
      | identify column => exact distinct
      | move database => exact (distinctEdges_attach _ database).mpr distinct
      | declare column target =>
        change ((live name before).addForeignKey column target).DistinctEdges
        by_cases present : .of column target ∈ (live name before).declarations
        · rwa [quiet before column target [] rfl present]
        · rw [distinctEdges_addForeignKey (aligned_live name before)]
          refine ⟨distinct, fun edge held same => ?_⟩
          exact absurd (List.mem_map.mpr ⟨edge, held, same⟩) present
  · rintro distinct before column target rest rfl present
    rw [List.append_cons] at distinct
    have step := distinctEdges_of_append distinct
    rw [live_append] at step
    exact addForeignKey_of_distinct (aligned_live name before) step present

end Table

end StarReport.Warehouse
