/-!
Quoted identifiers: a name between double quotes, with every quote inside it written twice. Whether
the names of tables and columns are quoted depends on how the target database treats their case.
-/

set_option autoImplicit false
set_option relaxedAutoImplicit false

namespace StarReport.Sql.Quoted

/-- The quotes of a name doubled. -/
def double : List Char → List Char
  | [] => []
  | c :: rest => if c = '"' then '"' :: '"' :: double rest else c :: double rest

def quote (name : String) : String :=
  String.ofList ('"' :: (double name.toList ++ ['"']))

/-- A name as it is written where case matters or does not. -/
def write (caseSensitive : Bool) (name : String) : String :=
  if caseSensitive then quote name else name

end StarReport.Sql.Quoted
