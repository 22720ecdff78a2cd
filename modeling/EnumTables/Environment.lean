/-!
# Environment variables
-/

namespace EnumTables

/-- The environment variables of a run. -/
abbrev Environment := List (String × String)

/-- The value of a variable, or what counts when it is not set. -/
def Environment.get (env : Environment) (name default : String) : String :=
  (env.lookup name).getD default

end EnumTables
