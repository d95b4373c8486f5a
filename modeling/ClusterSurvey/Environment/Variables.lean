/-!
# Environments

An environment gives texts to names.  A later entry takes the place of an earlier one of its name;
what is only defined keeps the entry that is there.
-/

namespace ClusterSurvey

/-- Names and their texts in the order in which they were set. -/
abbrev Environment := List (String × String)

namespace Environment

/-- The text of a name. -/
def get? (e : Environment) (name : String) : Option String :=
  (e.reverse.find? (·.1 = name)).map Prod.snd

/-- Gives a text to a name, whatever its text has been. -/
def set (e : Environment) (name value : String) : Environment := e ++ [(name, value)]

/-- Gives a text to a name that has none. -/
def define (e : Environment) (name value : String) : Environment :=
  if (e.get? name).isSome then e else e.set name value

end Environment

end ClusterSurvey
