import SubgraphLauncher.Text.Upper

/-!
# Levels of records

Levels are numbers, some of which have names. A name is looked up in upper case, and one that is not
known stands for the level of information.
-/

namespace SubgraphLauncher.Journal

/-- The names by which a level can be asked for. -/
def namedLevels : List (String × Int) :=
  [("CRITICAL", 50), ("FATAL", 50), ("ERROR", 40), ("WARN", 30), ("WARNING", 30), ("INFO", 20),
   ("DEBUG", 10), ("NOTSET", 0)]

def levelOfName (name : String) : Int :=
  let upper := String.ofList (Text.upper name.toList)
  ((namedLevels.find? fun entry => entry.1 == upper).map (·.2)).getD 20

/-- The name of a level in records. -/
def levelName (level : Int) : String :=
  if level = 50 then "CRITICAL"
  else if level = 40 then "ERROR"
  else if level = 30 then "WARNING"
  else if level = 20 then "INFO"
  else if level = 10 then "DEBUG"
  else if level = 0 then "NOTSET"
  else "Level " ++ toString level

end SubgraphLauncher.Journal
