import SubgraphLauncher.Host.Files

/-!
# The environment

A variable counts with its first value. A reader of environment files may add variables behind those
of the environment, which has the last word: its variables are neither replaced nor hidden. What
such a file looks like and where it is found is the reader's business.
-/

namespace SubgraphLauncher

namespace Environment

abbrev Variables : Type := List (String × String)

def get? (environment : Variables) (name : String) : Option String :=
  (environment.find? fun entry => entry.1 == name).map (·.2)

/-- What reads environment files: the variables that they add to an environment, or the failure by
which the reading ends. -/
abbrev Reader : Type := Variables → FileTree → Except (Failure Float) Variables

end Environment

/-- What settings are loaded from. -/
structure Surroundings where
  environment : Environment.Variables
  /-- The home directory that the host has on record for the user. -/
  recordedHome : Option String
  reader : Environment.Reader
  tree : FileTree

namespace Surroundings

/-- The variables that environment files add. -/
def added (surroundings : Surroundings) : Except (Failure Float) Environment.Variables :=
  surroundings.reader surroundings.environment surroundings.tree

/-- The variables of the environment, and behind them those that environment files add. -/
def known (surroundings : Surroundings) : Except (Failure Float) Environment.Variables :=
  surroundings.added.map (surroundings.environment ++ ·)

end Surroundings

end SubgraphLauncher
