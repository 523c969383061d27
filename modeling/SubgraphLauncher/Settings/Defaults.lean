import SubgraphLauncher.Partner.Notice
import SubgraphLauncher.Partner.Probe
import SubgraphLauncher.Settings.Basic

/-!
# What the settings stand in for

A partner is made from what its caller gives. Whatever is left out comes from the settings, and may
be missing there as well, since an overrides file can take a value away. A missing number is noticed
where it is needed; a missing address or list is noticed at once.
-/

namespace SubgraphLauncher

/-- A number that is given, or else the one of a setting. -/
def Settings.numberOr (settings : Settings) (setting : Setting) (given : Option Float) :
    Option Float :=
  match given with
  | some number => some number
  | none => settings.number? setting

/-- The plan of a scanner. An empty list of paths counts as left out. -/
def ProbePlan.ofSettings (settings : Settings) (timeout : Option Float) (paths : Value)
    (budget : Option Float) : Except (Failure Float) (ProbePlan Float) :=
  let chosen := if paths.isPresent then paths else settings.value .probePaths
  match chosen.items with
  | .error fault => .error fault.failure
  | .ok items =>
    .ok ⟨settings.numberOr .probeTimeout timeout, items, settings.numberOr .scanBudget budget⟩

/-- The target of notices. An empty base counts as left out. -/
def NoticeTarget.ofSettings (settings : Settings) (base : Option String) (timeout : Option Float) :
    Except (Failure Float) (NoticeTarget Float) :=
  let given := base.filter fun url => !url.isEmpty
  match given.orElse fun _ => settings.text? .notifyUrl with
  | some url => .ok ⟨withoutSlashes url, settings.numberOr .notifyTimeout timeout⟩
  | none => .error (.missingAttribute "NoneType" "rstrip")

end SubgraphLauncher
