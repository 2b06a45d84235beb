import PinballScout.Checks.Basic
import PinballScout.Analysis.Summary

/-!
# Checks of machine rows and summaries

Machine names, strength summaries, rows without a baseline and the flags of venue mode.
-/

namespace PinballScout.Checks.Summary

/-- A machine row named by its key, with its games and relative strength. -/
def row (key : String) (games : Nat) (rel : Float) : MachineReport :=
  ⟨key, key, games, 0, 0, none, rel, [], false⟩

/-- A machine without a name is called by its key. -/
def nameFallsBack : Check := fun _ =>
  let names := [("TAF", "The Addams Family")]
  machineName names "TAF" == "The Addams Family" && machineName names "XYZ" == "XYZ"

/-- Machines with too few games are left out. -/
def thinMachines : Check := fun _ =>
  summarize [row "A" 2 90.0, row "B" 3 10.0, row "C" 5 (-5.0)] AnalysisConfig.default == ⟨["B", "C"], []⟩

/-- The weakest are named only when more machines qualify than the strongest can hold. -/
def weakestWhenMore : Check := fun _ =>
  summarize [row "A" 3 40.0, row "B" 3 30.0, row "C" 3 20.0, row "D" 3 (-10.0)] AnalysisConfig.default ==
    ⟨["A", "B", "C"], ["D", "C", "B"]⟩

/-- Ties keep their order. -/
def stableTies : Check := fun _ =>
  (summarize [row "X" 4 0.0, row "Y" 4 0.0, row "Z" 4 0.0] AnalysisConfig.default).strongest == ["X", "Y", "Z"]

/-- Without a baseline the relative strength is zero. -/
def noBaseline : Check := fun _ =>
  match enrich [⟨"NEW", ⟨1, 100, 100⟩, []⟩] [] [] with
  | [r] => r.leagueP50 == none && r.relativeStrength == 0.0 && r.machineName == "NEW"
  | _ => false

/-- Global rows of machines without venue rows are flagged. -/
def flagsMissing : Check := fun _ =>
  (markNoVenueData [row "TAF" 3 0.0, row "TZ" 1 0.0] [row "TAF" 1 0.0]).map (·.noVenueData) == [false, true]

end PinballScout.Checks.Summary
