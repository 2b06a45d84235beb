import PinballScout.Checks.Fixture

/-!
# Checks of the snapshot store

The answers of the small league's snapshot store.
-/

namespace PinballScout.Checks.Memory

/-- The roster of a team key in a store, when the store resolves it. -/
def rosterOf (store : Store) (key : String) : Option Cohort :=
  match store.teamCohort key with
  | .ok (some team) => some (Cohort.roster team)
  | _ => none

/-- TTT's machines, most games first. -/
def machinesByGames : Check := fun _ =>
  (rosterOf smallStore "TTT").any fun cohort =>
    (answered (smallStore.machineStats cohort none 2)).any fun stats =>
      stats.map (·.machineKey) == ["TAF", "MM", "TZ"] &&
        (stats[0]?.map fun s => (s.stat, s.likelyPlayers)) ==
          some (⟨3, 400, 500⟩, [⟨"Bob", 2, 350⟩, ⟨"Alice", 1, 500⟩]) &&
        (stats[1]?.map (·.stat)) == some ⟨1, 600, 600⟩ && (stats[2]?.map (·.stat)) == some ⟨1, 100, 100⟩

/-- Players of an older season are not in the cohort. -/
def oldSeasonExcluded : Check := fun _ => (rosterOf smallStore "TTT").any fun cohort => !cohort.contains "Zed"

/-- The venue filter goes by where the games were played. -/
def venueFilter : Check := fun _ =>
  (rosterOf smallStore "TTT").any fun cohort =>
    (answered (smallStore.machineStats cohort (some "GPA") 2)).any (·.isEmpty)

/-- The baseline counts the current rosters only. -/
def currentBaseline : Check := fun _ =>
  (answered (smallStore.leagueBaseline .p50)).any fun p50 =>
    p50.lookup "TAF" == some 300 && p50.lookup "TZ" == some 100 && p50.lookup "MM" == some 600

/-- Player aggregates on one machine, best median first. -/
def playersOnMachine : Check := fun _ =>
  (rosterOf smallStore "TTT").any fun cohort =>
    agree (smallStore.playerStats cohort "TAF" none) (.ok [⟨"Alice", ⟨1, 500, 500⟩⟩, ⟨"Bob", ⟨2, 350, 400⟩⟩])

/-- An unknown machine has no player aggregates. -/
def unknownMachine : Check := fun _ =>
  (rosterOf smallStore "TTT").any fun cohort =>
    (answered (smallStore.playerStats cohort "NOPE" none)).any (·.isEmpty)

/-- A player is known by a roster row or a score. -/
def playerKnown : Check := fun _ =>
  answered (smallStore.playerKnown "Alice") == some true && answered (smallStore.playerKnown "Zed") == some true &&
    answered (smallStore.playerKnown "Nobody") == some false

end PinballScout.Checks.Memory
