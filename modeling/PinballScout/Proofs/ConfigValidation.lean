import PinballScout.Config.Read
import PinballScout.Proofs.Float.Order
import PinballScout.Proofs.Listings

/-! # Validating a configuration

A configuration must meet nine requirements, each about one field of its file: the three counts
are positive, the verdict margin is not negative, both thresholds are finite, the medium threshold
is positive and at most the high one, and the database path holds a character that is not blank.
`Config.validate` makes one check per requirement, in that order, and reports the first that fails.

A check need only agree with its requirement once the requirements before it hold (`Decides`). The
two comparisons of thresholds are written as rejections (`medium ≤ 0`, `high < medium`), which a
NaN never triggers; they are right only because the finiteness checks come first.

Main statement: `validate` accepts exactly the configurations that meet every requirement and
rejects any other with the field of the first requirement it misses, and a configuration read from
a file has analysis thresholds equal to the top-level ones, finite, with `0 < medium ≤ high`. -/

namespace PinballScout

/-- A list of checks decides a list of named requirements: each check names its requirement's
field, and passes exactly when the requirement holds, as long as the ones before it hold. -/
inductive Decides : List Check → List (String × Prop) → Prop
  | nil : Decides [] []
  | cons {ch : Check} {name : String} {P : Prop} {cs : List Check} {rs : List (String × Prop)} :
      ch.fault.field = name → (ch.passes = true ↔ P) → (P → Decides cs rs) →
      Decides (ch :: cs) ((name, P) :: rs)

namespace Decides

variable {cs : List Check} {rs : List (String × Prop)}

theorem find?_eq_none_iff (h : Decides cs rs) : cs.find? (!·.passes) = none ↔ ∀ r ∈ rs, r.2 := by
  induction h with
  | nil => simp
  | @cons ch name P cs rs _ hpass _ ih =>
    by_cases hP : P
    · simp [hpass.mpr hP, ih hP, hP]
    · -- the head fails, so the search stops there
      have hfail : ch.passes = false := Bool.eq_false_iff.mpr fun hc => hP (hpass.mp hc)
      simp [hfail, hP]

theorem exists_first_failing (h : Decides cs rs) {ch : Check} (hfind : cs.find? (!·.passes) = some ch) :
    ∃ pre P post, rs = pre ++ (ch.fault.field, P) :: post ∧ (∀ r ∈ pre, r.2) ∧ ¬P := by
  induction h with
  | nil => simp at hfind
  | @cons c name P cs rs hfield hpass _ ih =>
    cases hc : c.passes with
    | false =>
      have hch : c = ch := by simpa [List.find?_cons, hc] using hfind
      subst hch
      refine ⟨[], P, rs, by simp [hfield], by simp, fun hP => ?_⟩
      rw [hpass.mpr hP] at hc
      exact Bool.noConfusion hc
    | true =>
      -- the head passes, so its requirement holds and the search goes on in the tail
      have hP : P := hpass.mp hc
      obtain ⟨pre, Q, post, hrs, hpre, hQ⟩ := ih hP (by simpa [List.find?_cons, hc] using hfind)
      refine ⟨(name, P) :: pre, Q, post, by simp [hrs], ?_, hQ⟩
      intro r hr
      rcases List.mem_cons.mp hr with rfl | hr
      · exact hP
      · exact hpre r hr

end Decides

namespace Text

theorem trimBlank_isEmpty_iff {s : String} : (trimBlank s).isEmpty = true ↔ ∀ c ∈ s.toList, isBlank c = true := by
  refine ⟨fun h => ?_, fun h => by rw [trimBlank_eq_empty h]; rfl⟩
  have hnil : ((s.toList.dropWhile isBlank).reverse.dropWhile isBlank).reverse = [] := by
    simpa [trimBlank] using h
  -- what is left after the leading blanks is all blank, so nothing is left
  have hrest : ∀ c ∈ s.toList.dropWhile isBlank, isBlank c = true := by
    simpa using List.dropWhile_eq_nil_iff.mp (List.reverse_eq_nil_iff.mp hnil)
  have hdrop : s.toList.dropWhile isBlank = [] := by
    by_contra hne
    have := hrest _ (List.head_mem hne)
    rw [List.head_dropWhile_not isBlank hne] at this
    exact Bool.noConfusion this
  exact List.dropWhile_eq_nil_iff.mp hdrop

end Text

namespace Config

/-- The requirements of a valid configuration, in the order they are checked, each with the field
of the file it concerns. -/
def requirements (c : Config) : List (String × Prop) :=
  [("analysis.likely_players", 0 < c.analysis.likelyPlayers),
   ("analysis.min_games", 0 < c.analysis.minGames),
   ("analysis.summary_size", 0 < c.analysis.summarySize),
   ("analysis.verdict_margin", 0 ≤ c.analysis.verdictMargin),
   ("confidence.medium_games", c.confidence.medium.isFinite = true),
   ("confidence.high_games", c.confidence.high.isFinite = true),
   ("confidence.medium_games", 0.0 < c.confidence.medium),
   ("confidence.high_games", c.confidence.medium ≤ c.confidence.high),
   ("database.path", ∃ ch ∈ c.databasePath.toList, Text.isBlank ch = false)]

theorem count_passes (n : Nat) : (n != 0) = true ↔ 0 < n := by
  simp [Nat.pos_iff_ne_zero]

theorem path_passes (path : String) :
    (!(Text.trimBlank path).isEmpty) = true ↔ ∃ ch ∈ path.toList, Text.isBlank ch = false := by
  rw [Bool.not_eq_true', Bool.eq_false_iff, ne_eq, Text.trimBlank_isEmpty_iff]
  simp

/-- Each check decides its requirement once the earlier ones hold: the two comparisons of thresholds
need the finiteness established before them. -/
theorem checks_decide (c : Config) : Decides c.checks c.requirements := by
  refine .cons rfl (count_passes _) fun _ => .cons rfl (count_passes _) fun _ =>
    .cons rfl (count_passes _) fun _ => .cons rfl decide_eq_true_iff fun _ =>
    .cons rfl Iff.rfl fun hm => .cons rfl Iff.rfl fun hh => .cons rfl ?medium fun _ =>
    .cons rfl ?high fun _ => .cons rfl ?path fun _ => .nil
  case medium =>
    rw [Bool.not_eq_true', decide_eq_false_iff_not,
      Float.not_le_iff_lt (Float.isNaN_eq_false_of_isFinite hm) rfl]
  case high =>
    rw [Bool.not_eq_true', decide_eq_false_iff_not,
      ← Float.not_le_iff_lt (Float.isNaN_eq_false_of_isFinite hm) (Float.isNaN_eq_false_of_isFinite hh), not_not]
  case path => exact path_passes c.databasePath

theorem validate_eq_ok_iff (c : Config) : c.validate = .ok () ↔ ∀ r ∈ c.requirements, r.2 := by
  rw [← (checks_decide c).find?_eq_none_iff, validate]
  split <;> simp_all

theorem exists_first_failing_of_validate {c : Config} {i : Invalid} (h : c.validate = .error i) :
    ∃ pre P post, c.requirements = pre ++ (i.field, P) :: post ∧ (∀ r ∈ pre, r.2) ∧ ¬P := by
  rw [validate] at h
  split at h
  · next ch hfind =>
    cases h
    exact (checks_decide c).exists_first_failing hfind
  · cases h

/-- Reading a file copies the top-level thresholds into the analysis tunables and validates. -/
theorem parse_eq_ok {path text : String} {decode : Toml.Decoder} {c : Config} (h : parse path text decode = .ok c) :
    c.analysis.confidence = c.confidence ∧ c.validate = .ok () := by
  simp only [parse, bind, Except.bind, Except.mapError, pure, Except.pure] at h
  split at h
  · cases h
  · split at h
    · cases h
    · split at h
      · cases h
      · next hv =>
        cases h
        exact ⟨rfl, by cases hv' : Config.validate _ <;> simp_all⟩

end Config

/-- Validation accepts a configuration exactly when it meets every requirement, and otherwise names
the field of the first requirement it misses, in the order likely players, minimum games, summary
size, verdict margin, medium finite, high finite, medium positive, high at least medium, database
path. A configuration read from a file, by any TOML decoder, has its analysis thresholds equal to the
top-level ones, finite, with `0 < medium ≤ high`. -/
theorem validation_requirements (c : Config) :
    (c.validate = .ok () ↔ ∀ r ∈ c.requirements, r.2) ∧
    (∀ i, c.validate = .error i →
      ∃ pre P post, c.requirements = pre ++ (i.field, P) :: post ∧ (∀ r ∈ pre, r.2) ∧ ¬P) ∧
    (∀ decode path content, Config.load path content decode = .ok c →
      c.analysis.confidence = c.confidence ∧ c.confidence.medium.isFinite = true ∧
        c.confidence.high.isFinite = true ∧ 0.0 < c.confidence.medium ∧
        c.confidence.medium ≤ c.confidence.high) := by
  refine ⟨Config.validate_eq_ok_iff c, fun i h => Config.exists_first_failing_of_validate h, ?_⟩
  intro decode path content hload
  cases content with
  | none => cases hload
  | some text =>
    obtain ⟨hshare, hvalid⟩ := Config.parse_eq_ok hload
    -- the four threshold requirements stand fifth to eighth
    have hreq := (Config.validate_eq_ok_iff c).mp hvalid
    simp only [Config.requirements, List.mem_cons, List.not_mem_nil, or_false, forall_eq_or_imp,
      forall_eq] at hreq
    exact ⟨hshare, hreq.2.2.2.2.1, hreq.2.2.2.2.2.1, hreq.2.2.2.2.2.2.1, hreq.2.2.2.2.2.2.2.1⟩

/-- An empty file gives the defaults, which share and order their thresholds; a configuration with
no likely players and a blank path is rejected for the likely players, the first requirement. -/
theorem validation_requirements_samples :
    (Config.load "mnp.toml" (some "") = .ok Config.default.shareThresholds ∧
      Config.default.shareThresholds.analysis.confidence = Config.default.shareThresholds.confidence ∧
      Config.default.shareThresholds.confidence.medium.isFinite = true ∧
      Config.default.shareThresholds.confidence.high.isFinite = true ∧
      0.0 < Config.default.shareThresholds.confidence.medium ∧
      Config.default.shareThresholds.confidence.medium ≤ Config.default.shareThresholds.confidence.high) ∧
    (({ Config.default with analysis.likelyPlayers := 0, databasePath := " " } : Config).validate =
        .error (.zeroCount "analysis.likely_players") ∧
      ∃ pre P post, ({ Config.default with analysis.likelyPlayers := 0, databasePath := " " } : Config).requirements =
        pre ++ ("analysis.likely_players", P) :: post ∧ (∀ r ∈ pre, r.2) ∧ ¬P) := by
  have hload : Config.load "mnp.toml" (some "") = .ok Config.default.shareThresholds := rfl
  have hfail : ({ Config.default with analysis.likelyPlayers := 0, databasePath := " " } : Config).validate =
      .error (.zeroCount "analysis.likely_players") := rfl
  exact ⟨⟨hload, (validation_requirements _).2.2 Toml.parse _ _ hload⟩,
    hfail, (validation_requirements _).2.1 _ hfail⟩

end PinballScout
