import SecureExchange.Proofs.EventLog.Installation

/-!
# Levels by name

A level is given by name, as an argument or through the environment, in letters of either case.
The names of levels stand for their thresholds, and other names for the default one. Two names are
an exception (`thresholdOf_eq`): they stand for ways to write messages, are taken for levels all the
same, and break off the configuring when the handlers have been replaced already.
-/

namespace SecureExchange.EventLog

/-- The levels by name, with their thresholds. -/
def standardLevels : List (String × Nat) :=
  [("CRITICAL", 50), ("FATAL", 50), ("ERROR", 40), ("WARNING", 30), ("WARN", 30), ("INFO", 20),
    ("DEBUG", 10), ("NOTSET", 0)]

/-- The threshold of a level, or the default one if there is no level of the name. -/
def standardThreshold (name : String) : Nat := (standardLevels.lookup name).getD defaultThreshold

/-- Stands for the way to write messages. -/
def formatName : String := "BASIC_FORMAT"

/-- Stands for the table of ways to write messages. -/
def stylesName : String := "_STYLES"

/-- The name in capitals of the level that is given, or else found in the environment. An empty
text gives none. -/
def levelName (level : Option String) (env : Environment) : String :=
  capitals (((level.filter (!·.isEmpty)).or (OrderedMap.get? Environment.levelKey env)).getD "INFO")

/-- What logging is configured with when a handler is installed, each setting a text or none. -/
def Settings.installing (format level service : Option String) (force : Bool) : Settings :=
  ⟨.ofText? format, .ofText? level, service, force, true⟩

variable {name : String}

theorem standardThreshold_of_other (h : ∀ p ∈ standardLevels, name ≠ p.1) :
    standardThreshold name = defaultThreshold := by
  have hnone : standardLevels.lookup name = none := by
    rw [List.lookup_eq_none_iff]
    exact fun p hp ↦ by simpa using h p hp
  rw [standardThreshold, hnone, Option.getD_none]

theorem levelMeaning_eq (name : String) : levelMeaning name =
    if name = formatName then .text messageFormat
    else if name = stylesName then .other stylesShown
    else .threshold (standardThreshold name) := by
  unfold levelMeaning
  split
  case h_11 hnotset hdebug hinfo hwarn hwarning herror hfatal hcritical hformat hstyles =>
    have hother : ∀ p ∈ standardLevels, name ≠ p.1 := by
      simp only [standardLevels, List.forall_mem_cons, List.not_mem_nil, false_imp_iff,
        implies_true, and_true]
      exact ⟨hcritical, hfatal, herror, hwarning, hwarn, hinfo, hdebug, hnotset⟩
    have hplain : name ≠ formatName ∧ name ≠ stylesName := ⟨hformat, hstyles⟩
    rw [if_neg hplain.1, if_neg hplain.2, standardThreshold_of_other hother]
  all_goals rfl

theorem thresholdOf_eq (name : String) : thresholdOf name =
    if name = formatName then
      .error (.invalidValue ("Unknown level: " ++ Text.quoted messageFormat))
    else if name = stylesName then
      .error (.invalidType ("Level not an integer or a valid string: " ++ stylesShown))
    else .ok (standardThreshold name) := by
  rw [thresholdOf, levelMeaning_eq]
  by_cases hformat : name = formatName
  · simp only [if_pos hformat]
  · by_cases hstyles : name = stylesName
    · simp only [if_neg hformat, if_pos hstyles]
    · simp only [if_neg hformat, if_neg hstyles]

theorem chosen_ofText? (given : Option String) (key default : String) (env : Environment) :
    chosen (.ofText? given) key default env
      = .text (((given.filter (!·.isEmpty)).or (OrderedMap.get? key env)).getD default) := by
  cases given with
  | none => rfl
  | some s =>
      cases hempty : s.isEmpty with
      | true => simp [chosen, Datum.ofText?, Datum.isTrue, Option.filter, hempty]
      | false => simp [chosen, Datum.ofText?, Datum.isTrue, Option.filter, hempty]

namespace Logging

variable {l : Logging} {force : Bool}

theorem configure_installing (heffect : force = true ∨ l.isConfigured = false)
    (format level service : Option String) : ∃ f,
      l.configure (.installing format level service force)
        = l.install f (levelName level l.environment)
            (l.serviceFor (.installing format level service force)) := by
  have hgoesOn : (l.isConfigured && !force) = false := by
    rcases heffect with h | h <;> simp [h]
  let s := Settings.installing format level service force
  obtain ⟨f, hformat⟩ : ∃ f, l.formatFor s = .ok f := by
    simp only [formatFor, s, Settings.installing, chosen_ofText?, recased, Except.map]
    exact ⟨_, rfl⟩
  have hlevel : l.levelFor s = .ok (levelName level l.environment) := by
    simp only [levelFor, s, Settings.installing, chosen_ofText?, recased]
    rfl
  refine ⟨f, ?_⟩
  change l.configure s = _
  have hforce : (l.isConfigured && !s.force) = false := hgoesOn
  have hinstalls : s.installsHandler = true := rfl
  rw [configure, hforce, if_neg Bool.false_ne_true, hformat, hlevel]
  dsimp only
  rw [hinstalls, if_pos rfl]

/-- What configuring leaves when it breaks off at the level. -/
def brokenOff (l : Logging) (f : Format) : Logging :=
  { l with pipeline := .inHandlers, handlers := [.stream f] }

/-- Configuring that takes effect and installs a handler is completed with the threshold of the
level that is named, unless the name is one of the two that stand for ways to write messages. Then
it fails; the handlers have been replaced, but neither threshold nor service has been set. -/
theorem installing_sets_named_threshold_unless_format
    (heffect : force = true ∨ l.isConfigured = false) (format level service : Option String) :
    (levelName level l.environment ≠ formatName → levelName level l.environment ≠ stylesName →
      ∃ m, l.configure (.installing format level service force) = (.ok (), m) ∧
        m.isConfigured = true ∧
        m.threshold = standardThreshold (levelName level l.environment)) ∧
    (levelName level l.environment = formatName →
      ∃ f, l.configure (.installing format level service force)
        = (.error (.invalidValue ("Unknown level: " ++ Text.quoted messageFormat)),
          l.brokenOff f)) ∧
    (levelName level l.environment = stylesName →
      ∃ f, l.configure (.installing format level service force)
        = (.error (.invalidType ("Level not an integer or a valid string: " ++ stylesShown)),
          l.brokenOff f)) := by
  obtain ⟨f, hconfigure⟩ := configure_installing heffect format level service
  rw [hconfigure, install, thresholdOf_eq]
  refine ⟨fun hformat hstyles ↦ ?_, fun hformat ↦ ?_, fun hstyles ↦ ?_⟩
  · rw [if_neg hformat, if_neg hstyles]
    exact ⟨_, rfl, rfl, rfl⟩
  · rw [if_pos hformat]
    exact ⟨f, rfl⟩
  · have hother : stylesName ≠ formatName := by decide
    rw [hstyles, if_neg hother, if_pos rfl]
    exact ⟨f, rfl⟩

/-- A level is named in small letters, the name of a way to write messages stands in the
environment, and the table of such ways is named. -/
theorem installing_sets_named_threshold_of_fatal :
    (∃ m, (start []).configure (.installing none (some "fatal") none false) = (.ok (), m) ∧
      m.isConfigured = true ∧ m.threshold = 50) ∧
    (∃ f, (start [(Environment.levelKey, "basic_format")]).configure
        (.installing (some "json") (some "") none false)
      = (.error (.invalidValue ("Unknown level: " ++ Text.quoted messageFormat)),
        (start [(Environment.levelKey, "basic_format")]).brokenOff f)) ∧
    ∃ f, (start []).configure (.installing none (some "_Styles") (some "hub") true)
      = (.error (.invalidType ("Level not an integer or a valid string: " ++ stylesShown)),
        (start []).brokenOff f) := by
  have hfatal : levelName (some "fatal") [] = "FATAL" := by decide
  have hformat : levelName (some "") [(Environment.levelKey, "basic_format")] = formatName := by
    decide
  have hstyles : levelName (some "_Styles") [] = stylesName := by decide
  obtain ⟨hcompletes, -, -⟩ := @installing_sets_named_threshold_unless_format (start []) false
    (.inr rfl) none (some "fatal") none
  obtain ⟨-, hbreaks, -⟩ := @installing_sets_named_threshold_unless_format
    (start [(Environment.levelKey, "basic_format")]) false (.inr rfl) (some "json") (some "") none
  obtain ⟨-, -, hbreaks'⟩ := @installing_sets_named_threshold_unless_format (start []) true
    (.inl rfl) none (some "_Styles") (some "hub")
  refine ⟨?_, hbreaks hformat, hbreaks' hstyles⟩
  obtain ⟨m, hconfigure, hconfigured, hthreshold⟩ :=
    hcompletes (by rw [start, hfatal]; decide) (by rw [start, hfatal]; decide)
  rw [start, hfatal] at hthreshold
  exact ⟨m, hconfigure, hconfigured, hthreshold⟩

/-- The name of no level is not passed over. -/
theorem format_name_breaks_configuring_off :
    standardLevels.lookup (levelName (some "basic_format") []) = none ∧
      ∃ fault m, (start []).configure (.installing none (some "basic_format") none false)
          = (.error fault, m) ∧
        m.isConfigured = false ∧ m.threshold ≠ defaultThreshold ∧
        m.handlers = [.stream .console] := by
  refine ⟨by decide, _, _, rfl, rfl, ?_, ?_⟩
  · decide
  · decide

end Logging

end SecureExchange.EventLog
