import SecureExchange.EventLog.Logging

/-!
# What is installed at the root

Callers configure logging or take loggers, the host adds handlers of its own, and the environment
changes, in any order. `Configuring` names the ways in which configuring ends; one of them fails
after the handlers have been replaced. All the same there is never more than one handler of the
library at the root, and no handler stands in front of it. The handlers of the host and the
threshold give way to installing only (`Installs`, `InstallsFirst`).
-/

namespace SecureExchange.EventLog

/-- What a process does to its logging. -/
inductive Action
  | configure (s : Settings)
  | getLogger
  | assign (key : String) (value : Option String)
  | addHostHandler

namespace Logging

def step (l : Logging) : Action → Except Failure.Fault Unit × Logging
  | .configure s => l.configure s
  | .getLogger => l.getLogger
  | .assign key value => (.ok (), l.assign key value)
  | .addHostHandler => (.ok (), l.addHostHandler)

/-- The state of logging after all actions of a run. A failing action does not end a run. -/
def run (l : Logging) : List Action → Logging
  | [] => l
  | a :: rest => (l.step a).2.run rest

theorem run_append (l : Logging) (a b : List Action) : l.run (a ++ b) = (l.run a).run b := by
  induction a generalizing l with
  | nil => rfl
  | cons a rest ih => exact ih (l.step a).2

variable {l m : Logging} {s : Settings} {a : Action} {outcome : Except Failure.Fault Unit}

/-- Configuring takes effect if it is forced or the first. -/
def TakesEffect (l : Logging) (s : Settings) : Prop := s.force = true ∨ l.isConfigured = false

/-- The ways in which configuring ends. A level that is no threshold is found out only when the
handlers have been replaced already. -/
inductive Configuring (l : Logging) (s : Settings) : Except Failure.Fault Unit → Logging → Prop
  | ignored (hconfigured : l.isConfigured = true) (hforce : s.force = false) :
      Configuring l s (.ok ()) l
  | refused (f : Failure.Fault) (heffect : l.TakesEffect s) : Configuring l s (.error f) l
  | brokenOff (fault : Failure.Fault) (f : Format) (heffect : l.TakesEffect s)
      (hinstalls : s.installsHandler = true) :
      Configuring l s (.error fault) { l with pipeline := .inHandlers, handlers := [.stream f] }
  | installed (f : Format) (threshold : Nat) (service : String) (heffect : l.TakesEffect s)
      (hinstalls : s.installsHandler = true) :
      Configuring l s (.ok ()) { l with
        pipeline := .inHandlers
        handlers := [.stream f]
        threshold := threshold
        service := some service
        isConfigured := true }
  | renderedAhead (f : Format) (service : String) (heffect : l.TakesEffect s)
      (hinstalls : s.installsHandler = false) :
      Configuring l s (.ok ()) { l with
        pipeline := .ahead f
        service := some service
        isConfigured := true }

theorem install_configuring (heffect : l.TakesEffect s) (hinstalls : s.installsHandler = true)
    (f : Format) (level service : String) :
    Configuring l s (l.install f level service).1 (l.install f level service).2 := by
  unfold install
  dsimp only
  cases thresholdOf level with
  | error fault => exact .brokenOff fault f heffect hinstalls
  | ok threshold => exact .installed f threshold service heffect hinstalls

theorem configure_configuring (l : Logging) (s : Settings) :
    Configuring l s (l.configure s).1 (l.configure s).2 := by
  by_cases hignored : l.isConfigured = true ∧ s.force = false
  · rw [configure_of_configured hignored.1 hignored.2]
    exact .ignored hignored.1 hignored.2
  · have heffect : l.TakesEffect s := by
      cases hforce : s.force with
      | true => exact .inl hforce
      | false => exact .inr (by simpa [hforce] using hignored)
    have hgoesOn : (l.isConfigured && !s.force) = false := by
      rcases heffect with h | h <;> simp [h]
    unfold configure
    rw [hgoesOn, if_neg Bool.false_ne_true]
    cases l.formatFor s with
    | error fault => exact .refused fault heffect
    | ok f =>
        cases l.levelFor s with
        | error fault => exact .refused fault heffect
        | ok level =>
            cases hinstalls : s.installsHandler with
            | true => exact install_configuring heffect hinstalls f level _
            | false => exact .renderedAhead f _ heffect hinstalls

/-- Without a handler to install, or without effect, nothing changes at the root. -/
theorem Configuring.kept (h : Configuring l s outcome m)
    (hnot : ¬ (s.installsHandler = true ∧ l.TakesEffect s)) :
    m.handlers = l.handlers ∧ m.threshold = l.threshold := by
  cases h with
  | ignored | refused | renderedAhead => exact ⟨rfl, rfl⟩
  | brokenOff _ _ heffect hinstalls | installed _ _ _ heffect hinstalls =>
      exact absurd ⟨hinstalls, heffect⟩ hnot

theorem Configuring.handlers (h : Configuring l s outcome m) :
    m.handlers = l.handlers ∨ ∃ f, m.handlers = [.stream f] := by
  cases h with
  | ignored | refused | renderedAhead => exact .inl rfl
  | brokenOff _ f | installed f => exact .inr ⟨f, rfl⟩

theorem Configuring.isConfigured (h : Configuring l s outcome m) (hl : l.isConfigured = true) :
    m.isConfigured = true := by
  cases h with
  | ignored | refused | brokenOff => exact hl
  | installed | renderedAhead => rfl

/-! ### What an action changes at the root -/

/-- The action configures a handler, and takes effect. -/
def Installs (l : Logging) (a : Action) : Prop :=
  ∃ s, a = .configure s ∧ s.installsHandler = true ∧ l.TakesEffect s

/-- A logger is taken before anything was configured, while nobody has a handler. -/
def InstallsFirst (l : Logging) (a : Action) : Prop :=
  a = .getLogger ∧ l.isConfigured = false ∧ l.handlers = []

theorem getLogger_cases (l : Logging) :
    l.getLogger = (.ok (), l) ∨ l.isConfigured = false ∧
      Configuring l (.standard l.handlers.isEmpty) l.getLogger.1 l.getLogger.2 := by
  cases hconfigured : l.isConfigured with
  | true => exact .inl (getLogger_of_configured hconfigured)
  | false =>
      have hgetLogger : l.getLogger = l.configure (.standard l.handlers.isEmpty) := by
        simp [getLogger, hconfigured]
      rw [hgetLogger]
      exact .inr ⟨rfl, configure_configuring l _⟩

/-- Nothing else touches the threshold, or any handler that is there. -/
theorem step_kept (hinstalls : ¬ l.Installs a) (hfirst : ¬ l.InstallsFirst a) :
    l.handlers <+: (l.step a).2.handlers ∧ (l.step a).2.threshold = l.threshold := by
  cases a with
  | configure s =>
      obtain ⟨hhandlers, hthreshold⟩ := (configure_configuring l s).kept
        fun hnot ↦ hinstalls ⟨s, rfl, hnot⟩
      exact ⟨hhandlers ▸ List.prefix_refl _, hthreshold⟩
  | getLogger =>
      rcases l.getLogger_cases with hsame | ⟨hconfigured, h⟩
      · rw [step, hsame]
        exact ⟨List.prefix_refl _, rfl⟩
      · obtain ⟨hhandlers, hthreshold⟩ := h.kept fun hnot ↦
          hfirst ⟨rfl, hconfigured, List.isEmpty_iff.mp hnot.1⟩
        exact ⟨hhandlers ▸ List.prefix_refl _, hthreshold⟩
  | assign key value => exact ⟨List.prefix_refl _, rfl⟩
  | addHostHandler => exact ⟨List.prefix_append _ _, rfl⟩

theorem step_handlers_prefix (hinstalls : ¬ l.Installs a) :
    l.handlers <+: (l.step a).2.handlers := by
  by_cases hfirst : l.InstallsFirst a
  · rw [hfirst.2.2]
    exact List.nil_prefix
  · exact (step_kept hinstalls hfirst).1

theorem installs_of_threshold_ne (h : (l.step a).2.threshold ≠ l.threshold) :
    l.Installs a ∨ l.InstallsFirst a := by
  by_cases hinstalls : l.Installs a
  · exact .inl hinstalls
  · by_cases hfirst : l.InstallsFirst a
    · exact .inr hfirst
    · exact absurd (step_kept hinstalls hfirst).2 h

/-! ### Runs -/

/-- Whatever the library has installed stands in front of all handlers of the host. -/
def OwnFirst (l : Logging) : Prop := ∀ h ∈ l.handlers.tail, h = .host

theorem OwnFirst.of_handlers (hl : l.OwnFirst)
    (h : m.handlers = l.handlers ∨ ∃ f, m.handlers = [.stream f]) : m.OwnFirst := by
  unfold OwnFirst
  rcases h with hsame | ⟨f, hreplaced⟩
  · rw [hsame]
    exact hl
  · simp [hreplaced]

theorem OwnFirst.step (hl : l.OwnFirst) (a : Action) : (l.step a).2.OwnFirst := by
  cases a with
  | configure s => exact hl.of_handlers (configure_configuring l s).handlers
  | getLogger =>
      rcases l.getLogger_cases with hsame | ⟨_, h⟩
      · rw [Logging.step, hsame]
        exact hl
      · exact hl.of_handlers h.handlers
  | assign key value => exact hl
  | addHostHandler =>
      intro h hmem
      change h ∈ (l.handlers ++ [Handler.host]).tail at hmem
      cases hhandlers : l.handlers with
      | nil => simp [hhandlers] at hmem
      | cons first rest =>
          rw [hhandlers, List.cons_append, List.tail_cons, List.mem_append,
            List.mem_singleton] at hmem
          rcases hmem with hrest | hadded
          · exact hl h (by rwa [hhandlers])
          · exact hadded

theorem OwnFirst.run (hl : l.OwnFirst) (as : List Action) : (l.run as).OwnFirst := by
  induction as generalizing l with
  | nil => exact hl
  | cons a rest ih => exact ih (hl.step a)

/-- So there is at most one of the library's handlers, and it is the first. -/
theorem OwnFirst.single (hl : l.OwnFirst) :
    (l.handlers.filter Handler.isStream).length ≤ 1 ∧
      ∀ f, .stream f ∈ l.handlers → l.handlers.head? = some (.stream f) := by
  unfold OwnFirst at hl
  cases hhandlers : l.handlers with
  | nil => simp
  | cons first rest =>
      rw [hhandlers, List.tail_cons] at hl
      have hrest : rest.filter Handler.isStream = [] := by
        rw [List.filter_eq_nil_iff]
        intro h hmem
        simp [hl h hmem, Handler.isStream]
      refine ⟨?_, fun f hmem ↦ ?_⟩
      · rw [List.filter_cons, hrest]
        split <;> simp
      · rcases List.mem_cons.mp hmem with rfl | hmem
        · rfl
        · exact absurd (hl _ hmem) (by simp)

theorem isConfigured_step (hl : l.isConfigured = true) (a : Action) :
    (l.step a).2.isConfigured = true := by
  cases a with
  | configure s => exact (configure_configuring l s).isConfigured hl
  | getLogger => rwa [step, getLogger_of_configured hl]
  | assign key value => exact hl
  | addHostHandler => exact hl

theorem isConfigured_run (hl : l.isConfigured = true) (as : List Action) :
    (l.run as).isConfigured = true := by
  induction as generalizing l with
  | nil => exact hl
  | cons a rest ih => exact ih (isConfigured_step hl a)

/-- After any run from the start, the root holds at most one handler of the library, in front of all
others. A handler of the host goes only when one of the library is installed by a call that takes
effect; the threshold changes only then, or when the first logger is taken while there are no
handlers. Once logging is configured it stays so, and then taking loggers and configuring without
force change nothing at all, whatever happens in between. -/
theorem handlers_and_threshold_changed_by_installing_only (env : Environment)
    (as : List Action) :
    (((start env).run as).handlers.filter Handler.isStream).length ≤ 1 ∧
    (∀ f, .stream f ∈ ((start env).run as).handlers →
      ((start env).run as).handlers.head? = some (.stream f)) ∧
    (∀ a, ¬ ((start env).run as).Installs a →
      ((start env).run as).handlers <+: (((start env).run as).step a).2.handlers) ∧
    (∀ a, (((start env).run as).step a).2.threshold ≠ ((start env).run as).threshold →
      ((start env).run as).Installs a ∨ ((start env).run as).InstallsFirst a) ∧
    (((start env).run as).isConfigured = true → ∀ later,
      ((start env).run (as ++ later)).isConfigured = true ∧
      ((start env).run (as ++ later)).step .getLogger
        = (.ok (), (start env).run (as ++ later)) ∧
      ∀ s, s.force = false → ((start env).run (as ++ later)).step (.configure s)
        = (.ok (), (start env).run (as ++ later))) := by
  have hfirst : ((start env).run as).OwnFirst := OwnFirst.run (by simp [OwnFirst, start]) as
  obtain ⟨hlength, hhead⟩ := hfirst.single
  refine ⟨hlength, hhead, fun _ ↦ step_handlers_prefix, fun _ ↦ installs_of_threshold_ne, ?_⟩
  intro hconfigured later
  have hlater : ((start env).run (as ++ later)).isConfigured = true := by
    rw [run_append]
    exact isConfigured_run hconfigured later
  exact ⟨hlater, getLogger_of_configured hlater, fun _ ↦ configure_of_configured hlater⟩

/-- A level that names no threshold. -/
def brokenSettings : Settings := { Settings.standard true with level := .text "basic_format" }

/-- A call breaks off between the handlers and the threshold; the host adds handlers before and
after it, and a logger is taken. -/
def interrupted : List Action :=
  [.addHostHandler, .configure brokenSettings, .addHostHandler, .getLogger]

/-- The environment asks for another level when everything is configured. -/
def reassigned : List Action := [.assign Environment.levelKey (some "DEBUG")]

/-- What a forced call is given that lets everything through. -/
def forcedSettings : Settings :=
  { Settings.standard true with level := .text "NOTSET", force := true }

theorem handlers_and_threshold_changed_of_interrupted :
    (((start []).run interrupted).handlers = [.stream .console, .host] ∧
      (((start []).run interrupted).handlers.filter Handler.isStream).length ≤ 1 ∧
      ((start []).run interrupted).handlers.head? = some (.stream .console)) ∧
    (¬ ((start []).run interrupted).Installs .addHostHandler ∧
      ((start []).run interrupted).handlers
        <+: (((start []).run interrupted).step .addHostHandler).2.handlers) ∧
    ((((start []).run interrupted).step (.configure forcedSettings)).2.threshold
        ≠ ((start []).run interrupted).threshold ∧
      (((start []).run interrupted).Installs (.configure forcedSettings) ∨
        ((start []).run interrupted).InstallsFirst (.configure forcedSettings))) ∧
    (((start []).run interrupted).isConfigured = true ∧
      ((start []).run (interrupted ++ reassigned)).step .getLogger
        = (.ok (), (start []).run (interrupted ++ reassigned))) := by
  obtain ⟨hlength, hhead, hhandlers, hthreshold, hlater⟩ :=
    handlers_and_threshold_changed_by_installing_only [] interrupted
  have hshown : ((start []).run interrupted).handlers = [.stream .console, .host] := by
    decide +kernel
  have hconfigured : ((start []).run interrupted).isConfigured = true := by decide +kernel
  have hadds : ¬ ((start []).run interrupted).Installs .addHostHandler := by simp [Installs]
  have hchanged : (((start []).run interrupted).step (.configure forcedSettings)).2.threshold
      ≠ ((start []).run interrupted).threshold := by decide +kernel
  exact ⟨⟨hshown, hlength, hhead .console (by simp [hshown])⟩, ⟨hadds, hhandlers _ hadds⟩,
    ⟨hchanged, hthreshold _ hchanged⟩, hconfigured, (hlater hconfigured reassigned).2.1⟩

end Logging

end SecureExchange.EventLog
