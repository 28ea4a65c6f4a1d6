import GitGateway.CommandLine.Startup
import GitGateway.Proofs.Settings.Checks

/-!
# What accepted settings can be used for

Settings are checked once, as they are read. What uses them afterwards takes the same texts and
reads them again: the listener its address, the exporter of metrics its own, and the log its
level. None of this can fail.

- `Settings.Accepted`: the settings of a text that was taken, and the defaults. They pass every
  check (`Accepted.passes`);
- `Startup.tells_unparsed_iff`: a start complains of the metrics address just where metrics are
  on and it is no socket address;
- `Log.Filter.ofText?_defaultText`: **a level in letters of any case is two directives**, both of
  them well written and with that level;
- `Settings.accepted_settings_are_usable`: all of it for accepted settings.

Nothing is said of the backend address. That it is not blank does not make it an authority, and
the client may still refuse it. Nor is an address that parses one that can be bound.
-/

namespace GitGateway

/-! ## Accepted settings -/

/-- Settings that the gateway may run with. -/
inductive Settings.Accepted : Settings → Prop
  | taken {text : String} {settings : Settings} (read : Settings.ofText text = .ok settings) :
    Accepted settings
  | default : Accepted {}

/-- Accepted settings pass every check. -/
theorem Settings.Accepted.passes {settings : Settings} (accepted : Accepted settings)
    (check : Check) : check.Passes settings := by
  refine problems_eq_nil_iff.mp ?_ check
  cases accepted with
  | taken read => exact (ofText_eq_ok_iff.mp read).2
  | default => decide +kernel

/-! ## Starting -/

namespace CommandLine.Startup

/-- The entries of a start are those up to the listening address and two more at the most. -/
theorem entries_eq (site : Site) (settings : Settings) :
    ∃ more, (entries site settings).1 = opening site settings ++ more ∧
      ∀ entry ∈ more, entry.record.message = "Listening for connections" ∨
        entry.record.message = "HTTP server starting" := by
  unfold entries
  cases listen site settings with
  | error shown => exact ⟨[], (List.append_nil _).symm, nofun⟩
  | ok bound =>
    cases Http.Authority.check settings.backend.address with
    | error reason =>
      refine ⟨_, rfl, ?_⟩
      rintro entry (_ | ⟨_, ⟨⟩⟩)
      exact .inl rfl
    | ok =>
      refine ⟨_, List.append_assoc .., ?_⟩
      rintro entry (_ | ⟨_, _ | ⟨_, ⟨⟩⟩⟩)
      · exact .inl rfl
      · exact .inr rfl

/-- The exporter complains of its address where metrics are on and it is no socket address. -/
theorem exporter_tells_unparsed_iff (site : Site) (watch : Settings.Observability) :
    (∃ entry ∈ exporterEntries site watch,
      entry.record.message = "Failed to parse metrics address") ↔
      watch.metricsEnabled = true ∧ SocketAddress.ofString? watch.metricsAddress = none := by
  rw [exporterEntries]
  cases watch.metricsEnabled with
  | false => simp
  | true =>
    cases SocketAddress.ofString? watch.metricsAddress with
    | none => simp
    | some address =>
      cases bound : site.bindMetrics address with
      | ok => simp [bound, Metrics.listening]
      | error fault => simp [bound, Metrics.failed]

/-- No other entry of a start is such a complaint. -/
theorem tells_unparsed_iff (site : Site) (settings : Settings) :
    (∃ entry ∈ (entries site settings).1,
      entry.record.message = "Failed to parse metrics address") ↔
      settings.observability.metricsEnabled = true ∧
        SocketAddress.ofString? settings.observability.metricsAddress = none := by
  refine Iff.trans ?_ (exporter_tells_unparsed_iff site settings.observability)
  obtain ⟨more, parts, others⟩ := entries_eq site settings
  constructor
  · rintro ⟨entry, mem, told⟩
    rw [parts, opening] at mem
    rcases List.mem_append.mp mem with mem | mem
    · rcases List.mem_append.mp mem with mem | mem
      · rcases mem with _ | ⟨_, _ | ⟨_, ⟨⟩⟩⟩
        · exact absurd told (by decide)
        · exact absurd told (by simp [info])
      · exact ⟨entry, mem, told⟩
    · rcases others entry mem with other | other
      · exact absurd (told.symm.trans other) (by decide)
      · exact absurd (told.symm.trans other) (by decide)
  · rintro ⟨entry, mem, told⟩
    refine ⟨entry, ?_, told⟩
    rw [parts, opening]
    exact List.mem_append_left _ (List.mem_append_right _ mem)

/-- An address that parses is bound. -/
theorem listen_of_parses (site : Site) {settings : Settings} {address : SocketAddress}
    (parses : SocketAddress.ofString? settings.listener.bindAddress = some address) :
    listen site settings = (site.bindListener address).mapError shownFault := by
  unfold listen
  rw [parses]

end CommandLine.Startup

/-! ## Directives -/

namespace Log.Filter

/-- The directives of a level: it holds for the gateway itself and for its HTTP layer. -/
def ofLevel (level : Level) : Filter where
  directives := [
    { target := some "git_overload_proxy", threshold := some level },
    { target := some "tower_http", threshold := some level }]

/-- Parts that are all directives are all kept. -/
theorem filterMap_of_mapM {parts : List String} {directives : List Directive}
    (read : parts.mapM Directive.ofString? = some directives) :
    parts.filterMap Directive.ofString? = directives := by
  induction parts generalizing directives with
  | nil =>
    cases read
    rfl
  | cons part parts ih =>
    rw [List.mapM_cons] at read
    obtain ⟨first, here, read⟩ := Option.bind_eq_some_iff.mp read
    obtain ⟨rest, later, read⟩ := Option.bind_eq_some_iff.mp read
    cases read
    rw [List.filterMap_cons_some here, ih later]

/-- Of a text that is well written throughout nothing is dropped. -/
theorem ofTextLoosely_of_ofText? {text : String} {filter : Filter}
    (read : ofText? text = some filter) (nonempty : filter.directives ≠ []) :
    ofTextLoosely text = filter := by
  obtain ⟨directives, all, rfl⟩ := Option.map_eq_some_iff.mp read
  have some_left : directives.isEmpty = false := by simpa using nonempty
  rw [ofTextLoosely]
  simp only [filterMap_of_mapM all, some_left]
  rfl

section

variable {level : Level} {text : String} (named : level.name = text.toLower)
include named

/-- A level in letters of any case is written as its name. -/
theorem defaultText_of_name :
    defaultText text = "git_overload_proxy=" ++ level.name ++ ",tower_http=" ++ level.name := by
  have own : ownTarget ++ "=" = "git_overload_proxy=" := by decide
  simp only [defaultText, own, ← named]

/-- There are two parts, as no name of a level has a comma in it. -/
theorem parts_defaultText :
    parts (defaultText text) =
      ["git_overload_proxy=" ++ level.name, "tower_http=" ++ level.name] := by
  rw [defaultText_of_name named]
  cases level <;> decide +kernel

/-- **A level in letters of any case is two directives.** Both are well written. -/
theorem ofText?_defaultText : ofText? (defaultText text) = some (ofLevel level) := by
  have own : Directive.ofString? ("git_overload_proxy=" ++ level.name) =
      some { target := some "git_overload_proxy", threshold := some level } := by
    cases level <;> decide +kernel
  have http : Directive.ofString? ("tower_http=" ++ level.name) =
      some { target := some "tower_http", threshold := some level } := by
    cases level <;> decide +kernel
  simp only [ofText?, parts_defaultText named, List.mapM_cons, own, http]
  rfl

end

end Log.Filter

/-! ## Use -/

open CommandLine (Startup.listen Startup.entries shownFault)

namespace Settings

/-- **Accepted settings can be used** wherever their texts are read again. -/
theorem accepted_settings_are_usable {settings : Settings} (accepted : Accepted settings) :
    (∃ address, SocketAddress.ofString? settings.listener.bindAddress = some address ∧
      ∀ site, Startup.listen site settings = (site.bindListener address).mapError shownFault) ∧
    (settings.observability.metricsEnabled = true →
      ∃ address, SocketAddress.ofString? settings.observability.metricsAddress = some address) ∧
    (∀ site, ∀ entry ∈ (Startup.entries site settings).1,
      entry.record.message ≠ "Failed to parse metrics address") ∧
    1 ≤ settings.timeouts.connectSecs ∧ 1 ≤ settings.timeouts.requestSecs ∧
    ∃ level : Log.Level, level.name = settings.observability.logLevel.toLower ∧
      level.name ∈ ["trace", "debug", "info", "warn", "error"] ∧
      Log.Filter.defaultText settings.observability.logLevel =
        "git_overload_proxy=" ++ level.name ++ ",tower_http=" ++ level.name ∧
      Log.Filter.parts (Log.Filter.defaultText settings.observability.logLevel) =
        ["git_overload_proxy=" ++ level.name, "tower_http=" ++ level.name] ∧
      Log.Filter.ofText? (Log.Filter.defaultText settings.observability.logLevel) =
        some (.ofLevel level) ∧
      Log.Filter.ofTextLoosely (Log.Filter.defaultText settings.observability.logLevel) =
        .ofLevel level := by
  obtain ⟨address, parses⟩ := accepted.passes .bindAddress
  have metrics := accepted.passes .metricsAddress
  obtain ⟨level, named⟩ := accepted.passes .logLevel
  have read := Log.Filter.ofText?_defaultText named
  refine ⟨⟨address, parses, fun site => ?_⟩, metrics, ?_, accepted.passes .connectTimeout,
    accepted.passes .requestTimeout, level, named, ?_, Log.Filter.defaultText_of_name named,
    Log.Filter.parts_defaultText named, read,
    Log.Filter.ofTextLoosely_of_ofText? read nofun⟩
  · exact CommandLine.Startup.listen_of_parses site parses
  · intro site entry mem told
    obtain ⟨enabled, unparsed⟩ :=
      (CommandLine.Startup.tells_unparsed_iff site settings).mp ⟨entry, mem, told⟩
    obtain ⟨address, parses⟩ := metrics enabled
    cases unparsed.symm.trans parses
  · cases level <;> decide

/-- A level in mixed case, and metrics at the usual address. -/
theorem mixed_case_level_is_usable :
    ofText "[observability]\nlog_level = \"DeBuG\"\nmetrics_enabled = true\n" =
        .ok { observability := { logLevel := "DeBuG", metricsEnabled := true } } ∧
      (∀ site, ∀ entry ∈ (Startup.entries site
          { observability := { logLevel := "DeBuG", metricsEnabled := true } }).1,
        entry.record.message ≠ "Failed to parse metrics address") ∧
      Log.Filter.ofTextLoosely (Log.Filter.defaultText "DeBuG") = .ofLevel .debug := by
  have read : ofText "[observability]\nlog_level = \"DeBuG\"\nmetrics_enabled = true\n" =
      .ok { observability := { logLevel := "DeBuG", metricsEnabled := true } } := by
    have taken : (ofText
        "[observability]\nlog_level = \"DeBuG\"\nmetrics_enabled = true\n").toOption =
          some { observability := { logLevel := "DeBuG", metricsEnabled := true } } := by
      decide +kernel
    generalize ofText _ = answer at taken ⊢
    cases answer with
    | error _ => cases taken
    | ok _ =>
      cases taken
      rfl
  obtain ⟨-, -, silent, -, -, level, named, -, -, -, -, taken⟩ :=
    accepted_settings_are_usable (.taken read)
  have lowered : level.name = "debug" := named.trans (by decide +kernel)
  have debug : level = .debug := by
    cases level with
    | debug => rfl
    | _ => exact absurd lowered (by decide)
  rw [debug] at taken
  exact ⟨read, silent, taken⟩

end Settings

end GitGateway
