import GitGateway.Settings.Problem

/-!
# Which problems settings have

Settings have seven values, and six checks look at them.

- `Settings.Key`: the values, with the value that settings have under each;
- `Settings.Check`: the checks, with what each one asks of settings (`Check.Passes`) and what
  it says where that does not hold (`Check.problem`). Which check looks at a value is
  `Key.check`: the metrics address is looked at only where metrics are on, so the switch
  belongs to its check;
- `Settings.Check.Reports`: the problems that some checks tell of, one for each that fails and
  in the order of the checks;
- `Settings.reports_problems`: **the problems of settings are what all checks tell of**. No
  check keeps another from being made;
- `Settings.problems_of_one_change`: settings that differ in one value have the same problems
  but for those of its check.
-/

namespace GitGateway.Settings

/-! ## Values -/

/-- The kinds of values. -/
inductive Kind where
  | text
  | seconds
  | switch
  deriving DecidableEq, Repr

/-- What a value of a kind is. -/
@[reducible] def Kind.Value : Kind → Type
  | .text => String
  | .seconds => Nat
  | .switch => Bool

/-- The names of the values. -/
inductive Key where
  | bindAddress
  | backendAddress
  | connectSecs
  | requestSecs
  | logLevel
  | metricsEnabled
  | metricsAddress
  deriving DecidableEq, Repr

namespace Key

/-- The kind of a value. -/
@[reducible] def kind : Key → Kind
  | .bindAddress | .backendAddress | .logLevel | .metricsAddress => .text
  | .connectSecs | .requestSecs => .seconds
  | .metricsEnabled => .switch

/-- The value that settings have. -/
def value (settings : Settings) : (key : Key) → key.kind.Value
  | .bindAddress => settings.listener.bindAddress
  | .backendAddress => settings.backend.address
  | .connectSecs => settings.timeouts.connectSecs
  | .requestSecs => settings.timeouts.requestSecs
  | .logLevel => settings.observability.logLevel
  | .metricsEnabled => settings.observability.metricsEnabled
  | .metricsAddress => settings.observability.metricsAddress

/-- What holds of each of the seven holds of all. -/
theorem forall_iff {p : Key → Prop} : (∀ key, p key) ↔ p .bindAddress ∧ p .backendAddress ∧
    p .connectSecs ∧ p .requestSecs ∧ p .logLevel ∧ p .metricsEnabled ∧ p .metricsAddress := by
  constructor
  · intro h
    exact ⟨h _, h _, h _, h _, h _, h _, h _⟩
  · rintro ⟨bind, backend, connect, request, level, enabled, metrics⟩ key
    cases key <;> assumption

end Key

/-! ## Checks -/

/-- The checks. -/
inductive Check where
  | bindAddress
  | backendAddress
  | connectTimeout
  | requestTimeout
  | logLevel
  | metricsAddress
  deriving DecidableEq, Repr

/-- The check that looks at a value. -/
def Key.check : Key → Check
  | .bindAddress => .bindAddress
  | .backendAddress => .backendAddress
  | .connectSecs => .connectTimeout
  | .requestSecs => .requestTimeout
  | .logLevel => .logLevel
  | .metricsEnabled | .metricsAddress => .metricsAddress

namespace Check

/-- All checks, in their order. -/
def all : List Check :=
  [.bindAddress, .backendAddress, .connectTimeout, .requestTimeout, .logLevel, .metricsAddress]

theorem mem_all (check : Check) : check ∈ all := by
  cases check <;> decide

/-- What a check asks of settings. -/
def Passes (settings : Settings) : Check → Prop
  | .bindAddress =>
    ∃ address, SocketAddress.ofString? settings.listener.bindAddress = some address
  | .backendAddress => ∃ c ∈ settings.backend.address.toList, isBlank c = false
  | .connectTimeout => 0 < settings.timeouts.connectSecs
  | .requestTimeout => 0 < settings.timeouts.requestSecs
  | .logLevel => ∃ level : Log.Level, level.name = settings.observability.logLevel.toLower
  | .metricsAddress => settings.observability.metricsEnabled = true →
    ∃ address, SocketAddress.ofString? settings.observability.metricsAddress = some address

/-- What a check says where that does not hold. -/
def problem (settings : Settings) : Check → Problem
  | .bindAddress => .invalidAddress "listener.bind_address" settings.listener.bindAddress
  | .backendAddress => .emptyBackendAddress
  | .connectTimeout => .zeroTimeout "timeouts.connect_secs"
  | .requestTimeout => .zeroTimeout "timeouts.request_secs"
  | .logLevel => .unknownLogLevel settings.observability.logLevel
  | .metricsAddress =>
    .invalidAddress "observability.metrics_address" settings.observability.metricsAddress

/-- The problems that some checks tell of. -/
inductive Reports (settings : Settings) : List Check → List Problem → Prop
  | done : Reports settings [] []
  | passed {check : Check} {checks : List Check} {problems : List Problem}
    (passes : check.Passes settings) (later : Reports settings checks problems) :
    Reports settings (check :: checks) problems
  | failed {check : Check} {checks : List Check} {problems : List Problem}
    (fails : ¬ check.Passes settings) (later : Reports settings checks problems) :
    Reports settings (check :: checks) (check.problem settings :: problems)

namespace Reports

variable {settings : Settings} {checks : List Check} {problems : List Problem}

/-- Any checks tell of some problems, perhaps of none. -/
theorem exists_reports (settings : Settings) (checks : List Check) :
    ∃ problems, Reports settings checks problems := by
  induction checks with
  | nil => exact ⟨[], .done⟩
  | cons check checks ih =>
    obtain ⟨problems, later⟩ := ih
    by_cases passes : check.Passes settings
    · exact ⟨problems, .passed passes later⟩
    · exact ⟨_, .failed passes later⟩

/-- They tell of no other ones. -/
theorem unique {others : List Problem} (h : Reports settings checks problems)
    (h' : Reports settings checks others) : problems = others := by
  induction h generalizing others with
  | done =>
    cases h'
    rfl
  | passed passes _ ih =>
    cases h' with
    | passed _ later => exact ih later
    | failed fails => exact absurd passes fails
  | failed fails _ ih =>
    cases h' with
    | passed passes => exact absurd passes fails
    | failed _ later => rw [ih later]

/-- The problems of some checks and of further ones. -/
theorem append {more : List Check} {others : List Problem} (h : Reports settings checks problems)
    (h' : Reports settings more others) :
    Reports settings (checks ++ more) (problems ++ others) := by
  induction h with
  | done => exact h'
  | passed passes _ ih => exact .passed passes ih
  | failed fails _ ih => exact .failed fails ih

/-- The problems can be cut where the checks can. -/
theorem exists_append {first second : List Check} (h : Reports settings (first ++ second) problems) :
    ∃ before behind, problems = before ++ behind ∧ Reports settings first before ∧
      Reports settings second behind := by
  obtain ⟨before, front⟩ := exists_reports settings first
  obtain ⟨behind, back⟩ := exists_reports settings second
  exact ⟨before, behind, h.unique (front.append back), front, back⟩

/-- There is no problem where all checks pass. -/
theorem eq_nil_iff (h : Reports settings checks problems) :
    problems = [] ↔ ∀ check ∈ checks, check.Passes settings := by
  induction h with
  | done => exact ⟨fun _ => nofun, fun _ => rfl⟩
  | passed passes _ ih =>
    rw [ih, List.forall_mem_cons]
    exact ⟨fun all => ⟨passes, all⟩, And.right⟩
  | failed fails _ ih =>
    refine ⟨nofun, fun all => absurd ?_ fails⟩
    exact all _ (List.mem_cons_self ..)

/-- Checks that see no difference tell of the same. -/
theorem congr {other : Settings} (same : ∀ check ∈ checks,
      (check.Passes settings ↔ check.Passes other) ∧
        check.problem settings = check.problem other)
    (h : Reports settings checks problems) : Reports other checks problems := by
  induction h with
  | done => exact .done
  | passed passes _ ih =>
    obtain ⟨here, later⟩ := List.forall_mem_cons.mp same
    exact .passed (here.1.mp passes) (ih later)
  | failed fails _ ih =>
    obtain ⟨here, later⟩ := List.forall_mem_cons.mp same
    rw [here.2]
    exact .failed (fun passes => fails (here.1.mpr passes)) (ih later)

end Reports

/-- A check that is made with a condition of its own. -/
theorem reports_problemUnless {settings : Settings} (check : Check) {holds : Bool}
    (h : holds = true ↔ check.Passes settings) :
    Reports settings [check] (problemUnless holds (check.problem settings)) := by
  cases holds with
  | true => exact .passed (h.mp rfl) .done
  | false => exact .failed (fun passes => Bool.false_ne_true (h.mpr passes)) .done

/-- A check sees nothing of settings but its values. -/
theorem same_of_values {a b : Settings} (check : Check)
    (same : ∀ key : Key, key.check = check → key.value a = key.value b) :
    (check.Passes a ↔ check.Passes b) ∧ check.problem a = check.problem b := by
  cases check with
  | bindAddress =>
    have bind : a.listener.bindAddress = b.listener.bindAddress := same .bindAddress rfl
    simp only [Passes, problem, bind, and_self]
  | backendAddress =>
    have backend : a.backend.address = b.backend.address := same .backendAddress rfl
    simp only [Passes, problem, backend, and_self]
  | connectTimeout =>
    have connect : a.timeouts.connectSecs = b.timeouts.connectSecs := same .connectSecs rfl
    simp only [Passes, problem, connect, and_self]
  | requestTimeout =>
    have request : a.timeouts.requestSecs = b.timeouts.requestSecs := same .requestSecs rfl
    simp only [Passes, problem, request, and_self]
  | logLevel =>
    have level : a.observability.logLevel = b.observability.logLevel := same .logLevel rfl
    simp only [Passes, problem, level, and_self]
  | metricsAddress =>
    have enabled : a.observability.metricsEnabled = b.observability.metricsEnabled :=
      same .metricsEnabled rfl
    have metrics : a.observability.metricsAddress = b.observability.metricsAddress :=
      same .metricsAddress rfl
    simp only [Passes, problem, enabled, metrics, and_self]

end Check

/-! ## Problems -/

theorem isSocketAddress_iff {text : String} :
    isSocketAddress text = true ↔ ∃ address, SocketAddress.ofString? text = some address :=
  Option.isSome_iff_exists

theorem not_isBlankText_iff {text : String} :
    (!isBlankText text) = true ↔ ∃ c ∈ text.toList, isBlank c = false := by
  rw [Bool.not_eq_true', isBlankText, List.all_eq_false]
  simp only [Bool.not_eq_true]

theorem isSome_ofName?_iff {name : String} :
    (Log.Level.ofName? name).isSome = true ↔ ∃ level : Log.Level, level.name = name.toLower := by
  rw [Log.Level.ofName?, List.find?_isSome]
  constructor
  · rintro ⟨level, -, same⟩
    exact ⟨level, beq_iff_eq.mp same⟩
  · rintro ⟨level, same⟩
    have known : level ∈ Log.Level.all := by cases level <;> decide
    exact ⟨level, known, beq_iff_eq.mpr same⟩

/-- **The problems of settings are what all checks tell of.** -/
theorem reports_problems (settings : Settings) :
    Check.Reports settings Check.all settings.problems := by
  have positive : ∀ n : Nat, (n != 0) = true ↔ 0 < n := by
    intro n
    rw [bne_iff_ne]
    omega
  have metrics : (!settings.observability.metricsEnabled ||
      isSocketAddress settings.observability.metricsAddress) = true ↔
      Check.metricsAddress.Passes settings := by
    rw [Bool.or_eq_true, isSocketAddress_iff, Bool.not_eq_true', ← Bool.not_eq_true,
      ← Decidable.imp_iff_not_or]
    rfl
  exact (((((Check.reports_problemUnless .bindAddress isSocketAddress_iff).append
    (Check.reports_problemUnless .backendAddress not_isBlankText_iff)).append
    (Check.reports_problemUnless .connectTimeout (positive _))).append
    (Check.reports_problemUnless .requestTimeout (positive _))).append
    (Check.reports_problemUnless .logLevel isSome_ofName?_iff)).append
    (Check.reports_problemUnless .metricsAddress metrics)

/-- Settings have no problem exactly where all checks pass. -/
theorem problems_eq_nil_iff {settings : Settings} :
    settings.problems = [] ↔ ∀ check : Check, check.Passes settings := by
  rw [(reports_problems settings).eq_nil_iff]
  exact ⟨fun all check => all check (Check.mem_all check), fun all check _ => all check⟩

/-- **One change** leaves the problems of all checks but one where they are. -/
theorem problems_of_one_change {a b : Settings} {key : Key}
    (same : ∀ other : Key, other ≠ key → other.value a = other.value b) :
    ∃ before own own' behind, a.problems = before ++ own ++ behind ∧
      b.problems = before ++ own' ++ behind ∧
      Check.Reports a [key.check] own ∧ Check.Reports b [key.check] own' := by
  -- no check comes twice, so that those around this one see no difference
  obtain ⟨front, back, checks, absent⟩ : ∃ front back, Check.all = front ++ [key.check] ++ back ∧
      ∀ check ∈ front ++ back, check ≠ key.check := by
    cases key.check with
    | bindAddress => exact ⟨[], _, rfl, by decide⟩
    | backendAddress => exact ⟨[_], _, rfl, by decide⟩
    | connectTimeout => exact ⟨[_, _], _, rfl, by decide⟩
    | requestTimeout => exact ⟨[_, _, _], _, rfl, by decide⟩
    | logLevel => exact ⟨[_, _, _, _], _, rfl, by decide⟩
    | metricsAddress => exact ⟨[_, _, _, _, _], _, rfl, by decide⟩
  have blind : ∀ check ∈ front ++ back, (check.Passes a ↔ check.Passes b) ∧
      check.problem a = check.problem b := by
    intro check mem
    refine check.same_of_values fun other looked => same other ?_
    rintro rfl
    exact absent check mem looked.symm
  have reports := reports_problems a
  rw [checks] at reports
  obtain ⟨_, behind, cut, around, after⟩ := reports.exists_append
  obtain ⟨before, own, rfl, first, here⟩ := around.exists_append
  obtain ⟨own', here'⟩ := Check.Reports.exists_reports b [key.check]
  have first' : Check.Reports b front before :=
    first.congr fun check mem => blind check (List.mem_append_left _ mem)
  have after' : Check.Reports b back behind :=
    after.congr fun check mem => blind check (List.mem_append_right _ mem)
  have cut' : b.problems = before ++ own' ++ behind := by
    refine (reports_problems b).unique ?_
    rw [checks]
    exact (first'.append here').append after'
  exact ⟨before, own, own', behind, cut, cut', here, here'⟩

end GitGateway.Settings
