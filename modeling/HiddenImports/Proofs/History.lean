import HiddenImports.Session
import HiddenImports.Proofs.Outcome

/-!
# The history of a session

A session goes from vacant to holding a plugin at most once. What it does in either state is said by
`Holds` and `Vacant`, call by call; after any calls it holds the plugin of the first one that could make
one (`plugin_after`), so which of the two it is can be told from the calls alone (`settled_after`).
-/

namespace HiddenImports.Session

variable {session : Session} {plugin : Plugin}

/-- The shared plugin is there: all calls succeed and none changes anything. -/
structure Holds (session : Session) (plugin : Plugin) : Prop where
  init : ∀ disk config, (session.init disk config).value = (.ok (), session)
  initFromTable : ∀ table config, (session.initFromTable table config).value = (.ok (), session)
  get : session.get = .ok plugin
  getOrInit : ∀ disk, (session.getOrInit disk).value = (.ok plugin, session)

/-- There is no shared plugin: a call that can make one puts it in place, and a call that fails to
changes nothing. -/
structure Vacant (session : Session) : Prop where
  init_ok : ∀ disk config plugin, (Plugin.ofConfig disk config).outcome = .ok plugin →
    (session.init disk config).value = (.ok (), session.place plugin)
  init_error : ∀ disk config cause, (Plugin.ofConfig disk config).outcome = .error cause →
    (session.init disk config).value = (.error (.notCreated cause), session)
  initFromTable_ok : ∀ table config plugin, (Plugin.ofTable table config).outcome = .ok plugin →
    (session.initFromTable table config).value = (.ok (), session.place plugin)
  initFromTable_error : ∀ table config cause, (Plugin.ofTable table config).outcome = .error cause →
    (session.initFromTable table config).value = (.error (.notCreatedFromTable cause), session)
  get : session.get = .error .notInitialized
  getOrInit_ok : ∀ disk plugin, (Plugin.ofConfig disk {}).outcome = .ok plugin →
    (session.getOrInit disk).value = (.ok plugin, session.place plugin)
  getOrInit_error : ∀ disk cause, (Plugin.ofConfig disk {}).outcome = .error cause →
    (session.getOrInit disk).value = (.error (.notCreated cause), session)

/-! ## One call -/

section One

variable {make : Attempt Failure Plugin} {refusal : Failure → Failure} {skipped done : String}

theorem value_initWith_of_some (h : session.plugin = some plugin) :
    (initWith make refusal skipped done session).value = (.ok (), session) := by
  unfold initWith
  simp only [h]
  rfl

theorem value_initWith_of_ok (h : session.plugin = none) (hmake : make.outcome = .ok plugin) :
    (initWith make refusal skipped done session).value = (.ok (), session.place plugin) := by
  -- the outcome of an attempt is what running it gives, apart from the records
  have hrun : (ExceptT.run make).value = .ok plugin := hmake
  unfold initWith
  simp only [h, Logged.value_bind, hrun]
  rfl

theorem value_initWith_of_error {cause : Failure} (h : session.plugin = none)
    (hmake : make.outcome = .error cause) :
    (initWith make refusal skipped done session).value = (.error (refusal cause), session) := by
  have hrun : (ExceptT.run make).value = .error cause := hmake
  unfold initWith
  simp only [h, Logged.value_bind, hrun]
  rfl

end One

theorem holds_of_some (h : session.plugin = some plugin) : session.Holds plugin where
  init _ _ := value_initWith_of_some h
  initFromTable _ _ := value_initWith_of_some h
  get := by rw [get, h]
  getOrInit disk := by
    unfold getOrInit
    simp only [h]
    rfl

theorem vacant_of_none (h : session.plugin = none) : session.Vacant where
  init_ok _ _ _ hmake := value_initWith_of_ok h hmake
  init_error _ _ _ hmake := value_initWith_of_error h hmake
  initFromTable_ok _ _ _ hmake := value_initWith_of_ok h hmake
  initFromTable_error _ _ _ hmake := value_initWith_of_error h hmake
  get := by rw [get, h]
  getOrInit_ok disk plugin hmake := by
    have hinit : (session.init disk {}).value = (.ok (), session.place plugin) :=
      value_initWith_of_ok h hmake
    unfold getOrInit
    simp only [h, Logged.value_bind, hinit]
    rfl
  getOrInit_error disk cause hmake := by
    have hinit : (session.init disk {}).value = (.error (.notCreated cause), session) :=
      value_initWith_of_error h hmake
    unfold getOrInit
    simp only [h, Logged.value_bind, hinit]
    rfl

/-! ## Many calls -/

/-- What a host can ask for. The disk is what it is at the time of the call. -/
inductive Call where
  | init (disk : Disk) (config : Config)
  | initFromTable (table : RuleTable) (config : Config)
  | get
  | getOrInit (disk : Disk)

namespace Call

/-- The session after a call. -/
def next (session : Session) : Call → Session
  | init disk config => (session.init disk config).value.2
  | initFromTable table config => (session.initFromTable table config).value.2
  | get => session
  | getOrInit disk => (session.getOrInit disk).value.2

/-- The plugin that a call can make, whether or not there is one already. -/
def plugin? : Call → Option Plugin
  | init disk config => (Plugin.ofConfig disk config).outcome.toOption
  | initFromTable table config => (Plugin.ofTable table config).outcome.toOption
  | get => none
  | getOrInit disk => (Plugin.ofConfig disk {}).outcome.toOption

theorem next_of_some (h : session.plugin = some plugin) (call : Call) :
    next session call = session := by
  have hholds := holds_of_some h
  cases call with
  | init disk config => rw [next, hholds.init]
  | initFromTable table config => rw [next, hholds.initFromTable]
  | get => rfl
  | getOrInit disk => rw [next, hholds.getOrInit]

/-- A call on a vacant session puts in place just the plugin that it can make. -/
theorem next_of_none (h : session.plugin = none) (call : Call) :
    next session call = call.plugin?.elim session session.place := by
  have hvacant := vacant_of_none h
  cases call with
  | init disk config =>
    rw [next, plugin?]
    rcases hmake : (Plugin.ofConfig disk config).outcome with cause | plugin
    · rw [hvacant.init_error _ _ _ hmake]
      rfl
    · rw [hvacant.init_ok _ _ _ hmake]
      rfl
  | initFromTable table config =>
    rw [next, plugin?]
    rcases hmake : (Plugin.ofTable table config).outcome with cause | plugin
    · rw [hvacant.initFromTable_error _ _ _ hmake]
      rfl
    · rw [hvacant.initFromTable_ok _ _ _ hmake]
      rfl
  | get => rfl
  | getOrInit disk =>
    rw [next, plugin?]
    rcases hmake : (Plugin.ofConfig disk {}).outcome with cause | plugin
    · rw [hvacant.getOrInit_error _ _ hmake]
      rfl
    · rw [hvacant.getOrInit_ok _ _ hmake]
      rfl

end Call

/-- The session after some calls. -/
def after (calls : List Call) (session : Session := {}) : Session :=
  calls.foldl Call.next session

theorem after_append (calls more : List Call) (session : Session) :
    after (calls ++ more) session = after more (after calls session) :=
  List.foldl_append

theorem after_of_some (h : session.plugin = some plugin) : ∀ calls, after calls session = session
  | [] => rfl
  | call :: rest => by
    rw [after, List.foldl_cons, Call.next_of_some h]
    exact after_of_some h rest

/-- A vacant session ends up with the plugin of the first call that can make one. -/
theorem after_of_none : ∀ (calls : List Call) {session : Session}, session.plugin = none →
    after calls session = (calls.findSome? Call.plugin?).elim session session.place
  | [], session, _ => rfl
  | call :: rest, session, h => by
    rw [after, List.foldl_cons, Call.next_of_none h, List.findSome?_cons]
    rcases call.plugin? with _ | plugin
    · exact after_of_none rest h
    · exact after_of_some rfl rest

theorem plugin_after (calls : List Call) :
    (after calls).plugin = calls.findSome? Call.plugin? := by
  rw [after_of_none calls rfl]
  rcases calls.findSome? Call.plugin? with _ | plugin <;> rfl

/-- After any calls the session holds the plugin of the first one that could make one, for good, and it
was put in place once; without such a call the session is vacant. -/
theorem settled_after (calls : List Call) :
    (after calls).plugin = calls.findSome? Call.plugin? ∧
    (after calls).placed = (calls.findSome? Call.plugin?).toList.length ∧
    (∀ plugin, calls.findSome? Call.plugin? = some plugin →
      (after calls).Holds plugin ∧ ∀ more, after (calls ++ more) = after calls) ∧
    (calls.findSome? Call.plugin? = none → (after calls).Vacant) ∧
    ((after calls).get = .error .notInitialized ↔ ∀ call ∈ calls, call.plugin? = none) := by
  have hplugin := plugin_after calls
  refine ⟨hplugin, ?_, ?_, ?_, ?_⟩
  · rw [after_of_none calls rfl]
    rcases calls.findSome? Call.plugin? with _ | plugin <;> rfl
  · intro plugin hfirst
    rw [hfirst] at hplugin
    refine ⟨holds_of_some hplugin, fun more => ?_⟩
    rw [after_append, after_of_some hplugin]
  · intro hnone
    exact vacant_of_none (hplugin.trans hnone)
  · rw [← List.findSome?_eq_none_iff, ← hplugin]
    rcases h : (after calls).plugin with _ | plugin
    · simp [(vacant_of_none h).get]
    · simp [(holds_of_some h).get]

/-- A file that is not there, then a table for another runtime, then the file once more. -/
def retried : List Call :=
  [.init ⟨fun _ => .error .notFound⟩ (.ofFile "rules"), .initFromTable {} { runtime := ⟨3, 8⟩ },
    .init ⟨fun _ => .error .notFound⟩ (.ofFile "rules")]

theorem settled_after_retried : (after (retried.take 1)).Vacant ∧ (after retried).placed = 1 ∧
    ∃ plugin, retried.findSome? Call.plugin? = some plugin ∧ plugin.runtime = ⟨3, 8⟩ ∧
      (after retried).Holds plugin := by
  have hfail : ((retried.take 1).findSome? Call.plugin?).isNone = true := by decide +kernel
  have hruntime : (retried.findSome? Call.plugin?).map Plugin.runtime = some ⟨3, 8⟩ := by
    decide +kernel
  obtain ⟨plugin, hplugin, hversion⟩ := Option.map_eq_some_iff.1 hruntime
  obtain ⟨-, hplaced, hholds, -, -⟩ := settled_after retried
  obtain ⟨-, -, -, hvacant, -⟩ := settled_after (retried.take 1)
  rw [hplugin] at hplaced
  exact ⟨hvacant (Option.isNone_iff_eq_none.1 hfail), hplaced, plugin, hplugin, hversion,
    (hholds plugin hplugin).1⟩

end HiddenImports.Session
