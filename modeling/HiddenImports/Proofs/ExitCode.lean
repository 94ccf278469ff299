import HiddenImports.CommandLine
import HiddenImports.Proofs.Cascade
import HiddenImports.Proofs.Loading

/-!
# What the exit code tells

A plugin can be made of a configuration just if its rules can be loaded
(`outcome_ofConfig_eq_error_iff`), and for one file that comes to the same whether it is the base, the
only layer over an empty base or the file to check (`exists_ofConfig_base_iff`,
`exists_ofConfig_layer_iff`). What goes wrong with a command is what `Fails` lists, and the code of a
reply is read off from that: 2 if something fails, 1 if a path has no alias, else 0 (`reply_code`). What
was printed before a failure would be left standing, but every step that can fail comes before the first
text is printed (`Printed.Withholds`).
-/

namespace HiddenImports

open RuleTable

variable {disk : Disk} {config : Config} {failure : Failure}

/-! ## Making a plugin -/

theorem Config.outcome_loadBook_eq_error_iff : (config.loadBook disk).outcome = .error failure ↔
    (config.load disk).outcome = .error failure ∨
      ∃ table fault, (config.load disk).outcome = .ok table ∧
        table.compile.outcome = .error fault ∧ failure = .badRules fault := by
  rw [outcome_loadBook, bind_eq_error_iff]
  simp only [mapError_eq_error_iff, ← exists_and_left, @eq_comm _ failure]

namespace Plugin

theorem outcome_ofConfig_of_builtin (h : config.usesBuiltinOnly = true) :
    (ofConfig disk config).outcome = .ok (builtin config).value := by
  unfold ofConfig
  rw [if_pos h]
  rfl

theorem outcome_ofConfig_of_own (h : config.usesBuiltinOnly = false) :
    (ofConfig disk config).outcome =
      (config.loadBook disk).outcome.map fun book => ⟨.own book, config⟩ := by
  unfold ofConfig
  rw [if_neg (by simp [h]), Attempt.outcome_bind]
  rcases (config.loadBook disk).outcome with failure | book <;> rfl

theorem exists_loadBook_of_builtin (h : config.usesBuiltinOnly = true) :
    ∃ book, (config.loadBook disk).outcome = .ok book := by
  simp only [Config.usesBuiltinOnly, Bool.and_eq_true, beq_iff_eq, List.isEmpty_iff] at h
  obtain ⟨horigin, hlayers⟩ := h
  have hreads : config.Reads disk Builtin.table [] :=
    ⟨by rw [Config.base, horigin], by rw [hlayers]; rfl⟩
  obtain ⟨_, _, -, -, hbook⟩ := outcome_compile Builtin.check_table
  exact ⟨_, Config.outcome_loadBook_eq_ok_iff.2 ⟨Builtin.table, [], hreads, by simp, hbook⟩⟩

/-- The built-in rules, which are not loaded, could be. -/
theorem outcome_ofConfig_eq_error_iff : (ofConfig disk config).outcome = .error failure ↔
    (config.loadBook disk).outcome = .error failure := by
  rcases h : config.usesBuiltinOnly with _ | _
  · rw [outcome_ofConfig_of_own h]
    exact map_eq_error_iff
  · obtain ⟨book, hbook⟩ := @exists_loadBook_of_builtin disk config h
    rw [outcome_ofConfig_of_builtin h, hbook]
    simp only [reduceCtorEq]

theorem exists_ofConfig_iff : (∃ plugin, (ofConfig disk config).outcome = .ok plugin) ↔
    ∃ book, (config.loadBook disk).outcome = .ok book := by
  simp only [exists_eq_ok_iff, ne_eq, outcome_ofConfig_eq_error_iff]

end Plugin

/-! ## One file in three places -/

/-- The file holds a table that passes the check. -/
def Disk.HoldsSound (disk : Disk) (file : String) : Prop :=
  ∃ table, disk.readTable file = .ok table ∧ table.check = .ok ()

namespace Plugin

variable {file : String} {runtime : Version}

theorem exists_ofConfig_base_iff :
    (∃ plugin, (ofConfig disk { origin := .file file, runtime }).outcome = .ok plugin) ↔
      disk.HoldsSound file := by
  rw [exists_ofConfig_iff, Config.exists_loadBook_iff]
  constructor
  · rintro ⟨base, tops, hreads, hall, -⟩
    exact ⟨base, hreads.base, hall base (by simp)⟩
  · rintro ⟨table, htable, hcheck⟩
    obtain ⟨-, hbuild, -⟩ := check_eq_ok_iff.1 hcheck
    exact ⟨table, [], ⟨htable, rfl⟩, by simpa using hcheck, by simpa using hbuild⟩

/-- The empty base has no patch that one of the layer could trigger. -/
theorem exists_ofConfig_layer_iff {base : String} (h : disk.read base = .ok "\x7b\x7d".toUTF8) :
    (∃ plugin, (ofConfig disk { origin := .file base, runtime, layers := [file] }).outcome =
      .ok plugin) ↔ disk.HoldsSound file := by
  have hempty : ofBytes "\x7b\x7d".toUTF8 = .ok .empty := by decide +kernel
  have hbase : disk.readTable base = .ok .empty := by
    rw [Disk.readTable, h]
    simp only [hempty]
    rfl
  rw [exists_ofConfig_iff, Config.exists_loadBook_iff]
  constructor
  · rintro ⟨low, tops, hreads, hall, -⟩
    have htops := mapM_eq_ok_iff.1 hreads.layers
    obtain ⟨table, hmem, htable⟩ := forall₂_exists_right htops (List.mem_singleton_self file)
    exact ⟨table, htable, hall table (List.mem_cons_of_mem low hmem)⟩
  · rintro ⟨table, htable, hcheck⟩
    have hcheckEmpty : RuleTable.empty.check = .ok () := rfl
    obtain ⟨-, hbuild, -⟩ := check_eq_ok_iff.1 hcheck
    have hlayers : [file].mapM disk.readTable = .ok [table] :=
      mapM_eq_ok_iff.2 (.cons htable .nil)
    refine ⟨.empty, [table], ⟨hbase, hlayers⟩, ?_, ?_⟩
    · simpa using ⟨hcheckEmpty, hcheck⟩
    · simpa [empty] using hbuild

end Plugin

/-! ## Commands -/

namespace CommandLine

/-- What can go wrong with a command: rules that cannot be loaded or compiled, a source that cannot be
read, and a file to check that cannot be read or does not pass. -/
inductive Fails (disk : Disk) (config : Config) : Command → Failure → Prop where
  | load {question : Question} {failure : Failure}
      (h : (config.load disk).outcome = .error failure) :
      Fails disk config (.ask question) failure
  | compile {question : Question} {table : RuleTable} {fault : Fault}
      (h : (config.load disk).outcome = .ok table) (hcompile : table.compile.outcome = .error fault) :
      Fails disk config (.ask question) (.badRules fault)
  | source {module file : String} {book : RuleBook} {cause : ReadError}
      (h : (config.loadBook disk).outcome = .ok book) (hsource : disk.readText file = .error cause) :
      Fails disk config (.ask (.patch module file)) (.io cause)
  | file {file : String} {failure : Failure} (h : disk.readTable file = .error failure) :
      Fails disk config (.check file) failure
  | check {file : String} {table : RuleTable} {fault : Fault}
      (h : disk.readTable file = .ok table) (hcheck : table.check = .error fault) :
      Fails disk config (.check file) (.badRules fault)

/-- A plugin is asked for an alias that it does not know. -/
inductive Unanswered (disk : Disk) (config : Config) : Command → Prop where
  | target {path : String} {plugin : Plugin} (h : (Plugin.ofConfig disk config).outcome = .ok plugin)
      (hnone : plugin.hooks.target? path = none) : Unanswered disk config (.ask (.target path))

variable {command : Command} {question : Question} {plugin : Plugin} {file : String}

theorem fails_of_ofConfig (h : (Plugin.ofConfig disk config).outcome = .error failure) :
    Fails disk config (.ask question) failure := by
  have hbook := Plugin.outcome_ofConfig_eq_error_iff.1 h
  rcases Config.outcome_loadBook_eq_error_iff.1 hbook with hload | ⟨table, fault, hload, hcompile, rfl⟩
  · exact .load hload
  · exact .compile hload hcompile

theorem outcome_forM_print (names : List String) :
    (names.forM fun name => print (line name)).outcome = .ok () := by
  induction names with
  | nil => rfl
  | cons name rest ih => exact (Printed.outcome_bind _ _).trans ih

/-- A question has the code 0, but for a source that cannot be read and a path without an alias. -/
theorem outcome_answer (disk : Disk) (plugin : Plugin) (question : Question) :
    (answer disk plugin question).outcome =
      match question with
      | .patch _ file => ((disk.readText file).mapError .io).map fun _ => 0
      | .target path => .ok (if plugin.hooks.target? path = none then 1 else 0)
      | _ => .ok 0 := by
  cases question with
  | imports module =>
    rw [answer, Printed.outcome_bind, outcome_forM_print]
    rfl
  | patch module file =>
    rw [answer, Printed.outcome_bind, Printed.outcome_ofExcept]
    show _ = ((disk.readText file).mapError Failure.io).map _
    cases disk.readText file <;> rfl
  | target path =>
    rw [answer]
    show _ = Except.ok (if plugin.hooks.target? path = none then 1 else 0)
    cases plugin.hooks.target? path <;> rfl
  | suppress module => rfl

theorem answer_eq_error_iff : (answer disk plugin question).outcome = .error failure ↔
    ∃ module file cause, question = .patch module file ∧ disk.readText file = .error cause ∧
      failure = .io cause := by
  rw [outcome_answer]
  cases question with
  | patch module file => simp [map_eq_error_iff, mapError_eq_error_iff, @eq_comm _ failure]
  | _ => simp

theorem answer_eq_ok_one_iff : (answer disk plugin question).outcome = .ok 1 ↔
    ∃ path, question = .target path ∧ plugin.hooks.target? path = none := by
  rw [outcome_answer]
  cases question with
  | patch module file => simp [map_eq_ok_iff]
  | target path => by_cases h : plugin.hooks.target? path = none <;> simp [h]
  | _ => simp

theorem code_of_answer {code : UInt8} (h : (answer disk plugin question).outcome = .ok code) :
    code = 0 ∨ code = 1 := by
  rw [outcome_answer] at h
  cases question with
  | patch module file =>
    obtain ⟨_, -, rfl⟩ := map_eq_ok_iff.1 h
    exact .inl rfl
  | target path => by_cases hnone : plugin.hooks.target? path = none <;> simp_all
  | _ => simp_all

theorem outcome_checkFile (disk : Disk) (file : String) : (checkFile disk file).outcome =
    disk.readTable file >>= fun table => (table.check.mapError .badRules).map fun _ => 0 := by
  rw [checkFile, Printed.outcome_bind, Printed.outcome_ofExcept]
  congr 1
  funext table
  rw [Printed.outcome_bind, Printed.outcome_ofExcept]
  cases table.check <;> rfl

theorem perform_check_eq_error_iff : (perform disk config (.check file)).outcome = .error failure ↔
    Fails disk config (.check file) failure := by
  rw [perform, outcome_checkFile, bind_eq_error_iff]
  simp only [map_eq_error_iff, mapError_eq_error_iff]
  constructor
  · rintro (htable | ⟨table, htable, fault, hcheck, rfl⟩)
    · exact .file htable
    · exact .check htable hcheck
  · intro h
    cases h with
    | file htable => exact .inl htable
    | check htable hcheck => exact .inr ⟨_, htable, _, hcheck, rfl⟩

theorem outcome_perform_ask (disk : Disk) (config : Config) (question : Question) :
    (perform disk config (.ask question)).outcome =
      (Plugin.ofConfig disk config).outcome >>= fun plugin =>
        (answer disk plugin question).outcome := by
  rw [perform, Printed.outcome_bind, Printed.outcome_ofExcept]

/-- A command gives a failure just if something goes wrong, and the failure is the one that does. -/
theorem perform_eq_error_iff : (perform disk config command).outcome = .error failure ↔
    Fails disk config command failure := by
  constructor
  · intro h
    cases command with
    | check file => exact perform_check_eq_error_iff.1 h
    | ask question =>
      rw [outcome_perform_ask, bind_eq_error_iff] at h
      rcases h with hplugin | ⟨plugin, hplugin, hanswer⟩
      · exact fails_of_ofConfig hplugin
      · obtain ⟨module, file, cause, rfl, hsource, rfl⟩ := answer_eq_error_iff.1 hanswer
        obtain ⟨book, hbook⟩ := Plugin.exists_ofConfig_iff.1 ⟨plugin, hplugin⟩
        exact .source hbook hsource
  · intro h
    cases h with
    | load hload =>
      have hbook := Config.outcome_loadBook_eq_error_iff.2 (.inl hload)
      rw [outcome_perform_ask, bind_eq_error_iff]
      exact .inl (Plugin.outcome_ofConfig_eq_error_iff.2 hbook)
    | compile hload hcompile =>
      have hbook := Config.outcome_loadBook_eq_error_iff.2 (.inr ⟨_, _, hload, hcompile, rfl⟩)
      rw [outcome_perform_ask, bind_eq_error_iff]
      exact .inl (Plugin.outcome_ofConfig_eq_error_iff.2 hbook)
    | source hbook hsource =>
      obtain ⟨plugin, hplugin⟩ := Plugin.exists_ofConfig_iff.2 ⟨_, hbook⟩
      rw [outcome_perform_ask, bind_eq_error_iff]
      exact .inr ⟨plugin, hplugin, answer_eq_error_iff.2 ⟨_, _, _, rfl, hsource, rfl⟩⟩
    | file htable => exact perform_check_eq_error_iff.2 (.file htable)
    | check htable hcheck => exact perform_check_eq_error_iff.2 (.check htable hcheck)

theorem perform_eq_ok_one_iff : (perform disk config command).outcome = .ok 1 ↔
    Unanswered disk config command := by
  constructor
  · intro h
    cases command with
    | check file =>
      rw [perform, outcome_checkFile] at h
      obtain ⟨table, -, hcheck⟩ := bind_eq_ok_iff.1 h
      obtain ⟨_, -, hcode⟩ := map_eq_ok_iff.1 hcheck
      exact absurd hcode (by decide)
    | ask question =>
      rw [outcome_perform_ask] at h
      obtain ⟨plugin, hplugin, hanswer⟩ := bind_eq_ok_iff.1 h
      obtain ⟨path, rfl, hnone⟩ := answer_eq_ok_one_iff.1 hanswer
      exact .target hplugin hnone
  · rintro ⟨hplugin, hnone⟩
    rw [outcome_perform_ask, bind_eq_ok_iff]
    exact ⟨_, hplugin, answer_eq_ok_one_iff.2 ⟨_, rfl, hnone⟩⟩

theorem code_of_perform {code : UInt8} (h : (perform disk config command).outcome = .ok code) :
    code = 0 ∨ code = 1 := by
  cases command with
  | check file =>
    rw [perform, outcome_checkFile] at h
    obtain ⟨table, -, hcheck⟩ := bind_eq_ok_iff.1 h
    obtain ⟨_, -, rfl⟩ := map_eq_ok_iff.1 hcheck
    exact .inl rfl
  | ask question =>
    rw [outcome_perform_ask] at h
    obtain ⟨plugin, -, hanswer⟩ := bind_eq_ok_iff.1 h
    exact code_of_answer hanswer

/-! ## What is printed -/

namespace Printed

variable {α : Type} {x : Printed UInt8}

/-- Nothing is printed unless the code is 0. -/
def Withholds (x : Printed UInt8) : Prop := x.outcome ≠ .ok 0 → x.output = ""

theorem withholds_of_ok (h : x.outcome = .ok 0) : x.Withholds := fun hne => absurd h hne

/-- A step that prints nothing may fail, if it comes first. -/
theorem withholds_ofExcept_bind {r : Except Failure α} {f : α → Printed UInt8}
    (hf : ∀ a, (f a).Withholds) : (ofExcept r >>= f).Withholds := by
  rcases r with failure | a
  · exact fun _ => rfl
  · intro h
    have houtput : (ofExcept (.ok a) >>= f).output = "" ++ (f a).output := rfl
    rw [houtput, String.empty_append]
    exact hf a h

end Printed

theorem withholds_checkFile (disk : Disk) (file : String) : (checkFile disk file).Withholds :=
  Printed.withholds_ofExcept_bind fun _ => Printed.withholds_ofExcept_bind fun _ =>
    Printed.withholds_of_ok rfl

theorem withholds_answer (disk : Disk) (plugin : Plugin) (question : Question) :
    (answer disk plugin question).Withholds := by
  cases question with
  | imports module => exact Printed.withholds_of_ok (outcome_answer disk plugin _)
  | patch module file =>
    rw [answer]
    exact Printed.withholds_ofExcept_bind fun _ => Printed.withholds_of_ok rfl
  | target path =>
    rw [answer]
    split
    · exact fun _ => rfl
    · exact Printed.withholds_of_ok rfl
  | suppress module => exact Printed.withholds_of_ok (outcome_answer disk plugin _)

theorem withholds_perform (disk : Disk) (config : Config) (command : Command) :
    (perform disk config command).Withholds := by
  cases command with
  | check file => exact withholds_checkFile disk file
  | ask question => exact Printed.withholds_ofExcept_bind fun plugin =>
      withholds_answer disk plugin question

/-! ## Replies -/

theorem code_run (disk : Disk) (config : Config) (command : Command) :
    (run disk config command).code =
      match (perform disk config command).outcome with
      | .error _ => 2
      | .ok code => code := by
  rcases h : (perform disk config command).outcome <;> simp only [run, h]

/-- What was printed is put out, also before a failure. -/
theorem output_run (disk : Disk) (config : Config) (command : Command) :
    (run disk config command).output = (perform disk config command).output := by
  rcases h : (perform disk config command).outcome <;> simp only [run, h]

theorem code_run_eq_two_iff : (run disk config command).code = 2 ↔
    ∃ failure, Fails disk config command failure := by
  simp only [← perform_eq_error_iff, code_run]
  rcases h : (perform disk config command).outcome with failure | code
  · simp
  · rcases code_of_perform h with rfl | rfl <;> simp

theorem code_run_eq_one_iff : (run disk config command).code = 1 ↔
    Unanswered disk config command := by
  rw [← perform_eq_ok_one_iff, code_run]
  rcases (perform disk config command).outcome with failure | code <;> simp

theorem code_run_eq_zero_iff : (run disk config command).code = 0 ↔
    (∀ failure, ¬ Fails disk config command failure) ∧ ¬ Unanswered disk config command := by
  simp only [← perform_eq_error_iff, ← perform_eq_ok_one_iff, code_run]
  rcases h : (perform disk config command).outcome with failure | code
  · simp
  · rcases code_of_perform h with rfl | rfl <;> simp

theorem output_run_of_code_ne_zero (h : (run disk config command).code ≠ 0) :
    (run disk config command).output = "" := by
  rw [output_run]
  refine withholds_perform disk config command fun hperform => h ?_
  rw [code_run, hperform]

theorem code_run_check_eq_zero_iff :
    (run disk config (.check file)).code = 0 ↔ disk.HoldsSound file := by
  rw [code_run_eq_zero_iff]
  constructor
  · rintro ⟨hsound, -⟩
    obtain ⟨table, htable⟩ := exists_eq_ok_iff.2 fun f h => hsound f (.file h)
    obtain ⟨⟨⟩, hcheck⟩ := exists_eq_ok_iff.2 fun f h => hsound (.badRules f) (.check htable h)
    exact ⟨table, htable, hcheck⟩
  · rintro ⟨table, htable, hcheck⟩
    refine ⟨?_, nofun⟩
    intro failure h
    cases h with
    | file h =>
      rw [htable] at h
      cases h
    | check h hfault =>
      rw [htable] at h
      cases h
      rw [hcheck] at hfault
      cases hfault

/-- A call that comes to a command has code 2 if something goes wrong, 1 if a path has no alias and else
0, and puts out nothing unless the code is 0. The check of a file has code 0 just if a plugin can be made
with the file as its base, or as the only layer over an empty base. -/
theorem reply_code (disk : Disk) (arguments : List String) (config : Config) (command : Command)
    (h : request arguments = .run config command) :
    ((reply disk arguments).code = 2 ↔ ∃ failure, Fails disk config command failure) ∧
    ((reply disk arguments).code = 1 ↔ Unanswered disk config command) ∧
    ((reply disk arguments).code = 0 ↔
      (∀ failure, ¬ Fails disk config command failure) ∧ ¬ Unanswered disk config command) ∧
    ((reply disk arguments).code ≠ 0 → (reply disk arguments).output = "") ∧
    ∀ file, command = .check file → ∀ runtime,
      ((reply disk arguments).code = 0 ↔ ∃ plugin,
        (Plugin.ofConfig disk { origin := .file file, runtime }).outcome = .ok plugin) ∧
      ∀ base, disk.read base = .ok "{}".toUTF8 →
        ((reply disk arguments).code = 0 ↔ ∃ plugin,
          (Plugin.ofConfig disk { origin := .file base, runtime, layers := [file] }).outcome =
            .ok plugin) := by
  have hreply : reply disk arguments = run disk config command := by
    unfold reply
    rw [h]
  rw [hreply]
  refine ⟨code_run_eq_two_iff, code_run_eq_one_iff, code_run_eq_zero_iff,
    output_run_of_code_ne_zero, ?_⟩
  rintro file rfl runtime
  rw [code_run_check_eq_zero_iff]
  refine ⟨Plugin.exists_ofConfig_base_iff.symm, ?_⟩
  intro base hbase
  exact (Plugin.exists_ofConfig_layer_iff hbase).symm

/-- The files of `threeFiles`, and one with nothing in it. -/
def fourFiles : Disk where
  read path := if path = "empty" then .ok "{}".toUTF8 else Config.threeFiles.read path

/-- A sound file passes, a missing one fails, and a module that was not renamed has no alias. -/
theorem reply_code_low :
    (∃ plugin, (Plugin.ofConfig fourFiles { origin := .file "low" }).outcome = .ok plugin) ∧
    (∃ plugin, (Plugin.ofConfig fourFiles
      { origin := .file "empty", layers := ["low"] }).outcome = .ok plugin) ∧
    (∃ failure, Fails fourFiles {} (.check "missing") failure) ∧
    (reply fourFiles ["check", "missing"]).output = "" ∧
    Unanswered fourFiles {} (.ask (.target "urllib3")) ∧
    (reply fourFiles ["alias", "urllib3"]).output = "" := by
  have htable : fourFiles.readTable "low" = .ok Config.lowTable := Config.readTable_low
  have hcode : (reply fourFiles ["check", "low"]).code = 0 :=
    code_run_check_eq_zero_iff.2 ⟨_, htable, Config.check_lowTable⟩
  have hfails : Fails fourFiles {} (.check "missing") (.unreadable "missing" .notFound) := .file rfl
  have hnone : Unanswered fourFiles {} (.ask (.target "urllib3")) :=
    .target (Plugin.outcome_ofConfig_of_builtin rfl) (Builtin.target?_book "urllib3")
  obtain ⟨-, -, -, -, hsound⟩ :=
    reply_code fourFiles ["check", "low"] {} (.check "low") (by decide +kernel)
  obtain ⟨hbase, hlayer⟩ := hsound "low" rfl .default
  obtain ⟨htwo, -, -, hmissing, -⟩ :=
    reply_code fourFiles ["check", "missing"] {} (.check "missing") (by decide +kernel)
  obtain ⟨-, hone, -, halias, -⟩ :=
    reply_code fourFiles ["alias", "urllib3"] {} (.ask (.target "urllib3")) (by decide +kernel)
  exact ⟨hbase.1 hcode, (hlayer "empty" rfl).1 hcode, ⟨_, hfails⟩, hmissing (by simp [htwo.2 ⟨_, hfails⟩]),
    hnone, halias (by simp [hone.2 hnone])⟩

end CommandLine

end HiddenImports
