import HiddenImports.Proofs.Loading

/-!
# The first flawed file

A configuration asks for the file of its base, if it has one, and then for its layers in order. Each
file is looked at by itself, so loading fails just if one of them has a flaw, with that of the first one
(`outcome_load_eq_error_iff`), whatever the files after it hold (`load_fails_at_first`). The text of the
failure names the file.
-/

namespace HiddenImports

namespace Config

/-- A file that a configuration asks for. -/
inductive Source where
  | base (path : String)
  | layer (path : String)

namespace Source

def path : Source → String
  | base path => path
  | layer path => path

/-- The table that is got from the file. -/
def read (disk : Disk) : Source → Except Failure RuleTable
  | base path => disk.readTable path
  | layer path => disk.readLayer path

/-- What is wrong with the file: it cannot be read, it holds no table or, if it is a layer, its table
does not pass the check by itself. -/
inductive Flaw (disk : Disk) : Source → Failure → Prop where
  | unreadable {source : Source} {cause : ReadError} (h : disk.read source.path = .error cause) :
      Flaw disk source (.unreadable source.path cause)
  | undecodable {source : Source} {bytes : ByteArray} {cause : Fault}
      (h : disk.read source.path = .ok bytes) (hbytes : RuleTable.ofBytes bytes = .error cause) :
      Flaw disk source (.undecodable source.path cause)
  | unsound {path : String} {bytes : ByteArray} {table : RuleTable} {cause : Fault}
      (h : disk.read path = .ok bytes) (hbytes : RuleTable.ofBytes bytes = .ok table)
      (hcheck : table.check = .error cause) : Flaw disk (.layer path) (.badLayer path cause)

end Source

/-- The files of a configuration in the order in which they are read. -/
def sources (config : Config) : List Source :=
  (match config.origin with
    | .builtin => []
    | .file path => [.base path]) ++ config.layers.map .layer

/-- The configuration asks for the files `before` and then for `source`, which is the first one with a
flaw. -/
structure FailsAt (config : Config) (disk : Disk) (before : List Source) (source : Source)
    (failure : Failure) : Prop where
  split : ∃ after, config.sources = before ++ source :: after
  before : ∀ s ∈ before, ∀ f, ¬ s.Flaw disk f
  flaw : source.Flaw disk failure

end Config

/-! ## What a failure says -/

namespace Failure

/-- The failure is one of loading, and what it says names the file. -/
def Names (failure : Failure) (path : String) : Prop :=
  ∃ text, failure.message = "规则加载失败：" ++ text ∧ Text.Occurs path.toList text.toList

variable {path : String}

theorem names_of_message_eq {failure : Failure} (before after : String)
    (h : failure.message = "规则加载失败：" ++ (before ++ path ++ after)) : failure.Names path :=
  ⟨before ++ path ++ after, h, before.toList, after.toList, by simp only [String.toList_append]⟩

theorem names_of_local_path {failure : Failure} (after : String)
    (h : failure.message = "规则加载失败：本地路径[" ++ path ++ after) : failure.Names path := by
  have hwords : "规则加载失败：本地路径[" = "规则加载失败：" ++ "本地路径[" := by decide
  refine names_of_message_eq "本地路径[" after ?_
  rw [h, hwords]
  simp only [String.append_assoc]

theorem names_unreadable (cause : ReadError) : (unreadable path cause).Names path := by
  have hmessage : (unreadable path cause).message =
      "规则加载失败：本地路径[" ++ path ++ "]读取失败: " ++ cause.message := rfl
  exact names_of_local_path _ (hmessage.trans String.append_assoc)

theorem names_undecodable (cause : Fault) : (undecodable path cause).Names path := by
  have hmessage : (undecodable path cause).message =
      "规则加载失败：本地路径[" ++ path ++ "]解析失败: " ++ cause.message := rfl
  exact names_of_local_path _ (hmessage.trans String.append_assoc)

theorem names_badLayer (cause : Fault) : (badLayer path cause).Names path := by
  have hmessage : (badLayer path cause).message =
      "规则加载失败：" ++ path ++ ": " ++ cause.message := rfl
  refine names_of_message_eq "" (": " ++ cause.message) ?_
  rw [hmessage]
  simp only [String.append_assoc, String.empty_append]

end Failure

open RuleTable

variable {disk : Disk} {failure : Failure}

/-! ## One file -/

namespace Disk

variable {path : String}

theorem readTable_eq_ok_iff {table : RuleTable} : disk.readTable path = .ok table ↔
    ∃ bytes, disk.read path = .ok bytes ∧ ofBytes bytes = .ok table := by
  unfold readTable
  rcases disk.read path with cause | bytes <;> simp [mapError_eq_ok_iff]

theorem readTable_eq_error_iff : disk.readTable path = .error failure ↔
    (∃ cause, disk.read path = .error cause ∧ failure = .unreadable path cause) ∨
      ∃ bytes cause, disk.read path = .ok bytes ∧ ofBytes bytes = .error cause ∧
        failure = .undecodable path cause := by
  unfold readTable
  rcases disk.read path with cause | bytes
  · simp [eq_comm]
  · rcases hbytes : ofBytes bytes with cause | table <;> simp [hbytes, Except.mapError, eq_comm]

theorem readLayer_eq_error_iff : disk.readLayer path = .error failure ↔
    disk.readTable path = .error failure ∨
      ∃ table cause, disk.readTable path = .ok table ∧ table.check = .error cause ∧
        failure = .badLayer path cause := by
  unfold readLayer
  rcases disk.readTable path with other | table
  · simp
  · rcases hcheck : table.check with cause | u <;> simp [hcheck, eq_comm]

end Disk

namespace Config

namespace Source

variable {source : Source}

theorem read_of_readTable (h : disk.readTable source.path = .error failure) :
    source.read disk = .error failure := by
  cases source with
  | base path => exact h
  | layer path => exact Disk.readLayer_eq_error_iff.2 (.inl h)

theorem flaw_of_readTable (h : disk.readTable source.path = .error failure) :
    source.Flaw disk failure := by
  rcases Disk.readTable_eq_error_iff.1 h with ⟨cause, hread, rfl⟩ | ⟨bytes, cause, hread, hbytes, rfl⟩
  · exact .unreadable hread
  · exact .undecodable hread hbytes

theorem read_eq_error_iff : source.read disk = .error failure ↔ source.Flaw disk failure := by
  constructor
  · intro h
    cases source with
    | base path => exact flaw_of_readTable h
    | layer path =>
      rcases Disk.readLayer_eq_error_iff.1 h with h | ⟨table, cause, htable, hcheck, rfl⟩
      · exact flaw_of_readTable h
      · obtain ⟨bytes, hread, hbytes⟩ := Disk.readTable_eq_ok_iff.1 htable
        exact .unsound hread hbytes hcheck
  · intro h
    cases h with
    | unreadable hread =>
      exact read_of_readTable (Disk.readTable_eq_error_iff.2 (.inl ⟨_, hread, rfl⟩))
    | undecodable hread hbytes =>
      exact read_of_readTable (Disk.readTable_eq_error_iff.2 (.inr ⟨_, _, hread, hbytes, rfl⟩))
    | unsound hread hbytes hcheck =>
      have htable := Disk.readTable_eq_ok_iff.2 ⟨_, hread, hbytes⟩
      exact Disk.readLayer_eq_error_iff.2 (.inr ⟨_, _, htable, hcheck, rfl⟩)

theorem exists_read_iff : (∃ table, source.read disk = .ok table) ↔ ∀ f, ¬ source.Flaw disk f := by
  simp only [exists_eq_ok_iff, ← read_eq_error_iff, ne_eq]

theorem Flaw.names (h : source.Flaw disk failure) : failure.Names source.path := by
  cases h with
  | unreadable => exact Failure.names_unreadable _
  | undecodable => exact Failure.names_undecodable _
  | unsound => exact Failure.names_badLayer _

/-- Nothing but what the disk holds under the path of the file counts. -/
theorem Flaw.congr {disk' : Disk} (h : disk'.read source.path = disk.read source.path)
    (hflaw : source.Flaw disk failure) : source.Flaw disk' failure := by
  cases hflaw with
  | unreadable hread => exact .unreadable (h.trans hread)
  | undecodable hread hbytes => exact .undecodable (h.trans hread) hbytes
  | unsound hread hbytes hcheck => exact .unsound (h.trans hread) hbytes hcheck

end Source

/-! ## All files -/

variable {config : Config}

/-- The files that a configuration asks for are read one by one, whatever becomes of their tables. -/
theorem outcome_load_eq_error_iff_mapM : (config.load disk).outcome = .error failure ↔
    config.sources.mapM (Source.read disk) = .error failure := by
  have hlayers : (config.layers.map Source.layer).mapM (Source.read disk) =
      config.layers.mapM disk.readLayer := List.mapM_map
  rw [outcome_load, base, sources]
  rcases config.origin with _ | path
  · rw [List.nil_append, hlayers]
    exact map_eq_error_iff
  · rw [List.singleton_append, List.mapM_cons, hlayers, Source.read]
    dsimp only
    rcases disk.readTable path with other | base
    · simp [bind, Except.bind]
    · rcases config.layers.mapM disk.readLayer with other | tops <;>
        simp [bind, Except.bind, Except.map, pure, Except.pure]

theorem outcome_load_eq_error_iff : (config.load disk).outcome = .error failure ↔
    ∃ before source, config.FailsAt disk before source failure := by
  rw [outcome_load_eq_error_iff_mapM, mapM_eq_error_iff]
  simp only [Source.exists_read_iff, Source.read_eq_error_iff]
  constructor
  · rintro ⟨before, source, after, hsplit, hbefore, hflaw⟩
    exact ⟨before, source, ⟨after, hsplit⟩, hbefore, hflaw⟩
  · rintro ⟨before, source, ⟨after, hsplit⟩, hbefore, hflaw⟩
    exact ⟨before, source, after, hsplit, hbefore, hflaw⟩

/-- What comes after the first flawed file, in the configuration and on the disk, does not matter. -/
theorem FailsAt.congr {disk' : Disk} {config' : Config} {before : List Source} {source : Source}
    (h : config.FailsAt disk before source failure)
    (hsplit : ∃ after, config'.sources = before ++ source :: after)
    (hread : ∀ s ∈ before ++ [source], disk'.read s.path = disk.read s.path) :
    config'.FailsAt disk' before source failure where
  split := hsplit
  before s hs f hflaw := h.before s hs f (hflaw.congr (hread s (by simp [hs])).symm)
  flaw := h.flaw.congr (hread source (by simp))

/-- Loading fails just if a file has a flaw, with that of the first one that has; the text names this
file, and loading fails alike whatever the files after it are and hold. Without a flawed file the table
of the configuration is its base with the layers put over it, from the lowest to the highest. -/
theorem load_fails_at_first (disk : Disk) (config : Config) :
    (∀ failure, (config.load disk).outcome = .error failure ↔
      ∃ before source, config.FailsAt disk before source failure) ∧
    (∀ before source failure, config.FailsAt disk before source failure →
      failure.Names source.path ∧
      ∀ (disk' : Disk) (config' : Config), (∃ after, config'.sources = before ++ source :: after) →
        (∀ s ∈ before ++ [source], disk'.read s.path = disk.read s.path) →
          (config'.load disk').outcome = (config.load disk).outcome) ∧
    ((∀ source ∈ config.sources, ∀ failure, ¬ source.Flaw disk failure) →
      ∃ base tops, config.Reads disk base tops ∧
        (config.load disk).outcome = .ok (base.stack tops)) := by
  refine ⟨fun _ => outcome_load_eq_error_iff, fun before source failure h => ⟨h.flaw.names, ?_⟩, ?_⟩
  · intro disk' config' hsplit hread
    have hfails := outcome_load_eq_error_iff.2 ⟨before, source, h⟩
    rw [hfails, outcome_load_eq_error_iff]
    exact ⟨before, source, h.congr hsplit hread⟩
  · intro hsound
    rcases hload : (config.load disk).outcome with failure | table
    · obtain ⟨before, source, ⟨after, hsplit⟩, -, hflaw⟩ := outcome_load_eq_error_iff.1 hload
      exact absurd hflaw (hsound source (by simp [hsplit]) failure)
    · obtain ⟨base, tops, hreads, -, rfl⟩ := outcome_load_eq_ok_iff.1 hload
      exact ⟨base, tops, hreads, rfl⟩

/-- A file for `lowTable`, and one with a patch that brings back what it looks for. -/
def flawedFiles : Disk where
  read
    | "low" => threeFiles.read "low"
    | "endless" => .ok "[[],[[\"m\",\"a\",\"aa\"]]]".toUTF8
    | _ => .error .notFound

/-- A base and a layer without flaws, one with a flaw and one that is not there. -/
def twiceFlawed : Config where
  origin := .file "low"
  layers := ["low", "endless", "missing"]

/-- The flawed layer is named, and also if the one after it is there. -/
theorem load_fails_at_first_endless :
    let failure : Failure := .badLayer "endless" (.invalidPatch "m" .recreatesSearch)
    let disk' : Disk := ⟨fun path =>
      if path = "missing" then threeFiles.read "high" else flawedFiles.read path⟩
    twiceFlawed.FailsAt flawedFiles [.base "low", .layer "low"] (.layer "endless") failure ∧
      (twiceFlawed.load flawedFiles).outcome = .error failure ∧ failure.Names "endless" ∧
      (twiceFlawed.load disk').outcome = .error failure ∧
      ((overLow "low").load flawedFiles).outcome = .ok (lowTable.stack [lowTable]) := by
  intro failure disk'
  have htable : flawedFiles.readTable "low" = .ok lowTable := readTable_low
  have hlow : ∀ source ∈ [Source.base "low", .layer "low"], ∀ f, ¬ source.Flaw flawedFiles f := by
    have hread : ∀ source ∈ [Source.base "low", .layer "low"],
        source.read flawedFiles = .ok lowTable := by
      simp [Source.read, htable, Disk.readLayer_eq_ok_iff, check_lowTable]
    exact fun source hs => Source.exists_read_iff.1 ⟨lowTable, hread source hs⟩
  have hfails : twiceFlawed.FailsAt flawedFiles [.base "low", .layer "low"] (.layer "endless")
      failure :=
    ⟨⟨[.layer "missing"], rfl⟩, hlow, Source.read_eq_error_iff.1 (by decide +kernel)⟩
  have hsame : ∀ s ∈ [Source.base "low", .layer "low"] ++ [.layer "endless"],
      disk'.read s.path = flawedFiles.read s.path := by
    simp [disk', Source.path]
  obtain ⟨hiff, hfirst, -⟩ := load_fails_at_first flawedFiles twiceFlawed
  obtain ⟨hnames, hlater⟩ := hfirst _ _ _ hfails
  have hload := (hiff failure).2 ⟨_, _, hfails⟩
  have hload' := hlater disk' twiceFlawed ⟨[.layer "missing"], rfl⟩ hsame
  obtain ⟨-, -, hsound⟩ := load_fails_at_first flawedFiles (overLow "low")
  obtain ⟨base, tops, hreads, hok⟩ := hsound hlow
  have hlows : (overLow "low").Reads flawedFiles lowTable [lowTable] :=
    ⟨htable, mapM_eq_ok_iff.2 (.cons htable .nil)⟩
  obtain ⟨rfl, rfl⟩ := hreads.unique hlows
  exact ⟨hfails, hload, hnames, hload'.trans hload, hok⟩

end Config

end HiddenImports
