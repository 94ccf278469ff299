import HiddenImports.Plugin
import HiddenImports.Proofs.Compile
import HiddenImports.Proofs.Resolution
import HiddenImports.Proofs.Restoring
import HiddenImports.Proofs.WrittenTable

/-!
# What the built-in rules answer

The built-in table is what the shipped document says (`ofText_document`), and it passes the check, so
its book holds all of it. For any text the answer about imports is a walk down its families
(`answer_cons`): the Qt bindings are known by the first component, everything else by its whole name.
So a plugin with the built-in rules follows the cascade of the specification (`follows_builtin`), for
every text, runtime and source.
-/

namespace HiddenImports

/-! ## Reading a text -/

namespace RuleTable

/-- What is read depends on the characters alone, so that reading a literal need not decode it. -/
theorem ofText_ofList (cs : List Char) :
    ofText (String.ofList cs) = readWhole reader (cs.map some) := by
  rw [ofText, Json.ofText, String.toList_ofList]

/-- The bytes that encode a text are read as the text is. -/
theorem ofBytes_toUTF8 (text : String) : ofBytes text.toUTF8 = ofText text := by
  have htext : String.fromUTF8? text.toUTF8 = some text := dif_pos text.isValidUTF8
  rw [ofBytes, Json.ofBytes, htext]
  rfl

end RuleTable

/-! ## The shipped document -/

namespace Builtin

/-- The document that the built-in rules are taken from. -/
def document : String := "\x7b
    \"implicit_imports\": [
        \x7b
            \"pattern\": \x7b \"kind\": \"top_level\", \"names\": [\"PyQt4\", \"PyQt5\"] \x7d,
            \"imports\": [
                \x7b \"kind\": \"module\", \"name\": \"atexit\", \"when\": \x7b \"below\": \"3.0\" \x7d \x7d,
                \x7b \"kind\": \"module\", \"name\": \"sip\" \x7d,
                \x7b \"kind\": \"sibling\", \"child\": \"QtGui\", \"sibling\": \"QtCore\" \x7d,
                \x7b \"kind\": \"sibling\", \"child\": \"QtWidgets\", \"sibling\": \"QtGui\" \x7d
            ]
        \x7d,
        \x7b
            \"pattern\": \x7b \"kind\": \"full_name\", \"names\": [\"lxml.etree\"] \x7d,
            \"imports\": [
                \x7b \"kind\": \"module\", \"name\": \"gzip\" \x7d,
                \x7b \"kind\": \"module\", \"name\": \"lxml._elementpath\" \x7d
            ]
        \x7d,
        \x7b
            \"pattern\": \x7b \"kind\": \"full_name\", \"names\": [\"gtk._gtk\"] \x7d,
            \"imports\": [
                \x7b \"kind\": \"module\", \"name\": \"pangocairo\" \x7d,
                \x7b \"kind\": \"module\", \"name\": \"pango\" \x7d,
                \x7b \"kind\": \"module\", \"name\": \"cairo\" \x7d,
                \x7b \"kind\": \"module\", \"name\": \"gio\" \x7d,
                \x7b \"kind\": \"module\", \"name\": \"atk\" \x7d
            ]
        \x7d,
        \x7b
            \"pattern\": \x7b \"kind\": \"full_name\", \"names\": [\"reportlab.rl_config\"] \x7d,
            \"imports\": [
                \x7b \"kind\": \"module\", \"name\": \"reportlab.rl_settings\" \x7d
            ]
        \x7d,
        \x7b
            \"pattern\": \x7b \"kind\": \"full_name\", \"names\": [\"ctypes\"] \x7d,
            \"imports\": [
                \x7b \"kind\": \"module\", \"name\": \"_ctypes\" \x7d
            ]
        \x7d,
        \x7b
            \"pattern\": \x7b \"kind\": \"full_name\", \"names\": [\"gi._gi\"] \x7d,
            \"imports\": [
                \x7b \"kind\": \"module\", \"name\": \"gi._error\" \x7d
            ]
        \x7d,
        \x7b
            \"pattern\": \x7b \"kind\": \"full_name\", \"names\": [\"Tkinter\", \"tkinter\"] \x7d,
            \"imports\": [
                \x7b \"kind\": \"module\", \"name\": \"_tkinter\" \x7d
            ]
        \x7d
    ],
    \"source_patches\": [
        \x7b
            \"module\": \"numexpr.cpuinfo\",
            \"find\": \"type(attr) is types.MethodType\",
            \"replace\": \"isinstance(attr, types.MethodType)\"
        \x7d
    ],
    \"module_aliases\": [
        \x7b \"from\": \"requests.packages.urllib3\", \"to\": \"urllib3\" \x7d,
        \x7b \"from\": \"requests.packages.chardet\", \"to\": \"chardet\" \x7d
    ],
    \"suppressed_warnings\": [\"setuptools\"]
\x7d
"

set_option maxRecDepth 20000 in
/-- The built-in table is the one that the document holds. -/
theorem ofText_document : RuleTable.ofText document = .ok table := by
  refine (RuleTable.ofText_ofList _).trans ?_
  decide +kernel

theorem check_table : table.check = .ok () := RuleTable.check_eq_ok_iff.2 (by decide +kernel)

/-- The book holds the families, the patch, the aliases and the suppressed module of the table. -/
theorem exists_book : ∃ patches aliases, PatchBook.build table.patches = .ok patches ∧
    aliases.entries = table.aliases ∧
    book = ⟨.ofFamilies table.families, patches, aliases, .ofList table.suppressed⟩ ∧
    table.compile.outcome = .ok book := by
  obtain ⟨patches, aliases, hpatches, haliases, hcompile⟩ := RuleTable.outcome_compile check_table
  have hbook : book = ⟨.ofFamilies table.families, patches, aliases, .ofList table.suppressed⟩ := by
    rw [book, hcompile]
  exact ⟨patches, aliases, hpatches, haliases, hbook, hbook ▸ hcompile⟩

end Builtin

/-! ## A walk down the families -/

namespace Family

variable {name : String} {runtime : Version}

/-- The names that the first family to match a text gives for it. -/
def answer (families : List Family) (name : String) (runtime : Version) : List String :=
  ((families.find? (·.pattern.Matches name)).elim [] companions).filterMap fun companion =>
    companion.emit (beforeDot name) ((afterDot? name).map beforeDot) runtime

theorem walk_resolve (families : List Family) (name : String) (runtime : Version) :
    ((ImportIndex.ofFamilies families).resolve name runtime).value.walk.map Prod.fst =
      answer families name runtime := by
  rw [Pending.fst_walk, ImportIndex.names_resolve, ImportIndex.lookup_ofFamilies, answer]

theorem answer_cons (family : Family) (rest : List Family) :
    answer (family :: rest) name runtime =
      if family.pattern.Matches name then
        family.companions.filterMap fun companion =>
          companion.emit (beforeDot name) ((afterDot? name).map beforeDot) runtime
      else answer rest name runtime := by
  unfold answer
  rw [List.find?_cons]
  by_cases h : family.pattern.Matches name <;> simp [h]

end Family

namespace Builtin

open Family

variable {name : String} {runtime : Version}

theorem lookup_map_append (value : List String) (more : List (String × List String)) :
    ∀ names : List ModuleName, (names.map (fun m => (m.text, value)) ++ more).lookup name =
      if ∃ m ∈ names, m.text = name then some value else more.lookup name
  | [] => by simp
  | m :: names => by
    rw [List.map_cons, List.cons_append, List.lookup_cons, lookup_map_append value more names]
    by_cases h : m.text = name
    · simp [h]
    · simp [h, beq_false_of_ne (Ne.symm h)]

/-- Families for whole names are a list of names with the companions of each. -/
theorem answer_needs_cons {rest : List Family} {more : List (String × List String)}
    (h : answer rest name runtime = (more.lookup name).getD []) (names companions : List ModuleName) :
    answer (needs names companions :: rest) name runtime =
      ((names.map (fun m => (m.text, companions.map ModuleName.text)) ++ more).lookup name).getD
        [] := by
  have hall : ∀ top child, (companions.map always).filterMap (·.emit top child runtime) =
      companions.map ModuleName.text := by
    intro top child
    rw [List.filterMap_map, ← List.filterMap_eq_map]
    rfl
  rw [answer_cons, lookup_map_append, h]
  simp only [needs, Pattern.matches_fullName_iff, hall]
  split_ifs <;> rfl

/-! ## The cascade of the specification -/

/-- What the Qt bindings in the package `top` need beside their part `child`. -/
def qtCascade (top : String) (child : Option String) (runtime : Version) : List String :=
  (if runtime.before ⟨3, 0⟩ then ["atexit"] else []) ++ ["sip"]
    ++ (if child = some "QtGui" then [top ++ ".QtCore"] else [])
    ++ (if child = some "QtWidgets" then [top ++ ".QtGui"] else [])

/-- The modules that are known by their whole name, with what they need. -/
def known : List (String × List String) := [
  ("lxml.etree", ["gzip", "lxml._elementpath"]),
  ("gtk._gtk", ["pangocairo", "pango", "cairo", "gio", "atk"]),
  ("reportlab.rl_config", ["reportlab.rl_settings"]),
  ("ctypes", ["_ctypes"]),
  ("gi._gi", ["gi._error"]),
  ("Tkinter", ["_tkinter"]),
  ("tkinter", ["_tkinter"])]

/-- What a module needs: the Qt bindings are told by the first component of any text, the others by
the whole text. -/
def cascade (name : String) (runtime : Version) : List String :=
  match components name with
  | [] => []
  | top :: below =>
    if top = "PyQt4" ∨ top = "PyQt5" then qtCascade top below.head? runtime
    else (known.lookup name).getD []

theorem answer_qt_cons (rest : List Family) :
    answer (qt :: rest) name runtime =
      if beforeDot name = "PyQt4" ∨ beforeDot name = "PyQt5" then
        qtCascade (beforeDot name) ((afterDot? name).map beforeDot) runtime
      else answer rest name runtime := by
  have hmatch : qt.pattern.Matches name ↔ beforeDot name = "PyQt4" ∨ beforeDot name = "PyQt5" := by
    simp [qt, Pattern.matches_topLevel_iff]
  have hgiven : ∀ top child, qt.companions.filterMap (·.emit top child runtime) =
      qtCascade top child runtime := by
    intro top child
    have hold : ({ below := some ⟨3, 0⟩ } : VersionRange).holds runtime = runtime.before ⟨3, 0⟩ :=
      Bool.and_true _
    have hsip : VersionRange.always.holds runtime = true := rfl
    simp only [List.filterMap_eq_flatMap_toList, qt, always, List.flatMap_cons, List.flatMap_nil,
      Companion.emit, qtCascade, joinComponents, hold, hsip]
    split_ifs <;> simp [String.append_assoc]
  rw [answer_cons]
  simp only [hmatch, hgiven]

/-- The families answer by the cascade, whatever the text. -/
theorem answer_families (name : String) (runtime : Version) :
    answer table.families name runtime = cascade name runtime := by
  obtain ⟨below, hcomponents, hchild⟩ := exists_components_eq name
  -- behind the Qt bindings come families for whole names alone
  have hknown : answer table.families.tail name runtime = (known.lookup name).getD [] := by
    iterate 6 refine answer_needs_cons ?_ _ _
    rfl
  simp only [cascade, hcomponents, hchild, ← hknown]
  exact answer_qt_cons _

example : answer table.families "PyQt5.QtWidgets." ⟨2, 7⟩ = ["atexit", "sip", "PyQt5.QtGui"] := by
  decide +kernel

end Builtin

/-! ## A module with one literal patch -/

namespace PatchBook

open Replacer

variable {engine : Engine} {patch : Patch} {book : PatchBook}

theorem forModule_of_literal (hb : buildWith engine [patch] = .ok book)
    (hmode : patch.mode = .literal) :
    book.forModule patch.module.text = [.literal patch.find patch.replace] := by
  have hall := forall₂_forModule hb patch.module.text
  rw [List.filter_singleton, beq_self_eq_true, cond_true] at hall
  obtain ⟨r, _, hcomp, hrest, hbook⟩ := List.forall₂_cons_left_iff.1 hall
  obtain ⟨-, hr, -⟩ := Patch.compileWith_eq_ok_iff.1 hcomp
  simp only [Patch.replacer, hmode, Except.ok.injEq] at hr
  rw [hbook, List.forall₂_nil_left_iff.1 hrest, hr]

/-- A source with one literal patch is cut up at the search text, and put together again with the
replacement; no search text is left. -/
theorem exists_pieces_patched (hb : buildWith engine [patch] = .ok book)
    (hmode : patch.mode = .literal) (source : String) : ∃ first rest,
      patch.find.toList.intercalate (first :: rest) = source.toList ∧
      (∀ piece ∈ first :: rest, ¬ Text.Occurs patch.find.toList piece) ∧
      (book.patched patch.module.text source).toList =
        patch.replace.toList.intercalate (first :: rest) ∧
      ¬ Text.Occurs patch.find.toList (book.patched patch.module.text source).toList := by
  have hlit : ∀ p ∈ [patch], p.module.text = patch.module.text → p.mode = .literal := by
    simpa using hmode
  have hmem : patch ∈ [patch] := List.mem_singleton_self patch
  have hf := find_ne_nil hb hmem
  have hpatched : (book.patched patch.module.text source).toList =
      Text.replaceAll patch.find.toList patch.replace.toList source.toList := by
    rw [patched_of_settled (settled_of_literal hb hlit source), forModule_of_literal hb hmode]
    exact toList_apply_edit_literal patch.find patch.replace source
  obtain ⟨first, rest, hjoin, hfree, hrep⟩ := Text.exists_pieces hf source.toList
  refine ⟨first, rest, hjoin, hfree, hpatched.trans (hrep _), ?_⟩
  rw [hpatched]
  exact Text.not_occurs_replaceAll hf (not_overlaps hb hlit hmem rfl hmem rfl) source.toList

end PatchBook

/-! ## The plugin -/

/-- The target of a path is the one that its pair of source and target has. -/
theorem AliasTable.target?_eq_lookup (table : AliasTable) (path : String) :
    table.target? path = table.toList.lookup path := by
  unfold target? toList
  induction table.entries with
  | nil => rfl
  | cons a rest ih =>
    rw [List.find?_cons, List.map_cons, List.lookup_cons, ← ih]
    by_cases h : path = a.source.text
    · simp [h]
    · simp [beq_false_of_ne h, beq_false_of_ne (Ne.symm h)]

namespace Plugin

variable (plugin : Plugin) (name : String)

theorem value_imports : (plugin.imports name).value =
    (plugin.book.imports name plugin.runtime).value := rfl

theorem value_silences (place : SourceRef) :
    (plugin.silences name place).value = plugin.book.isSilenced name := by
  unfold silences
  split
  · rename_i h
    exact h.symm
  · rename_i h
    exact (Bool.eq_false_iff.2 h).symm

end Plugin

namespace Builtin

theorem target?_book (path : String) : book.target? path =
    [("requests.packages.urllib3", "urllib3"), ("requests.packages.chardet", "chardet")].lookup path := by
  obtain ⟨patches, aliases, -, haliases, hbook, -⟩ := exists_book
  rw [hbook, RuleBook.target?, AliasTable.target?_eq_lookup, AliasTable.toList, haliases]
  rfl

/-- The plugin answers by the cascade, rewrites the sources of one module and no other, knows two
aliases and silences one module. -/
structure Follows (plugin : Plugin) : Prop where
  imports : ∀ name : String,
    (plugin.imports name).value.walk.map Prod.fst = cascade name plugin.runtime
  patch_other : ∀ name source : String, name ≠ "numexpr.cpuinfo" →
    (plugin.patch name source).value = .unchanged
  /-- The source is cut up at every search text and put together again with replacements. -/
  patch : ∀ source : String, ∃ first rest,
    "type(attr) is types.MethodType".toList.intercalate (first :: rest) = source.toList ∧
    (∀ piece ∈ first :: rest, ¬ Text.Occurs "type(attr) is types.MethodType".toList piece) ∧
    ((plugin.patch "numexpr.cpuinfo" source).value.apply source).toList =
      "isinstance(attr, types.MethodType)".toList.intercalate (first :: rest) ∧
    ¬ Text.Occurs "type(attr) is types.MethodType".toList
      ((plugin.patch "numexpr.cpuinfo" source).value.apply source).toList
  target : ∀ path : String, plugin.hooks.target? path =
    [("requests.packages.urllib3", "urllib3"), ("requests.packages.chardet", "chardet")].lookup path
  silences : ∀ (name : String) (place : SourceRef),
    (plugin.silences name place).value = true ↔ name = "setuptools"

/-- The bytes of the built-in table, which is what the document holds, are read as that table, it
compiles, and a plugin with the built-in rules follows the cascade. -/
theorem follows_builtin (config : Config) :
    RuleTable.ofText document = .ok table ∧
    RuleTable.ofBytes table.toBytes = .ok table ∧
    table.compile.outcome = .ok book ∧
    (Plugin.builtin config).value.runtime = config.runtime ∧
    Follows (Plugin.builtin config).value := by
  obtain ⟨patches, aliases, hpatches, -, hbook, hcompile⟩ := exists_book
  have hbytes : RuleTable.ofBytes table.toBytes = .ok table :=
    (RuleTable.ofBytes_toUTF8 table.toText).trans (RuleTable.ofText_toText table)
  have hplugin : (Plugin.builtin config).value.book =
      ⟨.ofFamilies table.families, patches, aliases, .ofList table.suppressed⟩ := hbook
  refine ⟨ofText_document, hbytes, hcompile, rfl, ?_⟩
  constructor
  case imports =>
    intro name
    rw [Plugin.value_imports, hplugin, RuleBook.imports, Family.walk_resolve, answer_families]
  case patch_other =>
    intro name source hname
    have hne : ∀ patch ∈ table.patches, patch.module.text ≠ name := by
      simpa [table, methodTest] using hname.symm
    rw [Plugin.value_patch, hplugin, PatchBook.edit_of_ne hpatches hne, Logged.value_pure]
  case patch =>
    intro source
    have hbuild : PatchBook.build [methodTest] = .ok patches := hpatches
    rw [Plugin.value_patch, hplugin]
    exact PatchBook.exists_pieces_patched hbuild rfl source
  case target => exact target?_book
  case silences =>
    intro name place
    rw [Plugin.value_silences, hplugin, RuleBook.isSilenced, Silenced.contains_ofList_iff]
    simp [table, eq_comm]

end Builtin

end HiddenImports
