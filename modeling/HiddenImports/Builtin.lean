import HiddenImports.RuleBook

/-!
# The built-in table

What is known about modules in common use.
-/

namespace HiddenImports.Builtin

/-- The module on all runtimes. -/
def always (name : ModuleName) : Companion := .module name .always

/-- Exactly the named modules, each with the same companions. -/
def needs (names companions : List ModuleName) : Family :=
  ⟨.fullName names, companions.map always⟩

/-- The Qt bindings, whose widgets need their graphics part and that one the core. -/
def qt : Family where
  pattern := .topLevel ["PyQt4", "PyQt5"]
  companions := [
    .module ⟨"atexit", by decide +kernel⟩ { below := some ⟨3, 0⟩ },
    always ⟨"sip", by decide +kernel⟩,
    .sibling "QtGui" "QtCore",
    .sibling "QtWidgets" "QtGui"]

/-- A test for methods that holds on all runtimes. -/
def methodTest : Patch where
  module := ⟨"numexpr.cpuinfo", by decide +kernel⟩
  find := "type(attr) is types.MethodType"
  replace := "isinstance(attr, types.MethodType)"

/-- The built-in rules. -/
def table : RuleTable where
  families := [
    qt,
    needs [⟨"lxml.etree", by decide +kernel⟩]
      [⟨"gzip", by decide +kernel⟩, ⟨"lxml._elementpath", by decide +kernel⟩],
    needs [⟨"gtk._gtk", by decide +kernel⟩]
      [⟨"pangocairo", by decide +kernel⟩, ⟨"pango", by decide +kernel⟩,
        ⟨"cairo", by decide +kernel⟩, ⟨"gio", by decide +kernel⟩, ⟨"atk", by decide +kernel⟩],
    needs [⟨"reportlab.rl_config", by decide +kernel⟩]
      [⟨"reportlab.rl_settings", by decide +kernel⟩],
    needs [⟨"ctypes", by decide +kernel⟩] [⟨"_ctypes", by decide +kernel⟩],
    needs [⟨"gi._gi", by decide +kernel⟩] [⟨"gi._error", by decide +kernel⟩],
    needs [⟨"Tkinter", by decide +kernel⟩, ⟨"tkinter", by decide +kernel⟩]
      [⟨"_tkinter", by decide +kernel⟩]]
  patches := [methodTest]
  aliases := [
    ⟨⟨"requests.packages.urllib3", by decide +kernel⟩, ⟨"urllib3", by decide +kernel⟩⟩,
    ⟨⟨"requests.packages.chardet", by decide +kernel⟩, ⟨"chardet", by decide +kernel⟩⟩]
  suppressed := [⟨"setuptools", by decide +kernel⟩]

/-- The book of the built-in rules. The table passes the check, so the book holds all of it. -/
def book : RuleBook :=
  match table.compile.outcome with
  | .ok book => book
  | .error _ => .empty

end HiddenImports.Builtin
