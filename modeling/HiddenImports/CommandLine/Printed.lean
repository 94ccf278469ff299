import HiddenImports.Failure

/-!
# Printed texts as data

What a command prints stands beside its outcome, in the order of printing. A text that was printed stays
printed if a later step fails.
-/

namespace HiddenImports.CommandLine

/-- The outcome of some steps, and the text that they printed up to their end or their failure. -/
structure Printed (α : Type) where
  outcome : Except Failure α
  output : String := ""

/-- Prints a text. -/
def print (text : String) : Printed Unit := ⟨.ok (), text⟩

namespace Printed

variable {α β : Type}

instance : Monad Printed where
  pure a := ⟨.ok a, ""⟩
  bind x f :=
    match x.outcome with
    | .error failure => ⟨.error failure, x.output⟩
    | .ok a => ⟨(f a).outcome, x.output ++ (f a).output⟩

/-- A result that is at hand, with nothing printed. -/
def ofExcept (r : Except Failure α) : Printed α := ⟨r, ""⟩

@[simp] theorem outcome_ofExcept (r : Except Failure α) : (ofExcept r).outcome = r := rfl

@[simp] theorem outcome_bind (x : Printed α) (f : α → Printed β) :
    (x >>= f).outcome = x.outcome >>= fun a => (f a).outcome := by
  rcases x with ⟨_ | a, output⟩ <;> rfl

end Printed

end HiddenImports.CommandLine
