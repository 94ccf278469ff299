/-!
# Log records as data

A computation that reports on its work returns its records beside its value. `Logged` is that pair,
with a monad that keeps the records in the order of the work.
-/

namespace HiddenImports

/-- How weighty a record is, from `trace` to `error`. -/
inductive Level where
  | trace
  | debug
  | info
  | warn
  | error
  deriving DecidableEq, Repr

/-- The level as it stands in a printed record. -/
def Level.name : Level → String
  | .trace => "TRACE"
  | .debug => "DEBUG"
  | .info => "INFO"
  | .warn => "WARN"
  | .error => "ERROR"

/-- One line of the log. -/
structure Record where
  level : Level
  text : String
  deriving DecidableEq, Repr

/-- A value and the records made on the way to it. -/
structure Logged (α : Type) where
  value : α
  records : List Record := []

namespace Logged

instance : Monad Logged where
  pure a := ⟨a, []⟩
  bind x f := ⟨(f x.value).value, x.records ++ (f x.value).records⟩

@[simp] theorem value_pure {α : Type} (a : α) : (pure a : Logged α).value = a := rfl

@[simp] theorem records_pure {α : Type} (a : α) : (pure a : Logged α).records = [] := rfl

@[simp] theorem value_bind {α β : Type} (x : Logged α) (f : α → Logged β) :
    (x >>= f).value = (f x.value).value := rfl

@[simp] theorem records_bind {α β : Type} (x : Logged α) (f : α → Logged β) :
    (x >>= f).records = x.records ++ (f x.value).records := rfl

instance : LawfulMonad Logged :=
  LawfulMonad.mk' Logged
    (fun x => by cases x; simp [Functor.map])
    (fun _ _ => rfl)
    (fun x f g => by simp [bind, List.append_assoc])

end Logged

/-- Adds one record. -/
def log (level : Level) (text : String) : Logged Unit :=
  ⟨(), [⟨level, text⟩]⟩

@[simp] theorem value_log (level : Level) (text : String) : (log level text).value = () := rfl

@[simp] theorem records_log (level : Level) (text : String) :
    (log level text).records = [⟨level, text⟩] := rfl

/-- Work that makes records and may end in an error. The records made before the error are kept. -/
abbrev Attempt (ε : Type) := ExceptT ε Logged

namespace Attempt

variable {ε δ α : Type}

/-- The outcome of an attempt. -/
def outcome (x : Attempt ε α) : Except ε α := (ExceptT.run x).value

/-- The records of an attempt, made up to its end or its error. -/
def records (x : Attempt ε α) : List Record := (ExceptT.run x).records

/-- A result that is at hand, without records. -/
def ofExcept (r : Except ε α) : Attempt ε α := ExceptT.mk (pure r)

/-- The same attempt with its error put in other terms. -/
def mapError (f : ε → δ) (x : Attempt ε α) : Attempt δ α :=
  ExceptT.mk ⟨(ExceptT.run x).value.mapError f, (ExceptT.run x).records⟩

@[simp] theorem outcome_ofExcept (r : Except ε α) : (ofExcept r).outcome = r := rfl

@[simp] theorem records_ofExcept (r : Except ε α) : (ofExcept r).records = [] := rfl

@[simp] theorem outcome_mapError (f : ε → δ) (x : Attempt ε α) :
    (x.mapError f).outcome = x.outcome.mapError f := rfl

@[simp] theorem records_mapError (f : ε → δ) (x : Attempt ε α) :
    (x.mapError f).records = x.records := rfl

end Attempt

end HiddenImports
