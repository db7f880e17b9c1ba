/-!
# Log entries

The zone reports what it does to people as log entries of a severity and a text. A computation that
may log returns its result together with the entries, oldest first; `Logged` composes such
computations in order. Nothing in the library reads an entry back, so `value` is what every
statement about behaviour looks at.
-/

namespace FrontZone

/-- How urgent a log entry is. -/
inductive Severity where
  | error
  | warning
  | info
  | debug
  deriving Repr, DecidableEq

/-- One line for the log. -/
structure LogEntry where
  severity : Severity
  message : String
  deriving Repr, DecidableEq

/-- A result together with the log entries its computation made, oldest first. -/
structure Logged (α : Type) where
  value : α
  entries : List LogEntry
  deriving Repr, DecidableEq

namespace Logged

/-- One entry and no result. -/
def entry (severity : Severity) (message : String) : Logged Unit :=
  ⟨(), [⟨severity, message⟩]⟩

/-- All of the given entries and no result. -/
def all (entries : List LogEntry) : Logged Unit :=
  ⟨(), entries⟩

instance : Monad Logged where
  pure a := ⟨a, []⟩
  bind x f := ⟨(f x.value).value, x.entries ++ (f x.value).entries⟩

@[simp] theorem value_pure {α : Type} (a : α) : (pure a : Logged α).value = a := rfl

@[simp] theorem entries_pure {α : Type} (a : α) : (pure a : Logged α).entries = [] := rfl

@[simp] theorem value_bind {α β : Type} (x : Logged α) (f : α → Logged β) :
    (x >>= f).value = (f x.value).value := rfl

@[simp] theorem entries_bind {α β : Type} (x : Logged α) (f : α → Logged β) :
    (x >>= f).entries = x.entries ++ (f x.value).entries := rfl

@[simp] theorem value_map {α β : Type} (f : α → β) (x : Logged α) : (f <$> x).value = f x.value :=
  rfl

end Logged

end FrontZone
