import BrowserTelemetry.Json.Basic

/-!
# Logs

What a computation logs beside its value, in order. Logging never influences the value.
-/

namespace BrowserTelemetry

set_option autoImplicit false

/-- How important a log line is. -/
inductive LogLevel where
  | trace
  | debug
  | info
  | warn
  | error
  deriving DecidableEq, Repr, Inhabited

/-- The name of a level. -/
def LogLevel.name : LogLevel → String
  | .trace => "TRACE"
  | .debug => "DEBUG"
  | .info => "INFO"
  | .warn => "WARN"
  | .error => "ERROR"

/-- One line: a fixed message and named values. -/
structure LogLine where
  level : LogLevel
  message : String
  fields : List (String × Json)
  deriving Repr, Inhabited

/-- A value, and what was logged on the way to it. -/
structure Logged (α : Type) where
  value : α
  lines : List LogLine
  deriving Inhabited

namespace Logged

instance : Monad Logged where
  pure a := ⟨a, []⟩
  bind m f := ⟨(f m.value).value, m.lines ++ (f m.value).lines⟩

/-- Log one line. -/
def log (level : LogLevel) (message : String) (fields : List (String × Json)) : Logged Unit :=
  ⟨(), [⟨level, message, fields⟩]⟩

@[simp] theorem value_pure {α : Type} (a : α) : (pure a : Logged α).value = a := rfl

@[simp] theorem value_bind {α β : Type} (m : Logged α) (f : α → Logged β) :
    (m >>= f).value = (f m.value).value := rfl

@[simp] theorem value_map {α β : Type} (f : α → β) (m : Logged α) :
    (f <$> m).value = f m.value := rfl

@[simp] theorem value_log (level : LogLevel) (message : String) (fields : List (String × Json)) :
    (log level message fields).value = () := rfl

@[ext] theorem ext {α : Type} {m n : Logged α} (hvalue : m.value = n.value)
    (hlines : m.lines = n.lines) : m = n := by
  cases m
  cases n
  congr

/-- To compute one after the other is associative, in the value as in the lines. -/
instance : LawfulMonad Logged := LawfulMonad.mk' Logged
  (fun m => ext rfl (List.append_nil m.lines))
  (fun _ _ => rfl)
  (fun m f g => ext rfl (List.append_assoc m.lines _ _))

/-- The value of a fold that logs is the fold of the values. -/
theorem value_foldlM {α β : Type} (f : β → α → Logged β) (l : List α) (b : β) :
    (l.foldlM f b).value = l.foldl (fun b a => (f b a).value) b := by
  induction l generalizing b with
  | nil => rfl
  | cons a rest ih =>
    rw [List.foldlM_cons, value_bind, ih]
    rfl

end Logged

end BrowserTelemetry
