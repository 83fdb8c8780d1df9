/-!
# Log records

Operations report what they ignore, drop or do to a log.  A computation that
logs is a value together with the records it wrote, oldest first; running one
after another concatenates their records and leaves the values alone.
-/

namespace Looper

/-- How severe a record is. -/
inductive Level where
  | error
  | warn
  | info
  | debug
  deriving DecidableEq, Repr

namespace Level

def label : Level → String
  | error => "error"
  | warn => "warn"
  | info => "info"
  | debug => "debug"

/-- The most severe level ranks lowest. -/
def rank : Level → Nat
  | error => 0
  | warn => 1
  | info => 2
  | debug => 3

end Level

/-- The part of the program that a record is about. -/
inductive Topic where
  | bindings
  | triggers
  | dispatch
  | scripts
  | kernel
  | config
  | midi
  deriving DecidableEq, Repr

/-- The name under which a part of the program logs. -/
def Topic.label : Topic → String
  | bindings => "bindings"
  | triggers => "binderator"
  | dispatch => "dispatch"
  | scripts => "scripts"
  | kernel => "kernel"
  | config => "config"
  | midi => "midi"

/-- One line of the log. -/
structure LogRecord where
  level : Level
  topic : Topic
  text : String
  deriving DecidableEq, Repr

def LogRecord.render (record : LogRecord) : String :=
  s!"{record.level.label} {record.topic.label}: {record.text}"

/-- A value and the records written while it was computed. -/
structure Logged (α : Type) where
  value : α
  records : List LogRecord

namespace Logged

instance : Monad Logged where
  pure a := ⟨a, []⟩
  bind x f :=
    let next := f x.value
    ⟨next.value, x.records ++ next.records⟩

@[simp] theorem value_pure {α : Type} (a : α) : (pure a : Logged α).value = a := rfl

@[simp] theorem records_pure {α : Type} (a : α) : (pure a : Logged α).records = [] := rfl

/-- Logging never changes what is computed next. -/
@[simp] theorem value_bind {α β : Type} (x : Logged α) (f : α → Logged β) :
    (x >>= f).value = (f x.value).value := rfl

@[simp] theorem records_bind {α β : Type} (x : Logged α) (f : α → Logged β) :
    (x >>= f).records = x.records ++ (f x.value).records := rfl

@[simp] theorem value_map {α β : Type} (f : α → β) (x : Logged α) :
    (f <$> x).value = f x.value := rfl

instance : LawfulMonad Logged := LawfulMonad.mk' Logged
  (by
    intro α x
    cases x
    simp [Functor.map])
  (by
    intro α β a f
    cases h : f a
    simp [bind, pure, h])
  (by
    intro α β γ x f g
    simp [bind, List.append_assoc])

def write (level : Level) (topic : Topic) (text : String) : Logged Unit :=
  ⟨(), [⟨level, topic, text⟩]⟩

end Logged

namespace Log

/-- Report something ignored or dropped. -/
def warn (topic : Topic) (text : String) : Logged Unit :=
  Logged.write .warn topic text

/-- Report something of interest to the user. -/
def info (topic : Topic) (text : String) : Logged Unit :=
  Logged.write .info topic text

/-- Report a detail of the work. -/
def debug (topic : Topic) (text : String) : Logged Unit :=
  Logged.write .debug topic text

end Log

end Looper
