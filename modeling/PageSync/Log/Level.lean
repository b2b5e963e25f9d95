import PageSync.Decimal.Reading

/-!
Levels of log records, from the most severe to the most verbose, and limits on them. A limit lets
everything through that is at most as verbose as its level.
-/

namespace PageSync.Log

inductive Level where
  | error
  | warn
  | info
  | debug
  | trace
deriving Repr, DecidableEq

inductive Limit where
  | off
  | upTo (level : Level)
deriving Repr, DecidableEq

def Level.rank : Level → Nat
  | .error => 1
  | .warn => 2
  | .info => 3
  | .debug => 4
  | .trace => 5

def Level.name : Level → String
  | .error => "ERROR"
  | .warn => "WARN"
  | .info => "INFO"
  | .debug => "DEBUG"
  | .trace => "TRACE"

def Level.all : List Level := [.error, .warn, .info, .debug, .trace]

def Level.ofName? (name : String) : Option Level := Level.all.find? fun level => level.name == name

namespace Limit

def rank : Limit → Nat
  | .off => 0
  | .upTo level => level.rank

def allows (limit : Limit) (level : Level) : Bool := level.rank ≤ limit.rank

def max (a b : Limit) : Limit := if a.rank < b.rank then b else a

def maximum (limits : List Limit) : Limit := limits.foldl max .off

def text : Limit → String
  | .off => "off"
  | .upTo .error => "error"
  | .upTo .warn => "warn"
  | .upTo .info => "info"
  | .upTo .debug => "debug"
  | .upTo .trace => "trace"

def all : List Limit := .off :: Level.all.map .upTo

def read? (text : List Char) : Option Limit :=
  let word := String.ofList (text.map Char.toLower)
  match Decimal.readNatural? text with
  | some n => all.find? fun limit => limit.rank == n
  | none => all.find? fun limit => limit.text == word

@[simp] theorem rank_max (a b : Limit) : (max a b).rank = Nat.max a.rank b.rank := by
  unfold max
  simp only [Nat.max_def]
  split <;> split <;> omega

theorem rank_injective {a b : Limit} (h : a.rank = b.rank) : a = b := by
  rcases a with _ | a <;> rcases b with _ | b
  · rfl
  · cases b <;> simp [rank, Level.rank] at h
  · cases a <;> simp [rank, Level.rank] at h
  · cases a <;> cases b <;> simp [rank, Level.rank] at h ⊢

end Limit

end PageSync.Log
