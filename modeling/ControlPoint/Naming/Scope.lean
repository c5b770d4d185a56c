import ControlPoint.Naming.Fresh
import ControlPoint.Text.Case

/-!
Scopes of declared names. A name that is taken gets the first number from 2 on that makes it free,
so names depend on the order in which they are asked for and on nothing else.
-/

namespace ControlPoint.Naming

open Text

/-- Whether two spellings that differ only in the case of letters are two names. -/
inductive CaseRule
  | sensitive
  | insensitive
  deriving DecidableEq, Repr

/-- The form in which names are compared. -/
def CaseRule.fold : CaseRule → String → String
  | .sensitive, name => name
  | .insensitive, name => lowerAscii name

/-- The names given out or reserved so far, in the form in which they are compared. -/
structure Scope where
  rule : CaseRule
  taken : List String
  deriving Repr

namespace Scope

/-- A scope without names. -/
def empty (rule : CaseRule) : Scope := ⟨rule, []⟩

def contains (s : Scope) (name : String) : Bool :=
  s.taken.contains (s.rule.fold name)

/-- Takes a name without asking whether it is free. -/
def reserve (s : Scope) (name : String) : Scope :=
  { s with taken := s.rule.fold name :: s.taken }

def reserveAll (s : Scope) (names : List String) : Scope :=
  names.foldl reserve s

/-- The name with a number after it. -/
def numbered (base : String) (n : Nat) : String :=
  base ++ toString n

/-- The name itself if it is free, else the name with the first number from 2 on that is free.
    Among one number more than there are taken names, one is free. -/
def freeName (s : Scope) (base : String) : String :=
  if s.contains base then
    numbered base (firstFree (fun n => !s.contains (numbered base n)) (s.taken.length + 1) 2)
  else base

/-- Gives out a free name. -/
def allocate (s : Scope) (base : String) : String × Scope :=
  (s.freeName base, s.reserve (s.freeName base))

end Scope

end ControlPoint.Naming
