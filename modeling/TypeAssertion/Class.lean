/-!
Classes of instances. A class extends at most one other, so the classes form a forest. A class is
identified by its number, never by its name: two classes of one name are different.
-/

set_option autoImplicit false

namespace TypeAssertion

/-- A class, with the chain of classes it extends. -/
inductive Class where
  | root (id : Nat) (name : String)
  | extend (parent : Class) (id : Nat) (name : String)

namespace Class

def id : Class → Nat
  | root id _ => id
  | extend _ id _ => id

def name : Class → String
  | root _ name => name
  | extend _ _ name => name

def parent? : Class → Option Class
  | root _ _ => none
  | extend parent _ _ => some parent

def same (first second : Class) : Bool := first.id == second.id

/-- True when a class is the given ancestor or inherits from it. -/
def inheritsFrom : Class → Class → Bool
  | root id _, ancestor => id == ancestor.id
  | extend parent id _, ancestor => id == ancestor.id || inheritsFrom parent ancestor

def record : Class := root 0 "Record"

end Class

end TypeAssertion
