import MessageBus.Text.Percent

/-!
# Queries

A query is a row of names with values. Of a name that is given more than once the first value
counts, and a value that is not given is empty.
-/

set_option autoImplicit false

namespace MessageBus.Uri

/-- A query with its names and values decoded. -/
abbrev Query := List (String × String)

/-- The name and the value of one entry. -/
def queryEntry (cs : List Char) : String × String :=
  (Percent.decodeForm (cs.takeWhile (· ≠ '=')),
    Percent.decodeForm ((cs.dropWhile (· ≠ '=')).drop 1))

/-- The entries of a query, which ampersands part; empty ones are passed over. -/
def queryOf (cs : List Char) : Query :=
  ((cs.splitOn '&').filter fun entry => !entry.isEmpty).map queryEntry

/-- The value of a name, read by `read?`: nothing if the name is not given, and no answer at all if
its value cannot be read. -/
def Query.value? {α : Type} (q : Query) (name : String) (read? : String → Option α) :
    Option (Option α) :=
  match q.lookup name with
  | none => some none
  | some value => (read? value).map some

end MessageBus.Uri
