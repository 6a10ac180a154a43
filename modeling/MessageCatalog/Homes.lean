import MessageCatalog.Path

/-!
# Home directories

A relative path that starts with a tilde and the name of a user starts at the home directory of that
user; a tilde alone is the home directory of the present user.
-/

namespace MessageCatalog

/-- The home directories of users by their names; the empty name is that of the present user. -/
abbrev Homes : Type := Text → Option Path

/-- The entry of a table of users: its first field is the name and its sixth the home directory. -/
def Homes.entry? (line : Text) : Option (Text × Text) :=
  match line.splitOn ':' with
  | name :: _ :: _ :: _ :: _ :: home :: _ => some (name, home)
  | _ => none

/-- The home directories that a table of users gives, and that of the present user. -/
def Homes.ofTable (own : Option Text) (table : Text) : Homes := fun user =>
  let homes := (table.splitOn '\n').filterMap entry?
  (if user.isEmpty then own else homes.lookup user).map Path.ofText

/-- The path with the home directory in place of a leading tilde and user name. -/
def Path.expanded (homes : Homes) (p : Path) : Option Path :=
  match p.start, p.names with
  | .here, ('~' :: user) :: names => (homes user).map fun home => home / ⟨.here, names⟩
  | _, _ => some p

end MessageCatalog
