/-!
Contract: lists in which entries are found by name.

Owns:
- finding the first entry of a name;
- putting an entry in the place of the first one of its name, or at the end;
- adding an entry only where its name is free.

Does not own: what the entries are.
-/

namespace EntityGen.Named

variable {α : Type}

/-- The first entry of a name. -/
def find? (nameOf : α → String) (name : String) (entries : List α) : Option α :=
  entries.find? (nameOf · == name)

/-- The entries with `entry` in the place of the first one of its name, or at
the end if there is none. -/
def place (nameOf : α → String) (entry : α) : List α → List α
  | [] => [entry]
  | first :: others =>
    if nameOf first == nameOf entry then entry :: others
    else first :: place nameOf entry others

/-- The entries with `entry` at the end, or nothing if its name is taken. -/
def add? (nameOf : α → String) (entry : α) (entries : List α) : Option (List α) :=
  if (find? nameOf (nameOf entry) entries).isSome then none else some (entries ++ [entry])

end EntityGen.Named
