/-!
Fields: names with what they hold, sorted by name, each name once.
-/

namespace PathQuery.Fields

variable {α : Type}

def get? (name : String) : List (String × α) → Option α
  | [] => none
  | (key, held) :: fields => if key = name then some held else get? name fields

/-- Makes a name hold something, in its place by order; what it held before is lost. -/
def insert (name : String) (held : α) : List (String × α) → List (String × α)
  | [] => [(name, held)]
  | (key, other) :: fields =>
      if key = name then (name, held) :: fields
      else if name < key then (name, held) :: (key, other) :: fields
      else (key, other) :: insert name held fields

/-- The fields with the given names, of which the last of one name counts. -/
def ofList (entries : List (String × α)) : List (String × α) :=
  entries.foldl (fun fields entry => insert entry.1 entry.2 fields) []

@[simp] theorem get_insert (name other : String) (held : α) (fields : List (String × α)) :
    get? other (insert name held fields) =
      if other = name then some held else get? other fields := by
  induction fields with
  | nil => grind [insert, get?]
  | cons field fields ih => grind [insert, get?]

end PathQuery.Fields
