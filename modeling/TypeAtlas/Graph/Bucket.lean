/-!
# Distributing entries over numbered lists

`distribute` sends each entry of a list to the end of the list that its number names, and
`distinctOn` keeps of the entries that agree in a key only the first.
-/

set_option autoImplicit false

namespace TypeAtlas

/-- Distributes numbered entries over `size` lists; entries with a greater number are dropped. -/
def distribute {α : Type} (size : Nat) (entries : List (Nat × α)) : Array (List α) :=
  entries.foldl (fun lists (index, entry) => lists.modify index (· ++ [entry]))
    (Array.replicate size [])

/-- The entries of a list whose key does not occur before them. -/
def distinctOn {α κ : Type} [DecidableEq κ] (key : α → κ) : List α → List α
  | [] => []
  | entry :: rest => entry :: (distinctOn key rest).filter fun other => key other ≠ key entry

/-- The elements of a list, each only where it occurs first. -/
def distinct {α : Type} [DecidableEq α] (entries : List α) : List α := distinctOn id entries

end TypeAtlas
