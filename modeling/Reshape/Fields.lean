/-
Fields of a record, sorted by name.

A list of named values is kept in the order of the names, each name once. `insert` keeps that order,
`get?` reads the first entry of a name, and `erase` drops every entry of it; the three laws that tie them
hold for any list:

* `get?_insert_self`, `get?_insert_of_ne`;
* `get?_erase_self`, `get?_erase_of_ne`.
-/
namespace Reshape

abbrev Fields (α : Type) := List (String × α)

namespace Fields

variable {α β : Type}

def get? (k : String) : Fields α → Option α
  | [] => none
  | (k', v) :: rest => if k = k' then some v else get? k rest

/-- Puts a value in the place of its name, over the one that was there. -/
def insert (k : String) (v : α) : Fields α → Fields α
  | [] => [(k, v)]
  | (k', v') :: rest =>
    if k < k' then (k, v) :: (k', v') :: rest
    else if k = k' then (k, v) :: rest
    else (k', v') :: insert k v rest

def erase (k : String) : Fields α → Fields α
  | [] => []
  | (k', v) :: rest => if k = k' then erase k rest else (k', v) :: erase k rest

/-- The fields of a list of entries; of entries with one name the last stays. -/
def ofList (entries : List (String × α)) : Fields α :=
  entries.foldl (fun fs (k, v) => insert k v fs) []

/-- Adds the entries of `other`, over those already there. -/
def union (fs other : Fields α) : Fields α :=
  other.foldl (fun acc (k, v) => insert k v acc) fs

@[simp] theorem get?_nil (k : String) : get? k ([] : Fields α) = none := rfl

@[simp] theorem get?_insert_self (k : String) (v : α) (fs : Fields α) :
    get? k (insert k v fs) = some v := by
  induction fs with
  | nil => simp [insert, get?]
  | cons e rest ih =>
    obtain ⟨k', v'⟩ := e
    simp only [insert]
    split
    · simp [get?]
    · split
      · simp [get?]
      · rename_i h; simp [get?, h, ih]

theorem get?_insert_of_ne {k q : String} (h : q ≠ k) (v : α) (fs : Fields α) :
    get? q (insert k v fs) = get? q fs := by
  induction fs with
  | nil => simp [insert, get?, h]
  | cons e rest ih =>
    obtain ⟨k', v'⟩ := e
    simp only [insert]
    split
    · simp [get?, h]
    · split
      · rename_i hk; subst hk; simp [get?, h]
      · simp only [get?, ih]

@[simp] theorem get?_erase_self (k : String) (fs : Fields α) : get? k (erase k fs) = none := by
  induction fs with
  | nil => rfl
  | cons e rest ih =>
    obtain ⟨k', v'⟩ := e
    simp only [erase]
    split
    · exact ih
    · rename_i h; simp [get?, h, ih]

theorem get?_erase_of_ne {k q : String} (h : q ≠ k) (fs : Fields α) :
    get? q (erase k fs) = get? q fs := by
  induction fs with
  | nil => rfl
  | cons e rest ih =>
    obtain ⟨k', v'⟩ := e
    simp only [erase]
    split
    · rename_i hk; subst hk; simp [get?, h, ih]
    · simp only [get?, ih]

end Fields

end Reshape
