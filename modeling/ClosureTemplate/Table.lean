namespace ClosureTemplate

abbrev Table (κ ν : Type) := List (κ × ν)

namespace Table

variable {κ ν : Type} [DecidableEq κ]

def get? : Table κ ν → κ → Option ν
  | [], _ => none
  | (k, v) :: rest, key => if k = key then some v else get? rest key

/-- Replaces the value of a known key in place and appends a new key. -/
def put : Table κ ν → κ → ν → Table κ ν
  | [], key, value => [(key, value)]
  | (k, v) :: rest, key, value =>
    if k = key then (k, value) :: rest else (k, v) :: put rest key value

def keys (table : Table κ ν) : List κ := table.map Prod.fst

def sameEntries [DecidableEq ν] (a b : Table κ ν) : Bool :=
  a.length == b.length && a.all fun (key, value) => get? b key == some value

omit [DecidableEq κ] in
@[simp]
theorem keys_nil : keys ([] : Table κ ν) = [] := rfl

@[simp]
theorem get?_nil (key : κ) : get? ([] : Table κ ν) key = none := rfl

@[simp]
theorem get?_put_self (table : Table κ ν) (key : κ) (value : ν) :
    get? (put table key value) key = some value := by
  induction table with
  | nil => simp [put, get?]
  | cons entry rest ih =>
    by_cases same : entry.1 = key <;> simp [put, get?, same, ih]

theorem get?_put_of_ne (table : Table κ ν) {key other : κ} (value : ν) (different : key ≠ other) :
    get? (put table key value) other = get? table other := by
  induction table with
  | nil => simp [put, get?, different]
  | cons entry rest ih =>
    by_cases same : entry.1 = key
    · simp [put, get?, same, different]
    · by_cases found : entry.1 = other
      · simp [put, get?, found, Ne.symm different]
      · simp [put, get?, same, found, ih]

theorem keys_put (table : Table κ ν) (key : κ) (value : ν) :
    keys (put table key value) = if key ∈ keys table then keys table else keys table ++ [key] := by
  induction table with
  | nil => simp [put, keys]
  | cons entry rest ih =>
    simp only [keys] at ih
    by_cases same : entry.1 = key
    · simp [put, keys, same]
    · by_cases known : key ∈ rest.map Prod.fst <;>
        simp_all [put, keys, Ne.symm same]

end Table

end ClosureTemplate
