/-!
# Ordered associations

Finite maps as lists of pairs in the order in which their keys were first put. Putting a key that is
present replaces its value in place; erasing it and putting it again moves it to the end.
-/

namespace OAuthClient.Assoc

variable {κ α : Type} [DecidableEq κ]

/-- The value under a key. -/
def get? (key : κ) : List (κ × α) → Option α
  | [] => none
  | (k, value) :: rest => if k = key then some value else get? key rest

/-- The map with a value under a key. -/
def put (key : κ) (value : α) : List (κ × α) → List (κ × α)
  | [] => [(key, value)]
  | (k, old) :: rest => if k = key then (k, value) :: rest else (k, old) :: put key value rest

/-- The map without a key. -/
def erase (key : κ) (pairs : List (κ × α)) : List (κ × α) :=
  pairs.filter fun pair => pair.1 ≠ key

/-- The map with all pairs of a second one put into it in order. -/
def update (pairs more : List (κ × α)) : List (κ × α) :=
  more.foldl (fun map pair => put pair.1 pair.2 map) pairs

/-- The map of a list of pairs; the last value of a repeated key counts. -/
def ofPairs (pairs : List (κ × α)) : List (κ × α) := update [] pairs

@[simp] theorem get?_nil (key : κ) : get? key ([] : List (κ × α)) = none := rfl

@[simp] theorem get?_put_self (key : κ) (value : α) (pairs : List (κ × α)) :
    get? key (put key value pairs) = some value := by
  induction pairs with
  | nil => simp [put, get?]
  | cons pair rest ih =>
      obtain ⟨k, old⟩ := pair
      by_cases h : k = key <;> simp [put, get?, h, ih]

theorem get?_put_of_ne {key other : κ} (hne : other ≠ key) (value : α) (pairs : List (κ × α)) :
    get? other (put key value pairs) = get? other pairs := by
  induction pairs with
  | nil => simp [put, get?, hne.symm]
  | cons pair rest ih =>
      obtain ⟨k, old⟩ := pair
      by_cases h : k = key
      · subst h; simp [put, get?, hne.symm]
      · rw [put, if_neg h, get?, get?, ih]

@[simp] theorem get?_erase_self (key : κ) (pairs : List (κ × α)) :
    get? key (erase key pairs) = none := by
  induction pairs with
  | nil => rfl
  | cons pair rest ih =>
      obtain ⟨k, old⟩ := pair
      by_cases h : k = key
      · simpa [erase, h] using ih
      · simp only [erase, ne_eq, h, not_false_eq_true, decide_true, List.filter_cons_of_pos, get?,
          if_false]
        exact ih

theorem get?_erase_of_ne {key other : κ} (hne : other ≠ key) (pairs : List (κ × α)) :
    get? other (erase key pairs) = get? other pairs := by
  induction pairs with
  | nil => rfl
  | cons pair rest ih =>
      obtain ⟨k, old⟩ := pair
      by_cases h : k = key
      · subst h
        simpa [erase, get?, hne.symm] using ih
      · have hkeep : erase key ((k, old) :: rest) = (k, old) :: erase key rest := by
          simp [erase, h]
        rw [hkeep, get?, get?, ih]

/-- Putting keeps the order of the keys, a new one coming last. -/
theorem keys_put (key : κ) (value : α) (pairs : List (κ × α)) :
    (put key value pairs).map Prod.fst =
      if key ∈ pairs.map Prod.fst then pairs.map Prod.fst else pairs.map Prod.fst ++ [key] := by
  induction pairs with
  | nil => simp [put]
  | cons pair rest ih =>
      obtain ⟨k, old⟩ := pair
      by_cases h : k = key
      · simp [put, h]
      · by_cases hmem : key ∈ rest.map Prod.fst
        · simp_all [put]
        · simp_all [put, Ne.symm h]

/-- Keys stay distinct when a value is put. -/
theorem nodup_keys_put (key : κ) (value : α) {pairs : List (κ × α)}
    (hnodup : (pairs.map Prod.fst).Nodup) : ((put key value pairs).map Prod.fst).Nodup := by
  rw [keys_put]
  split
  next _ => exact hnodup
  next hmem => exact List.nodup_append.2 ⟨hnodup, by simp, by simp; grind⟩

end OAuthClient.Assoc
