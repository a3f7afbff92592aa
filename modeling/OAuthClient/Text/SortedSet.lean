/-!
# Sorted sets of texts

Finite sets of strings as lists that increase strictly by code point, so that equal sets are equal
lists.
-/

namespace OAuthClient.TextSet

/-- A set with one more element. -/
def insert (s : String) : List String → List String
  | [] => [s]
  | t :: rest => if s < t then s :: t :: rest else if s = t then t :: rest else t :: insert s rest

/-- A set with the elements of a list added. -/
def insertAll (set : List String) (items : List String) : List String :=
  items.foldl (fun set s => insert s set) set

/-- The set of the elements of a list. -/
def ofList (items : List String) : List String := insertAll [] items

theorem mem_insert {s t : String} {set : List String} : t ∈ insert s set ↔ t = s ∨ t ∈ set := by
  induction set with
  | nil => simp [insert]
  | cons u rest ih =>
      simp only [insert]
      split
      · simp
      · split
        next heq => subst heq; simp
        next _ => simp only [List.mem_cons, ih]; grind

theorem mem_insertAll {t : String} {set items : List String} :
    t ∈ insertAll set items ↔ t ∈ set ∨ t ∈ items := by
  induction items generalizing set with
  | nil => simp [insertAll]
  | cons s rest ih =>
      have hstep : insertAll set (s :: rest) = insertAll (insert s set) rest := rfl
      rw [hstep, ih, mem_insert, List.mem_cons]
      grind

theorem mem_ofList {t : String} {items : List String} : t ∈ ofList items ↔ t ∈ items := by
  simp [ofList, mem_insertAll]

end OAuthClient.TextSet
