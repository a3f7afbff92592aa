import OAuthClient.Assoc

/-! # Laws of associations

What a map holds after several pairs were put into it, and what its list of
pairs looks like. Pairs with distinct keys are a map as they stand.
-/

namespace OAuthClient.Assoc

variable {κ α : Type} [DecidableEq κ] {key : κ} {value : α} {pairs : List (κ × α)}

theorem put_of_not_mem (hkey : key ∉ pairs.map Prod.fst) :
    put key value pairs = pairs ++ [(key, value)] := by
  induction pairs with
  | nil => rfl
  | cons pair rest ih =>
      simp only [List.map_cons, List.mem_cons, not_or] at hkey
      rw [put, if_neg (Ne.symm hkey.1), ih hkey.2, List.cons_append]

theorem mem_put {pair : κ × α} (h : pair ∈ put key value pairs) :
    pair = (key, value) ∨ pair ∈ pairs := by
  induction pairs with
  | nil => exact .inl (List.mem_singleton.mp h)
  | cons first rest ih =>
      rw [put] at h
      split at h
      next heq =>
        rcases List.mem_cons.mp h with rfl | h
        · exact .inl (by rw [heq])
        · exact .inr (List.mem_cons_of_mem _ h)
      next =>
        rcases List.mem_cons.mp h with rfl | h
        · exact .inr List.mem_cons_self
        · exact (ih h).imp_right (List.mem_cons_of_mem _)

theorem mem_of_get? (h : get? key pairs = some value) : (key, value) ∈ pairs := by
  induction pairs with
  | nil => cases h
  | cons first rest ih =>
      rw [get?] at h
      split at h
      next heq =>
        obtain rfl := Option.some.inj h
        subst heq
        exact List.mem_cons_self
      next => exact List.mem_cons_of_mem _ (ih h)

theorem get?_of_not_mem (hkey : key ∉ pairs.map Prod.fst) : get? key pairs = none := by
  cases hvalue : get? key pairs with
  | none => rfl
  | some value => exact absurd (List.mem_map_of_mem (mem_of_get? hvalue)) hkey

theorem get?_filter_keys (keep : κ → Bool) (pairs : List (κ × α)) (key : κ) :
    get? key (pairs.filter fun pair => keep pair.1) =
      if keep key then get? key pairs else none := by
  induction pairs with
  | nil => simp
  | cons first rest ih =>
      rw [List.filter_cons]
      by_cases hkey : first.1 = key
      · subst hkey
        cases hkeep : keep first.1 <;> simp_all [get?]
      · simp only [get?, hkey, if_false, ← ih]
        split <;> simp [get?, hkey]

/-- Pairs with new and distinct keys are put at the end. -/
theorem update_of_new (pairs : List (κ × α)) {more : List (κ × α)}
    (hnodup : (more.map Prod.fst).Nodup) (hnew : ∀ pair ∈ more, pair.1 ∉ pairs.map Prod.fst) :
    update pairs more = pairs ++ more := by
  induction more generalizing pairs with
  | nil => rw [List.append_nil]; rfl
  | cons pair rest ih =>
      rw [List.map_cons, List.nodup_cons] at hnodup
      rw [List.forall_mem_cons] at hnew
      change update (put pair.1 pair.2 pairs) rest = _
      rw [put_of_not_mem hnew.1, ih _ hnodup.2, List.append_assoc, List.singleton_append]
      intro other hother
      rw [List.map_append, List.mem_append, not_or]
      refine ⟨hnew.2 other hother, ?_⟩
      intro hmem
      rw [List.map_singleton, List.mem_singleton] at hmem
      exact hnodup.1 (hmem ▸ List.mem_map_of_mem hother)

/-- Pairs with distinct keys are a map as they stand. -/
theorem ofPairs_of_nodup (hnodup : (pairs.map Prod.fst).Nodup) : ofPairs pairs = pairs :=
  update_of_new [] hnodup fun _ _ => List.not_mem_nil

theorem get?_update_of_not_mem (pairs more : List (κ × α)) (hkey : key ∉ more.map Prod.fst) :
    get? key (update pairs more) = get? key pairs := by
  induction more generalizing pairs with
  | nil => rfl
  | cons pair rest ih =>
      simp only [List.map_cons, List.mem_cons, not_or] at hkey
      change get? key (update (put pair.1 pair.2 pairs) rest) = _
      rw [ih _ hkey.2, get?_put_of_ne hkey.1]

theorem get?_update_of_mem (pairs : List (κ × α)) {more : List (κ × α)}
    (hmem : key ∈ more.map Prod.fst) (hvalue : ∀ pair ∈ more, pair.1 = key → pair.2 = value) :
    get? key (update pairs more) = some value := by
  induction more generalizing pairs with
  | nil => simp at hmem
  | cons pair rest ih =>
      change get? key (update (put pair.1 pair.2 pairs) rest) = _
      by_cases hlater : key ∈ rest.map Prod.fst
      · exact ih _ hlater fun other hother => hvalue other (List.mem_cons_of_mem _ hother)
      · have hpair : pair.1 = key := by
          rcases List.mem_cons.mp hmem with heq | hmem
          · exact heq.symm
          · exact absurd hmem hlater
        rw [get?_update_of_not_mem _ _ hlater, hpair, get?_put_self,
          hvalue pair List.mem_cons_self hpair]

/-- The pairs put last come first. -/
theorem get?_update (pairs : List (κ × α)) {more : List (κ × α)}
    (hnodup : (more.map Prod.fst).Nodup) (key : κ) :
    get? key (update pairs more) = (get? key more).or (get? key pairs) := by
  induction more generalizing pairs with
  | nil => rfl
  | cons pair rest ih =>
      rw [List.map_cons, List.nodup_cons] at hnodup
      change get? key (update (put pair.1 pair.2 pairs) rest) = _
      rw [ih _ hnodup.2, get?]
      split
      next heq =>
        rw [← heq, get?_of_not_mem hnodup.1, get?_put_self]
        rfl
      next hne => rw [get?_put_of_ne (Ne.symm hne)]

theorem nodup_keys_update {pairs : List (κ × α)} (more : List (κ × α))
    (hnodup : (pairs.map Prod.fst).Nodup) : ((update pairs more).map Prod.fst).Nodup := by
  induction more generalizing pairs with
  | nil => exact hnodup
  | cons pair rest ih => exact ih (nodup_keys_put pair.1 pair.2 hnodup)

theorem get?_ofPairs_of_mem (hmem : key ∈ pairs.map Prod.fst)
    (hvalue : ∀ pair ∈ pairs, pair.1 = key → pair.2 = value) :
    get? key (ofPairs pairs) = some value :=
  get?_update_of_mem [] hmem hvalue

theorem get?_ofPairs_of_not_mem (hkey : key ∉ pairs.map Prod.fst) :
    get? key (ofPairs pairs) = none :=
  get?_update_of_not_mem [] pairs hkey

/-- The last value of a repeated key counts. -/
theorem get?_ofPairs_append {earlier later : List (κ × α)} (hkey : key ∉ later.map Prod.fst) :
    get? key (ofPairs (earlier ++ (key, value) :: later)) = some value := by
  have hsplit : ofPairs (earlier ++ (key, value) :: later) =
      update (put key value (ofPairs earlier)) later := List.foldl_append
  rw [hsplit, get?_update_of_not_mem _ _ hkey, get?_put_self]

theorem mem_update {pair : κ × α} {more : List (κ × α)} (h : pair ∈ update pairs more) :
    pair ∈ pairs ∨ pair ∈ more := by
  induction more generalizing pairs with
  | nil => exact .inl h
  | cons first rest ih =>
      rcases ih h with h | h
      · rcases mem_put h with rfl | h
        · exact .inr List.mem_cons_self
        · exact .inl h
      · exact .inr (List.mem_cons_of_mem _ h)

theorem mem_ofPairs {pair : κ × α} (h : pair ∈ ofPairs pairs) : pair ∈ pairs :=
  (mem_update h).resolve_left List.not_mem_nil

end OAuthClient.Assoc
