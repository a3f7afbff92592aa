import OAuthClient.Proofs.ActionLaws
import OAuthClient.Proofs.AssocLaws
import OAuthClient.Identity.ParameterMap

/-! # Fields of rendered parameters

A rendered form holds exactly the parameters that were asked for, each with the
value that the map has for it, and rendering fails only because a required
parameter has no value.
-/

namespace OAuthClient

theorem Text.isBlankText_intercalate {texts : List String} (hne : texts ≠ [])
    (htexts : ∀ text ∈ texts, isBlankText text = false) (mark : String) :
    isBlankText (String.intercalate mark texts) = false := by
  cases texts with
  | nil => exact absurd rfl hne
  | cons first rest =>
      have hfirst : first.toList.all isBlank = false := htexts first List.mem_cons_self
      rw [isBlankText, allBlank, String.toList_intercalate, List.map_cons]
      cases rest with
      | nil => rw [List.map_nil, List.intercalate_singleton, hfirst]
      | cons second rest =>
          rw [List.map_cons, List.intercalate_cons_cons, List.append_assoc, List.all_append, hfirst,
            Bool.false_and]

/-- The text that is rendered for a value; nothing is rendered for null and for blank texts. -/
def Value.filled? (value : Value) : Option String :=
  if value.isNull || Text.isBlankText value.plainText then none else some value.plainText

theorem Value.filled?_text (text : String) :
    filled? (.text text) = if Text.isBlankText text then none else some text := rfl

theorem Value.isBlankText_of_filled? {value : Value} {text : String}
    (h : value.filled? = some text) : Text.isBlankText text = false := by
  unfold filled? at h
  split at h
  next => cases h
  next hfilled =>
    rw [← Option.some.inj h]
    exact (Bool.or_eq_false_iff.mp (Bool.eq_false_iff.mpr hfilled)).2

theorem Value.toTexts_map_text (texts : List String) : toTexts (texts.map .text) = .ok texts := by
  induction texts with
  | nil => rfl
  | cons text rest ih =>
      rw [List.map_cons, toTexts, List.mapM_cons]
      change (toTexts (rest.map .text) >>= fun found => pure (text :: found)) = _
      rw [ih]
      rfl

/-- Whether a failure says that a value is missing or not acceptable. -/
def Failure.IsAuthorization (failure : Failure) : Prop :=
  ∃ name reason, failure = .authorization name reason

theorem Failure.isAuthorization_iff (failure : Failure) :
    failure.IsAuthorization ↔ failure matches .authorization .. := by
  cases failure <;> simp [IsAuthorization]

instance : DecidablePred Failure.IsAuthorization := fun failure =>
  decidable_of_iff _ failure.isAuthorization_iff.symm

theorem Failure.required_isAuthorization (name : String) : (required name).IsAuthorization :=
  ⟨name, _, rfl⟩

namespace ParameterMap

variable {map : ParameterMap} {optional required : List Parameter}
  {pairs : List (String × String)}

@[simp] theorem get?_addScope_of_ne (map : ParameterMap) (scope : Value) {parameter : Parameter}
    (hne : parameter ≠ .scope) : (map.addScope scope).get? parameter = map.get? parameter := by
  rw [get?_of_ne_scope _ hne, get?_of_ne_scope _ hne, addScope]
  split <;> rfl

theorem get?_addScopes_of_ne (map : ParameterMap) (scopes : List Value) {parameter : Parameter}
    (hne : parameter ≠ .scope) : (map.addScopes scopes).get? parameter = map.get? parameter := by
  induction scopes generalizing map with
  | nil => rfl
  | cons scope rest ih =>
      change ((map.addScope scope).addScopes rest).get? parameter = _
      rw [ih, get?_addScope_of_ne map scope hne]

/-- A parameter that is set to a value has its text, or its earlier value when there is none. -/
theorem get?_insert_self (map : ParameterMap) {parameter : Parameter} (hne : parameter ≠ .scope)
    (value : Value) :
    (map.insert parameter value).get? parameter = value.filled?.or (map.get? parameter) := by
  rw [get?_of_ne_scope _ hne, get?_of_ne_scope _ hne, insert, Value.filled?]
  split
  · rfl
  · exact Assoc.get?_put_self _ _ _

theorem get?_insert_text (map : ParameterMap) {parameter : Parameter} (hne : parameter ≠ .scope)
    (text : String) : (map.insert parameter (.text text)).get? parameter =
      if Text.isBlankText text then map.get? parameter else some text := by
  rw [get?_insert_self map hne, Value.filled?_text]
  split <;> rfl

/-- The names and values of those of some parameters that have a value. -/
def fieldsOf (value? : Parameter → Option String) (parameters : List Parameter) :
    List (String × String) :=
  parameters.filterMap fun parameter =>
    (value? parameter).map fun value => (parameter.wireName, value)

theorem fieldsOf_append (value? : Parameter → Option String) (first second : List Parameter) :
    fieldsOf value? (first ++ second) = fieldsOf value? first ++ fieldsOf value? second :=
  List.filterMap_append

theorem fieldsOf_congr {value? other? : Parameter → Option String} {parameters : List Parameter}
    (h : ∀ parameter ∈ parameters, value? parameter = other? parameter) :
    fieldsOf value? parameters = fieldsOf other? parameters := by
  induction parameters with
  | nil => rfl
  | cons parameter rest ih =>
      simp only [List.forall_mem_cons] at h
      simp only [fieldsOf, List.filterMap_cons, h.1] at ih ⊢
      rw [ih h.2]

theorem mem_fieldsOf {value? : Parameter → Option String} {parameters : List Parameter}
    {parameter : Parameter} {value : String} :
    (parameter.wireName, value) ∈ fieldsOf value? parameters ↔
      parameter ∈ parameters ∧ value? parameter = some value := by
  simp only [fieldsOf, List.mem_filterMap, Option.map_eq_some_iff, Prod.mk.injEq]
  constructor
  · rintro ⟨other, hother, found, hfound, hname, rfl⟩
    obtain rfl := Parameter.wireName_inj hname
    exact ⟨hother, hfound⟩
  · rintro ⟨hparameter, hvalue⟩
    exact ⟨parameter, hparameter, value, hvalue, rfl, rfl⟩

theorem collectRequired_eq_ok_iff :
    map.collectRequired required = .ok pairs ↔
      (∀ parameter ∈ required, (map.get? parameter).isSome) ∧
        pairs = fieldsOf map.get? required := by
  induction required generalizing pairs with
  | nil =>
      constructor
      · rintro ⟨⟩
        simp [fieldsOf]
      · rintro ⟨-, rfl⟩
        rfl
  | cons parameter rest ih =>
      rw [collectRequired]
      cases hvalue : map.get? parameter with
      | none => simp [hvalue]
      | some value =>
          simp only [List.forall_mem_cons, hvalue, Option.isSome_some, true_and]
          constructor
          · intro h
            obtain ⟨found, hfound, rfl⟩ := Failure.of_map_ok h
            obtain ⟨hall, rfl⟩ := ih.mp hfound
            exact ⟨hall, by simp [fieldsOf, hvalue]⟩
          · rintro ⟨hall, rfl⟩
            rw [ih.mpr ⟨hall, rfl⟩]
            simp [fieldsOf, hvalue, Except.map]

/-- What is collected has the required parameters in front, and there is something to collect only
where each of them has a value. -/
theorem collect_eq_ok_iff :
    map.collect optional required = .ok pairs ↔
      (∀ parameter ∈ required, (map.get? parameter).isSome) ∧
        pairs = fieldsOf map.get? (required ++ optional) := by
  rw [fieldsOf_append]
  constructor
  · intro h
    obtain ⟨found, hfound, rfl⟩ := Failure.of_map_ok h
    obtain ⟨hall, rfl⟩ := collectRequired_eq_ok_iff.mp hfound
    exact ⟨hall, rfl⟩
  · rintro ⟨hall, rfl⟩
    rw [collect, collectRequired_eq_ok_iff.mpr ⟨hall, rfl⟩]
    rfl

/-- What is rendered: the parameters that were asked for, as far as the map has values for them. -/
theorem mem_collect (h : map.collect optional required = .ok pairs) {pair : String × String} :
    pair ∈ pairs ↔ ∃ parameter ∈ required ++ optional,
      parameter.wireName = pair.1 ∧ map.get? parameter = some pair.2 := by
  obtain ⟨-, rfl⟩ := collect_eq_ok_iff.mp h
  simp only [fieldsOf, List.mem_filterMap, Option.map_eq_some_iff]
  constructor
  · rintro ⟨parameter, hmem, value, hvalue, rfl⟩
    exact ⟨parameter, hmem, rfl, hvalue⟩
  · rintro ⟨parameter, hmem, hname, hvalue⟩
    exact ⟨parameter, hmem, pair.2, hvalue, by rw [hname]⟩

theorem collectRequired_error {failure : Failure}
    (h : map.collectRequired required = .error failure) : failure.IsAuthorization := by
  induction required with
  | nil => cases h
  | cons parameter rest ih =>
      rw [collectRequired] at h
      split at h
      next =>
        cases h
        exact Failure.required_isAuthorization _
      next => exact ih (Failure.of_map_error h)

/-- Rendering fails only where a required parameter has no value. -/
theorem collect_error {failure : Failure} (h : map.collect optional required = .error failure) :
    failure.IsAuthorization :=
  collectRequired_error (Failure.of_map_error h)

theorem toForm_error {failure : Failure} (h : map.toForm optional required = .error failure) :
    failure.IsAuthorization :=
  collect_error (Failure.of_map_error h)

/-- A form has the parameters that were asked for and no other ones. -/
theorem get?_toForm {fields : List (String × String)}
    (h : map.toForm optional required = .ok fields) (parameter : Parameter) :
    Assoc.get? parameter.wireName fields =
      if parameter ∈ required ++ optional then map.get? parameter else none := by
  obtain ⟨pairs, hcollect, rfl⟩ := Failure.of_map_ok h
  by_cases hkey : parameter.wireName ∈ pairs.map Prod.fst
  · obtain ⟨pair, hpair, hname⟩ := List.mem_map.mp hkey
    obtain ⟨other, hmem, hother, hget⟩ := (mem_collect hcollect).mp hpair
    obtain rfl : other = parameter := Parameter.wireName_inj (hother.trans hname)
    rw [if_pos hmem, hget]
    apply Assoc.get?_ofPairs_of_mem hkey
    intro found hfound heq
    obtain ⟨third, -, hthird, hvalue⟩ := (mem_collect hcollect).mp hfound
    obtain rfl : third = other := Parameter.wireName_inj (hthird.trans heq)
    exact Option.some.inj (hvalue.symm.trans hget)
  · rw [Assoc.get?_ofPairs_of_not_mem hkey]
    split
    next hmem =>
      cases hget : map.get? parameter with
      | none => rfl
      | some value =>
          exact absurd (List.mem_map.mpr ⟨(parameter.wireName, value),
            (mem_collect hcollect).mpr ⟨parameter, hmem, rfl, hget⟩, rfl⟩) hkey
    next => rfl

/-- What a form requires has a value in it. -/
theorem get?_isSome_of_toForm {fields : List (String × String)}
    (h : map.toForm optional required = .ok fields) {parameter : Parameter}
    (hmem : parameter ∈ required) : (map.get? parameter).isSome := by
  obtain ⟨pairs, hcollect, -⟩ := Failure.of_map_ok h
  exact (collect_eq_ok_iff.mp hcollect).1 parameter hmem

end ParameterMap

end OAuthClient
