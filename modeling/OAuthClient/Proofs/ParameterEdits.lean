import Mathlib.Data.List.Induction
import OAuthClient.Proofs.GrantKeys
import OAuthClient.Proofs.UrlRequests

/-! # Edits of a parameter map

What a map says after any sequence of edits. A parameter has the last value that
was set and not blank, unless it was removed since, and the scopes are a matter
of their own. Rendering names the first required parameter without a value, or
else gives what was asked for and nothing more, in a form that can be read back.
-/

namespace OAuthClient

/-- Texts that are given one by one or as a single text. -/
inductive Texts where
  | one (text : String)
  | several (texts : List String)

namespace Texts

/-- The value that gives the texts. -/
def toValue : Texts → Value
  | .one text => .text text
  | .several texts => .list (texts.map .text)

/-- The items that are gone through; those of a single text are its characters. -/
def items : Texts → List String
  | .one text => text.toList.map fun c => String.ofList [c]
  | .several texts => texts

/-- The scopes that are named; those of a single text are its words. -/
def scopes : Texts → List String
  | .one text => Text.wordsOf text
  | .several texts => texts

/-- The sorted distinct items in one text. -/
def sortedText (texts : Texts) : String :=
  String.intercalate " " (TextSet.sortedDistinct texts.items)

theorem toItems_toValue (texts : Texts) :
    texts.toValue.toItems = .ok (texts.items.map .text) := by
  cases texts with
  | one text =>
      rw [items, List.map_map]
      rfl
  | several texts => rfl

end Texts

namespace ParameterMap

/-- A change of a map. -/
inductive Edit where
  /-- A parameter is set to a text. -/
  | insert (parameter : Parameter) (text : String)
  /-- The response type is set to several ones. -/
  | responseTypes (texts : Texts)
  | addScope (scope : String)
  | extendScopes (scopes : Texts)
  | remove (parameter : Parameter)

namespace Edit

/-- The map after a change. -/
def apply (map : ParameterMap) : Edit → Except Failure ParameterMap
  | .insert parameter text => .ok (map.insertText parameter text)
  | .responseTypes texts => map.responseTypes texts.toValue
  | .addScope scope => .ok (map.addScope (.text scope))
  | .extendScopes scopes => map.extendScopes scopes.toValue
  | .remove parameter => .ok (map.remove parameter)

/-- The parameter that a change sets, with the text that it is set to. -/
def setting? : Edit → Option (Parameter × String)
  | .insert parameter text => some (parameter, text)
  | .responseTypes texts => some (.responseType, texts.sortedText)
  | _ => none

/-- Whether a change is one of the scopes. -/
def isOnScopes : Edit → Bool
  | .addScope _ | .extendScopes _ => true
  | .remove parameter => parameter == .scope
  | _ => false

/-- Whether a change gives a parameter a value. -/
def Gives (edit : Edit) (parameter : Parameter) (text : String) : Prop :=
  edit.setting? = some (parameter, text) ∧ Text.isBlankText text = false

/-- The map after a change of texts, which never fails. -/
def result (map : ParameterMap) : Edit → ParameterMap
  | .insert parameter text => map.insertText parameter text
  | .responseTypes texts => map.insertText .responseType texts.sortedText
  | .addScope scope => map.addScopes [.text scope]
  | .extendScopes scopes => map.addScopes (scopes.scopes.map .text)
  | .remove parameter => map.remove parameter

theorem apply_eq (map : ParameterMap) (edit : Edit) : edit.apply map = .ok (edit.result map) := by
  cases edit with
  | responseTypes texts =>
      have hsorted : TextSet.ofList texts.items = TextSet.sortedDistinct texts.items :=
        TextSet.ofList_eq_sortedDistinct fun _ => Iff.rfl
      rw [apply, ParameterMap.responseTypes, texts.toItems_toValue]
      change (Value.toTexts (texts.items.map .text) >>= _) = _
      rw [Value.toTexts_map_text, result, Texts.sortedText, ← hsorted]
      rfl
  | extendScopes scopes =>
      cases scopes with
      | one text => rfl
      | several texts => cases texts <;> rfl
  | _ => rfl

end Edit

/-- A new map after some changes. -/
def run (logPii : Bool) (edits : List Edit) : Except Failure ParameterMap :=
  edits.foldlM Edit.apply { logPii }

/-- Whether a text is the last one that some changes gave a parameter, and the parameter was not
removed since. -/
def IsLatest (edits : List Edit) (parameter : Parameter) (text : String) : Prop :=
  ∃ earlier edit later, edits = earlier ++ edit :: later ∧ edit.Gives parameter text ∧
    ∀ other ∈ later, other ≠ .remove parameter ∧ ∀ newer, ¬ other.Gives parameter newer

/-- What rendering some parameters yields. The first required one that has no value is missing; or
there is a query that reads back as the names and values of those that have one, the required ones
first, and a form of just these. -/
def Renders (map : ParameterMap) (optional required : List Parameter) : Prop :=
  match required.find? fun parameter => (map.get? parameter).isNone with
  | some missing =>
      map.toQuery optional required = .error (.required missing.wireName) ∧
        map.toForm optional required = .error (.required missing.wireName)
  | none =>
      ∃ query form, map.toQuery optional required = .ok query ∧
        (∀ keepBlank, Text.Form.decode keepBlank query =
          fieldsOf map.get? (required ++ optional)) ∧
        map.toForm optional required = .ok form ∧ (form.map Prod.fst).Nodup ∧
        ∀ pair, pair ∈ form ↔ pair ∈ fieldsOf map.get? (required ++ optional)

variable {map : ParameterMap} {edits : List Edit} {edit : Edit} {parameter : Parameter}
  {text : String} {optional required : List Parameter} {logPii : Bool}

theorem run_eq (logPii : Bool) (edits : List Edit) :
    run logPii edits = .ok (edits.foldl Edit.result { logPii }) := by
  have hfold (map : ParameterMap) :
      edits.foldlM Edit.apply map = .ok (edits.foldl Edit.result map) := by
    induction edits generalizing map with
    | nil => rfl
    | cons edit rest ih =>
        rw [List.foldlM_cons, Edit.apply_eq]
        exact ih (edit.result map)
  exact hfold { logPii }

/-! ### Values -/

theorem get?_remove_self (map : ParameterMap) (parameter : Parameter) :
    (map.remove parameter).get? parameter = none := by
  cases parameter <;> first | rfl | exact Assoc.get?_erase_self _ _

theorem get?_remove_of_ne (map : ParameterMap) {parameter other : Parameter}
    (hne : other ≠ parameter) : (map.remove parameter).get? other = map.get? other := by
  by_cases hother : other = .scope
  · subst hother
    cases parameter <;> first | rfl | exact absurd rfl hne
  · rw [get?_of_ne_scope _ hother, get?_of_ne_scope _ hother]
    cases parameter <;> first | rfl | exact Assoc.get?_erase_of_ne hne _

/-- A change that sets no parameter leaves it alone unless it removes it. -/
theorem Edit.get?_result_of_not_gives (hne : parameter ≠ .scope)
    (hremove : edit ≠ .remove parameter) (hgives : ∀ newer, ¬ edit.Gives parameter newer) :
    (edit.result map).get? parameter = map.get? parameter := by
  have hinsert (other : Parameter) (text : String)
      (hblank : other = parameter → Text.isBlankText text = true) :
      (map.insertText other text).get? parameter = map.get? parameter := by
    by_cases hother : other = parameter
    · rw [insertText, hother, get?_insert_text map hne, if_pos (hblank hother)]
    · exact get?_insert_of_ne map _ (Ne.symm hother)
  have hblank (other : Parameter) (text : String) (hsetting : edit.setting? = some (other, text))
      (hother : other = parameter) : Text.isBlankText text = true := by
    rw [hother] at hsetting
    exact Bool.eq_true_of_not_eq_false fun hfilled => hgives text ⟨hsetting, hfilled⟩
  cases edit with
  | insert other text => exact hinsert other text (hblank other text rfl)
  | responseTypes texts => exact hinsert _ _ (hblank _ _ rfl)
  | addScope scope => exact get?_addScopes_of_ne map _ hne
  | extendScopes scopes => exact get?_addScopes_of_ne map _ hne
  | remove other =>
      refine get?_remove_of_ne map fun hother => hremove ?_
      rw [hother]

theorem Edit.get?_result_of_gives (hne : parameter ≠ .scope) (h : edit.Gives parameter text) :
    (edit.result map).get? parameter = some text := by
  obtain ⟨hsetting, hfilled⟩ := h
  cases edit with
  | insert other written =>
      obtain ⟨rfl, rfl⟩ := Prod.mk.inj (Option.some.inj hsetting)
      exact get?_insertText_self map hne hfilled
  | responseTypes texts =>
      obtain ⟨rfl, rfl⟩ := Prod.mk.inj (Option.some.inj hsetting)
      exact get?_insertText_self map hne hfilled
  | _ => cases hsetting

/-- What one more change does to the value of a parameter. -/
theorem Edit.get?_result_iff (hne : parameter ≠ .scope) :
    (edit.result map).get? parameter = some text ↔
      edit.Gives parameter text ∨ (edit ≠ .remove parameter ∧
        ∀ newer, ¬ edit.Gives parameter newer) ∧ map.get? parameter = some text := by
  by_cases hgives : ∃ given, edit.Gives parameter given
  · obtain ⟨given, hgiven⟩ := hgives
    rw [get?_result_of_gives hne hgiven, Option.some.injEq]
    constructor
    · rintro rfl
      exact .inl hgiven
    · rintro (h | ⟨⟨_, hnone⟩, _⟩)
      · exact (Prod.mk.inj (Option.some.inj (hgiven.1.symm.trans h.1))).2
      · exact absurd hgiven (hnone given)
  · rw [not_exists] at hgives
    by_cases hremove : edit = .remove parameter
    · subst hremove
      rw [result, get?_remove_self]
      simp [hgives text]
    · rw [get?_result_of_not_gives hne hremove hgives]
      simp [hgives, hremove]

theorem isLatest_concat_iff :
    IsLatest (edits ++ [edit]) parameter text ↔
      edit.Gives parameter text ∨ (edit ≠ .remove parameter ∧
        ∀ newer, ¬ edit.Gives parameter newer) ∧ IsLatest edits parameter text := by
  constructor
  · rintro ⟨earlier, giving, later, hsplit, hgives, hlater⟩
    -- Either the new change gave the value itself, or it is one of those that leave it alone.
    rcases List.eq_nil_or_concat later with rfl | ⟨later, last, rfl⟩
    · obtain ⟨_, hlast⟩ := List.append_inj' hsplit rfl
      rw [(List.cons.inj hlast).1]
      exact .inl hgives
    · rw [List.concat_eq_append, ← List.cons_append, ← List.append_assoc] at hsplit
      obtain ⟨rfl, hlast⟩ := List.append_inj' hsplit rfl
      obtain rfl := (List.cons.inj hlast).1
      simp only [List.concat_eq_append, List.forall_mem_append, List.forall_mem_singleton] at hlater
      exact .inr ⟨hlater.2, earlier, giving, later, rfl, hgives, hlater.1⟩
  · rintro (hgives | ⟨hlast, earlier, giving, later, rfl, hgives, hlater⟩)
    · exact ⟨edits, edit, [], rfl, hgives, by simp⟩
    · refine ⟨earlier, giving, later ++ [edit], by simp, hgives, ?_⟩
      simpa only [List.forall_mem_append, List.forall_mem_singleton] using ⟨hlater, hlast⟩

/-- A parameter has the value that it was given last. -/
theorem get?_foldl_iff (hne : parameter ≠ .scope) :
    (edits.foldl Edit.result { logPii }).get? parameter = some text ↔
      IsLatest edits parameter text := by
  -- The last change decides, so the induction takes the changes from the end.
  induction edits using List.reverseRecOn generalizing text with
  | nil =>
      rw [List.foldl_nil, get?_empty]
      simp [IsLatest]
  | append_singleton edits edit ih =>
      rw [List.foldl_append, List.foldl_cons, List.foldl_nil, Edit.get?_result_iff hne, ih,
        isLatest_concat_iff]

/-! ### Scopes -/

theorem scopes_remove (map : ParameterMap) (parameter : Parameter) :
    (map.remove parameter).scopes = if parameter = .scope then [] else map.scopes := by
  cases parameter <;> rfl

theorem Edit.scopes_result_of_not_isOnScopes (h : edit.isOnScopes = false) (map : ParameterMap) :
    (edit.result map).scopes = map.scopes := by
  cases edit with
  | insert parameter text => exact scopes_insert map parameter _
  | responseTypes texts => exact scopes_insert map _ _
  | remove parameter =>
      rw [result, scopes_remove, if_neg (by simpa [isOnScopes] using h)]
  | _ => cases h

theorem Edit.scopes_result_congr {other : ParameterMap} (h : map.scopes = other.scopes)
    (edit : Edit) : (edit.result map).scopes = (edit.result other).scopes := by
  cases edit with
  | insert parameter text =>
      rw [result, result, insertText, insertText, scopes_insert, scopes_insert, h]
  | responseTypes texts =>
      rw [result, result, insertText, insertText, scopes_insert, scopes_insert, h]
  | remove parameter => rw [result, result, scopes_remove, scopes_remove, h]
  | _ => rw [result, result, scopes_addScopes, scopes_addScopes, h]

/-- Only the changes of the scopes matter for them. -/
theorem scopes_foldl_filter {other : ParameterMap} (h : map.scopes = other.scopes)
    (edits : List Edit) :
    (edits.foldl Edit.result map).scopes =
      ((edits.filter Edit.isOnScopes).foldl Edit.result other).scopes := by
  induction edits generalizing map other with
  | nil => exact h
  | cons edit rest ih =>
      rw [List.foldl_cons, List.filter_cons]
      split
      next => exact ih (Edit.scopes_result_congr h edit)
      next hother =>
        exact ih ((Edit.scopes_result_of_not_isOnScopes (Bool.eq_false_iff.mpr hother) map).trans h)

/-! ### Rendering -/

theorem IsFilled.remove (h : map.IsFilled) (parameter : Parameter) :
    (map.remove parameter).IsFilled := by
  have herase (key : Parameter) : ∀ pair ∈ Assoc.erase key map.parameters,
      Text.isBlankText pair.2 = false :=
    fun pair hpair => h.parameters pair (List.mem_filter.mp hpair).1
  cases parameter with
  | scope => exact ⟨h.parameters, by rintro _ ⟨⟩⟩
  | _ => exact ⟨herase _, h.scopes⟩

theorem IsFilled.foldl (h : map.IsFilled) (edits : List Edit) :
    (edits.foldl Edit.result map).IsFilled := by
  induction edits generalizing map with
  | nil => exact h
  | cons edit rest ih =>
      apply ih
      cases edit with
      | insert parameter text => exact h.insertText parameter text
      | responseTypes texts => exact h.insertText _ _
      | remove parameter => exact h.remove parameter
      | _ => exact h.addScopes _

/-- The first required parameter without a value is missing. -/
theorem collectRequired_of_find? {missing : Parameter}
    (h : (required.find? fun parameter => (map.get? parameter).isNone) = some missing) :
    map.collectRequired required = .error (.required missing.wireName) := by
  induction required with
  | nil => cases h
  | cons parameter rest ih =>
      rw [collectRequired]
      cases hvalue : map.get? parameter with
      | none =>
          rw [List.find?_cons_of_pos (by rw [hvalue]; rfl)] at h
          rw [Option.some.inj h]
      | some value =>
          rw [List.find?_cons_of_neg (by rw [hvalue]; exact Bool.false_ne_true)] at h
          rw [ih h]
          rfl

/-- Names stand for one parameter each, so no value of a form hides another one. -/
theorem mem_toForm_iff {form : List (String × String)} (h : map.toForm optional required = .ok form)
    {pair : String × String} :
    pair ∈ form ↔ pair ∈ fieldsOf map.get? (required ++ optional) := by
  obtain ⟨pairs, hpairs, rfl⟩ := Failure.of_map_ok h
  obtain ⟨-, rfl⟩ := collect_eq_ok_iff.mp hpairs
  constructor
  · exact Assoc.mem_ofPairs
  · intro hpair
    obtain ⟨parameter, hparameter, hname, hvalue⟩ := (mem_collect hpairs).mp hpair
    apply Assoc.mem_of_get?
    rw [← hname, get?_toForm h, if_pos hparameter, hvalue]

theorem IsFilled.renders (h : map.IsFilled) (optional required : List Parameter) :
    map.Renders optional required := by
  unfold Renders
  split
  next missing hmissing =>
    have hcollect : map.collect optional required = .error (.required missing.wireName) := by
      rw [collect, collectRequired_of_find? hmissing]
      rfl
    rw [toQuery, toForm, hcollect]
    exact ⟨rfl, rfl⟩
  next hall =>
    have hcollect : map.collect optional required =
        .ok (fieldsOf map.get? (required ++ optional)) := by
      refine collect_eq_ok_iff.mpr ⟨?_, rfl⟩
      simpa [List.find?_eq_none, Option.isSome_iff_ne_none] using hall
    have hform : map.toForm optional required =
        .ok (Assoc.ofPairs (fieldsOf map.get? (required ++ optional))) := by
      rw [toForm, hcollect]
      rfl
    -- No value is blank, so each one is read back whether or not blank values are kept.
    refine ⟨Text.Form.encode (fieldsOf map.get? (required ++ optional)), _, ?_, ?_, hform,
      Assoc.nodup_keys_update _ List.nodup_nil, fun pair => mem_toForm_iff hform⟩
    · rw [toQuery, hcollect]
      rfl
    · intro keepBlank
      refine Text.Form.decode_encode_of_filled fun pair hpair => .inr fun hempty => ?_
      obtain ⟨parameter, -, -, hvalue⟩ := (mem_collect hcollect).mp hpair
      have hfilled := h.get? hvalue
      rw [hempty] at hfilled
      cases hfilled

/-- After any changes each parameter has the last value that it was given and that was not blank,
unless it was removed since; the scopes are what the changes of the scopes made of them; and
whatever is asked for is rendered or missing. Rendering makes a text or a form and no map, so that
it changes nothing. -/
theorem edits_are_rendered (logPii : Bool) (edits : List Edit) :
    ∃ map, run logPii edits = .ok map ∧
      (∀ parameter ≠ .scope, ∀ text,
        map.get? parameter = some text ↔ IsLatest edits parameter text) ∧
      (∀ others other, others.filter Edit.isOnScopes = edits.filter Edit.isOnScopes →
        run logPii others = .ok other → other.get? .scope = map.get? .scope) ∧
      ∀ optional required, map.Renders optional required := by
  refine ⟨_, run_eq logPii edits, fun parameter hne text => get?_foldl_iff hne, ?_, ?_⟩
  · intro others other hsame hother
    rw [run_eq] at hother
    obtain rfl := Except.ok.inj hother
    have hscopes : (others.foldl Edit.result { logPii }).scopes =
        (edits.foldl Edit.result { logPii }).scopes := by
      rw [scopes_foldl_filter rfl others, hsame, ← scopes_foldl_filter rfl edits]
    rw [get?_scope, get?_scope, joinScopes, joinScopes, hscopes]
  · intro optional required
    exact (IsFilled.foldl ⟨by simp, by simp⟩ edits).renders optional required

/-- Changes that replace a value, ignore a blank one and take one back. -/
def trialEdits : List Edit :=
  [.insert .nonce "n", .insert .state "first", .addScope "User.Read", .insert .state "a&b = é",
    .insert .state " ", .remove .nonce]

theorem trialEdits_are_rendered :
    ∃ map, run false trialEdits = .ok map ∧ map.get? .state = some "a&b = é" ∧
      map.get? .scope = some "User.Read" ∧
      map.toQuery [] [.state, .nonce] = .error (.required "nonce") := by
  obtain ⟨map, hrun, hvalue, hscope, hrender⟩ := edits_are_rendered false trialEdits
  have hstate : map.get? .state = some "a&b = é" := by
    refine (hvalue .state (by decide) _).mpr
      ⟨[.insert .nonce "n", .insert .state "first", .addScope "User.Read"],
        .insert .state "a&b = é", [.insert .state " ", .remove .nonce], rfl, ⟨rfl, by decide⟩, ?_⟩
    have hblank : Text.isBlankText " " = true := by decide
    simp [Edit.Gives, Edit.setting?, hblank]
  have hnonce : map.get? .nonce = none := by
    obtain rfl := Except.ok.inj (hrun.symm.trans (run_eq false trialEdits))
    decide +kernel
  refine ⟨map, hrun, hstate, ?_, ?_⟩
  · exact (hscope [.addScope "User.Read"] _ rfl (run_eq _ _)).symm
  · have hmissing := hrender [] [.state, .nonce]
    simp only [Renders, List.find?_cons, hstate, hnonce] at hmissing
    exact hmissing.1

end ParameterMap

end OAuthClient
