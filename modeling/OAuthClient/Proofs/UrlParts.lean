import OAuthClient.Proofs.FormEncoding
import OAuthClient.Text.Url

/-! # Parts of a URL that was put together

A readable address with a query or a fragment behind it is read back as that
query or that fragment: neither the scheme nor the authority of the address
reaches beyond the mark, and what is ignored in front of it stays ignored.
-/

namespace OAuthClient.Text.Url

variable {base carried : List Char} {mark : Char}

theorem dropWhile_append_cons {p : Char → Bool} (hmark : p mark = false) (text rest : List Char) :
    (text ++ mark :: rest).dropWhile p = text.dropWhile p ++ mark :: rest := by
  induction text with
  | nil => simp [hmark]
  | cons c text ih =>
      rw [List.cons_append, List.dropWhile_cons, List.dropWhile_cons, ih]
      split <;> rfl

theorem takeWhile_append_cons {p : Char → Bool} (hmark : p mark = false) (text rest : List Char) :
    (text ++ mark :: rest).takeWhile p = text.takeWhile p := by
  induction text with
  | nil => simp [hmark]
  | cons c text ih =>
      rw [List.cons_append, List.takeWhile_cons, List.takeWhile_cons, ih]

theorem cutFirst_append_of_some {cut : Char → Bool} {text before after : List Char}
    (h : cutFirst cut text = some (before, after)) (rest : List Char) :
    cutFirst cut (text ++ rest) = some (before, after ++ rest) := by
  induction text generalizing before with
  | nil => cases h
  | cons c text ih =>
      rw [cutFirst] at h
      rw [List.cons_append, cutFirst]
      split at h
      next hcut =>
        cases h
        rw [if_pos hcut]
      next hcut =>
        obtain ⟨⟨head, tail⟩, hfound, hpair⟩ := Option.map_eq_some_iff.mp h
        cases hpair
        rw [if_neg hcut, ih hfound]
        rfl

theorem cutFirst_append_of_not_cut {cut : Char → Bool} {text : List Char}
    (h : ∀ c ∈ text, cut c = false) (rest : List Char) :
    cutFirst cut (text ++ rest) =
      (cutFirst cut rest).map fun (before, after) => (text ++ before, after) := by
  induction text with
  | nil => cases hrest : cutFirst cut rest <;> simp [hrest]
  | cons c text ih =>
      rw [List.forall_mem_cons] at h
      rw [List.cons_append, cutFirst, if_neg (by simp [h.1]), ih h.2, Option.map_map]
      rfl

theorem cutFirst_eq_none_iff {cut : Char → Bool} {text : List Char} :
    cutFirst cut text = none ↔ ∀ c ∈ text, cut c = false := by
  induction text with
  | nil => simp [cutFirst]
  | cons c text ih =>
      rw [cutFirst, List.forall_mem_cons, ← ih]
      split <;> simp_all

/-! ### Reading on beyond the mark -/

/-- The marks behind which values are carried. -/
def marks : List Char := ['?', '#']

theorem eq_or_eq_of_mem_marks (hmark : mark ∈ marks) : mark = '?' ∨ mark = '#' := by
  simpa [marks] using hmark

/-- The characters that reading ignores wherever they stand. -/
def isIgnored (c : Char) : Bool := c == '\t' || c == '\r' || c == '\n'

theorem significant_append (hmark : mark ∈ marks)
    (hcarried : ∀ c ∈ carried, isIgnored c = false) :
    significant (base ++ mark :: carried) = significant base ++ mark :: carried := by
  have hblank : decide (mark.toNat ≤ 0x20) = false := by
    rcases eq_or_eq_of_mem_marks hmark with rfl | rfl <;> decide
  have hkept : ∀ c ∈ mark :: carried, (c != '\t' && c != '\r' && c != '\n') = true := by
    rw [List.forall_mem_cons]
    refine ⟨by rcases eq_or_eq_of_mem_marks hmark with rfl | rfl <;> decide, fun c hc => ?_⟩
    simpa [isIgnored, and_assoc] using hcarried c hc
  rw [significant, dropWhile_append_cons hblank, List.filter_append, List.filter_eq_self.mpr hkept]
  rfl

/-- A colon behind the mark ends no scheme, since a scheme has no mark in it. -/
theorem afterScheme_append (hmark : mark ∈ marks) :
    afterScheme (base ++ mark :: carried) = afterScheme base ++ mark :: carried := by
  cases hcut : cutFirst (· == ':') base with
  | some pieces =>
      obtain ⟨before, after⟩ := pieces
      rw [afterScheme, cutFirst_append_of_some hcut, afterScheme, hcut]
      cases before with
      | nil => rfl
      | cons first more =>
          dsimp only
          split <;> rfl
  | none =>
      have hbase : afterScheme base = base := by rw [afterScheme, hcut]
      rw [hbase, afterScheme, cutFirst_append_of_not_cut (cutFirst_eq_none_iff.mp hcut), cutFirst,
        if_neg (by rcases eq_or_eq_of_mem_marks hmark with rfl | rfl <;> decide)]
      cases cutFirst (· == ':') carried with
      | none => rfl
      | some pieces =>
          obtain ⟨before, after⟩ := pieces
          have hscheme : isSchemeChar mark = false := by
            rcases eq_or_eq_of_mem_marks hmark with rfl | rfl <;> decide
          have hletter : isAsciiLetter mark = false := by
            rcases eq_or_eq_of_mem_marks hmark with rfl | rfl <;> decide
          cases base <;> simp [hscheme, hletter]

theorem cutAuthority_slashes (rest : List Char) :
    cutAuthority ('/' :: '/' :: rest) =
      (rest.takeWhile fun c => c != '/' && c != '?' && c != '#',
        rest.dropWhile fun c => c != '/' && c != '?' && c != '#') := rfl

theorem cutAuthority_of_not_slashes {url : List Char} (h : ∀ rest, url ≠ '/' :: '/' :: rest) :
    cutAuthority url = ([], url) := by
  unfold cutAuthority
  split
  next rest => exact absurd rfl (h rest)
  next => rfl

theorem cutAuthority_append (hmark : mark ∈ marks) :
    cutAuthority (base ++ mark :: carried) =
      ((cutAuthority base).1, (cutAuthority base).2 ++ mark :: carried) := by
  have hslash : mark ≠ '/' := by rcases eq_or_eq_of_mem_marks hmark with rfl | rfl <;> decide
  have hinside : (mark != '/' && mark != '?' && mark != '#') = false := by
    rcases eq_or_eq_of_mem_marks hmark with rfl | rfl <;> decide
  by_cases hslashes : ∃ rest, base = '/' :: '/' :: rest
  · obtain ⟨rest, rfl⟩ := hslashes
    rw [List.cons_append, List.cons_append, cutAuthority_slashes, cutAuthority_slashes,
      takeWhile_append_cons hinside, dropWhile_append_cons hinside]
  · have hnot : ∀ rest, base ≠ '/' :: '/' :: rest := fun rest heq => hslashes ⟨rest, heq⟩
    rw [cutAuthority_of_not_slashes hnot, cutAuthority_of_not_slashes]
    intro rest heq
    -- The mark is no slash, so both slashes would have to stand in front of it.
    rcases base with _ | ⟨first, _ | ⟨second, more⟩⟩ <;> simp_all

/-! ### What the parts are -/

theorem mem_of_cutFirst {cut : Char → Bool} {text before after : List Char}
    (h : cutFirst cut text = some (before, after)) {c : Char} (hc : c ∈ after) : c ∈ text := by
  induction text generalizing before with
  | nil => cases h
  | cons d text ih =>
      rw [cutFirst] at h
      split at h
      next =>
        cases h
        exact List.mem_cons_of_mem _ hc
      next =>
        obtain ⟨⟨head, tail⟩, hfound, hpair⟩ := Option.map_eq_some_iff.mp h
        cases hpair
        exact List.mem_cons_of_mem _ (ih hfound)

theorem mem_of_mem_afterScheme {c : Char} {url : List Char} (h : c ∈ afterScheme url) :
    c ∈ url := by
  unfold afterScheme at h
  split at h
  next first more rest hcut =>
    split at h
    · exact mem_of_cutFirst hcut h
    · exact h
  next => exact h

theorem mem_of_mem_cutAuthority {c : Char} {url : List Char} (h : c ∈ (cutAuthority url).2) :
    c ∈ url := by
  unfold cutAuthority at h
  split at h
  next rest =>
    have hrest := (List.dropWhile_sublist _).mem h
    exact List.mem_cons_of_mem _ (List.mem_cons_of_mem _ hrest)
  next => exact h

/-- What stands behind the authority of a URL. -/
def behindAuthority (url : List Char) : List Char :=
  (cutAuthority (afterScheme (significant url))).2

theorem mem_of_mem_behindAuthority {c : Char} {url : List Char} (h : c ∈ behindAuthority url) :
    c ∈ url := by
  have hsignificant := mem_of_mem_afterScheme (mem_of_mem_cutAuthority h)
  exact (List.dropWhile_sublist _).mem (List.mem_filter.mp hsignificant).1

/-- The authority of a URL. -/
def authorityOf (url : List Char) : List Char := (cutAuthority (afterScheme (significant url))).1

theorem isSome_split?_iff {url : List Char} :
    (split? url).isSome ↔ isSoundAuthority (authorityOf url) = true := by
  rw [split?, authorityOf]
  dsimp only
  split
  next hsound => exact iff_of_true rfl hsound
  next hunsound => exact iff_of_false Bool.noConfusion hunsound

theorem authorityOf_append (hmark : mark ∈ marks) (hcarried : ∀ c ∈ carried, isIgnored c = false) :
    authorityOf (base ++ mark :: carried) = authorityOf base := by
  rw [authorityOf, significant_append hmark hcarried, afterScheme_append hmark,
    cutAuthority_append hmark]
  rfl

theorem behindAuthority_append (hmark : mark ∈ marks)
    (hcarried : ∀ c ∈ carried, isIgnored c = false) :
    behindAuthority (base ++ mark :: carried) = behindAuthority base ++ mark :: carried := by
  rw [behindAuthority, significant_append hmark hcarried, afterScheme_append hmark,
    cutAuthority_append hmark]
  rfl

/-- What stands behind an address does not make it readable. -/
theorem split?_append_eq_none (hbase : split? base = none) (hmark : mark ∈ marks)
    (hcarried : ∀ c ∈ carried, isIgnored c = false) : split? (base ++ mark :: carried) = none := by
  rw [← Option.not_isSome_iff_eq_none, isSome_split?_iff] at hbase ⊢
  rw [authorityOf_append hmark hcarried]
  exact hbase

/-- A readable address stays readable with something behind it, which becomes its end. -/
theorem split?_append {parts : Parts} (hbase : split? base = some parts) (hmark : mark ∈ marks)
    (hcarried : ∀ c ∈ carried, isIgnored c = false) :
    split? (base ++ mark :: carried) =
      let rest := behindAuthority base ++ mark :: carried
      let (beforeFragment, fragment) := (cutFirst (· == '#') rest).getD (rest, [])
      let (_, query) := (cutFirst (· == '?') beforeFragment).getD (beforeFragment, [])
      some { query, fragment } := by
  have hsound : isSoundAuthority (authorityOf (base ++ mark :: carried)) = true := by
    rw [authorityOf_append hmark hcarried, ← isSome_split?_iff, hbase]
    rfl
  rw [← behindAuthority_append hmark hcarried]
  exact if_pos hsound

theorem split?_query {parts : Parts} (hbase : split? base = some parts)
    (hmarks : ∀ c ∈ base, c ≠ '?' ∧ c ≠ '#')
    (hcarried : ∀ c ∈ carried, c ≠ '#' ∧ isIgnored c = false) :
    split? (base ++ '?' :: carried) = some { query := carried, fragment := [] } := by
  have hquery : cutFirst (· == '?') (behindAuthority base ++ '?' :: carried) =
      some (behindAuthority base, carried) :=
    cutFirst_append_cons (fun c hc =>
      beq_eq_false_iff_ne.mpr (hmarks c (mem_of_mem_behindAuthority hc)).1) rfl
  have hfragment : cutFirst (· == '#') (behindAuthority base ++ '?' :: carried) = none := by
    rw [cutFirst_eq_none_iff]
    intro c hc
    rw [beq_eq_false_iff_ne]
    rcases List.mem_append.mp hc with hc | hc
    · exact (hmarks c (mem_of_mem_behindAuthority hc)).2
    · rcases List.mem_cons.mp hc with rfl | hc
      · decide
      · exact (hcarried c hc).1
  rw [split?_append hbase (by decide) fun c hc => (hcarried c hc).2]
  simp only [hfragment, Option.getD_none, hquery, Option.getD_some]

theorem split?_fragment {parts : Parts} (hbase : split? base = some parts)
    (hmarks : ∀ c ∈ base, c ≠ '#') (hcarried : ∀ c ∈ carried, isIgnored c = false) :
    ∃ query, split? (base ++ '#' :: carried) = some { query, fragment := carried } ∧
      ((∀ c ∈ base, c ≠ '?') → query = []) := by
  have hfragment : cutFirst (· == '#') (behindAuthority base ++ '#' :: carried) =
      some (behindAuthority base, carried) :=
    cutFirst_append_cons (fun c hc =>
      beq_eq_false_iff_ne.mpr (hmarks c (mem_of_mem_behindAuthority hc))) rfl
  rw [split?_append hbase (by decide) hcarried]
  simp only [hfragment, Option.getD_some]
  refine ⟨_, rfl, ?_⟩
  intro hplain
  have hquery : cutFirst (· == '?') (behindAuthority base) = none := by
    rw [cutFirst_eq_none_iff]
    intro c hc
    exact beq_eq_false_iff_ne.mpr (hplain c (mem_of_mem_behindAuthority hc))
  rw [hquery]
  rfl

end OAuthClient.Text.Url
