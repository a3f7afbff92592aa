import Mathlib.Tactic.IntervalCases
import OAuthClient.Json.Reader
import OAuthClient.Json.Writer
import OAuthClient.Proofs.AssocLaws
import OAuthClient.Proofs.Utf8Laws

/-! # Reading written JSON back

What the writer makes of a value without doubles, the reader reads as that
value. Strings go character by character, whatever escape the writer chose;
lists and objects go item by item, each item leaving the text behind it alone.
-/

namespace OAuthClient

/-! ### Decimal digits -/

namespace Text

theorem natOfDigits_concat (digits : List Char) {d : Nat} (hd : d < 10) :
    natOfDigits (digits ++ [Nat.digitChar d]) = natOfDigits digits * 10 + d := by
  have hvalue : asciiDigit? (Nat.digitChar d) = some d := by
    revert d
    decide
  rw [natOfDigits, List.foldl_append, List.foldl_cons, List.foldl_nil, hvalue]
  rfl

theorem natOfDigits_toDigits (n : Nat) : natOfDigits (Nat.toDigits 10 n) = n := by
  induction n using Nat.strongRecOn with
  | ind n ih =>
      by_cases hn : n < 10
      · rw [Nat.toDigits_of_lt_base hn, ← List.nil_append [n.digitChar], natOfDigits_concat _ hn]
        exact Nat.zero_add n
      · rw [Nat.toDigits_of_base_le (by decide) (by omega),
          natOfDigits_concat _ (Nat.mod_lt n (by decide)), ih (n / 10) (by omega)]
        omega

theorem isAsciiDigit_of_mem_toDigits {c : Char} {n : Nat} (h : c ∈ Nat.toDigits 10 n) :
    isAsciiDigit c = true := by
  have hdigit := Nat.isDigit_of_mem_toDigits (by decide) (by decide) h
  simpa [Char.isDigit, isAsciiDigit, UInt32.le_iff_toNat_le] using hdigit

/-- A leading zero stands alone. -/
theorem exists_toDigits (n : Nat) :
    ∃ d < 10, ∃ rest, Nat.toDigits 10 n = Nat.digitChar d :: rest ∧ (d = 0 → rest = []) := by
  induction n using Nat.strongRecOn with
  | ind n ih =>
      by_cases hn : n < 10
      · exact ⟨n, hn, [], Nat.toDigits_of_lt_base hn, fun _ => rfl⟩
      · obtain ⟨d, hd, rest, hdigits, hzero⟩ := ih (n / 10) (by omega)
        refine ⟨d, hd, rest ++ [(n % 10).digitChar], ?_, ?_⟩
        · rw [Nat.toDigits_of_base_le (by decide) (by omega), hdigits, List.cons_append]
        · intro h0
          -- A quotient that begins with zero is zero, and this one is not.
          have hvalue := natOfDigits_toDigits (n / 10)
          rw [hdigits, hzero h0, h0] at hvalue
          have : natOfDigits [Nat.digitChar 0] = 0 := by decide
          omega

theorem length_toDigits_le {n limit : Nat} (hlimit : 0 < limit) (hn : n < Nat.pow 10 limit) :
    (Nat.toDigits 10 n).length ≤ limit :=
  (Nat.length_toDigits_le_iff (by decide) hlimit).mpr hn

end Text

namespace Json

/-! ### Numbers -/

/-- What may follow a value in a text: nothing, or a mark that ends it. -/
inductive Ends : List Char → Prop
  | nothing : Ends []
  | comma (rest : List Char) : Ends (',' :: rest)
  | bracket (rest : List Char) : Ends (']' :: rest)
  | brace (rest : List Char) : Ends ('\x7d' :: rest)

variable {rest : List Char}

theorem cutDigits_append {digits : List Char} (hdigits : ∀ c ∈ digits, Text.isAsciiDigit c = true)
    (hends : Ends rest) : cutDigits (digits ++ rest) = (digits, rest) := by
  have hrest : cutDigits rest = ([], rest) := by cases hends <;> rfl
  simp only [cutDigits, Prod.mk.injEq] at hrest ⊢
  rw [List.takeWhile_append_of_pos hdigits, List.dropWhile_append_of_pos hdigits, hrest.1, hrest.2,
    List.append_nil]
  exact ⟨rfl, rfl⟩

theorem readNumber_toDigits (negative : Bool) {n : Nat}
    (hlength : (Nat.toDigits 10 n).length ≤ Text.integerDigitLimit) (hends : Ends rest) :
    readNumber negative (Nat.toDigits 10 n ++ rest) =
      .ok (.int (if negative then -n else n), rest) := by
  have hcut : (if (Nat.toDigits 10 n ++ rest).head? == some '0'
      then (['0'], (Nat.toDigits 10 n ++ rest).drop 1) else cutDigits (Nat.toDigits 10 n ++ rest)) =
      (Nat.toDigits 10 n, rest) := by
    obtain ⟨d, hd, more, hdigits, hzero⟩ := Text.exists_toDigits n
    split
    next hhead =>
      rw [hdigits, List.cons_append, List.head?_cons, beq_iff_eq, Option.some.injEq,
        Nat.digitChar_eq_zero] at hhead
      rw [hdigits, hzero hhead, hhead]
      rfl
    next => exact cutDigits_append (fun _ => Text.isAsciiDigit_of_mem_toDigits) hends
  have hplaces : cutPlaces rest = ([], rest) := by cases hends <;> rfl
  have hexponent : cutExponent rest = (none, rest) := by cases hends <;> rfl
  have hne : (Nat.toDigits 10 n).isEmpty = false := by simp
  rw [readNumber, hcut]
  simp only [hne, hplaces, hexponent, Bool.false_eq_true, if_false, List.isEmpty_nil,
    Option.isNone_none, Bool.and_self, if_true, Nat.not_lt.mpr hlength, Text.natOfDigits_toDigits]

/-! ### Strings -/

theorem hexFour?_hexFixed {n : Nat} (hn : n < 0x10000) :
    ∃ a b c d, Text.hexFixed 4 n = [a, b, c, d] ∧ hexFour? a b c d = some n := by
  have hvalue : ∀ m : Nat, Text.hexValue? (Text.hexDigit (m % 16)) = some (m % 16) :=
    fun m => Text.hexValue?_hexDigit _ (Nat.mod_lt m (by decide))
  refine ⟨_, _, _, _, rfl, ?_⟩
  simp only [hexFour?, hvalue, Option.bind_eq_bind, Option.bind_some, Option.pure_def,
    Option.some.injEq]
  omega

theorem readUnits_escapeUnit (done : List Nat) {n : Nat} (hn : n < 0x10000) (rest : List Char) :
    readUnits done (escapeUnit n ++ rest) = readUnits (n :: done) rest := by
  obtain ⟨a, b, c, d, hdigits, hvalue⟩ := hexFour?_hexFixed hn
  rw [escapeUnit, hdigits]
  simp only [List.cons_append, List.nil_append, readUnits, hvalue]

/-- The code points that a character is written as: itself, or two halves. -/
def unitsOf (c : Char) : List Nat :=
  if c.toNat < 0x10000 then [c.toNat]
  else [0xd800 + (c.toNat - 0x10000) / 0x400, 0xdc00 + (c.toNat - 0x10000) % 0x400]

theorem readUnits_plain (done : List Nat) {c : Char} (hquote : c ≠ '"') (hslash : c ≠ '\\')
    (hlow : 0x20 ≤ c.toNat) (rest : List Char) :
    readUnits done (c :: rest) = readUnits (c.toNat :: done) rest := by
  rw [readUnits, if_neg]
  · simp [hslash, hlow]
  · exact fun h => hquote h
  · exact fun _ _ _ _ _ h => absurd h hslash
  · exact fun _ _ h => absurd h hslash

theorem readUnits_escapeChar (done : List Nat) (c : Char) (rest : List Char) :
    readUnits done (escapeChar c ++ rest) = readUnits ((unitsOf c).reverse ++ done) rest := by
  have hvalid := Text.Utf8.isScalar c
  by_cases hshort : c ∈ ['"', '\\', '\n', '\r', '\t', '\x08', '\x0c']
  · simp only [List.mem_cons, List.not_mem_nil, or_false] at hshort
    rcases hshort with rfl | rfl | rfl | rfl | rfl | rfl | rfl <;> rfl
  · simp only [List.mem_cons, List.not_mem_nil, or_false, not_or] at hshort
    obtain ⟨hquote, hslash, hfeed, hreturn, htab, hback, hform⟩ := hshort
    simp only [escapeChar, beq_iff_eq, hquote, hslash, hfeed, hreturn, htab, hback, hform,
      if_false]
    split
    next hprintable =>
      rw [unitsOf, if_pos (by omega)]
      exact readUnits_plain done hquote hslash hprintable.1 rest
    next =>
      split
      next hone =>
        rw [unitsOf, if_pos hone]
        exact readUnits_escapeUnit done hone rest
      next htwo =>
        rw [unitsOf, if_neg htwo, List.append_assoc, readUnits_escapeUnit _ (by omega),
          readUnits_escapeUnit _ (by omega)]
        rfl

theorem readUnits_flatMap (done : List Nat) (text rest : List Char) :
    readUnits done (text.flatMap escapeChar ++ '"' :: rest) =
      .ok (done.reverse ++ text.flatMap unitsOf, rest) := by
  induction text generalizing done with
  | nil => simp [readUnits]
  | cons c text ih =>
      rw [List.flatMap_cons, List.append_assoc, readUnits_escapeChar, ih]
      simp

theorem ofUnits_unitsOf (c : Char) (units : List Nat) :
    ofUnits (unitsOf c ++ units) = c :: ofUnits units := by
  have hvalid := Text.Utf8.isScalar c
  unfold unitsOf
  split
  next hone =>
    have hunit : ofUnits.unit c.toNat = c := by
      rw [ofUnits.unit, if_neg, Char.ofNat_toNat]
      simp only [isHighHalf, isLowHalf, Bool.or_eq_true, Bool.and_eq_true, decide_eq_true_eq]
      omega
    have hhigh : isHighHalf c.toNat = false := by
      simp only [isHighHalf, Bool.and_eq_false_iff, decide_eq_false_iff_not]
      omega
    cases units with
    | nil => rw [List.append_nil, ofUnits, hunit, ofUnits]
    | cons low units =>
        rw [List.singleton_append, ofUnits, hhigh, Bool.false_and, hunit]
        rfl
  next htwo =>
    have hjoin : joinHalves (0xd800 + (c.toNat - 0x10000) / 0x400)
        (0xdc00 + (c.toNat - 0x10000) % 0x400) = c.toNat := by
      unfold joinHalves
      omega
    rw [List.cons_append, List.singleton_append, ofUnits, if_pos, hjoin, Char.ofNat_toNat]
    simp only [isHighHalf, isLowHalf, Bool.and_eq_true, decide_eq_true_eq]
    omega

theorem ofUnits_flatMap (text : List Char) : ofUnits (text.flatMap unitsOf) = text := by
  induction text with
  | nil => rfl
  | cons c text ih => rw [List.flatMap_cons, ofUnits_unitsOf, ih]

theorem readString_escaped (s : String) (rest : List Char) :
    readString (s.toList.flatMap escapeChar ++ '"' :: rest) = .ok (s, rest) := by
  rw [readString, readUnits_flatMap, List.reverse_nil, List.nil_append]
  change Except.ok (String.ofList (ofUnits (s.toList.flatMap unitsOf)), rest) = _
  rw [ofUnits_flatMap, String.ofList_toList]

/-! ### Values -/

/-- What a written value is read back as: a value without doubles, whose integers are not too long
and whose objects name no member twice. -/
inductive Plain : Value → Prop
  | null : Plain .null
  | bool (b : Bool) : Plain (.bool b)
  | int {i : Int} (hi : isWritable (.int i) = true) : Plain (.int i)
  | text (s : String) : Plain (.text s)
  | list {items : List Value} (hitems : ∀ item ∈ items, Plain item) : Plain (.list items)
  | object {members : Members} (hnodup : (members.map Prod.fst).Nodup)
      (hmembers : ∀ member ∈ members, Plain member.2) : Plain (.object members)

theorem plain_object_iff {members : Members} :
    Plain (.object members) ↔
      (members.map Prod.fst).Nodup ∧ ∀ member ∈ members, Plain member.2 := by
  constructor
  · intro h
    cases h with
    | object hnodup hmembers => exact ⟨hnodup, hmembers⟩
  · rintro ⟨hnodup, hmembers⟩
    exact .object hnodup hmembers

theorem itemsWritable_iff {items : List Value} :
    itemsWritable items = true ↔ ∀ item ∈ items, isWritable item = true := by
  induction items with
  | nil => simp [itemsWritable]
  | cons item rest ih => simp [itemsWritable, ih]

theorem membersWritable_iff {members : Members} :
    membersWritable members = true ↔ ∀ member ∈ members, isWritable member.2 = true := by
  induction members with
  | nil => simp [membersWritable]
  | cons member rest ih => simp [membersWritable, ih]

theorem Plain.isWritable {value : Value} (h : Plain value) : isWritable value = true := by
  induction h with
  | int hi => exact hi
  | list _ ih => exact itemsWritable_iff.mpr ih
  | object _ _ ih => exact membersWritable_iff.mpr ih
  | _ => rfl

theorem writeValue_int (i : Int) :
    writeValue (.int i) =
      if 0 ≤ i then Nat.toDigits 10 i.natAbs else '-' :: Nat.toDigits 10 i.natAbs := by
  rw [writeValue, Int.toString_eq_repr, Int.repr_eq_if]
  have hnonneg : 0 ≤ i → i.toNat = i.natAbs := by omega
  have hnegative : ¬ 0 ≤ i → (-i).toNat = i.natAbs := by omega
  split
  next h => rw [Nat.toList_repr, hnonneg h]
  next h =>
    rw [String.toList_append, Nat.toList_repr, hnegative h]
    rfl

/-- The first character of a value is no blank and closes no list. -/
theorem Plain.exists_first {value : Value} (h : Plain value) :
    ∃ c more, writeValue value = c :: more ∧ isBlank c = false ∧ c ≠ ']' := by
  cases h with
  | null => exact ⟨_, _, rfl, rfl, by decide⟩
  | bool b => cases b <;> exact ⟨_, _, rfl, rfl, by decide⟩
  | int hi =>
      obtain ⟨d, hd, more, hdigits, -⟩ := Text.exists_toDigits (Int.natAbs _)
      rw [writeValue_int, hdigits]
      split
      next =>
        have hfirst : ∀ d < 10, isBlank (Nat.digitChar d) = false ∧ Nat.digitChar d ≠ ']' := by
          decide
        exact ⟨_, _, rfl, hfirst d hd⟩
      next => exact ⟨_, _, rfl, rfl, by decide⟩
  | text s => exact ⟨_, _, rfl, rfl, by decide⟩
  | list hitems => exact ⟨_, _, rfl, rfl, by decide⟩
  | object hnodup hmembers => exact ⟨_, _, rfl, rfl, by decide⟩

theorem skipBlanks_of_first {c : Char} (more : List Char) (h : isBlank c = false) :
    skipBlanks (c :: more) = c :: more := by
  rw [skipBlanks, List.dropWhile_cons, h]
  rfl

/-- A value is read back from the front of a text, and the rest of the text is left. The length of
its own text is fuel enough. -/
def ReadsBack (value : Value) : Prop :=
  ∀ fuel rest, (writeValue value).length ≤ fuel + 1 → Ends rest →
    readValue (fuel + 1) (writeValue value ++ rest) = .ok (value, rest)

theorem readValue_toDigits (fuel n : Nat) (rest : List Char) :
    readValue (fuel + 1) (Nat.toDigits 10 n ++ rest) =
      readNumber false (Nat.toDigits 10 n ++ rest) := by
  obtain ⟨d, hd, more, hdigits, -⟩ := Text.exists_toDigits n
  rw [hdigits, List.cons_append]
  interval_cases d <;> rfl

theorem readValue_minus (fuel n : Nat) (rest : List Char) :
    readValue (fuel + 1) ('-' :: Nat.toDigits 10 n ++ rest) =
      readNumber true (Nat.toDigits 10 n ++ rest) := by
  obtain ⟨d, hd, more, hdigits, -⟩ := Text.exists_toDigits n
  rw [hdigits, List.cons_append, List.cons_append]
  interval_cases d <;> rfl

theorem readsBack_int {i : Int} (hi : isWritable (.int i) = true) : ReadsBack (.int i) := by
  rw [isWritable, decide_eq_true_eq] at hi
  have hlength := Text.length_toDigits_le (by decide) hi
  intro fuel rest _ hends
  rw [writeValue_int]
  split
  next h =>
    have hvalue : (i.natAbs : Int) = i := by omega
    rw [readValue_toDigits, readNumber_toDigits false hlength hends,
      if_neg Bool.false_ne_true, hvalue]
  next h =>
    have hvalue : -(i.natAbs : Int) = i := by omega
    rw [readValue_minus, readNumber_toDigits true hlength hends, if_pos rfl, hvalue]

theorem readsBack_text (s : String) : ReadsBack (.text s) := by
  intro fuel rest _ _
  rw [writeValue, writeString, List.append_assoc, List.cons_append, List.singleton_append,
    readValue, readString_escaped]
  rfl

theorem writeItems_cons_cons (item next : Value) (more : List Value) :
    writeItems (item :: next :: more) = writeValue item ++ ',' :: writeItems (next :: more) := by
  rw [writeItems]
  exact List.cons_ne_nil next more

theorem exists_first_writeItems {item : Value} (h : Plain item) (more : List Value) :
    ∃ c tail, writeItems (item :: more) = c :: tail ∧ isBlank c = false ∧ c ≠ ']' := by
  obtain ⟨c, tail, hfirst, hc⟩ := h.exists_first
  cases more with
  | nil => exact ⟨c, tail, by rw [writeItems, hfirst], hc⟩
  | cons next more => exact ⟨c, _, by rw [writeItems_cons_cons, hfirst, List.cons_append], hc⟩

theorem readItems_last {fuel : Nat} {item : Value} {text rest : List Char}
    (hitem : readValue fuel text = .ok (item, ']' :: rest)) :
    readItems (fuel + 1) text = .ok ([item], rest) := by
  rw [readItems, hitem]
  rfl

theorem readItems_comma {fuel : Nat} {item : Value} {items : List Value}
    {text more rest : List Char} (hitem : readValue fuel text = .ok (item, ',' :: more))
    (hmore : readItems fuel (skipBlanks more) = .ok (items, rest)) :
    readItems (fuel + 1) text = .ok (item :: items, rest) := by
  rw [readItems, hitem]
  change (readItems fuel (skipBlanks more)).bind (fun read => .ok (item :: read.1, read.2)) = _
  rw [hmore]
  rfl

theorem readItems_writeItems {item : Value} {more : List Value}
    (hplain : ∀ one ∈ item :: more, Plain one) (hread : ∀ one ∈ item :: more, ReadsBack one)
    {fuel : Nat} (hfuel : (writeItems (item :: more)).length ≤ fuel) (rest : List Char) :
    readItems (fuel + 1) (writeItems (item :: more) ++ ']' :: rest) = .ok (item :: more, rest) := by
  induction more generalizing item fuel with
  | nil =>
      obtain ⟨c, tail, hfirst, -⟩ := (hplain item List.mem_cons_self).exists_first
      rw [writeItems] at hfuel ⊢
      -- The item takes a character at least, so its reader is left some fuel.
      obtain ⟨fuel, rfl⟩ : ∃ less, fuel = less + 1 :=
        ⟨fuel - 1, by rw [hfirst, List.length_cons] at hfuel; omega⟩
      exact readItems_last (hread item List.mem_cons_self _ _ hfuel (.bracket rest))
  | cons next more ih =>
      obtain ⟨c, tail, hfirst, hblank, -⟩ :=
        exists_first_writeItems (hplain next (by simp)) more
      rw [writeItems_cons_cons, List.length_append, List.length_cons] at hfuel
      obtain ⟨fuel, rfl⟩ : ∃ less, fuel = less + 1 := ⟨fuel - 1, by omega⟩
      have hmore : readItems (fuel + 1) (writeItems (next :: more) ++ ']' :: rest) =
          .ok (next :: more, rest) :=
        ih (fun one hone => hplain one (List.mem_cons_of_mem _ hone))
          (fun one hone => hread one (List.mem_cons_of_mem _ hone)) (by omega)
      rw [writeItems_cons_cons, List.append_assoc, List.cons_append]
      apply readItems_comma (hread item List.mem_cons_self _ _ (by omega) (.comma _))
      rw [hfirst, List.cons_append, skipBlanks_of_first _ hblank, ← List.cons_append, ← hfirst,
        hmore]

theorem readValue_bracket (fuel : Nat) {c : Char} (more : List Char) (hblank : isBlank c = false)
    (hc : c ≠ ']') :
    readValue (fuel + 1) ('[' :: c :: more) = (do
      let (items, rest) ← readItems fuel (c :: more)
      pure (.list items, rest)) := by
  rw [readValue, skipBlanks_of_first _ hblank]
  split
  next heq => exact absurd (List.cons.inj heq).1 hc
  next => rfl

theorem readsBack_list {items : List Value} (hplain : ∀ item ∈ items, Plain item)
    (hread : ∀ item ∈ items, ReadsBack item) : ReadsBack (.list items) := by
  intro fuel rest hfuel _
  cases items with
  | nil => rfl
  | cons item more =>
      obtain ⟨c, tail, hfirst, hblank, hc⟩ :=
        exists_first_writeItems (hplain item List.mem_cons_self) more
      rw [writeValue, List.length_append, List.length_cons, List.length_singleton] at hfuel
      obtain ⟨fuel, rfl⟩ : ∃ less, fuel = less + 1 := ⟨fuel - 1, by omega⟩
      rw [writeValue, List.append_assoc, List.singleton_append, List.cons_append, hfirst,
        List.cons_append, readValue_bracket _ _ hblank hc, ← List.cons_append, ← hfirst,
        readItems_writeItems hplain hread (by omega)]
      rfl

theorem writeMembers_cons_cons (member next : String × Value) (more : Members) :
    writeMembers (member :: next :: more) =
      writeString member.1 ++ ':' :: writeValue member.2 ++ ',' :: writeMembers (next :: more) := by
  rw [writeMembers]
  exact List.cons_ne_nil next more

/-- Reads on behind a member. -/
def readBehind (fuel : Nat) (member : String × Value) :
    List Char → Except Fault (Members × List Char)
  | ',' :: rest => do
      let (members, rest) ← readMembers fuel (skipBlanks rest)
      pure (member :: members, rest)
  | '\x7d' :: rest => pure ([member], rest)
  | _ => .error .malformed

theorem readBehind_comma {fuel : Nat} {member : String × Value} {members : Members}
    {more rest : List Char} (hmore : readMembers fuel (skipBlanks more) = .ok (members, rest)) :
    readBehind fuel member (',' :: more) = .ok (member :: members, rest) := by
  change (readMembers fuel (skipBlanks more)).bind
    (fun read => .ok (member :: read.1, read.2)) = _
  rw [hmore]
  rfl

theorem readMembers_member {fuel : Nat} {member : String × Value} (hplain : Plain member.2)
    (hvalue : readValue fuel (writeValue member.2 ++ rest) = .ok (member.2, rest))
    (hrest : skipBlanks rest = rest) :
    readMembers (fuel + 1) (writeString member.1 ++ ':' :: writeValue member.2 ++ rest) =
      readBehind fuel member rest := by
  obtain ⟨c, tail, hfirst, hblank, -⟩ := hplain.exists_first
  have hstring : readString (member.1.toList.flatMap escapeChar ++
      '"' :: ':' :: c :: (tail ++ rest)) = .ok (member.1, ':' :: c :: (tail ++ rest)) :=
    readString_escaped member.1 _
  have htext : writeString member.1 ++ ':' :: writeValue member.2 ++ rest =
      '"' :: (member.1.toList.flatMap escapeChar ++ '"' :: ':' :: c :: (tail ++ rest)) := by
    simp [writeString, hfirst]
  have hcolon : skipBlanks (':' :: c :: (tail ++ rest)) = ':' :: c :: (tail ++ rest) := rfl
  rw [hfirst, List.cons_append] at hvalue
  rw [htext, readMembers, hstring]
  simp only [bind, Except.bind, hcolon, skipBlanks_of_first _ hblank, hvalue, hrest]
  rfl

theorem readMembers_writeMembers {member : String × Value} {more : Members}
    (hplain : ∀ one ∈ member :: more, Plain one.2)
    (hread : ∀ one ∈ member :: more, ReadsBack one.2)
    {fuel : Nat} (hfuel : (writeMembers (member :: more)).length ≤ fuel) (rest : List Char) :
    readMembers (fuel + 1) (writeMembers (member :: more) ++ '\x7d' :: rest) =
      .ok (member :: more, rest) := by
  induction more generalizing member fuel with
  | nil =>
      rw [writeMembers, List.length_append, List.length_cons] at hfuel
      obtain ⟨fuel, rfl⟩ : ∃ less, fuel = less + 1 := ⟨fuel - 1, by omega⟩
      have hvalue := hread member List.mem_cons_self fuel _ (by omega) (.brace rest)
      rw [writeMembers, readMembers_member (hplain member List.mem_cons_self) hvalue rfl]
      rfl
  | cons next more ih =>
      have hquote : skipBlanks (writeMembers (next :: more) ++ '\x7d' :: rest) =
          writeMembers (next :: more) ++ '\x7d' :: rest := by
        cases more <;> rfl
      rw [writeMembers_cons_cons, List.length_append, List.length_append, List.length_cons,
        List.length_cons] at hfuel
      obtain ⟨fuel, rfl⟩ : ∃ less, fuel = less + 1 := ⟨fuel - 1, by omega⟩
      have hmore : readMembers (fuel + 1) (writeMembers (next :: more) ++ '\x7d' :: rest) =
          .ok (next :: more, rest) :=
        ih (fun one hone => hplain one (List.mem_cons_of_mem _ hone))
          (fun one hone => hread one (List.mem_cons_of_mem _ hone)) (by omega)
      have hvalue := hread member List.mem_cons_self fuel _ (by omega)
        (.comma (writeMembers (next :: more) ++ '\x7d' :: rest))
      rw [writeMembers_cons_cons, List.append_assoc, List.cons_append,
        readMembers_member (hplain member List.mem_cons_self) hvalue rfl]
      exact readBehind_comma (by rw [hquote, hmore])

theorem readsBack_object {members : Members} (hnodup : (members.map Prod.fst).Nodup)
    (hplain : ∀ member ∈ members, Plain member.2) (hread : ∀ member ∈ members, ReadsBack member.2) :
    ReadsBack (.object members) := by
  intro fuel rest hfuel _
  cases members with
  | nil => rfl
  | cons member more =>
      rw [writeValue, List.length_append, List.length_cons, List.length_singleton] at hfuel
      obtain ⟨fuel, rfl⟩ : ∃ less, fuel = less + 1 := ⟨fuel - 1, by omega⟩
      have hbrace (text : List Char) : readValue (fuel + 1 + 1) ('\x7b' :: '"' :: text) =
          (readMembers (fuel + 1) ('"' :: text)).bind
            fun read => .ok (.object (Assoc.ofPairs read.1), read.2) := rfl
      obtain ⟨tail, hquote⟩ : ∃ tail, writeMembers (member :: more) = '"' :: tail := by
        cases more <;> exact ⟨_, rfl⟩
      rw [writeValue, List.append_assoc, List.singleton_append, List.cons_append, hquote,
        List.cons_append, hbrace, ← List.cons_append, ← hquote,
        readMembers_writeMembers hplain hread (by omega)]
      -- The reader keeps one member of each name, which changes nothing here.
      exact congrArg (fun members => Except.ok (Value.object members, rest))
        (Assoc.ofPairs_of_nodup hnodup)

theorem Plain.readsBack {value : Value} (h : Plain value) : ReadsBack value := by
  induction h with
  | null => exact fun _ _ _ _ => rfl
  | bool b => cases b <;> exact fun _ _ _ _ => rfl
  | int hi => exact readsBack_int hi
  | text s => exact readsBack_text s
  | list hplain hread => exact readsBack_list hplain hread
  | object hnodup hplain hread => exact readsBack_object hnodup hplain hread

/-- A value without doubles is what its JSON text denotes. -/
theorem parse_render {value : Value} (h : Plain value) : parse (render value) = .ok value := by
  obtain ⟨c, more, hfirst, hblank, -⟩ := h.exists_first
  have hread := h.readsBack (2 * (writeValue value).length + 1) [] (by omega) .nothing
  rw [List.append_nil] at hread
  have hskip : skipBlanks (writeValue value) = writeValue value := by
    rw [hfirst, skipBlanks_of_first _ hblank]
  rw [parse, render, String.toList_ofList, parseChars, hskip, hread]
  rfl

end Json

end OAuthClient
