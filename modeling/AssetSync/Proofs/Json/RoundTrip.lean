import AssetSync.Proofs.Json.Integers
import Mathlib.Data.List.Pairwise
import Mathlib.Data.String.Basic

namespace AssetSync.Json

variable {depth : Nat} {rest : List Char}

theorem hexUnit?_control {n : Nat} (h : n < 0x20) :
    hexUnit? '0' '0' (hexDigit (n / 16)) (hexDigit n) = some n := by
  have hall : ∀ m : Fin 0x20, hexUnit? '0' '0' (hexDigit (m / 16)) (hexDigit m) = some m.val := by
    decide
  exact hall ⟨n, h⟩

theorem escape_control {c : Char} (h : c.toNat < 0x20) (rest : List Char) :
    escape ('u' :: '0' :: '0' :: hexDigit (c.toNat / 16) :: hexDigit c.toNat :: rest) =
      .ok (c, 5) := by
  have hlow : ¬ (0xdc00 ≤ c.toNat ∧ c.toNat ≤ 0xdfff) := by omega
  have hhigh : ¬ (0xd800 ≤ c.toNat ∧ c.toNat ≤ 0xdbff) := by omega
  have hunit : hexUnit ('0' :: '0' :: hexDigit (c.toNat / 16) :: hexDigit c.toNat :: rest) =
      .ok c.toNat := by
    simp only [hexUnit, List.take_succ_cons, List.take_zero, hexUnit?_control h]
  simp only [escape, hunit, bind, Except.bind, if_neg hlow, if_neg hhigh, Char.ofNat_toNat]

theorem stringBody_escapedChar (c : Char) (read rest : List Char) :
    stringBody read 0 (escapedChar c ++ rest) = stringBody (c :: read) 0 rest := by
  unfold escapedChar
  split
  · rfl
  · rfl
  · rfl
  · rfl
  · rfl
  · rfl
  · rfl
  · rename_i hquote hbackslash _ _ _ _ _
    split
    · rename_i hcontrol
      simp only [List.cons_append, List.nil_append, stringBody, escape_control hcontrol]
    · rename_i hcontrol
      rw [List.singleton_append, stringBody]
      · exact if_neg hcontrol
      · exact hquote
      · exact hbackslash

theorem stringBody_chars (cs read rest : List Char) :
    stringBody read 0 (cs.flatMap escapedChar ++ '"' :: rest) =
      .ok (String.ofList (read.reverse ++ cs), rest) := by
  induction cs generalizing read with
  | nil => rw [List.append_nil]; rfl
  | cons c cs ih =>
    rw [List.flatMap_cons, List.append_assoc, stringBody_escapedChar, ih, List.reverse_cons,
      List.append_assoc, List.singleton_append]

theorem string_chars (text : String) (rest : List Char) :
    string (text.toList.flatMap escapedChar ++ '"' :: rest) = .ok (text, rest) := by
  rw [string, stringBody_chars, List.reverse_nil, List.nil_append, String.ofList_toList]

theorem stringChars_append (text : String) (rest : List Char) :
    stringChars text ++ rest = '"' :: (text.toList.flatMap escapedChar ++ '"' :: rest) := by
  simp only [stringChars, List.cons_append, List.append_assoc, List.nil_append]

/-- No real occurs in the value, its containers nest at most `depth` levels, and the fields of each
object are in the order of their names. -/
inductive Plain : Nat → Json → Prop
  | null (depth : Nat) : Plain depth .null
  | bool (depth : Nat) (b : Bool) : Plain depth (.bool b)
  | integer (depth : Nat) (i : Integer) : Plain depth (.num (.integer i))
  | str (depth : Nat) (text : String) : Plain depth (.str text)
  | arr {depth : Nat} {items : List Json} (plain : ∀ item ∈ items, Plain depth item) :
    Plain (depth + 1) (.arr items)
  | obj {depth : Nat} {fields : List (String × Json)}
      (sorted : (fields.map Prod.fst).Pairwise (· < ·))
      (plain : ∀ field ∈ fields, Plain depth field.2) :
    Plain (depth + 1) (.obj fields)

/-- Whatever follows, as long as it does not go on with a number, the reader finds the value. -/
def Finds (item : Reader Json) (json : Json) : Prop :=
  ∀ rest, EndsNumber rest → item (charsOnto json rest) = .ok (json, rest)

theorem skipBlanks_cons {c : Char} (h : isJsonBlank c = false) (rest : List Char) :
    skipBlanks (c :: rest) = c :: rest :=
  List.dropWhile_cons_of_neg (by simp [h])

theorem ne_of_isDigit {c d : Char} (h : c.isDigit) (hd : d.isDigit = false) : c ≠ d := by
  rintro rfl
  simp [hd] at h

theorem isJsonBlank_of_isDigit {c : Char} (h : c.isDigit) : isJsonBlank c = false := by
  simp only [isJsonBlank, Bool.or_eq_false_iff, beq_eq_false_iff_ne]
  refine ⟨⟨⟨?_, ?_⟩, ?_⟩, ?_⟩ <;> exact ne_of_isDigit h (by decide)

theorem integerChars_head (i : Integer) :
    ∃ c cs, Number.integerChars i = c :: cs ∧ (c = '-' ∨ c.isDigit) := by
  obtain ⟨d, ds, hdigits⟩ :=
    List.exists_cons_of_ne_nil (Nat.toDigits_ne_nil (n := i.val.natAbs) (b := 10))
  unfold Number.integerChars
  split
  · exact ⟨_, _, rfl, .inl rfl⟩
  · exact ⟨d, ds, hdigits, .inr (isDigit_of_mem_toDigits (hdigits ▸ List.mem_cons_self))⟩

theorem Plain.head {json : Json} (h : Plain depth json) (rest : List Char) :
    ∃ c cs, charsOnto json rest = c :: cs ∧ isJsonBlank c = false ∧ c ≠ ']' := by
  cases h with
  | null => exact ⟨_, _, by rw [charsOnto], by decide, by decide⟩
  | bool _ b => cases b <;> exact ⟨_, _, by rw [charsOnto], by decide, by decide⟩
  | integer _ i =>
    obtain ⟨c, cs, hchars, hc⟩ := integerChars_head i
    refine ⟨c, cs ++ rest, by rw [charsOnto, Number.chars, hchars, List.cons_append], ?_⟩
    rcases hc with rfl | hc
    · exact ⟨by decide, by decide⟩
    · exact ⟨isJsonBlank_of_isDigit hc, ne_of_isDigit hc (by decide)⟩
  | str => exact ⟨_, _, by rw [charsOnto, stringChars_append], by decide, by decide⟩
  | @arr _ items => cases items <;> exact ⟨_, _, by rw [charsOnto], by decide, by decide⟩
  | @obj _ fields =>
    rcases fields with _ | ⟨⟨name, value⟩, fields⟩ <;>
      exact ⟨_, _, by rw [charsOnto], by decide, by decide⟩

theorem Plain.skipBlanks_charsOnto {json : Json} (h : Plain depth json) (rest : List Char) :
    skipBlanks (charsOnto json rest) = charsOnto json rest := by
  obtain ⟨c, cs, hchars, hblank, -⟩ := h.head rest
  rw [hchars, skipBlanks_cons hblank]

theorem value_of_isDigit {d : Char} (h : d.isDigit) (rest : List Char) :
    value depth (d :: rest) = number false (d :: rest) := by
  unfold value
  rw [skipBlanks_cons (isJsonBlank_of_isDigit h)]
  split <;> rename_i heq <;> cases heq
  all_goals first | exact absurd h (by decide) | skip
  simp [h]

theorem finds_integer (depth : Nat) (i : Integer) :
    Finds (value depth) (.num (.integer i)) := by
  intro rest hrest
  have hread := magnitude_toDigits (i := i) hrest
  rw [charsOnto, Number.chars, Number.integerChars]
  by_cases hneg : i.val < 0
  · rw [decide_eq_true hneg] at hread
    have hminus : value depth ('-' :: (Nat.toDigits 10 i.val.natAbs ++ rest)) =
        number true (Nat.toDigits 10 i.val.natAbs ++ rest) := by
      unfold value
      rfl
    rw [if_pos hneg, List.cons_append, hminus, number, hread]
    rfl
  · rw [decide_eq_false hneg] at hread
    obtain ⟨d, ds, hdigits⟩ :=
      List.exists_cons_of_ne_nil (Nat.toDigits_ne_nil (n := i.val.natAbs) (b := 10))
    have hd : d.isDigit := isDigit_of_mem_toDigits (hdigits ▸ List.mem_cons_self)
    rw [if_neg hneg]
    rw [hdigits, List.cons_append] at hread ⊢
    rw [value_of_isDigit hd, number, hread]
    rfl

theorem endsNumber_itemsOnto (items : List Json) (rest : List Char) :
    EndsNumber (itemsOnto items rest) := by
  cases items <;> simp [itemsOnto, EndsNumber]

theorem length_itemsOnto {items : List Json}
    (h : ∀ item ∈ items, ∀ rest, rest.length < (charsOnto item rest).length) (rest : List Char) :
    rest.length + items.length < (itemsOnto items rest).length := by
  induction items with
  | nil => simp [itemsOnto]
  | cons item items ih =>
    have hitems := ih fun other hother => h other (List.mem_cons_of_mem _ hother)
    have hitem := h item List.mem_cons_self (itemsOnto items rest)
    rw [itemsOnto, List.length_cons, List.length_cons]
    omega

section

variable {item : Reader Json} {fuel : Nat} {json : Json} {input next : List Char}

theorem arrayItems_last {read : List Json} (h : item input = .ok (json, ']' :: rest)) :
    arrayItems item (fuel + 1) read input = .ok (.arr (read.reverse ++ [json]), rest) := by
  simp only [arrayItems, h, bind, Except.bind]
  rw [skipBlanks_cons (by decide)]
  simp only [List.reverse_cons]

theorem arrayItems_next {read : List Json} (h : item input = .ok (json, ',' :: next))
    (hblank : skipBlanks next = next) (hhead : ∃ c cs, next = c :: cs ∧ c ≠ ']') :
    arrayItems item (fuel + 1) read input = arrayItems item fuel (json :: read) next := by
  obtain ⟨c, cs, rfl, hc⟩ := hhead
  simp only [arrayItems, h, bind, Except.bind]
  rw [skipBlanks_cons (by decide)]
  simp only [hblank]
  split
  · rename_i heq
    cases heq
  · rename_i heq
    exact absurd (List.cons.inj heq).1 hc
  · rfl

theorem arrayItems_itemsOnto {read items : List Json} (hfuel : items.length < fuel)
    (hplain : ∀ other ∈ items, Plain depth other)
    (hfinds : ∀ other ∈ json :: items, Finds item other) :
    arrayItems item fuel read (charsOnto json (itemsOnto items rest)) =
      .ok (.arr (read.reverse ++ json :: items), rest) := by
  induction items generalizing fuel json read with
  | nil =>
    obtain ⟨fuel, rfl⟩ := Nat.exists_eq_add_of_lt hfuel
    exact arrayItems_last (hfinds json List.mem_cons_self _ (endsNumber_itemsOnto [] rest))
  | cons next items ih =>
    obtain ⟨fuel, rfl⟩ : ∃ n, fuel = n + 1 := ⟨fuel - 1, by omega⟩
    have hnext := hplain next List.mem_cons_self
    obtain ⟨c, cs, hchars, -, hc⟩ := hnext.head (itemsOnto items rest)
    have hread := hfinds json List.mem_cons_self _ (endsNumber_itemsOnto (next :: items) rest)
    rw [arrayItems_next hread (hnext.skipBlanks_charsOnto _) ⟨c, cs, hchars, hc⟩]
    rw [ih (Nat.lt_of_succ_lt_succ hfuel)
      (fun other hother => hplain other (List.mem_cons_of_mem _ hother))
      (fun other hother => hfinds other (List.mem_cons_of_mem _ hother))]
    rw [List.reverse_cons, List.append_assoc, List.singleton_append]

end

theorem array_of_head {item : Reader Json} {next : List Char} (hblank : skipBlanks next = next)
    (hhead : ∃ c cs, next = c :: cs ∧ c ≠ ']') :
    array item next = arrayItems item next.length [] next := by
  obtain ⟨c, cs, rfl, hc⟩ := hhead
  rw [array, hblank]
  split
  · rename_i heq
    cases heq
  · rename_i heq
    exact absurd (List.cons.inj heq).1 hc
  · rfl

theorem finds_arr {items : List Json} (hplain : ∀ item ∈ items, Plain depth item)
    (hlength : ∀ item ∈ items, ∀ rest, rest.length < (charsOnto item rest).length)
    (hfinds : ∀ item ∈ items, Finds (value depth) item) :
    Finds (value (depth + 1)) (.arr items) := by
  intro rest _
  have harray : ∀ input, value (depth + 1) ('[' :: input) = array (value depth) input :=
    fun _ => rfl
  cases items with
  | nil => rw [charsOnto, harray]; rfl
  | cons item items =>
    have hlater : ∀ other ∈ items, other ∈ item :: items :=
      fun other hother => List.mem_cons_of_mem _ hother
    have hitems := length_itemsOnto (fun other hother => hlength other (hlater other hother)) rest
    have hitem := hlength item List.mem_cons_self (itemsOnto items rest)
    have hfirst := hplain item List.mem_cons_self
    obtain ⟨c, cs, hchars, -, hc⟩ := hfirst.head (itemsOnto items rest)
    rw [charsOnto, harray, array_of_head (hfirst.skipBlanks_charsOnto _) ⟨c, cs, hchars, hc⟩]
    exact arrayItems_itemsOnto (by omega) (fun other hother => hplain other (hlater other hother))
      hfinds

theorem insertField_append {name : String} {value : Json} {fields : List (String × Json)}
    (h : ∀ field ∈ fields, field.1 < name) :
    insertField name value fields = fields ++ [(name, value)] := by
  induction fields with
  | nil => rfl
  | cons field fields ih =>
    have hfield : field.1 < name := h field List.mem_cons_self
    rw [insertField, if_neg (lt_asymm hfield), if_neg hfield.ne',
      ih fun other hother => h other (List.mem_cons_of_mem _ hother), List.cons_append]

theorem ofFields_sorted {fields : List (String × Json)}
    (h : (fields.map Prod.fst).Pairwise (· < ·)) : ofFields fields = .obj fields := by
  -- the fields that are in place already are all smaller, so each field goes to the end
  have hfold : ∀ more sorted : List (String × Json),
      ((sorted ++ more).map Prod.fst).Pairwise (· < ·) →
      more.foldl (fun sorted field => insertField field.1 field.2 sorted) sorted =
        sorted ++ more := by
    intro more
    induction more with
    | nil => exact fun sorted _ => (List.append_nil sorted).symm
    | cons field more ih =>
      obtain ⟨name, value⟩ := field
      intro sorted hsorted
      have hlast : ∀ other ∈ sorted, other.1 < name := by
        intro other hother
        rw [List.map_append] at hsorted
        exact (List.pairwise_append.mp hsorted).2.2 _ (List.mem_map_of_mem hother) _ (by simp)
      rw [List.foldl_cons]
      simp only [insertField_append hlast]
      rw [ih _ (by simpa using hsorted), List.append_assoc, List.singleton_append]
  exact congrArg obj (hfold fields [] h)

theorem endsNumber_fieldsOnto (fields : List (String × Json)) (rest : List Char) :
    EndsNumber (fieldsOnto fields rest) := by
  rcases fields with _ | ⟨⟨name, value⟩, fields⟩ <;> simp [fieldsOnto, EndsNumber]

theorem length_fieldsOnto {fields : List (String × Json)}
    (h : ∀ field ∈ fields, ∀ rest, rest.length < (charsOnto field.2 rest).length)
    (rest : List Char) : rest.length + fields.length < (fieldsOnto fields rest).length := by
  induction fields with
  | nil => simp [fieldsOnto]
  | cons field fields ih =>
    have hfields := ih fun other hother => h other (List.mem_cons_of_mem _ hother)
    have hfield := h field List.mem_cons_self (fieldsOnto fields rest)
    rw [fieldsOnto, List.length_cons, List.length_cons, List.length_append, List.length_cons]
    omega

section

variable {item : Reader Json} {fuel : Nat} {name : String} {json : Json} {input : List Char}
  {read : List (String × Json)}

theorem fieldName_stringChars (name : String) (rest : List Char) :
    fieldName (stringChars name ++ rest) = .ok (name, rest) := by
  rw [stringChars_append, fieldName, string_chars]

theorem objectFields_last (h : item input = .ok (json, '\x7d' :: rest)) :
    objectFields item (fuel + 1) read (stringChars name ++ ':' :: input) =
      .ok (.ofFields (read.reverse ++ [(name, json)]), rest) := by
  have hvalue : fieldValue item (':' :: input) = item input := rfl
  simp only [objectFields, fieldName_stringChars, hvalue, h, bind, Except.bind]
  rw [skipBlanks_cons (by decide)]
  simp only [List.reverse_cons]

theorem objectFields_next {next : String} {more : List Char}
    (h : item input = .ok (json, ',' :: (stringChars next ++ more))) :
    objectFields item (fuel + 1) read (stringChars name ++ ':' :: input) =
      objectFields item fuel ((name, json) :: read) (stringChars next ++ more) := by
  have hvalue : fieldValue item (':' :: input) = item input := rfl
  simp only [objectFields, fieldName_stringChars, hvalue, h, bind, Except.bind]
  rw [skipBlanks_cons (by decide)]
  rfl

theorem objectFields_fieldsOnto {fields : List (String × Json)} (hfuel : fields.length < fuel)
    (hfirst : Finds item json) (hfinds : ∀ field ∈ fields, Finds item field.2) :
    objectFields item fuel read
        (stringChars name ++ ':' :: charsOnto json (fieldsOnto fields rest)) =
      .ok (.ofFields (read.reverse ++ (name, json) :: fields), rest) := by
  induction fields generalizing fuel name json read with
  | nil =>
    obtain ⟨fuel, rfl⟩ := Nat.exists_eq_add_of_lt hfuel
    exact objectFields_last (hfirst _ (endsNumber_fieldsOnto [] rest))
  | cons field fields ih =>
    obtain ⟨fuel, rfl⟩ : ∃ n, fuel = n + 1 := ⟨fuel - 1, by omega⟩
    have hread := hfirst _ (endsNumber_fieldsOnto (field :: fields) rest)
    rw [objectFields_next hread, ih (Nat.lt_of_succ_lt_succ hfuel) (hfinds field List.mem_cons_self)
      fun other hother => hfinds other (List.mem_cons_of_mem _ hother)]
    rw [List.reverse_cons, List.append_assoc, List.singleton_append]

end

theorem finds_obj {fields : List (String × Json)} (hsorted : (fields.map Prod.fst).Pairwise (· < ·))
    (hlength : ∀ field ∈ fields, ∀ rest, rest.length < (charsOnto field.2 rest).length)
    (hfinds : ∀ field ∈ fields, Finds (value depth) field.2) :
    Finds (value (depth + 1)) (.obj fields) := by
  intro rest _
  have hobject : ∀ input, value (depth + 1) ('\x7b' :: input) = object (value depth) input :=
    fun _ => rfl
  rcases fields with _ | ⟨⟨name, first⟩, fields⟩
  · rw [charsOnto, hobject]; rfl
  · have hlater : ∀ other ∈ fields, other ∈ (name, first) :: fields :=
      fun other hother => List.mem_cons_of_mem _ hother
    have hfields := length_fieldsOnto (fun other hother => hlength other (hlater other hother)) rest
    have hfirst : (fieldsOnto fields rest).length <
        (charsOnto first (fieldsOnto fields rest)).length :=
      hlength (name, first) List.mem_cons_self _
    have hopen : ∀ more, object (value depth) (stringChars name ++ more) =
        objectFields (value depth) (stringChars name ++ more).length [] (stringChars name ++ more) :=
      fun _ => rfl
    rw [charsOnto, hobject, hopen, objectFields_fieldsOnto _ (hfinds (name, first) List.mem_cons_self)
      fun other hother => hfinds other (hlater other hother)]
    · rw [List.reverse_nil, List.nil_append, ofFields_sorted hsorted]
    · simp only [List.length_append, List.length_cons]
      omega

theorem Plain.length_lt {json : Json} (h : Plain depth json) (rest : List Char) :
    rest.length < (charsOnto json rest).length := by
  induction h generalizing rest with
  | null =>
    simp only [charsOnto, List.length_cons]
    omega
  | bool _ b =>
    cases b <;> simp only [charsOnto, List.length_cons] <;> omega
  | integer _ i =>
    obtain ⟨c, cs, hchars, -⟩ := integerChars_head i
    simp only [charsOnto, Number.chars, hchars, List.length_append, List.length_cons]
    omega
  | str _ text =>
    simp only [charsOnto, stringChars_append, List.length_append, List.length_cons]
    omega
  | @arr _ items _ ih =>
    cases items with
    | nil =>
      simp only [charsOnto, List.length_cons]
      omega
    | cons item items =>
      have hitems :=
        length_itemsOnto (fun other hother => ih other (List.mem_cons_of_mem _ hother)) rest
      have hitem := ih item List.mem_cons_self (itemsOnto items rest)
      simp only [charsOnto, List.length_cons]
      omega
  | @obj _ fields _ _ ih =>
    rcases fields with _ | ⟨⟨name, first⟩, fields⟩
    · simp only [charsOnto, List.length_cons]
      omega
    · have hfields :=
        length_fieldsOnto (fun other hother => ih other (List.mem_cons_of_mem _ hother)) rest
      have hfirst : (fieldsOnto fields rest).length <
          (charsOnto first (fieldsOnto fields rest)).length :=
        ih (name, first) List.mem_cons_self _
      simp only [charsOnto, List.length_cons, List.length_append]
      omega

theorem Plain.finds {json : Json} (h : Plain depth json) : Finds (value depth) json := by
  induction h with
  | null =>
    intro rest _
    rw [charsOnto, value, skipBlanks_cons (by decide)]
    rfl
  | bool _ b =>
    intro rest _
    cases b <;> rw [charsOnto, value, skipBlanks_cons (by decide)] <;> rfl
  | integer depth i => exact finds_integer depth i
  | str _ text =>
    intro rest _
    rw [charsOnto, stringChars_append, value, skipBlanks_cons (by decide)]
    simp only [string_chars]
    rfl
  | arr plain ih => exact finds_arr plain (fun item hitem => (plain item hitem).length_lt) ih
  | obj sorted plain ih =>
    exact finds_obj sorted (fun field hfield => (plain field hfield).length_lt) ih

theorem parse_text {json : Json} (h : Plain maxDepth json) : parse json.text = .ok json := by
  have hread : value maxDepth json.chars = .ok (json, []) := h.finds [] endsNumber_nil
  rw [parse, text, String.toList_ofList, readChars, hread]
  rfl

end AssetSync.Json
