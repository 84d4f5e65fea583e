import AssetSync.Proofs.Json.RoundTrip

/-!
What a reader of values can come to. A value without reals is plain at the depth it was read with, and
a reader that may go deeper reads the same; so a value that nests too deep has a text that cannot be
read.
-/

namespace AssetSync.Json

inductive Whole : Json → Prop
  | null : Whole .null
  | bool (b : Bool) : Whole (.bool b)
  | integer (i : Integer) : Whole (.num (.integer i))
  | str (text : String) : Whole (.str text)
  | arr {items : List Json} (whole : ∀ item ∈ items, Whole item) : Whole (.arr items)
  | obj {fields : List (String × Json)} (whole : ∀ field ∈ fields, Whole field.2) :
    Whole (.obj fields)

variable {depth : Nat} {json : Json} {input rest : List Char}

theorem Plain.whole (h : Plain depth json) : json.Whole := by
  induction h with
  | null => exact .null
  | bool _ b => exact .bool b
  | integer _ i => exact .integer i
  | str _ text => exact .str text
  | arr _ ih => exact .arr ih
  | obj _ _ ih => exact .obj ih

theorem Plain.succ (h : Plain depth json) : Plain (depth + 1) json := by
  induction h with
  | null => exact .null _
  | bool _ b => exact .bool _ b
  | integer _ i => exact .integer _ i
  | str _ text => exact .str _ text
  | arr _ ih => exact .arr ih
  | obj sorted _ ih => exact .obj sorted ih

theorem Plain.mono (h : Plain depth json) {deeper : Nat} (hle : depth ≤ deeper) :
    Plain deeper json := by
  induction hle with
  | refl => exact h
  | step _ ih => exact ih.succ

def nested : Nat → Json
  | 0 => .null
  | n + 1 => .arr [nested n]

theorem plain_nested_iff {n : Nat} : Plain depth (nested n) ↔ n ≤ depth := by
  induction n generalizing depth with
  | zero => exact ⟨fun _ => Nat.zero_le _, fun _ => .null _⟩
  | succ n ih =>
    constructor
    · intro h
      cases h with
      | arr plain => exact Nat.succ_le_succ (ih.mp (plain _ List.mem_cons_self))
    · intro h
      obtain ⟨less, rfl⟩ := Nat.exists_eq_add_of_le' h
      refine .arr fun item hitem => ?_
      rw [List.mem_singleton.mp hitem]
      exact ih.mpr (Nat.le_add_left _ _)

theorem insertField_subset (name : String) (value : Json) (fields : List (String × Json)) :
    insertField name value fields ⊆ (name, value) :: fields := by
  induction fields with
  | nil => exact List.Subset.refl _
  | cons field fields ih =>
    intro other hother
    rw [insertField] at hother
    split at hother
    · exact hother
    split at hother
    · rcases List.mem_cons.mp hother with rfl | hrest
      · exact List.mem_cons_self
      · exact List.mem_cons_of_mem _ (List.mem_cons_of_mem _ hrest)
    · rcases List.mem_cons.mp hother with rfl | hrest
      · exact List.mem_cons_of_mem _ List.mem_cons_self
      · rcases List.mem_cons.mp (ih hrest) with rfl | hrest
        · exact List.mem_cons_self
        · exact List.mem_cons_of_mem _ (List.mem_cons_of_mem _ hrest)

theorem insertField_sorted {fields : List (String × Json)}
    (h : (fields.map Prod.fst).Pairwise (· < ·)) (name : String) (value : Json) :
    ((insertField name value fields).map Prod.fst).Pairwise (· < ·) := by
  induction fields with
  | nil => simp [insertField]
  | cons field fields ih =>
    obtain ⟨hfirst, hrest⟩ := List.pairwise_cons.mp h
    rw [insertField]
    by_cases hlt : name < field.1
    · rw [if_pos hlt]
      apply List.pairwise_cons.mpr
      refine ⟨fun other hother => ?_, h⟩
      rcases List.mem_cons.mp hother with rfl | hother
      · exact hlt
      · exact lt_trans hlt (hfirst other hother)
    rw [if_neg hlt]
    by_cases heq : name = field.1
    · rw [if_pos heq, heq]
      exact h
    rw [if_neg heq]
    apply List.pairwise_cons.mpr
    refine ⟨fun other hother => ?_, ih hrest⟩
    obtain ⟨found, hfound, rfl⟩ := List.mem_map.mp hother
    rcases List.mem_cons.mp (insertField_subset name value fields hfound) with rfl | hfound
    · exact lt_of_le_of_ne (not_lt.mp hlt) (Ne.symm heq)
    · exact hfirst _ (List.mem_map_of_mem hfound)

theorem ofFields_eq_obj (fields : List (String × Json)) :
    ∃ sorted, ofFields fields = .obj sorted ∧ (sorted.map Prod.fst).Pairwise (· < ·) ∧
      sorted ⊆ fields := by
  have hfold : ∀ more sorted : List (String × Json), (sorted.map Prod.fst).Pairwise (· < ·) →
      ((more.foldl (fun sorted field => insertField field.1 field.2 sorted) sorted).map
        Prod.fst).Pairwise (· < ·) ∧
      more.foldl (fun sorted field => insertField field.1 field.2 sorted) sorted ⊆
        sorted ++ more := by
    intro more
    induction more with
    | nil => exact fun sorted hsorted => ⟨hsorted, by simp⟩
    | cons field more ih =>
      intro sorted hsorted
      obtain ⟨hlater, hsubset⟩ := ih _ (insertField_sorted hsorted field.1 field.2)
      refine ⟨hlater, fun other hother => ?_⟩
      rcases List.mem_append.mp (hsubset hother) with hmem | hmem
      · rcases List.mem_cons.mp (insertField_subset _ _ _ hmem) with rfl | hmem
        · simp
        · exact List.mem_append_left _ hmem
      · exact List.mem_append_right _ (List.mem_cons_of_mem _ hmem)
  obtain ⟨hsorted, hsubset⟩ := hfold fields [] List.Pairwise.nil
  exact ⟨_, rfl, hsorted, hsubset⟩

def Reads (item : Reader Json) (json : Json) : Prop :=
  ∃ input rest, item input = .ok (json, rest)

section

variable {item : Reader Json} {fuel : Nat}

theorem arrayItems_ok {read : List Json} (h : arrayItems item fuel read input = .ok (json, rest)) :
    ∃ items, json = .arr (read.reverse ++ items) ∧ ∀ other ∈ items, Reads item other := by
  induction fuel generalizing read input with
  | zero => cases h
  | succ fuel ih =>
    rw [arrayItems] at h
    cases hitem : item input with
    | error failure =>
      rw [hitem] at h
      cases h
    | ok found =>
      obtain ⟨value, after⟩ := found
      have hreads : Reads item value := ⟨input, after, hitem⟩
      rw [hitem] at h
      simp only [bind, Except.bind] at h
      split at h
      · cases h
      · cases h
        refine ⟨[value], by rw [List.reverse_cons], fun other hother => ?_⟩
        rwa [List.mem_singleton.mp hother]
      · split at h
        · cases h
        · cases h
        · obtain ⟨items, rfl, hitems⟩ := ih h
          refine ⟨value :: items, by simp, fun other hother => ?_⟩
          rcases List.mem_cons.mp hother with rfl | hother
          · exact hreads
          · exact hitems other hother
      · cases h

theorem array_ok (h : array item input = .ok (json, rest)) :
    ∃ items, json = .arr items ∧ ∀ other ∈ items, Reads item other := by
  rw [array] at h
  split at h
  · cases h
  · cases h
    exact ⟨[], rfl, by simp⟩
  · exact arrayItems_ok h

theorem objectFields_ok {read : List (String × Json)}
    (h : objectFields item fuel read input = .ok (json, rest)) :
    ∃ fields, json = .ofFields (read.reverse ++ fields) ∧
      ∀ field ∈ fields, Reads item field.2 := by
  induction fuel generalizing read input with
  | zero => cases h
  | succ fuel ih =>
    rw [objectFields] at h
    cases hname : fieldName input with
    | error failure =>
      rw [hname] at h
      cases h
    | ok named =>
      obtain ⟨name, behind⟩ := named
      rw [hname] at h
      simp only [bind, Except.bind] at h
      cases hvalue : fieldValue item behind with
      | error failure =>
        rw [hvalue] at h
        cases h
      | ok found =>
        obtain ⟨value, after⟩ := found
        have hreads : Reads item value := by
          rw [fieldValue] at hvalue
          split at hvalue
          · cases hvalue
          · exact ⟨_, after, hvalue⟩
          · cases hvalue
        rw [hvalue] at h
        simp only at h
        split at h
        · cases h
        · cases h
          refine ⟨[(name, value)], by rw [List.reverse_cons], fun field hfield => ?_⟩
          rwa [List.mem_singleton.mp hfield]
        · split at h
          · cases h
          · obtain ⟨fields, rfl, hfields⟩ := ih h
            refine ⟨(name, value) :: fields, by simp, fun field hfield => ?_⟩
            rcases List.mem_cons.mp hfield with rfl | hfield
            · exact hreads
            · exact hfields field hfield
        · cases h

theorem object_ok (h : object item input = .ok (json, rest)) :
    ∃ fields, json = .obj fields ∧ (fields.map Prod.fst).Pairwise (· < ·) ∧
      ∀ field ∈ fields, Reads item field.2 := by
  rw [object] at h
  split at h
  · cases h
  · cases h
    exact ⟨[], rfl, List.Pairwise.nil, by simp⟩
  · obtain ⟨fields, rfl, hfields⟩ := objectFields_ok h
    obtain ⟨sorted, hsorted, hpairwise, hsubset⟩ := ofFields_eq_obj fields
    exact ⟨sorted, hsorted, hpairwise, fun field hfield => hfields field (hsubset hfield)⟩

end

def Opens (c : Char) : Prop :=
  c = '[' ∨ c = '\x7b'

theorem value_eq_zero {c : Char} (hskip : skipBlanks input = c :: rest) (hopens : ¬ Opens c) :
    value depth input = value 0 input := by
  unfold value
  rw [hskip]
  split
  all_goals try rfl
  · rename_i heq
    cases heq
    exact absurd (.inl rfl) hopens
  · rename_i heq
    cases heq
    exact absurd (.inr rfl) hopens

theorem value_of_array {inner : List Char} (hskip : skipBlanks input = '[' :: inner) :
    value (depth + 1) input = array (value depth) inner := by
  rw [value, hskip]
  rfl

theorem value_of_object {inner : List Char} (hskip : skipBlanks input = '\x7b' :: inner) :
    value (depth + 1) input = object (value depth) inner := by
  rw [value, hskip]
  rfl

theorem value_cases (h : value depth input = .ok (json, rest)) :
    value 0 input = .ok (json, rest) ∨ ∃ less inner, depth = less + 1 ∧
      (skipBlanks input = '[' :: inner ∧ array (value less) inner = .ok (json, rest) ∨
        skipBlanks input = '\x7b' :: inner ∧ object (value less) inner = .ok (json, rest)) := by
  cases depth with
  | zero => exact .inl h
  | succ less =>
    cases hskip : skipBlanks input with
    | nil =>
      rw [value, hskip] at h
      cases h
    | cons c inner =>
      by_cases hopens : Opens c
      · refine .inr ⟨less, inner, rfl, ?_⟩
        rcases hopens with rfl | rfl
        · exact .inl ⟨rfl, value_of_array hskip ▸ h⟩
        · exact .inr ⟨rfl, value_of_object hskip ▸ h⟩
      · exact .inl (value_eq_zero hskip hopens ▸ h)

theorem word_ok {found : Json} {letters : List Char}
    (h : word found letters input = .ok (json, rest)) : json = found := by
  induction letters generalizing input with
  | nil =>
    cases h
    rfl
  | cons letter letters ih =>
    cases input with
    | nil => cases h
    | cons c input =>
      rw [word] at h
      split at h
      · exact ih h
      · cases h

theorem number_ok {negative : Bool} (h : number negative input = .ok (json, rest)) :
    ∃ n, json = .num n := by
  rw [number] at h
  cases hread : magnitude negative input with
  | error failure =>
    rw [hread] at h
    cases h
  | ok found =>
    rw [hread] at h
    cases h
    exact ⟨found.1, rfl⟩

theorem plain_of_value_zero (h : value 0 input = .ok (json, rest)) (whole : json.Whole) :
    Plain 0 json := by
  have hnumber : ∀ {negative : Bool} {digits : List Char},
      number negative digits = .ok (json, rest) → Plain 0 json := by
    intro negative digits hread
    obtain ⟨n, rfl⟩ := number_ok hread
    cases whole
    exact .integer _ _
  rw [value] at h
  split at h
  · cases h
  · obtain rfl := word_ok h
    exact .null _
  · obtain rfl := word_ok h
    exact .bool _ _
  · obtain rfl := word_ok h
    exact .bool _ _
  · exact hnumber h
  · rename_i text _
    cases hstring : string text with
    | error failure =>
      rw [hstring] at h
      cases h
    | ok found =>
      rw [hstring] at h
      cases h
      exact .str _ _
  · cases h
  · cases h
  · split at h
    · exact hnumber h
    · cases h

theorem plain_of_value (h : value depth input = .ok (json, rest)) (whole : json.Whole) :
    Plain depth json := by
  induction depth generalizing json input rest with
  | zero => exact plain_of_value_zero h whole
  | succ depth ih =>
    rcases value_cases h with hzero | ⟨less, inner, hless, ⟨-, harray⟩ | ⟨-, hobject⟩⟩
    · exact (plain_of_value_zero hzero whole).mono (Nat.zero_le _)
    · obtain rfl := Nat.succ.inj hless
      obtain ⟨items, rfl, hitems⟩ := array_ok harray
      cases whole with
      | arr whole =>
        apply Plain.arr
        intro item hitem
        obtain ⟨_, _, hread⟩ := hitems item hitem
        exact ih hread (whole item hitem)
    · obtain rfl := Nat.succ.inj hless
      obtain ⟨fields, rfl, hsorted, hfields⟩ := object_ok hobject
      cases whole with
      | obj whole =>
        apply Plain.obj hsorted
        intro field hfield
        obtain ⟨_, _, hread⟩ := hfields field hfield
        exact ih hread (whole field hfield)

def Agrees (item deeper : Reader Json) : Prop :=
  ∀ input found, item input = .ok found → deeper input = .ok found

section

variable {item deeper : Reader Json} {fuel : Nat} {found : Json × List Char}

theorem Agrees.arrayItems (h : Agrees item deeper) {read : List Json}
    (hread : arrayItems item fuel read input = .ok found) :
    arrayItems deeper fuel read input = .ok found := by
  induction fuel generalizing read input with
  | zero => cases hread
  | succ fuel ih =>
    rw [Json.arrayItems] at hread ⊢
    cases hitem : item input with
    | error failure =>
      rw [hitem] at hread
      cases hread
    | ok first =>
      obtain ⟨value, after⟩ := first
      rw [hitem] at hread
      rw [h _ _ hitem]
      simp only [bind, Except.bind] at hread ⊢
      split at hread
      · cases hread
      · exact hread
      · split at hread
        · cases hread
        · cases hread
        · exact ih hread
      · cases hread

theorem Agrees.array (h : Agrees item deeper) : Agrees (array item) (array deeper) := by
  intro input found hread
  rw [Json.array] at hread ⊢
  split at hread
  · cases hread
  · exact hread
  · exact h.arrayItems hread

theorem Agrees.fieldValue (h : Agrees item deeper) :
    Agrees (fieldValue item) (fieldValue deeper) := by
  intro input found hread
  rw [Json.fieldValue] at hread ⊢
  split at hread
  · cases hread
  · exact h _ _ hread
  · cases hread

theorem Agrees.objectFields (h : Agrees item deeper) {read : List (String × Json)}
    (hread : objectFields item fuel read input = .ok found) :
    objectFields deeper fuel read input = .ok found := by
  induction fuel generalizing read input with
  | zero => cases hread
  | succ fuel ih =>
    rw [Json.objectFields] at hread ⊢
    cases hname : fieldName input with
    | error failure =>
      rw [hname] at hread
      cases hread
    | ok named =>
      obtain ⟨name, behind⟩ := named
      rw [hname] at hread
      simp only [bind, Except.bind] at hread ⊢
      cases hvalue : Json.fieldValue item behind with
      | error failure =>
        rw [hvalue] at hread
        cases hread
      | ok first =>
        obtain ⟨value, after⟩ := first
        rw [hvalue] at hread
        rw [h.fieldValue _ _ hvalue]
        simp only at hread ⊢
        split at hread
        · cases hread
        · exact hread
        · split at hread
          · cases hread
          · exact ih hread
        · cases hread

theorem Agrees.object (h : Agrees item deeper) : Agrees (object item) (object deeper) := by
  intro input found hread
  rw [Json.object] at hread ⊢
  split at hread
  · cases hread
  · exact hread
  · exact h.objectFields hread

end

theorem agrees_zero (depth : Nat) : Agrees (value 0) (value depth) := by
  intro input found hread
  cases hskip : skipBlanks input with
  | nil =>
    rw [value, hskip] at hread
    cases hread
  | cons c inner =>
    by_cases hopens : Opens c
    · rw [value, hskip] at hread
      rcases hopens with rfl | rfl <;> cases hread
    · rwa [value_eq_zero hskip hopens]

theorem agrees_succ (depth : Nat) : Agrees (value depth) (value (depth + 1)) := by
  induction depth with
  | zero => exact agrees_zero 1
  | succ depth ih =>
    intro input found hread
    rcases value_cases hread with hzero | ⟨less, inner, hless, ⟨hskip, harray⟩ | ⟨hskip, hobject⟩⟩
    · exact agrees_zero _ _ _ hzero
    · obtain rfl := Nat.succ.inj hless
      rw [value_of_array hskip]
      exact ih.array _ _ harray
    · obtain rfl := Nat.succ.inj hless
      rw [value_of_object hskip]
      exact ih.object _ _ hobject

theorem agrees_of_le {deeper : Nat} (h : depth ≤ deeper) : Agrees (value depth) (value deeper) := by
  induction h with
  | refl => exact fun _ _ hread => hread
  | step _ ih => exact fun _ _ hread => agrees_succ _ _ _ (ih _ _ hread)

theorem readChars_ok (h : readChars input = .ok json) :
    ∃ rest, value maxDepth input = .ok (json, rest) := by
  rw [readChars] at h
  cases hread : value maxDepth input with
  | error failure =>
    rw [hread] at h
    cases h
  | ok found =>
    obtain ⟨value, after⟩ := found
    rw [hread] at h
    simp only [bind, Except.bind] at h
    split at h
    · cases h
      exact ⟨after, rfl⟩
    · cases h

theorem plain_of_readChars (h : readChars input = .ok json) (whole : json.Whole) :
    Plain maxDepth json := by
  obtain ⟨rest, hread⟩ := readChars_ok h
  exact plain_of_value hread whole

theorem readChars_chars (h : Plain maxDepth json) : readChars json.chars = .ok json := by
  have hread : value maxDepth json.chars = .ok (json, []) := h.finds [] endsNumber_nil
  rw [readChars, hread]
  rfl

theorem Plain.eq_of_chars {other : Json} (h : Plain depth json) (h' : Plain depth other)
    (hchars : json.chars = other.chars) : json = other := by
  have hread : value depth json.chars = .ok (json, []) := h.finds [] endsNumber_nil
  have hread' : value depth other.chars = .ok (other, []) := h'.finds [] endsNumber_nil
  rw [hchars, hread'] at hread
  cases hread
  rfl

theorem eq_of_map_chars {values others : List Json} (h : ∀ value ∈ values, Plain depth value)
    (h' : ∀ value ∈ others, Plain depth value) (hchars : values.map chars = others.map chars) :
    values = others := by
  induction values generalizing others with
  | nil => exact (List.map_eq_nil_iff.mp hchars.symm).symm
  | cons value values ih =>
    obtain ⟨other, others, rfl, hfirst, hrest⟩ := List.map_eq_cons_iff.mp hchars.symm
    have hvalue : value = other :=
      (h value List.mem_cons_self).eq_of_chars (h' other List.mem_cons_self) hfirst.symm
    have hvalues : values = others :=
      ih (fun value hvalue => h value (List.mem_cons_of_mem _ hvalue))
        (fun value hvalue => h' value (List.mem_cons_of_mem _ hvalue)) hrest.symm
    rw [hvalue, hvalues]

theorem parse_text_error (h : Plain depth json) (deep : ¬ Plain maxDepth json) :
    ∃ fault, parse json.text = .error fault := by
  rw [parse, text, String.toList_ofList]
  cases hread : readChars json.chars with
  | error failure => exact ⟨_, rfl⟩
  | ok other =>
    -- a reader that may go deep enough would read the same as this one
    obtain ⟨rest, hfound⟩ := readChars_ok hread
    have hdeeper := agrees_of_le (Nat.le_max_left maxDepth depth) _ _ hfound
    have hown : value (max maxDepth depth) json.chars = .ok (json, []) :=
      (h.mono (Nat.le_max_right maxDepth depth)).finds [] endsNumber_nil
    have hsame : (other, rest) = (json, []) := Except.ok.inj (hdeeper.symm.trans hown)
    cases hsame
    exact absurd (plain_of_value hfound h.whole) deep

end AssetSync.Json
