import AssetSync.Config.Environment
import AssetSync.Proofs.Asset.Ids

namespace AssetSync.Environment

def IsName (name : String) : Prop :=
  ∃ first rest, name.toList = first :: rest ∧ isNameStart first ∧ ∀ c ∈ rest, isNameChar c

def reference (name : String) : List Char :=
  '$' :: '\x7b' :: (name.toList ++ ['\x7d'])

def Refers (text : List Char) : Prop :=
  ∃ name, IsName name ∧ reference name <+: text

/-- References with what stands in front of each, and what stands behind the last one. -/
structure Division where
  parts : List (List Char × String)
  tail : List Char
  deriving DecidableEq

inductive Divides : List Char → Division → Prop
  | tail {text : List Char} (none : ∀ i, ¬ Refers (text.drop i)) : Divides text ⟨[], text⟩
  | part {gap rest tail : List Char} {name : String} {parts : List (List Char × String)}
      (hname : IsName name)
      (leftmost : ∀ i < gap.length, ¬ Refers ((gap ++ (reference name ++ rest)).drop i))
      (h : Divides rest ⟨parts, tail⟩) :
      Divides (gap ++ (reference name ++ rest)) ⟨(gap, name) :: parts, tail⟩

namespace Division

def names (d : Division) : List String :=
  d.parts.map Prod.snd

def fill (d : Division) (value : String → String) : List Char :=
  d.parts.flatMap (fun part => part.1 ++ (value part.2).toList) ++ d.tail

def segments (d : Division) : List Segment :=
  d.parts.flatMap (fun part => part.1.map .char ++ [.reference part.2]) ++ d.tail.map .char

def push (c : Char) : Division → Division
  | ⟨[], tail⟩ => ⟨[], c :: tail⟩
  | ⟨(gap, name) :: parts, tail⟩ => ⟨(c :: gap, name) :: parts, tail⟩

def ofSegments : List Segment → Division
  | [] => ⟨[], []⟩
  | .char c :: rest => (ofSegments rest).push c
  | .reference name :: rest => ⟨([], name) :: (ofSegments rest).parts, (ofSegments rest).tail⟩

theorem ofSegments_chars (gap : List Char) (rest : List Segment) :
    ofSegments (gap.map .char ++ rest) = gap.foldr push (ofSegments rest) := by
  induction gap with
  | nil => rfl
  | cons c gap ih => simp [ofSegments, ih]

theorem foldr_push (gap gap' tail : List Char) (name : String) (parts : List (List Char × String)) :
    gap.foldr push ⟨(gap', name) :: parts, tail⟩ = ⟨(gap ++ gap', name) :: parts, tail⟩ := by
  induction gap with
  | nil => rfl
  | cons c gap ih => simp [ih, push]

theorem foldr_push_nil (gap tail : List Char) :
    gap.foldr push ⟨[], tail⟩ = ⟨[], gap ++ tail⟩ := by
  induction gap with
  | nil => rfl
  | cons c gap ih => simp [ih, push]

theorem segments_cons (part : List Char × String) (parts : List (List Char × String))
    (tail : List Char) : segments ⟨part :: parts, tail⟩ =
      part.1.map .char ++ .reference part.2 :: segments ⟨parts, tail⟩ := by
  simp [segments]

theorem ofSegments_segments (d : Division) : ofSegments d.segments = d := by
  obtain ⟨parts, tail⟩ := d
  induction parts with
  | nil => simpa [segments, ofSegments, foldr_push_nil] using ofSegments_chars tail []
  | cons part parts ih =>
    rw [segments_cons, ofSegments_chars, ofSegments, ih, foldr_push, List.append_nil]

end Division

theorem isNameChar_of_isNameStart {c : Char} (h : isNameStart c) : isNameChar c := by
  simp only [isNameStart, isNameChar, Char.isAlphanum, Bool.or_eq_true] at h ⊢
  rcases h with h | h
  · exact .inl (.inl h)
  · exact .inr h

theorem IsName.forall {name : String} (h : IsName name) : ∀ c ∈ name.toList, isNameChar c := by
  obtain ⟨first, rest, hname, hfirst, hrest⟩ := h
  rw [hname]
  exact List.forall_mem_cons.mpr ⟨isNameChar_of_isNameStart hfirst, hrest⟩

theorem bracedName?_name {name : String} (h : IsName name) (rest : List Char) :
    bracedName? ('\x7b' :: (name.toList ++ '\x7d' :: rest)) = some name.toList := by
  have hbrace : ¬ isNameChar '\x7d' := by decide
  have htake : (name.toList ++ '\x7d' :: rest).takeWhile isNameChar = name.toList := by
    rw [List.takeWhile_append_of_pos h.forall, List.takeWhile_cons_of_neg hbrace, List.append_nil]
  obtain ⟨first, more, hname, hfirst, -⟩ := h
  simp only [bracedName?, htake, List.drop_left]
  simp only [hname, if_pos hfirst]

theorem exists_of_bracedName? {text name : List Char} (h : bracedName? text = some name) :
    ∃ rest, IsName (String.ofList name) ∧ text = '\x7b' :: (name ++ '\x7d' :: rest) := by
  unfold bracedName? at h
  split at h
  · rename_i rest
    simp only at h
    split at h
    · rename_i first more behind htake hdrop
      split at h
      · rename_i hfirst
        obtain rfl := Option.some.inj h
        have hchars : ∀ c ∈ rest.takeWhile isNameChar, isNameChar c :=
          List.all_eq_true.mp List.all_takeWhile
        refine ⟨behind, ⟨first, more, ?_, hfirst, fun c hc => hchars c ?_⟩, ?_⟩
        · rw [String.toList_ofList, htake]
        · rw [htake]
          exact List.mem_cons_of_mem _ hc
        · rw [← hdrop, List.prefix_iff_eq_append.mp (List.takeWhile_prefix _)]
      · cases h
    · cases h
  · cases h

theorem refers_iff {text : List Char} :
    Refers text ↔ ∃ rest name, text = '$' :: rest ∧ bracedName? rest = some name := by
  constructor
  · rintro ⟨name, hname, rest, rfl⟩
    exact ⟨_, name.toList, rfl, by simpa using bracedName?_name hname rest⟩
  · rintro ⟨rest, name, rfl, hbraced⟩
    obtain ⟨more, hname, rfl⟩ := exists_of_bracedName? hbraced
    exact ⟨_, hname, more, by simp [reference]⟩

theorem segmentsAfter_eq (skip : Nat) (text : List Char) :
    segmentsAfter skip text = segments (text.drop skip) := by
  induction text generalizing skip with
  | nil => simp [segments, segmentsAfter]
  | cons c rest ih =>
    cases skip with
    | zero => rfl
    | succ skip => rw [segmentsAfter, ih, List.drop_succ_cons]

theorem segments_reference {name : String} (h : IsName name) (rest : List Char) :
    segments (reference name ++ rest) = .reference name :: segments rest := by
  have hbraced := bracedName?_name h rest
  have hdrop : ('\x7b' :: (name.toList ++ '\x7d' :: rest)).drop (name.toList.length + 2) = rest := by
    simp [List.drop_append]
  have htext : reference name ++ rest = '$' :: '\x7b' :: (name.toList ++ '\x7d' :: rest) := by
    simp [reference]
  rw [htext, segments, segmentsAfter, if_pos rfl, hbraced]
  simp only [segmentsAfter_eq, hdrop, String.ofList_toList]

theorem segments_char {c : Char} {rest : List Char} (h : ¬ Refers (c :: rest)) :
    segments (c :: rest) = .char c :: segments rest := by
  unfold segments
  rw [segmentsAfter]
  split
  · rename_i hc
    split
    · rename_i name hbraced
      exact absurd (refers_iff.mpr ⟨rest, name, by rw [hc], hbraced⟩) h
    · rw [hc]
  · rfl

theorem segments_gap {gap rest : List Char} (h : ∀ i < gap.length, ¬ Refers ((gap ++ rest).drop i)) :
    segments (gap ++ rest) = gap.map .char ++ segments rest := by
  induction gap with
  | nil => rfl
  | cons c gap ih =>
    have hfirst : ¬ Refers (c :: (gap ++ rest)) := h 0 (by simp)
    have hgap := ih fun i hi => h (i + 1) (by simpa using hi)
    rw [List.cons_append, segments_char hfirst, hgap, List.map_cons, List.cons_append]

theorem Divides.segments_eq {text : List Char} {d : Division} (h : Divides text d) :
    segments text = d.segments := by
  induction h with
  | @tail text hnone =>
    have hgap : ∀ i < text.length, ¬ Refers ((text ++ []).drop i) := by
      simpa using fun i _ => hnone i
    have hchars := segments_gap hgap
    simpa [Division.segments, segments, segmentsAfter] using hchars
  | part hname leftmost _ ih =>
    rw [segments_gap leftmost, segments_reference hname, ih, Division.segments_cons]

def divide (text : List Char) : Division :=
  .ofSegments (segments text)

theorem not_refers_nil : ¬ Refers [] := by
  rw [refers_iff]
  rintro ⟨rest, name, h, -⟩
  cases h

theorem Divides.push {c : Char} {text : List Char} {d : Division} (h : Divides text d)
    (hc : ¬ Refers (c :: text)) : Divides (c :: text) (d.push c) := by
  cases h with
  | tail none =>
    refine .tail fun i => ?_
    cases i with
    | zero => exact hc
    | succ i => exact none i
  | @part gap rest _ name _ hname leftmost h =>
    have hleftmost : ∀ i < (c :: gap).length,
        ¬ Refers ((c :: gap ++ (reference name ++ rest)).drop i) := by
      intro i hi
      cases i with
      | zero => exact hc
      | succ i => exact leftmost i (by simpa using hi)
    exact .part hname hleftmost h

theorem divides_divide (text : List Char) : Divides text (divide text) := by
  -- on the length, since behind a reference the text goes on at its brace
  induction hlength : text.length using Nat.strongRecOn generalizing text with
  | ind n ih =>
    subst hlength
    cases text with
    | nil => exact .tail fun i => by simpa using not_refers_nil
    | cons c rest =>
      by_cases h : Refers (c :: rest)
      · obtain ⟨name, hname, more, hmore⟩ := h
        have hshort : more.length < (c :: rest).length := by
          rw [← hmore]
          simp [reference]
          omega
        have hdivide : divide (c :: rest) =
            ⟨([], name) :: (divide more).parts, (divide more).tail⟩ := by
          rw [divide, ← hmore, segments_reference hname]
          rfl
        have hnone : ∀ i < ([] : List Char).length,
            ¬ Refers (([] ++ (reference name ++ more)).drop i) := by
          simp
        rw [hdivide, ← hmore]
        exact .part hname hnone (ih more.length hshort more rfl)
      · have hdivide : divide (c :: rest) = (divide rest).push c := by
          rw [divide, segments_char h]
          rfl
        rw [hdivide]
        exact (ih rest.length (by simp) rest rfl).push h

theorem divides_iff {text : List Char} {d : Division} : Divides text d ↔ d = divide text := by
  constructor
  · intro h
    rw [divide, h.segments_eq, Division.ofSegments_segments]
  · rintro rfl
    exact divides_divide text

theorem segments_divide (text : List Char) : (divide text).segments = segments text :=
  (divides_divide text).segments_eq.symm

theorem flatMap_expansion_chars (env : Environment) (gap : List Char) :
    (gap.map Segment.char).flatMap (expansion env) = gap := by
  rw [List.flatMap_map]
  exact List.flatMap_singleton' gap

theorem Division.flatMap_segments {env : Environment} {d : Division} {value : String → String}
    (h : ∀ name ∈ d.names, env.lookup name = some (value name)) :
    d.segments.flatMap (expansion env) = d.fill value := by
  obtain ⟨parts, tail⟩ := d
  induction parts with
  | nil => exact flatMap_expansion_chars env tail
  | cons part parts ih =>
    obtain ⟨hpart, hparts⟩ := List.forall_mem_cons.mp h
    have hvalue : expansion env (.reference part.2) = (value part.2).toList := by
      rw [expansion, hpart, Option.getD_some]
    have hfill : fill ⟨part :: parts, tail⟩ value =
        part.1 ++ (value part.2).toList ++ fill ⟨parts, tail⟩ value := by
      simp [fill]
    rw [segments_cons, List.flatMap_append, flatMap_expansion_chars, List.flatMap_cons, hvalue,
      ih hparts, hfill, List.append_assoc]

theorem Division.filterMap_segments (d : Division) (env : Environment) :
    d.segments.filterMap (unsetName? env) = d.names.filter fun name => (env.lookup name).isNone := by
  obtain ⟨parts, tail⟩ := d
  have hchars : ∀ gap : List Char, (gap.map Segment.char).filterMap (unsetName? env) = [] := by
    intro gap
    simp [List.filterMap_map, unsetName?]
  induction parts with
  | nil => exact hchars tail
  | cons part parts ih =>
    have hnames : names ⟨part :: parts, tail⟩ = part.2 :: names ⟨parts, tail⟩ := rfl
    rw [segments_cons, List.filterMap_append, hchars, List.nil_append, hnames]
    cases hpart : env.lookup part.2 <;> simp [unsetName?, hpart, ih]

theorem missing_eq (env : Environment) (text : List Char) :
    missing env text =
      ((divide text).names.filter fun name => (env.lookup name).isNone).eraseDups := by
  rw [missing, ← segments_divide, Division.filterMap_segments, ← addIds_nil_left]
  congr 1
  funext names name
  simp [addId]

theorem substitute_divided (env : Environment) (text : String) :
    ∃ d, (∀ other, Divides text.toList other ↔ other = d) ∧
      (∀ value, (∀ name ∈ d.names, env.lookup name = some (value name)) →
        env.substitute text = .ok (String.ofList (d.fill value))) ∧
      ((∃ name ∈ d.names, env.lookup name = none) → env.substitute text =
        .error (d.names.filter fun name => (env.lookup name).isNone).eraseDups) := by
  refine ⟨divide text.toList, fun other => divides_iff, ?_, ?_⟩
  · intro value hvalue
    have hnone : missing env text.toList = [] := by
      rw [missing_eq, List.filter_eq_nil_iff.mpr fun name hname => by simp [hvalue name hname]]
      rfl
    rw [substitute, hnone]
    simp only
    rw [← segments_divide, Division.flatMap_segments hvalue]
  · rintro ⟨name, hname, hunset⟩
    have hmem : name ∈ missing env text.toList := by
      rw [missing_eq, List.mem_eraseDups, List.mem_filter]
      simp [hname, hunset]
    rw [substitute, ← missing_eq]
    split
    · rename_i hnone
      rw [hnone] at hmem
      cases hmem
    · rfl

theorem substitute_divided_nested :
    let env : Environment := [("A", "$"), ("B", "1")]
    env.substitute "$\x7bA\x7d\x7bB\x7d $\x7b$\x7bB\x7d\x7d $" =
        .ok "$\x7bB\x7d $\x7b1\x7d $" ∧
      env.substitute "$\x7bA-B\x7d$\x7bD\x7d$\x7bC\x7d$\x7bD\x7d$\x7bA\x7d" =
        .error ["D", "C"] := by
  intro env
  constructor
  · obtain ⟨d, hd, hset, -⟩ :=
      substitute_divided env "$\x7bA\x7d\x7bB\x7d $\x7b$\x7bB\x7d\x7d $"
    obtain rfl := (hd _).mp (divides_divide _)
    rw [hset (fun name => if name = "A" then "$" else "1") (by decide +kernel)]
    exact congrArg Except.ok (by decide +kernel)
  · obtain ⟨d, hd, -, hunset⟩ :=
      substitute_divided env "$\x7bA-B\x7d$\x7bD\x7d$\x7bC\x7d$\x7bD\x7d$\x7bA\x7d"
    obtain rfl := (hd _).mp (divides_divide _)
    rw [hunset ⟨"D", by decide +kernel, by decide⟩]
    exact congrArg Except.error (by decide +kernel)

end AssetSync.Environment
