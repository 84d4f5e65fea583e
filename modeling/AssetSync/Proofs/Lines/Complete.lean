import AssetSync.Lines.Record

namespace AssetSync.Line

/-- Pieces with a newline behind each, and the rest of the text, which has none. -/
structure Parted (text : List Char) (pieces : List (List Char)) (rest : List Char) : Prop where
  text_eq : text = pieces.flatMap (· ++ ['\n']) ++ rest
  pieces : ∀ piece ∈ pieces, '\n' ∉ piece
  rest : '\n' ∉ rest

def withoutReturn (piece : List Char) : Line :=
  if piece.getLast? = some '\r' then piece.dropLast else piece

theorem exists_parted (text : List Char) : ∃ pieces rest, Parted text pieces rest := by
  induction text with
  | nil => exact ⟨[], [], rfl, by simp, by simp⟩
  | cons c text ih =>
    obtain ⟨pieces, rest, htext, hpieces, hrest⟩ := ih
    by_cases hc : c = '\n'
    · refine ⟨[] :: pieces, rest, ?_, ?_, hrest⟩
      · simp [htext, hc]
      · simpa using hpieces
    · cases pieces with
      | nil => exact ⟨[], c :: rest, by simp [htext], by simp, by simp [Ne.symm hc, hrest]⟩
      | cons piece pieces =>
        refine ⟨(c :: piece) :: pieces, rest, by simp [htext], ?_, hrest⟩
        simpa [Ne.symm hc] using hpieces

theorem ofReversed_reverse (piece : List Char) :
    ofReversed piece.reverse = withoutReturn piece := by
  rcases List.eq_nil_or_concat piece with rfl | ⟨start, c, rfl⟩
  · rfl
  · by_cases hc : c = '\r'
    · simp [hc, ofReversed, withoutReturn]
    · simp [hc, ofReversed, withoutReturn]

theorem not_mem_withoutReturn {piece : List Char} {c : Char} (h : c ∉ piece) :
    c ∉ withoutReturn piece := by
  unfold withoutReturn
  split
  · exact fun hmem => h ((List.dropLast_sublist piece).subset hmem)
  · exact h

theorem count_pieces {pieces : List (List Char)} (h : ∀ piece ∈ pieces, '\n' ∉ piece) :
    (pieces.flatMap (· ++ ['\n'])).count '\n' = pieces.length := by
  induction pieces with
  | nil => rfl
  | cons piece pieces ih =>
    obtain ⟨hpiece, hpieces⟩ := List.forall_mem_cons.mp h
    rw [List.flatMap_cons, List.count_append, List.count_append, List.count_eq_zero.mpr hpiece,
      ih hpieces, List.count_singleton_self, List.length_cons]
    omega

theorem splitOnto_done (done : List Line) (current text : List Char) :
    splitOnto done current text = splitOnto [] current text ++ done := by
  induction text generalizing done current with
  | nil => rfl
  | cons c text ih =>
    simp only [splitOnto]
    split
    · rw [ih, ih [_], List.append_assoc]
      rfl
    · exact ih done (c :: current)

theorem splitOnto_open (done : List Line) (current more : List Char) {piece : List Char}
    (h : '\n' ∉ piece) :
    splitOnto done current (piece ++ more) = splitOnto done (piece.reverse ++ current) more := by
  induction piece generalizing current with
  | nil => rfl
  | cons c piece ih =>
    simp only [List.mem_cons, not_or] at h
    rw [List.cons_append, splitOnto, if_neg (Ne.symm h.1), ih (c :: current) h.2]
    simp

theorem splitOnto_pieces (done : List Line) (more : List Char) {pieces : List (List Char)}
    (h : ∀ piece ∈ pieces, '\n' ∉ piece) :
    splitOnto done [] (pieces.flatMap (· ++ ['\n']) ++ more) =
      splitOnto ((pieces.map withoutReturn).reverse ++ done) [] more := by
  induction pieces generalizing done with
  | nil => rfl
  | cons piece pieces ih =>
    obtain ⟨hpiece, hpieces⟩ := List.forall_mem_cons.mp h
    rw [List.flatMap_cons, List.append_assoc, List.append_assoc, splitOnto_open _ _ _ hpiece,
      List.singleton_append, splitOnto, if_pos rfl, List.append_nil, ofReversed_reverse,
      ih _ hpieces]
    simp

theorem complete_of_open {text : String} (h : '\n' ∉ text.toList) : complete text = [] := by
  have hsplit := splitOnto_open [] [] [] h
  rw [List.append_nil] at hsplit
  rw [complete, hsplit]
  rfl

namespace Parted

variable {text : String} {pieces : List (List Char)} {rest : List Char}

theorem complete_append (h : Parted text.toList pieces rest) (more : String) :
    complete (text ++ more) =
      pieces.map withoutReturn ++ complete (String.ofList rest ++ more) := by
  unfold complete
  rw [String.toList_append, h.text_eq, List.append_assoc, splitOnto_pieces _ _ h.pieces,
    splitOnto_done, String.toList_append, String.toList_ofList]
  simp

theorem complete_eq (h : Parted text.toList pieces rest) :
    complete text = pieces.map withoutReturn := by
  have hrest : complete (String.ofList rest) = [] := complete_of_open (by simpa using h.rest)
  simpa only [String.append_empty, hrest, List.append_nil] using h.complete_append ""

theorem count_newlines {text : List Char} (h : Parted text pieces rest) :
    text.count '\n' = pieces.length := by
  rw [h.text_eq, List.count_append, count_pieces h.pieces, List.count_eq_zero.mpr h.rest,
    Nat.add_zero]

theorem complete_newline (h : Parted text.toList pieces rest) {more : String}
    (hmore : '\n' ∉ more.toList) :
    complete (text ++ more) = complete text ∧
      complete (text ++ more ++ "\n") =
        complete text ++ [withoutReturn (rest ++ more.toList)] := by
  have hopen : '\n' ∉ rest ++ more.toList := by simp [h.rest, hmore]
  have hlast : Parted (String.ofList rest ++ more ++ "\n").toList [rest ++ more.toList] [] :=
    ⟨by simp, by simpa using hopen, by simp⟩
  constructor
  · rw [h.complete_append, complete_of_open (by simpa using hopen), h.complete_eq, List.append_nil]
  · rw [String.append_assoc, h.complete_append, ← String.append_assoc, hlast.complete_eq,
      h.complete_eq]
    rfl

end Parted

theorem complete_append (text more : String) :
    ∃ added, complete (text ++ more) = complete text ++ added := by
  obtain ⟨_, rest, parted⟩ := exists_parted text.toList
  refine ⟨complete (String.ofList rest ++ more), ?_⟩
  rw [parted.complete_append, parted.complete_eq]

theorem complete_grows (text : String) :
    ∃ pieces rest, Parted text.toList pieces rest ∧
      complete text = pieces.map withoutReturn ∧
      (complete text).length = text.toList.count '\n' ∧
      (∀ line ∈ complete text, '\n' ∉ line) ∧
      ∀ more : String,
        complete text <+: complete (text ++ more) ∧
        complete (text ++ more) = complete text ++ complete (String.ofList rest ++ more) ∧
        ('\n' ∉ more.toList →
          complete (text ++ more) = complete text ∧
            complete (text ++ more ++ "\n") =
              complete text ++ [withoutReturn (rest ++ more.toList)]) := by
  obtain ⟨pieces, rest, parted⟩ := exists_parted text.toList
  have hlines := parted.complete_eq
  refine ⟨pieces, rest, parted, hlines, ?_, ?_, fun more => ⟨?_, ?_, parted.complete_newline⟩⟩
  · rw [hlines, List.length_map, parted.count_newlines]
  · intro line hline
    rw [hlines] at hline
    obtain ⟨piece, hpiece, rfl⟩ := List.mem_map.mp hline
    exact not_mem_withoutReturn (parted.pieces piece hpiece)
  · obtain ⟨added, hadded⟩ := complete_append text more
    exact ⟨added, hadded.symm⟩
  · rw [parted.complete_append, hlines]

theorem complete_grows_return :
    '\n' ∉ "\r".toList ∧ complete ("a\nb" ++ "\r") = [['a']] ∧
      complete ("a\nb" ++ "\r" ++ "\n") = [['a'], ['b']] := by
  have hopen : '\n' ∉ "\r".toList := by decide +kernel
  obtain ⟨_, _, -, -, -, -, hgrows⟩ := complete_grows "a\nb"
  obtain ⟨hunchanged, -⟩ := (hgrows "\r").2.2 hopen
  refine ⟨hopen, ?_, by decide +kernel⟩
  rw [hunchanged]
  decide +kernel

end AssetSync.Line
