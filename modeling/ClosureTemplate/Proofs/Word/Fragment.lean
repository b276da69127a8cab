import ClosureTemplate.Proofs.Scan.Lossless
import ClosureTemplate.Word.Fragment

namespace ClosureTemplate.Word

/-- The words that a token is given out as; a token that is not cut is its own only word. -/
def wordsOf (symbol : Symbol) : List Symbol :=
  if symbol.kind.isFragmentable then
    (split symbol.text symbol.kind).map fun fragment => fragment.symbol symbol
  else [symbol]

theorem pieceLength_pos (c : Char) (cs : Text) : 0 < pieceLength (c :: cs) := by
  simp only [pieceLength]
  split <;> omega

theorem flatten_pieces (text : Text) : (pieces text).flatten = text := by
  fun_induction pieces text with
  | case1 => rfl
  | case2 c cs ih => rw [List.flatten_cons, ih, List.take_append_drop]

theorem pieces_ne_nil {text piece : Text} (member : piece ∈ pieces text) : piece ≠ [] := by
  fun_induction pieces text with
  | case1 => cases member
  | case2 c cs ih =>
    rcases List.mem_cons.mp member with rfl | later
    · intro empty
      have positive := pieceLength_pos c cs
      rw [List.take_eq_nil_iff] at empty
      rcases empty with zero | impossible
      · omega
      · cases impossible
    · exact ih later

theorem split_ne_nil {text : Text} (kind : Kind) (nonempty : text ≠ []) : split text kind ≠ [] := by
  obtain ⟨c, cs, rfl⟩ := List.exists_cons_of_ne_nil nonempty
  unfold split
  rw [pieces]
  simp [layOut]

theorem symbol_text {parent : Symbol} {done piece rest : Text} (kind : Kind)
    (shape : parent.text = done ++ piece ++ rest) :
    ((⟨kind, done.byteSize, done.byteSize + piece.byteSize⟩ : Fragment).symbol parent).text =
      piece := by
  have found : parent.text.slice? done.byteSize (done.byteSize + piece.byteSize) = some piece :=
    Text.slice?_eq_some_iff.mpr ⟨done, rest, shape, rfl, rfl⟩
  simp only [Fragment.symbol]
  rw [found]
  rfl

theorem slice?_of_piece {source : Text} {parent : Symbol} {done piece rest : Text}
    (shape : parent.text = done ++ piece ++ rest)
    (found : source.slice? parent.start parent.stop = some parent.text) :
    source.slice? (parent.start + done.byteSize)
      (parent.start + (done.byteSize + piece.byteSize)) = some piece := by
  obtain ⟨before, after, split, startSize, -⟩ := Text.slice?_eq_some_iff.mp found
  refine Text.slice?_eq_some_iff.mpr ⟨before ++ done, rest ++ after, ?_, ?_, ?_⟩
  · rw [split, shape]
    simp
  · rw [Text.byteSize_append, startSize]
  · rw [Nat.add_assoc]

theorem tiles_layOut {source : Text} {parent : Symbol} (piece : parent.IsPieceOf source)
    (kind : Kind) (done : Text) (parts : List Text) (shape : parent.text = done ++ parts.flatten)
    (nonempty : ∀ part ∈ parts, part ≠ []) :
    Tiles source (parent.start + done.byteSize) parent.stop
      ((layOut kind done.byteSize parts).map fun fragment => fragment.symbol parent) := by
  induction parts generalizing done with
  | nil =>
    obtain ⟨before, after, -, -, size⟩ := Text.slice?_eq_some_iff.mp piece.text
    rw [List.flatten_nil, List.append_nil] at shape
    rw [← shape, size]
    exact .done
  | cons part parts ih =>
    rw [List.flatten_cons, ← List.append_assoc] at shape
    have text := symbol_text (pieceKind kind part) shape
    have rest := ih (done ++ part) shape
      (fun later member => nonempty later (List.mem_cons_of_mem part member))
    rw [Text.byteSize_append] at rest
    have word : ((⟨pieceKind kind part, done.byteSize, done.byteSize + part.byteSize⟩ :
        Fragment).symbol parent).IsPieceOf source := by
      apply Symbol.isPieceOf_of_slice?
      · rw [text]
        exact slice?_of_piece shape piece.text
      · rw [text]
        exact nonempty part (List.mem_cons_self ..)
    exact .next word rest

theorem exists_piece_of_mem_layOut {text : Text} {kind : Kind} (done : Text) (parts : List Text)
    (shape : text = done ++ parts.flatten) :
    ∀ fragment ∈ layOut kind done.byteSize parts, ∃ before piece after,
      text = before ++ piece ++ after ∧
      fragment =
        ⟨pieceKind kind piece, before.byteSize, before.byteSize + piece.byteSize⟩ := by
  induction parts generalizing done with
  | nil => intro fragment member; cases member
  | cons part parts ih =>
    rw [List.flatten_cons, ← List.append_assoc] at shape
    intro fragment member
    rcases List.mem_cons.mp member with rfl | later
    · exact ⟨done, part, parts.flatten, shape, rfl⟩
    · refine ih (done ++ part) shape fragment ?_
      rw [Text.byteSize_append]
      exact later

theorem exists_piece_of_mem_split {text : Text} {kind : Kind} {fragment : Fragment}
    (member : fragment ∈ split text kind) : ∃ before piece after,
      text = before ++ piece ++ after ∧
      fragment =
        ⟨pieceKind kind piece, before.byteSize, before.byteSize + piece.byteSize⟩ :=
  exists_piece_of_mem_layOut [] (pieces text) (flatten_pieces text).symm fragment member

theorem kind_of_mem_split {parent : Symbol} {kind : Kind} {fragment : Fragment}
    (member : fragment ∈ split parent.text kind) :
    fragment.kind = pieceKind kind (fragment.symbol parent).text := by
  obtain ⟨before, piece, after, shape, rfl⟩ := exists_piece_of_mem_split member
  rw [symbol_text _ shape]

theorem slice?_of_mem_split {parent : Symbol} {kind : Kind} {fragment : Fragment}
    (member : fragment ∈ split parent.text kind) :
    parent.text.slice? fragment.start fragment.stop = some (fragment.symbol parent).text := by
  obtain ⟨before, piece, after, shape, rfl⟩ := exists_piece_of_mem_split member
  rw [symbol_text _ shape]
  exact Text.slice?_eq_some_iff.mpr ⟨before, after, shape, rfl, rfl⟩

theorem tiles_wordsOf {source : Text} {symbol : Symbol} (piece : symbol.IsPieceOf source) :
    Tiles source symbol.start symbol.stop (wordsOf symbol) := by
  unfold wordsOf
  split
  · exact tiles_layOut piece symbol.kind [] (pieces symbol.text) (flatten_pieces symbol.text).symm
      (fun _ member => pieces_ne_nil member)
  · exact .next piece .done

theorem tiles_flatMap_wordsOf {source : Text} {start stop : Nat} {symbols : List Symbol}
    (tiles : Tiles source start stop symbols) :
    Tiles source start stop (symbols.flatMap wordsOf) := by
  induction tiles with
  | done => exact .done
  | next piece _ ih =>
    rw [List.flatMap_cons]
    exact (tiles_wordsOf piece).append ih

/-- A word of a kind that is cut into words is cut no further. -/
theorem isIdentifier_of_mem_wordsOf {symbol word : Symbol} (member : word ∈ wordsOf symbol)
    (fragmentable : word.kind.isFragmentable = true) : Text.isIdentifier word.text = true := by
  unfold wordsOf at member
  split at member
  · obtain ⟨fragment, listed, rfl⟩ := List.mem_map.mp member
    have kind := kind_of_mem_split listed
    change fragment.kind.isFragmentable = true at fragmentable
    rw [kind, pieceKind] at fragmentable
    split at fragmentable
    · assumption
    · cases fragmentable
  · next uncut =>
    rw [List.mem_singleton.mp member] at fragmentable
    exact absurd fragmentable uncut

theorem wordsOf_ne_eof {symbol word : Symbol} (proper : symbol.kind ≠ .eof)
    (member : word ∈ wordsOf symbol) : word.kind ≠ .eof := by
  unfold wordsOf at member
  split at member
  · obtain ⟨fragment, listed, rfl⟩ := List.mem_map.mp member
    change fragment.kind ≠ .eof
    rw [kind_of_mem_split listed, pieceKind]
    split
    · exact proper
    · decide
  · rw [List.mem_singleton.mp member]
    exact proper

end ClosureTemplate.Word
