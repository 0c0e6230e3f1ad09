import AlbumCatalog.Proofs.Saving

/-!
# The way through the parent

The parent of a path is the text of the path up to its last name, so its components are those before
that name, less lone dots. A walk along the path comes through the directory of the parent.
-/

namespace AlbumCatalog

/-! ### Pieces between slashes -/

lemma slash_notMem_of_mem_cutAtSlashes {cs piece : List Char} (h : piece ∈ cutAtSlashes cs) :
    '/' ∉ piece := by
  induction cs generalizing piece with
  | nil =>
    rw [cutAtSlashes, List.mem_singleton] at h
    simp [h]
  | cons c cs ih =>
    rw [cutAtSlashes] at h
    split at h
    · rcases List.mem_cons.mp h with rfl | h
      · simp
      · exact ih h
    · rename_i hc
      split at h
      · rename_i hcut
        exact absurd hcut (cutAtSlashes_ne_nil cs)
      · rename_i first pieces hcut
        rw [hcut] at ih
        rcases List.mem_cons.mp h with rfl | h
        · simp [Ne.symm hc, ih List.mem_cons_self]
        · exact ih (List.mem_cons_of_mem _ h)

lemma cutAtSlashes_of_notMem {piece : List Char} (h : '/' ∉ piece) :
    cutAtSlashes piece = [piece] := by
  induction piece with
  | nil => rfl
  | cons c cs ih =>
    obtain ⟨hc, hcs⟩ := List.ne_and_not_mem_of_not_mem_cons h
    rw [cutAtSlashes, if_neg hc.symm, ih hcs]

lemma cutAtSlashes_append {piece : List Char} (h : '/' ∉ piece) (cs : List Char) :
    cutAtSlashes (piece ++ '/' :: cs) = piece :: cutAtSlashes cs := by
  induction piece with
  | nil => rfl
  | cons c piece ih =>
    obtain ⟨hc, hpiece⟩ := List.ne_and_not_mem_of_not_mem_cons h
    rw [List.cons_append, cutAtSlashes, if_neg hc.symm, ih hpiece]

lemma cutAtSlashes_joinWithSlashes {pieces : List (List Char)} (hne : pieces ≠ [])
    (h : ∀ piece ∈ pieces, '/' ∉ piece) : cutAtSlashes (joinWithSlashes pieces) = pieces := by
  induction pieces with
  | nil => contradiction
  | cons piece pieces ih =>
    obtain ⟨hpiece, hpieces⟩ := List.forall_mem_cons.mp h
    by_cases hnil : pieces = []
    · subst hnil
      exact cutAtSlashes_of_notMem hpiece
    · rw [joinWithSlashes_cons piece hnil, cutAtSlashes_append hpiece, ih hnil hpieces]

lemma joinWithSlashes_prefix_append (pieces pieces' : List (List Char)) :
    joinWithSlashes pieces <+: joinWithSlashes (pieces ++ pieces') := by
  induction pieces with
  | nil => exact List.nil_prefix
  | cons piece pieces ih =>
    by_cases hnil : pieces = []
    · subst hnil
      by_cases hnil' : pieces' = []
      · rw [hnil']
        exact List.prefix_rfl
      · rw [List.singleton_append, joinWithSlashes_cons piece hnil']
        exact List.prefix_append _ _
    · rw [List.cons_append, joinWithSlashes_cons piece hnil,
        joinWithSlashes_cons piece (List.append_ne_nil_of_left_ne_nil hnil _)]
      exact (List.prefix_append_right_inj piece).mpr (List.cons_prefix_cons.mpr ⟨rfl, ih⟩)

/-- The pieces of a text that are not empty. -/
def fullPieces (cs : List Char) : List (List Char) :=
  (cutAtSlashes cs).filter (· ≠ [])

lemma fullPieces_joinWithSlashes {pieces : List (List Char)} (h : ∀ piece ∈ pieces, '/' ∉ piece) :
    fullPieces (joinWithSlashes pieces) = pieces.filter (· ≠ []) := by
  by_cases hne : pieces = []
  · subst hne
    rfl
  · rw [fullPieces, cutAtSlashes_joinWithSlashes hne h]

/-! ### Anchors -/

/-- What can stand behind an anchor: anything, or after a dot nothing but what begins with a
slash. -/
def Anchors (anchor cs : List Char) : Prop :=
  anchor = [] ∨ anchor = ['/'] ∨ anchor = ['.'] ∧ ∀ c ∈ cs.head?, c = '/'

lemma Anchors.of_prefix {anchor cs cs' : List Char} (h : Anchors anchor cs) (hp : cs' <+: cs) :
    Anchors anchor cs' := by
  rcases h with h | h | ⟨h, hhead⟩
  · exact .inl h
  · exact .inr (.inl h)
  · refine .inr (.inr ⟨h, fun c hc => hhead c ?_⟩)
    obtain ⟨rest, rfl⟩ := hp
    rw [List.head?_append, hc]
    rfl

lemma Anchors.fullPieces_append {anchor cs : List Char} (h : Anchors anchor cs) :
    fullPieces (anchor ++ cs) = fullPieces anchor ++ fullPieces cs := by
  rcases h with rfl | rfl | ⟨rfl, hhead⟩
  · rfl
  · rfl
  · cases cs with
    | nil => rfl
    | cons c cs =>
      obtain rfl := hhead c rfl
      rfl

namespace Path

lemma text_eq (p : Path) :
    p.text.toList = p.anchor ++ joinWithSlashes p.piecesFromEnd.reverse := by
  rw [piecesFromEnd, List.reverse_reverse, joinWithSlashes_cutAtSlashes]
  have hbegins : p.anchor <+: p.text.toList := by
    unfold anchor
    split <;> simp_all
  obtain ⟨rest, hrest⟩ := hbegins
  rw [← hrest, List.drop_left]

lemma anchors (p : Path) : Anchors p.anchor (joinWithSlashes p.piecesFromEnd.reverse) := by
  rw [piecesFromEnd, List.reverse_reverse, joinWithSlashes_cutAtSlashes]
  unfold anchor
  split
  · exact .inr (.inl rfl)
  · simp_all [Anchors]
  · simp_all [Anchors]
  · exact .inl rfl

lemma slash_notMem_of_mem_piecesFromEnd {p : Path} {piece : List Char}
    (h : piece ∈ p.piecesFromEnd) : '/' ∉ piece :=
  slash_notMem_of_mem_cutAtSlashes (List.mem_reverse.mp h)

lemma components_eq (p : Path) : p.components =
    if fullPieces p.text.toList = [] then ["."] else (fullPieces p.text.toList).map String.ofList := by
  simp only [components, List.isEmpty_iff]
  rfl

/-! ### Parents -/

lemma head?_ancestorsOfPieces (anchor : List Char) (fromEnd : List (List Char)) :
    (ancestorsOfPieces anchor fromEnd).head? =
      match fromEnd.dropWhile isBlankPiece with
      | [] => if anchor = ['.'] then some ⟨""⟩ else none
      | _ :: rest => some (ofPieces anchor (rest.dropWhile isBlankPiece)) := by
  induction fromEnd with
  | nil =>
    rw [ancestorsOfPieces]
    split <;> simp_all
  | cons piece fromEnd ih =>
    rw [ancestorsOfPieces]
    split
    · rename_i hblank
      rw [ih, List.dropWhile_cons_of_pos hblank]
    · rename_i hfull
      rw [List.dropWhile_cons_of_neg hfull]
      rfl

/-- A parent with a text is made of the pieces before the last name, less the blank ones at their
end. -/
lemma exists_pieces_of_parent {p parent : Path} (h : p.parent? = some parent)
    (hne : parent.text.toList ≠ []) : ∃ before blanks name after,
      p.piecesFromEnd.reverse = before ++ (blanks ++ name :: after) ∧ name ≠ [] ∧
      (∀ piece ∈ blanks, isBlankPiece piece) ∧
      parent.text.toList = p.anchor ++ joinWithSlashes before := by
  rw [parent?, ancestors, head?_ancestorsOfPieces] at h
  split at h
  · split at h
    · cases h
      exact absurd rfl hne
    · cases h
  · rename_i name rest hdrop
    cases h
    refine ⟨(rest.dropWhile isBlankPiece).reverse, (rest.takeWhile isBlankPiece).reverse, name,
      (p.piecesFromEnd.takeWhile isBlankPiece).reverse, ?_, ?_, ?_, String.toList_ofList⟩
    · rw [← List.append_assoc, ← List.reverse_append, List.takeWhile_append_dropWhile,
        List.append_cons, ← List.reverse_cons, ← List.reverse_append, ← hdrop,
        List.takeWhile_append_dropWhile]
    · rintro rfl
      have hfull := List.head?_dropWhile_not isBlankPiece p.piecesFromEnd
      rw [hdrop] at hfull
      simp [isBlankPiece] at hfull
    · exact fun piece hpiece => List.mem_takeWhile_imp (List.mem_reverse.mp hpiece)

lemma prefix_of_parent {p parent : Path} (h : p.parent? = some parent) :
    parent.text.toList <+: p.text.toList := by
  by_cases hne : parent.text.toList = []
  · rw [hne]
    exact List.nil_prefix
  obtain ⟨before, blanks, name, after, hpieces, -, -, htext⟩ := exists_pieces_of_parent h hne
  rw [htext, p.text_eq, hpieces]
  exact (List.prefix_append_right_inj _).mpr (joinWithSlashes_prefix_append _ _)

/-- Behind the pieces of the parent stand dots and a name. -/
lemma fullPieces_of_parent {p parent : Path} (h : p.parent? = some parent)
    (hne : parent.text.toList ≠ []) : ∃ dots name after, (∀ dot ∈ dots, dot = ['.']) ∧
      fullPieces p.text.toList = fullPieces parent.text.toList ++ (dots ++ name :: after) := by
  obtain ⟨before, blanks, name, after, hpieces, hname, hblanks, htext⟩ :=
    exists_pieces_of_parent h hne
  have hslash : ∀ piece ∈ before ++ (blanks ++ name :: after), '/' ∉ piece := by
    intro piece hpiece
    rw [← hpieces, List.mem_reverse] at hpiece
    exact slash_notMem_of_mem_piecesFromEnd hpiece
  have hanchors := p.anchors
  rw [hpieces] at hanchors
  refine ⟨blanks.filter (· ≠ []), name, after.filter (· ≠ []), ?_, ?_⟩
  · intro dot hdot
    obtain ⟨hmem, hfull⟩ := List.mem_filter.mp hdot
    have hblank := hblanks dot hmem
    simp_all [isBlankPiece]
  · rw [htext, p.text_eq, hpieces, hanchors.fullPieces_append,
      (hanchors.of_prefix (joinWithSlashes_prefix_append _ _)).fullPieces_append,
      fullPieces_joinWithSlashes hslash,
      fullPieces_joinWithSlashes fun piece hpiece => hslash piece (List.mem_append_left _ hpiece)]
    simp [hname]

end Path

namespace FileTree

variable {t : FileTree} {p parent : Path} {here l : Location}

lemma walk_dots {dots : List String} (hdots : ∀ dot ∈ dots, dot = ".")
    (h : t.walk here dots = .ok l) : l = here := by
  rw [walk_place h]
  clear h
  induction dots with
  | nil => rfl
  | cons dot dots ih =>
    obtain ⟨hdot, hrest⟩ := List.forall_mem_cons.mp hdots
    rw [List.foldl_cons, hdot]
    exact ih hrest

lemma checkPath_eq_ok : checkPath p = .ok () ↔
    '\x00' ∉ p.text.toList ∧ p.text.toList ≠ [] ∧ p.text.utf8ByteSize ≤ longestPath := by
  unfold checkPath
  split
  · simp_all
  split
  · simp_all
  split <;> simp_all

lemma checkPath_parent (h : checkPath p = .ok ()) (hparent : p.parent? = some parent)
    (hne : parent.text.toList ≠ []) : checkPath parent = .ok () := by
  obtain ⟨hzero, -, hsize⟩ := checkPath_eq_ok.mp h
  have hbegins := Path.prefix_of_parent hparent
  refine checkPath_eq_ok.mpr ⟨fun hmem => hzero (hbegins.subset hmem), hne, ?_⟩
  obtain ⟨rest, hrest⟩ := hbegins
  have htext : p.text = parent.text ++ String.ofList rest := by
    rw [String.ext_iff, String.toList_append, String.toList_ofList, hrest]
  rw [htext, String.utf8ByteSize_append] at hsize
  omega

/-- A path can only be walked through the directory of its parent. -/
lemma Reaches.hasDirectory_parent (h : t.Reaches p l) (hparent : p.parent? = some parent) :
    t.HasDirectory parent := by
  by_cases hne : parent.text.toList = []
  · exact .inl (by simpa using hne)
  obtain ⟨dots, name, after, hdots, hpieces⟩ := Path.fullPieces_of_parent hparent hne
  have hstart : t.startOf parent = t.startOf p := by
    obtain ⟨rest, hrest⟩ := Path.prefix_of_parent hparent
    unfold startOf Path.isAbsolute
    rw [← hrest, List.head?_append_of_ne_nil _ hne]
  have hwalk := h.walked
  rw [p.components_eq, if_neg (by simp [hpieces]), hpieces, List.map_append, List.map_append,
    List.map_cons] at hwalk
  obtain ⟨d, hd, hwalk⟩ := walk_append_eq_ok.mp hwalk
  obtain ⟨d', hd', hwalk⟩ := walk_append_eq_ok.mp hwalk
  have hsame : d' = d := by
    refine walk_dots (fun dot hdot => ?_) hd'
    obtain ⟨piece, hpiece, rfl⟩ := List.mem_map.mp hdot
    rw [hdots piece hpiece]
  subst d'
  obtain ⟨there, hstep, -⟩ := walk_cons_eq_ok.mp hwalk
  have hdir := (step_eq_ok.mp hstep).1
  refine .inr (isDirectory_eq_true.mpr ⟨d, ⟨checkPath_parent h.checked hparent hne, ?_⟩, hdir⟩)
  rw [hstart, parent.components_eq]
  split
  · -- the parent is the anchor alone, from which the walk sets out
    rename_i hnil
    rw [hnil] at hd
    cases hd
    exact walk_cons_eq_ok.mpr ⟨_, step_eq_ok.mpr ⟨hdir, by decide, rfl⟩, rfl⟩
  · exact hd

end FileTree

end AlbumCatalog
