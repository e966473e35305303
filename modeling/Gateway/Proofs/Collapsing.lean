import Gateway.Proofs.Walk

/-!
Collapsed paths. The segments that are left of an absolute path are where its segments lead from the
root, taken one by one without looking at any files, and their text has just these segments.
-/
namespace Gateway.Path

/-! ## Segments of a joined text -/

theorem segments_of_not_mem {s : Segment} (h : '/' ∉ s) : segments s = [s] := by
  induction s with
  | nil => rfl
  | cons c r ih =>
    obtain ⟨hc, hr⟩ := not_or.1 (mt List.mem_cons.2 h)
    rw [segments, if_neg (Ne.symm hc), ih hr]

theorem segments_join {ss : List Segment} (hne : ss ≠ []) (h : ∀ s ∈ ss, '/' ∉ s) :
    segments (join ss) = ss := by
  induction ss with
  | nil => exact absurd rfl hne
  | cons s ss ih =>
    have hs : segments s = [s] := segments_of_not_mem (h s List.mem_cons_self)
    cases ss with
    | nil => exact hs
    | cons t ts =>
      have hrest := ih (List.cons_ne_nil t ts) fun u hu => h u (List.mem_cons_of_mem s hu)
      rw [join, segments_append_slash, hs, hrest, List.singleton_append]

theorem mem_join_of_mem {ss : List Segment} {s : Segment} {c : Char} (hs : s ∈ ss) (hc : c ∈ s) :
    c ∈ join ss := by
  induction ss with
  | nil => exact absurd hs List.not_mem_nil
  | cons t ts ih =>
    cases ts with
    | nil =>
      obtain rfl := List.mem_singleton.1 hs
      exact hc
    | cons u us =>
      rw [join, List.mem_append, List.mem_cons]
      rcases List.mem_cons.1 hs with rfl | hs
      · exact Or.inl hc
      · exact Or.inr (Or.inr (ih hs))

theorem mem_of_mem_join {ss : List Segment} {c : Char} (hc : c ∈ join ss) :
    c = '/' ∨ ∃ s ∈ ss, c ∈ s := by
  induction ss with
  | nil => exact absurd hc List.not_mem_nil
  | cons t ts ih =>
    cases ts with
    | nil => exact Or.inr ⟨t, List.mem_cons_self, hc⟩
    | cons u us =>
      rw [join, List.mem_append, List.mem_cons] at hc
      rcases hc with hc | hc | hc
      · exact Or.inr ⟨t, List.mem_cons_self, hc⟩
      · exact Or.inl hc
      · rcases ih hc with hslash | ⟨s, hs, hcs⟩
        · exact Or.inl hslash
        · exact Or.inr ⟨s, List.mem_cons_of_mem t hs, hcs⟩

/-! ## The lexical walk -/

/-- Takes a segment from `here`, as if every name were one of a directory. -/
def lexicalStep (here : List Segment) (s : Segment) : List Segment :=
  if s = [] ∨ s = dot then here
  else if s = dotDot then here.dropLast
  else here ++ [s]

/-- Where the segments of an absolute path lead from the root, above which `..` does not go. -/
def lexical (path : List Char) : List Segment := (segments path).foldl lexicalStep []

theorem mem_lexicalStep {here : List Segment} {s t : Segment} (h : t ∈ lexicalStep here s) :
    t ∈ here ∨ t = s ∧ IsName s := by
  unfold lexicalStep at h
  split at h
  · exact Or.inl h
  · next hstay =>
    obtain ⟨hnil, hdot⟩ := not_or.1 hstay
    split at h
    · exact Or.inl (List.mem_of_mem_dropLast h)
    · next hup =>
      rcases List.mem_append.1 h with h | h
      · exact Or.inl h
      · exact Or.inr ⟨List.mem_singleton.1 h, hnil, hdot, hup⟩

theorem mem_foldl_lexicalStep {ss here : List Segment} {t : Segment}
    (h : t ∈ ss.foldl lexicalStep here) : t ∈ here ∨ t ∈ ss ∧ IsName t := by
  induction ss generalizing here with
  | nil => exact Or.inl h
  | cons s ss ih =>
    rcases ih h with hstep | ⟨hmem, hname⟩
    · rcases mem_lexicalStep hstep with hhere | ⟨rfl, hname⟩
      · exact Or.inl hhere
      · exact Or.inr ⟨List.mem_cons_self, hname⟩
    · exact Or.inr ⟨List.mem_cons_of_mem s hmem, hname⟩

/-- What is left of a path are names, without a slash in any of them. -/
theorem isName_of_mem_lexical {path : List Char} {s : Segment} (h : s ∈ lexical path) :
    IsName s ∧ '/' ∉ s := by
  rcases mem_foldl_lexicalStep h with hnil | ⟨hmem, hname⟩
  · exact absurd hnil List.not_mem_nil
  · exact ⟨hname, slash_not_mem_of_mem_segments hmem⟩

/-! ## Collapsing -/

/-- On an absolute path, collapsing keeps the lexical walk with its last name first. The stack has no
`..` in it, so the branches for a relative path do not come up. -/
theorem reverse_push {above : List Segment} (h : dotDot ∉ above) (s : Segment) :
    (push true above s).reverse = lexicalStep above.reverse s := by
  unfold push lexicalStep
  split
  · rfl
  · split
    · cases above with
      | nil => rfl
      | cons top rest =>
        have htop : top ≠ dotDot := fun heq => h (heq ▸ List.mem_cons_self)
        rw [List.reverse_cons, List.dropLast_concat]
        exact congrArg List.reverse (if_neg htop)
    · rw [List.reverse_cons]

theorem reverse_foldl_push {above : List Segment} (h : dotDot ∉ above) (ss : List Segment) :
    (ss.foldl (push true) above).reverse = ss.foldl lexicalStep above.reverse := by
  induction ss generalizing above with
  | nil => rfl
  | cons s ss ih =>
    have hstep := reverse_push h s
    have hpushed : dotDot ∉ push true above s := by
      rw [← List.mem_reverse, hstep]
      intro hmem
      rcases mem_lexicalStep hmem with hmem | ⟨rfl, hname⟩
      · exact h (List.mem_reverse.1 hmem)
      · exact hname.ne_dotDot rfl
    rw [List.foldl_cons, List.foldl_cons, ih hpushed, hstep]

theorem collapsedSegments_eq_lexical {path : List Char} (h : isAbsolute path) :
    collapsedSegments path = lexical path := by
  unfold collapsedSegments lexical
  rw [h]
  exact reverse_foldl_push List.not_mem_nil (segments path)

/-- The text of a collapsed absolute path without the slashes in front of it. -/
theorem dropWhile_collapseChars {path : List Char} (h : isAbsolute path) :
    (collapseChars path).dropWhile (· = '/') = join (lexical path) := by
  have hcollapsed : collapseChars path = '/' :: join (lexical path) := by
    rw [collapseChars, h, collapsedSegments_eq_lexical h]
    rfl
  have hfront : ∀ r, join (lexical path) ≠ '/' :: r := by
    intro r hr
    have hne : lexical path ≠ [] := by
      intro hnil
      rw [hnil] at hr
      exact List.cons_ne_nil _ _ hr.symm
    have hsegments := segments_join hne fun s hs => (isName_of_mem_lexical hs).2
    -- a text that starts with a slash has an empty first segment
    rw [hr, segments, if_pos rfl] at hsegments
    have hmem : [] ∈ lexical path := hsegments ▸ List.mem_cons_self
    exact (isName_of_mem_lexical hmem).1.ne_nil rfl
  rw [hcollapsed]
  cases hjoin : join (lexical path) with
  | nil => rfl
  | cons c r =>
    have hc : c ≠ '/' := by
      rintro rfl
      exact hfront r hjoin
    simp [hc]

end Gateway.Path
