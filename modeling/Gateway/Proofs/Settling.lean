import Gateway.Proofs.Naming

/-!
Normal forms of paths. Collapsing keeps a stack of names, with steps up only at its bottom and only if
the path is relative. Pushing the segments of such a stack again builds the same stack, so a collapsed
path collapses to itself, also where more of a path follows it.
-/
namespace Gateway.Path

/-! ## The stack -/

/-- The stacks that collapsing keeps: names above the steps up that lead out of a relative path. -/
inductive Settled (absolute : Bool) : List Segment → Prop
  | climbed (n : Nat) (h : absolute → n = 0) : Settled absolute (List.replicate n dotDot)
  | named {s : Segment} {above : List Segment} (hs : IsName s) (habove : Settled absolute above) :
      Settled absolute (s :: above)

section Stack

variable {absolute : Bool} {above : List Segment}

theorem push_dotDot_replicate {n : Nat} (h : absolute → n = 0) :
    push absolute (List.replicate n dotDot) dotDot =
      List.replicate (if absolute then 0 else n + 1) dotDot := by
  have hgoes : ¬ (dotDot = [] ∨ dotDot = dot) := by decide
  rw [push.eq_def, if_neg hgoes, if_pos rfl]
  cases absolute with
  | true =>
    obtain rfl := h rfl
    rfl
  | false => cases n <;> rfl

theorem Settled.push (h : Settled absolute above) (s : Segment) :
    Settled absolute (push absolute above s) := by
  by_cases hstay : s = [] ∨ s = dot
  · rwa [Path.push.eq_def, if_pos hstay]
  · by_cases hup : s = dotDot
    · subst hup
      cases h with
      | climbed n hn =>
        rw [push_dotDot_replicate hn]
        exact .climbed _ fun habs => if_pos habs
      | named hs habove =>
        rw [Path.push.eq_def, if_neg hstay, if_pos rfl]
        dsimp only
        rwa [if_neg hs.ne_dotDot]
    · rw [Path.push.eq_def, if_neg hstay, if_neg hup]
      exact .named (isName_of_not hstay hup) h

theorem Settled.foldl_push (h : Settled absolute above) (ss : List Segment) :
    Settled absolute (ss.foldl (Path.push absolute) above) := by
  induction ss generalizing above with
  | nil => exact h
  | cons s ss ih => exact ih (h.push s)

/-- The segments of a settled stack, pushed from the bottom on, build it again. -/
theorem Settled.foldl_push_reverse (h : Settled absolute above) :
    above.reverse.foldl (Path.push absolute) [] = above := by
  induction h with
  | climbed n hn =>
    rw [List.reverse_replicate]
    induction n with
    | zero => rfl
    | succ n ih =>
      have habs : ¬ absolute := fun habs => absurd (hn habs) n.succ_ne_zero
      have hpush : Path.push absolute (List.replicate n dotDot) dotDot =
          List.replicate (n + 1) dotDot := by
        rw [push_dotDot_replicate fun h => absurd h habs, if_neg habs]
      rw [List.replicate_succ', List.foldl_append, ih fun h => absurd h habs, List.foldl_cons, hpush,
        List.foldl_nil, List.replicate_succ']
  | named hs habove ih =>
    rw [List.reverse_cons, List.foldl_append, ih, List.foldl_cons, List.foldl_nil, Path.push.eq_def,
      if_neg (not_or.2 ⟨hs.ne_nil, hs.ne_dot⟩), if_neg hs.ne_dotDot]

theorem Settled.append {names : List Segment} (h : Settled absolute above)
    (hnames : ∀ s ∈ names, IsName s) : Settled absolute (names ++ above) := by
  induction names with
  | nil => exact h
  | cons s names ih =>
    obtain ⟨hs, hrest⟩ := List.forall_mem_cons.1 hnames
    exact .named hs (ih hrest)

/-- Read from the bottom, a settled stack goes up some steps, none on an absolute path, and then only
down. -/
theorem settled_reverse_iff {ss : List Segment} :
    Settled absolute ss.reverse ↔
      ∃ n rest, ss = List.replicate n dotDot ++ rest ∧ (absolute → n = 0) ∧ ∀ s ∈ rest, IsName s := by
  constructor
  · intro h
    rw [← List.reverse_reverse ss]
    generalize ss.reverse = above at h
    induction h with
    | climbed n hn => exact ⟨n, [], by simp, hn, by simp⟩
    | @named s _ hs habove ih =>
      obtain ⟨n, rest, hreverse, hn, hrest⟩ := ih
      refine ⟨n, rest ++ [s], by rw [List.reverse_cons, hreverse, List.append_assoc], hn, ?_⟩
      intro t ht
      rcases List.mem_append.1 ht with ht | ht
      · exact hrest t ht
      · rwa [List.mem_singleton.1 ht]
  · rintro ⟨n, rest, rfl, hn, hrest⟩
    rw [List.reverse_append, List.reverse_replicate]
    exact (Settled.climbed n hn).append fun s hs => hrest s (List.mem_reverse.1 hs)

end Stack

theorem settled_reverse_collapsedSegments (path : List Char) :
    Settled (isAbsolute path) (collapsedSegments path).reverse := by
  rw [collapsedSegments, List.reverse_reverse]
  exact Settled.foldl_push (.climbed 0 fun _ => rfl) (segments path)

/-! ## The text of a stack -/

theorem isAbsolute_join {ss : List Segment} (h : ∀ s ∈ ss, IsStep s) : isAbsolute (join ss) = false := by
  cases ss with
  | nil => rfl
  | cons s ss =>
    obtain ⟨⟨hne, -⟩, hslash⟩ := h s List.mem_cons_self
    obtain ⟨c, r, rfl⟩ := List.exists_cons_of_ne_nil hne
    have hc : c ≠ '/' := fun heq => hslash (heq ▸ List.mem_cons_self)
    have hfront : ∃ t, join ((c :: r) :: ss) = c :: t := by
      cases ss with
      | nil => exact ⟨r, rfl⟩
      | cons t ts => exact ⟨r ++ '/' :: join (t :: ts), rfl⟩
    obtain ⟨t, ht⟩ := hfront
    rw [ht, Bool.eq_false_iff, ne_eq, isAbsolute_iff]
    rintro ⟨u, hu⟩
    exact hc (List.cons.inj hu).1

theorem isAbsolute_collapseChars (path : List Char) :
    isAbsolute (collapseChars path) = isAbsolute path := by
  unfold collapseChars render
  cases isAbsolute path with
  | true => rfl
  | false =>
    rw [if_neg Bool.false_ne_true]
    split
    · rfl
    · exact isAbsolute_join fun s hs => isStep_of_mem_collapsedSegments hs

theorem collapseChars_ne_nil (path : List Char) : collapseChars path ≠ [] := by
  unfold collapseChars render
  split
  · exact List.cons_ne_nil _ _
  · split
    · decide
    · next hne =>
      intro hjoin
      have hsegments := segments_join hne fun s hs => (isStep_of_mem_collapsedSegments hs).2
      rw [hjoin] at hsegments
      have hmem : [] ∈ collapsedSegments path := hsegments ▸ List.mem_singleton_self []
      exact (isStep_of_mem_collapsedSegments hmem).1.1 rfl

/-- The segments of a collapsed text are those it was made of, behind an empty one if it is
absolute. -/
theorem segments_collapseChars {path : List Char} (h : collapsedSegments path ≠ []) :
    segments (collapseChars path) =
      if isAbsolute path then [] :: collapsedSegments path else collapsedSegments path := by
  have hjoin : segments (join (collapsedSegments path)) = collapsedSegments path :=
    segments_join h fun s hs => (isStep_of_mem_collapsedSegments hs).2
  unfold collapseChars render
  rw [if_neg h]
  split
  · rw [segments, if_pos rfl, hjoin]
  · exact hjoin

/-! ## Collapsing again -/

theorem collapsedSegments_collapseChars (path : List Char) :
    collapsedSegments (collapseChars path) = collapsedSegments path := by
  have hsettled := (settled_reverse_collapsedSegments path).foldl_push_reverse
  rw [List.reverse_reverse] at hsettled
  rw [collapsedSegments, isAbsolute_collapseChars, ← foldl_push_filter]
  show ((names (collapseChars path)).foldl (push (isAbsolute path)) []).reverse = _
  rw [names_collapseChars, hsettled, List.reverse_reverse]

/-- What follows a path is pushed on the stack that the path has left. -/
theorem collapseChars_append_slash {path : List Char} (h : path ≠ []) (rest : List Char) :
    collapseChars (path ++ '/' :: rest) = render (isAbsolute path)
      ((segments rest).foldl (push (isAbsolute path)) (collapsedSegments path).reverse).reverse := by
  obtain ⟨c, r, rfl⟩ := List.exists_cons_of_ne_nil h
  have habs : isAbsolute (c :: r ++ '/' :: rest) = isAbsolute (c :: r) := by
    unfold isAbsolute
    rw [List.cons_append]
    split <;> split <;> simp_all
  rw [collapseChars, collapsedSegments, habs, segments_append_slash, List.foldl_append,
    collapsedSegments, List.reverse_reverse]

theorem collapseChars_collapseChars_append {path : List Char} (h : path ≠ []) (rest : List Char) :
    collapseChars (collapseChars path ++ '/' :: rest) = collapseChars (path ++ '/' :: rest) := by
  rw [collapseChars_append_slash (collapseChars_ne_nil path), collapseChars_append_slash h,
    isAbsolute_collapseChars, collapsedSegments_collapseChars]

/-! ## The normal form -/

/-- The normal form of a path: `/`, or `.`, or segments that all lead somewhere, none of them up if the
path is absolute and only the first of them if it is relative. -/
structure IsNormal (path : List Char) : Prop where
  plain : path = ['/'] ∨ path = dot ∨
    ∃ ss, segments path = (if isAbsolute path then [] :: ss else ss) ∧ ∀ s ∈ ss, s ≠ [] ∧ s ≠ dot
  rooted : isAbsolute path → dotDot ∉ segments path
  climbs : ¬ isAbsolute path →
    ∃ n rest, segments path = List.replicate n dotDot ++ rest ∧ dotDot ∉ rest

theorem isNormal_collapseChars (path : List Char) : IsNormal (collapseChars path) := by
  obtain ⟨n, rest, hsettled, hn, hnames⟩ :=
    settled_reverse_iff.1 (settled_reverse_collapsedSegments path)
  have hrest : dotDot ∉ rest := fun h => (hnames dotDot h).ne_dotDot rfl
  by_cases hnil : collapsedSegments path = []
  · -- nothing is left
    rw [collapseChars, render, hnil]
    split
    · exact ⟨.inl rfl, fun _ => by decide, fun h => absurd rfl h⟩
    · exact ⟨.inr (.inl rfl), fun h => absurd h (by decide), fun _ => ⟨0, [dot], rfl, by decide⟩⟩
  · have hsegments := segments_collapseChars hnil
    refine ⟨.inr (.inr ⟨collapsedSegments path, ?_, fun s hs => ?_⟩), fun h => ?_, fun h => ?_⟩
    · rw [hsegments, isAbsolute_collapseChars]
    · exact (isStep_of_mem_collapsedSegments hs).1
    · rw [isAbsolute_collapseChars] at h
      rw [hsegments, if_pos h, hsettled, hn h]
      simpa [dotDot] using hrest
    · rw [isAbsolute_collapseChars] at h
      exact ⟨n, rest, by rw [hsegments, if_neg h, hsettled], hrest⟩

theorem collapsedSegments_of_settled {ss : List Segment} {path : List Char}
    (hpath : segments path = (if isAbsolute path then [] :: ss else ss))
    (h : Settled (isAbsolute path) ss.reverse) : collapsedSegments path = ss := by
  have hpush : (segments path).foldl (push (isAbsolute path)) [] =
      ss.foldl (push (isAbsolute path)) [] := by
    rw [hpath]
    split
    · rfl
    · rfl
  have hagain := h.foldl_push_reverse
  rw [List.reverse_reverse] at hagain
  rw [collapsedSegments, hpush, hagain, List.reverse_reverse]

theorem IsNormal.collapseChars_eq {path : List Char} (h : IsNormal path) :
    collapseChars path = path := by
  rcases h.plain with rfl | rfl | ⟨ss, hss, hgoes⟩
  · decide
  · decide
  · have hjoin := join_segments path
    rw [hss] at hjoin
    have hname : ∀ s ∈ ss, s ≠ dotDot → IsName s := fun s hs hup =>
      ⟨(hgoes s hs).1, (hgoes s hs).2, hup⟩
    have hsettled : Settled (isAbsolute path) ss.reverse := by
      rw [settled_reverse_iff]
      by_cases habs : isAbsolute path
      · have hrooted := h.rooted habs
        rw [hss, if_pos habs] at hrooted
        exact ⟨0, ss, rfl, fun _ => rfl, fun s hs =>
          hname s hs fun hup => hrooted (hup ▸ List.mem_cons_of_mem [] hs)⟩
      · obtain ⟨n, rest, hclimbs, hrest⟩ := h.climbs habs
        rw [hss, if_neg habs] at hclimbs
        exact ⟨n, rest, hclimbs, fun h => absurd h habs, fun s hs =>
          hname s (hclimbs ▸ List.mem_append_right _ hs) fun hup => hrest (hup ▸ hs)⟩
    have hne : ss ≠ [] := by
      rintro rfl
      by_cases habs : isAbsolute path
      · rw [if_pos habs] at hjoin
        exact absurd (hjoin ▸ habs) (by decide)
      · rw [if_neg habs] at hss
        exact segments_ne_nil path hss
    rw [collapseChars, collapsedSegments_of_settled hss hsettled, render, if_neg hne]
    split
    · next habs =>
      rw [if_pos habs] at hjoin
      obtain ⟨s, ts, rfl⟩ := List.exists_cons_of_ne_nil hne
      exact hjoin
    · next habs =>
      rw [if_neg habs] at hjoin
      exact hjoin

theorem toList_collapse (path : String) : (collapse path).toList = collapseChars path.toList :=
  String.toList_ofList

theorem collapse_eq_self_iff {path : String} : collapse path = path ↔ IsNormal path.toList := by
  constructor
  · intro h
    rw [← h, toList_collapse]
    exact isNormal_collapseChars path.toList
  · intro h
    apply String.toList_inj.1
    rw [toList_collapse, h.collapseChars_eq]

/-- Collapsing brings a path into normal form, and just the paths in normal form stay as they are. The result
can stand for the path in front of anything that follows, unless the path is empty. -/
theorem collapse_normal (path : String) :
    IsNormal (collapse path).toList ∧
      (isAbsolute (collapse path).toList ↔ isAbsolute path.toList) ∧
      (collapse path = path ↔ IsNormal path.toList) ∧
      collapse (collapse path) = collapse path ∧
      ∀ rest, path ≠ "" → collapse (path ++ "/" ++ rest) = collapse (collapse path ++ "/" ++ rest) := by
  have hnormal : IsNormal (collapse path).toList := by
    rw [toList_collapse]
    exact isNormal_collapseChars path.toList
  refine ⟨hnormal, ?_, collapse_eq_self_iff, collapse_eq_self_iff.2 hnormal, fun rest hne => ?_⟩
  · rw [toList_collapse, isAbsolute_collapseChars]
  · have hpath : path.toList ≠ [] := fun h => hne (String.toList_inj.1 h)
    have hseam (s : String) : (s ++ "/" ++ rest).toList = s.toList ++ '/' :: rest.toList := by
      simp
    apply String.toList_inj.1
    rw [toList_collapse, toList_collapse, hseam, hseam, toList_collapse,
      collapseChars_collapseChars_append hpath]

/-- A relative path that leads out of its directory, and more that leads up again behind it. -/
theorem collapse_normal_outside :
    "a/../../b//c/." ≠ "" ∧ collapse "a/../../b//c/." = "../b/c" ∧
      collapse ("a/../../b//c/." ++ "/" ++ "../../../d") = collapse ("../b/c" ++ "/" ++ "../../../d") := by
  have hcollapse : collapse "a/../../b//c/." = "../b/c" := by decide +kernel
  have hmain := (collapse_normal "a/../../b//c/.").2.2.2.2 "../../../d" (by decide)
  rw [hcollapse] at hmain
  exact ⟨by decide, hcollapse, hmain⟩

end Gateway.Path
