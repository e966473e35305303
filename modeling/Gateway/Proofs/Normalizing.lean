import Gateway.Proofs.Nesting

/-!
The normal form of configured mount points. It is empty, or it starts with a slash, does not end with one
and has a name in between. Blanks are trimmed before the slashes are dropped, and neither is done again: a
blank in front of the last slashes stays at the end, and normalizing takes it off the next time, with the
slashes in front of it. Every round makes the text shorter until no blank is left at its end.
-/
namespace Gateway.Mount

/-! ## One round -/

section Round

variable {raw s : List Char} {c : Char}

theorem ne_slash_of_isBlank (h : Text.isBlank c) : c ≠ '/' := by
  rintro rfl
  exact absurd h (by decide)

/-- The slash in front is no blank, so it does not matter whether it is added before the end is trimmed. -/
theorem rootedChars_rdropWhile_isBlank (s : List Char) :
    Path.rootedChars (s.rdropWhile Text.isBlank) = (Path.rootedChars s).rdropWhile Text.isBlank := by
  have hslash : ¬ Text.isBlank '/' := fun h => ne_slash_of_isBlank h rfl
  by_cases habs : Path.isAbsolute s
  · obtain ⟨r, rfl⟩ := Path.isAbsolute_iff.1 habs
    rw [rootedChars_of_isAbsolute habs, Text.rdropWhile_cons_of_not hslash]
    rfl
  · have hrest : ¬ Path.isAbsolute (s.rdropWhile Text.isBlank) := by
      intro h
      obtain ⟨r, hr⟩ := Path.isAbsolute_iff.1 h
      obtain ⟨u, hu⟩ := List.rdropWhile_prefix Text.isBlank s
      rw [hr] at hu
      exact habs (Path.isAbsolute_iff.2 ⟨r ++ u, hu.symm⟩)
    rw [Path.rootedChars, if_neg hrest, Path.rootedChars, if_neg habs, Text.rdropWhile_cons_of_not hslash]

theorem rootedChars_append (h : s ≠ []) (r : List Char) :
    Path.rootedChars (s ++ r) = Path.rootedChars s ++ r := by
  obtain ⟨c, s, rfl⟩ := List.exists_cons_of_ne_nil h
  have habs : Path.isAbsolute (c :: s ++ r) = Path.isAbsolute (c :: s) := by
    rw [Bool.eq_iff_iff, Path.isAbsolute_iff, Path.isAbsolute_iff]
    simp
  rw [Path.rootedChars, Path.rootedChars, habs]
  split
  · rfl
  · rfl

/-- Blanks go in front, then a slash is put there, then blanks go at the end and after them slashes. -/
theorem normalizeChars_eq (raw : List Char) : normalizeChars raw =
    ((Path.rootedChars (raw.dropWhile Text.isBlank)).rdropWhile Text.isBlank).rdropWhile (· = '/') := by
  rw [normalizeChars_eq_rdropWhile, Text.trim_eq_rdropWhile, rootedChars_rdropWhile_isBlank]

theorem normalizeChars_of_head (h : ∀ c ∈ s.head?, ¬ Text.isBlank c) : normalizeChars s =
    ((Path.rootedChars s).rdropWhile Text.isBlank).rdropWhile (· = '/') := by
  have hnone : ∀ c ∈ ([] : List Char), Text.isBlank c := by simp
  have hfront : s.dropWhile Text.isBlank = s := Text.dropWhile_append_of_head hnone h
  rw [normalizeChars_eq, hfront]

theorem normalizeChars_eq_nil_iff : normalizeChars raw = [] ↔ ∀ c ∈ Text.trim raw, c = '/' := by
  rw [normalizeChars_eq_rdropWhile, List.rdropWhile_eq_nil_iff, Path.rootedChars]
  split
  · simp
  · simp

/-- Nothing but slashes is dropped from the trimmed and rooted text. -/
theorem exists_rootedChars_eq (raw : List Char) :
    ∃ n, Path.rootedChars (Text.trim raw) = normalizeChars raw ++ List.replicate n '/' := by
  obtain ⟨r, hr, hslash⟩ :=
    Text.exists_rdropWhile_append (· = '/') (Path.rootedChars (Text.trim raw))
  have hslashes : r = List.replicate r.length '/' :=
    List.eq_replicate_of_mem fun c hc => of_decide_eq_true (hslash c hc)
  rw [← normalizeChars_eq_rdropWhile, hslashes] at hr
  exact ⟨_, hr⟩

theorem isPoint_normalize {raw : String} (h : normalize raw ≠ "") : IsPoint (normalize raw) := by
  apply isPoint_ofText
  simpa [isEnabled, ofText] using h

end Round

/-- The mount points there are: one that is written out, that of the settings, and the one that strips
nothing. -/
inductive Built : Mount → Prop
  | ofText (raw : String) : Built (.ofText raw)
  | ofSettings (raw : Option String) (enabled : Bool) : Built (.ofSettings raw enabled)
  | disabled : Built .disabled

theorem Built.exists_eq_normalize {m : Mount} (h : Built m) : ∃ raw, m.text = normalize raw := by
  have hempty : normalize "" = "" := by decide
  cases h with
  | ofText raw => exact ⟨raw, rfl⟩
  | ofSettings raw enabled =>
    cases enabled with
    | true => exact ⟨raw.getD "", rfl⟩
    | false => exact ⟨"", hempty.symm⟩
  | disabled => exact ⟨"", hempty.symm⟩

/-- A mount point is empty for text that has no name in it. Any other starts with a slash, does not end with
one, and is the trimmed text but for a slash in front and slashes at the end. -/
theorem normalize_shape :
    (∀ raw : String,
      let t := Text.trim raw.toList
      let p := normalize raw
      Text.Trims raw.toList t ∧ (p = "" ↔ ∀ c ∈ t, c = '/') ∧
        (p ≠ "" → IsPoint p ∧ p ≠ "/" ∧
          ∃ n, Path.rootedChars t = p.toList ++ List.replicate n '/')) ∧
      ∀ m : Mount, Built m → m.text = "" ∨ IsPoint m.text ∧ m.text ≠ "/" := by
  have hpoint : ∀ raw, normalize raw ≠ "" → IsPoint (normalize raw) ∧ normalize raw ≠ "/" := by
    intro raw hne
    have h := isPoint_normalize hne
    refine ⟨h, fun hslash => h.ne_slash ?_⟩
    rw [hslash]
    rfl
  constructor
  · intro raw t p
    refine ⟨Text.trims_trim _, ?_, fun hne => ?_⟩
    · rw [← normalizeChars_eq_nil_iff, ← toList_normalize, String.toList_eq_nil_iff]
    · obtain ⟨h, hslash⟩ := hpoint raw hne
      have hdropped := exists_rootedChars_eq raw.toList
      rw [← toList_normalize] at hdropped
      exact ⟨h, hslash, hdropped⟩
  · intro m hm
    obtain ⟨raw, hraw⟩ := hm.exists_eq_normalize
    rw [hraw]
    by_cases hne : normalize raw = ""
    · exact .inl hne
    · exact .inr (hpoint raw hne)

/-- Blanks around a text of several names, and slashes at its end, with a blank that is no space. -/
theorem normalize_shape_nested :
    let raw := "\u00a0api/v1//\t"
    let p := normalize raw
    p = "/api/v1" ∧ IsPoint p ∧ p ≠ "/" ∧
      (∃ n, Path.rootedChars (Text.trim raw.toList) = p.toList ++ List.replicate n '/') ∧
      (ofSettings raw true).text ≠ "" ∧ IsPoint (ofSettings raw true).text := by
  intro raw p
  have hp : p = "/api/v1" := by decide
  have hne : p ≠ "" := by decide
  have henabled : (ofSettings raw true).text ≠ "" := by decide
  obtain ⟨hpoint, hslash, hdropped⟩ := (normalize_shape.1 raw).2.2 hne
  have hbuilt := normalize_shape.2 _ (.ofSettings raw true)
  exact ⟨hp, hpoint, hslash, hdropped, henabled, (hbuilt.resolve_left henabled).1⟩

/-! ## Round after round -/

section Rounds

variable {raw s : List Char} {c : Char}

/-- The characters that do not stay at the end for good. -/
def isEdge (c : Char) : Bool := c = '/' || Text.isBlank c

/-- The mount point that is left if blanks and slashes are dropped from its end in whatever order they
stand there. -/
def bareChars (raw : List Char) : List Char :=
  (Path.rootedChars (raw.dropWhile Text.isBlank)).rdropWhile isEdge

/-- `bareChars` on strings. -/
def bare (raw : String) : String := .ofList (bareChars raw.toList)

/-- What a round drops from the end does not stay there for good. -/
theorem rdropWhile_isEdge (s : List Char) :
    ((s.rdropWhile Text.isBlank).rdropWhile (· = '/')).rdropWhile isEdge = s.rdropWhile isEdge := by
  have hblank : ∀ c, Text.isBlank c → isEdge c := fun c hc => by simp [isEdge, hc]
  have hslash : ∀ c, decide (c = '/') → isEdge c := fun c hc => by simp_all [isEdge]
  rw [Text.rdropWhile_rdropWhile_of_imp hslash, Text.rdropWhile_rdropWhile_of_imp hblank]

theorem bareChars_eq (raw : List Char) : bareChars raw = (normalizeChars raw).rdropWhile isEdge := by
  rw [normalizeChars_eq, rdropWhile_isEdge, bareChars]

/-- What is in normal form has no blank in front and its slash already, so the next round only drops from
its end. -/
theorem normalizeChars_normalizeChars (raw : List Char) : normalizeChars (normalizeChars raw) =
    ((normalizeChars raw).rdropWhile Text.isBlank).rdropWhile (· = '/') := by
  by_cases hnil : normalizeChars raw = []
  · rw [hnil]
    rfl
  · have habs := isAbsolute_normalizeChars hnil
    obtain ⟨r, hr⟩ := Path.isAbsolute_iff.1 habs
    have hhead : ∀ c ∈ (normalizeChars raw).head?, ¬ Text.isBlank c := by
      rw [hr]
      exact fun c hc hblank => ne_slash_of_isBlank hblank (Option.mem_some.1 hc).symm
    rw [normalizeChars_of_head hhead, rootedChars_of_isAbsolute habs]

theorem bareChars_normalizeChars (raw : List Char) : bareChars (normalizeChars raw) = bareChars raw := by
  rw [bareChars_eq, normalizeChars_normalizeChars, rdropWhile_isEdge, bareChars_eq]

/-- A round keeps what does not end in a blank. -/
theorem normalizeChars_normalizeChars_eq_iff :
    normalizeChars (normalizeChars raw) = normalizeChars raw ↔
      ∀ c ∈ (normalizeChars raw).getLast?, ¬ Text.isBlank c := by
  rw [← Text.rdropWhile_eq_self_iff_getLast?, normalizeChars_normalizeChars]
  constructor
  · intro h
    have hblank := List.rdropWhile_prefix Text.isBlank (normalizeChars raw)
    have hslash := List.rdropWhile_prefix (· = '/') ((normalizeChars raw).rdropWhile Text.isBlank)
    rw [h] at hslash
    exact hblank.eq_of_length_le hslash.length_le
  · intro h
    rw [h, normalizeChars_eq_rdropWhile, List.rdropWhile_idempotent]

theorem normalizeChars_eq_bareChars
    (h : normalizeChars (normalizeChars raw) = normalizeChars raw) : normalizeChars raw = bareChars raw := by
  have hblank := normalizeChars_normalizeChars_eq_iff.1 h
  rw [bareChars_eq, eq_comm, Text.rdropWhile_eq_self_iff_getLast?]
  intro c hc hedge
  rcases Bool.or_eq_true_iff.1 hedge with hslash | hedge
  · obtain rfl := of_decide_eq_true hslash
    exact getLast?_normalizeChars_ne raw hc
  · exact hblank c hc hedge

/-- A round that changes something makes the text shorter. -/
theorem length_normalizeChars_lt (h : normalizeChars (normalizeChars raw) ≠ normalizeChars raw) :
    (normalizeChars (normalizeChars raw)).length < (normalizeChars raw).length := by
  have hfront : normalizeChars (normalizeChars raw) <+: normalizeChars raw := by
    rw [normalizeChars_normalizeChars]
    exact (List.rdropWhile_prefix _ _).trans (List.rdropWhile_prefix _ _)
  exact lt_of_le_of_ne hfront.length_le fun heq => h (hfront.eq_of_length heq)

/-- After as many rounds as there are characters behind the slash in front, nothing is left to drop. -/
theorem iterate_normalizeChars {k : Nat} (h : (normalizeChars raw).length ≤ k + 1) :
    normalizeChars^[k] (normalizeChars raw) = bareChars raw := by
  induction k generalizing raw with
  | zero =>
    have hnil : normalizeChars raw = [] := by
      by_contra hne
      obtain ⟨name, hform, hname⟩ := exists_normalizeChars_eq hne
      have hpos := List.length_pos_iff.2 hname
      rw [hform, List.length_cons] at h
      omega
    rw [bareChars_eq, hnil]
    rfl
  | succ k ih =>
    by_cases hfixed : normalizeChars (normalizeChars raw) = normalizeChars raw
    · rw [Function.iterate_fixed hfixed, normalizeChars_eq_bareChars hfixed]
    · -- what this round takes off the length makes up for the round
      have hshorter := length_normalizeChars_lt hfixed
      have hle : (normalizeChars (normalizeChars raw)).length ≤ k + 1 := by omega
      rw [Function.iterate_succ_apply, ih hle, bareChars_normalizeChars]

theorem length_normalizeChars_le (raw : List Char) : (normalizeChars raw).length ≤ raw.length + 1 := by
  have hfront : (normalizeChars raw).length ≤
      (Path.rootedChars (raw.dropWhile Text.isBlank)).length := by
    rw [normalizeChars_eq]
    exact ((List.rdropWhile_prefix _ _).trans (List.rdropWhile_prefix _ _)).length_le
  have hrooted : (Path.rootedChars (raw.dropWhile Text.isBlank)).length ≤
      (raw.dropWhile Text.isBlank).length + 1 := by
    rw [Path.rootedChars]
    split
    · exact Nat.le_succ _
    · rfl
  have hdropped : (raw.dropWhile Text.isBlank).length ≤ raw.length :=
    (List.dropWhile_suffix _).length_le
  omega

/-- A blank in front of the slashes at the end is all that a round leaves of these, and what the next one
drops is what it would drop behind the rest. -/
theorem normalizeChars_of_trim_eq {n : Nat} (ht : Text.trim raw = s ++ c :: List.replicate n '/')
    (hc : Text.isBlank c) :
    normalizeChars raw = Path.rootedChars s ++ [c] ∧
      normalizeChars (normalizeChars raw) = normalizeChars s := by
  have hhead := (Text.trims_trim raw).head
  rw [ht] at hhead
  have hne : s ≠ [] := by
    rintro rfl
    exact hhead c rfl hc
  have hs : ∀ d ∈ s.head?, ¬ Text.isBlank d := by
    intro d hd
    exact hhead d (List.mem_head?_append_of_mem_head? hd)
  have hplain : ¬ decide (c = '/') := fun h => ne_slash_of_isBlank hc (of_decide_eq_true h)
  have honce : normalizeChars raw = Path.rootedChars s ++ [c] := by
    rw [normalizeChars_eq_rdropWhile, ht, rootedChars_append hne,
      Text.rdropWhile_append_replicate (decide_eq_true rfl) hplain]
  refine ⟨honce, ?_⟩
  rw [normalizeChars_normalizeChars, honce, List.rdropWhile_concat_pos _ _ _ hc,
    normalizeChars_of_head hs]

/-- A blank at the end of a normal form stood in front of the slashes at the end of the text. -/
theorem exists_trim_eq (h : c ∈ (normalizeChars raw).getLast?) (hc : Text.isBlank c) :
    ∃ s n, Text.trim raw = s ++ c :: List.replicate n '/' := by
  obtain ⟨q, hq⟩ := List.getLast?_eq_some_iff.1 h
  obtain ⟨n, hn⟩ := exists_rootedChars_eq raw
  rw [hq, List.append_assoc, List.singleton_append] at hn
  rw [Path.rootedChars] at hn
  split at hn
  · exact ⟨q, n, hn⟩
  · cases q with
    | nil =>
      exact absurd (List.cons.inj hn).1.symm (ne_slash_of_isBlank hc)
    | cons d q => exact ⟨q, n, (List.cons.inj hn).2⟩

theorem toList_iterate_normalize (k : Nat) (raw : String) :
    (normalize^[k] raw).toList = normalizeChars^[k] raw.toList :=
  (Function.Semiconj.iterate_right (f := String.toList) toList_normalize k) raw

theorem iterate_normalize {raw : String} {k : Nat} (h : raw.length < k) :
    normalize^[k] raw = bare raw := by
  obtain ⟨j, rfl⟩ := Nat.exists_eq_add_of_lt h
  have hle := length_normalizeChars_le raw.toList
  rw [String.length_toList] at hle
  rw [← String.toList_inj, toList_iterate_normalize, Function.iterate_succ_apply,
    iterate_normalizeChars (by omega), bare, String.toList_ofList]

end Rounds

/-- Normalizing again keeps the normal form of exactly those texts that have no blank in front of the
slashes at their end, and otherwise leaves that of what stands in front of the blank. -/
theorem normalize_again (raw : String) :
    (normalize (normalize raw) = normalize raw ↔
        ∀ s c n, Text.trim raw.toList = s ++ c :: List.replicate n '/' → ¬ Text.isBlank c) ∧
      (∀ s c n, Text.trim raw.toList = s ++ c :: List.replicate n '/' → Text.isBlank c →
        normalize (normalize raw) = normalize (.ofList s)) ∧
      (∀ k, raw.length < k → normalize^[k] raw = bare raw) ∧
      normalize (bare raw) = bare raw := by
  refine ⟨?_, fun s c n ht hc => ?_, fun k hk => iterate_normalize hk, ?_⟩
  · rw [← String.toList_inj, toList_normalize, toList_normalize, normalizeChars_normalizeChars_eq_iff]
    constructor
    · intro hlast s c n ht hc
      obtain ⟨honce, -⟩ := normalizeChars_of_trim_eq ht hc
      rw [honce, List.getLast?_concat] at hlast
      exact hlast c rfl hc
    · intro hnone c hlast hc
      obtain ⟨s, n, ht⟩ := exists_trim_eq hlast hc
      exact hnone s c n ht hc
  · rw [← String.toList_inj, toList_normalize, toList_normalize, toList_normalize, String.toList_ofList]
    exact (normalizeChars_of_trim_eq ht hc).2
  · -- one round more than enough changes nothing
    have hfirst : normalize^[raw.length + 1] raw = bare raw := iterate_normalize (by omega)
    have hnext : normalize^[raw.length + 2] raw = bare raw := iterate_normalize (by omega)
    rwa [Function.iterate_succ_apply', hfirst] at hnext

/-- Two blanks with slashes between them take two rounds more. -/
theorem normalize_again_spaced :
    let raw := " svc / /"
    normalize (normalize raw) ≠ normalize raw ∧
      normalize (normalize raw) = normalize "svc /" ∧
      normalize "svc /" = "/svc " ∧ normalize^[9] raw = "/svc" ∧ normalize "/svc" = "/svc" := by
  intro raw
  have ht : Text.trim raw.toList = "svc /".toList ++ ' ' :: List.replicate 1 '/' := by decide
  have hblank : Text.isBlank ' ' := by decide
  have hbare : bare raw = "/svc" := by decide
  obtain ⟨hkept, hagain, hrounds, hself⟩ := normalize_again raw
  have hlater := hrounds 9 (by decide)
  rw [hbare] at hlater hself
  refine ⟨fun h => hkept.1 h _ _ _ ht hblank, ?_, by decide, hlater, hself⟩
  exact hagain _ _ _ ht hblank

/-- A blank in front of the last slash is at the end of the normal form, which does not denote itself. -/
theorem normalize_ne_spaced :
    normalize "/svc /" = "/svc " ∧ normalize "/svc " = "/svc" ∧
      normalize (normalize "/svc /") ≠ normalize "/svc /" := by
  decide

end Gateway.Mount
