import Gateway.Text.Blank
import Mathlib.Data.List.DropRight

/-!
Trimming text. What is left is the only part of the text that has nothing but blanks on either side and no
blank at its own ends.
-/
namespace Gateway.Text

/-! ## Dropping from the end -/

section Drop

variable {p q : Char → Bool}

theorem exists_rdropWhile_append (p : Char → Bool) (s : List Char) :
    ∃ r, s = s.rdropWhile p ++ r ∧ ∀ c ∈ r, p c :=
  ⟨s.rtakeWhile p, List.rdropWhile_append_rtakeWhile.symm, fun _ => List.mem_rtakeWhile_imp⟩

theorem rdropWhile_eq_self_iff_getLast? {s : List Char} :
    s.rdropWhile p = s ↔ ∀ c ∈ s.getLast?, ¬ p c := by
  rw [List.rdropWhile_eq_self_iff]
  constructor
  · intro h c hc
    obtain ⟨hne, rfl⟩ := List.mem_getLast?_eq_getLast hc
    exact h hne
  · intro h hne
    exact h _ (List.getLast_mem_getLast? hne)

/-- A character that stays keeps what is in front of the rest. -/
theorem rdropWhile_cons_of_not {c : Char} (h : ¬ p c) (s : List Char) :
    (c :: s).rdropWhile p = c :: s.rdropWhile p := by
  induction s using List.reverseRecOn with
  | nil => rw [List.rdropWhile_singleton, if_neg h, List.rdropWhile_nil]
  | append_singleton s d ih =>
    rw [← List.cons_append]
    by_cases hd : p d
    · rw [List.rdropWhile_concat_pos _ _ _ hd, List.rdropWhile_concat_pos _ _ _ hd, ih]
    · rw [List.rdropWhile_concat_neg _ _ _ hd, List.rdropWhile_concat_neg _ _ _ hd, List.cons_append]

theorem rdropWhile_rdropWhile_of_imp (h : ∀ c, p c → q c) (s : List Char) :
    (s.rdropWhile p).rdropWhile q = s.rdropWhile q := by
  induction s using List.reverseRecOn with
  | nil => rfl
  | append_singleton s c ih =>
    by_cases hc : p c
    · rw [List.rdropWhile_concat_pos _ _ _ hc, ih, List.rdropWhile_concat_pos _ _ _ (h c hc)]
    · rw [List.rdropWhile_concat_neg _ _ _ hc]

theorem rdropWhile_append_replicate {c d : Char} (hc : p c) (hd : ¬ p d) (s : List Char) (n : Nat) :
    (s ++ d :: List.replicate n c).rdropWhile p = s ++ [d] := by
  induction n with
  | zero => exact List.rdropWhile_concat_neg _ _ _ hd
  | succ n ih =>
    rw [List.replicate_succ', ← List.cons_append, ← List.append_assoc,
      List.rdropWhile_concat_pos _ _ _ hc, ih]

end Drop

/-! ## Trimming -/

variable {s t : List Char}

/-- `t` is `s` up to blanks on either side, and has no blank at its own ends. -/
structure Trims (s t : List Char) : Prop where
  cut : ∃ l r, s = l ++ (t ++ r) ∧ (∀ c ∈ l, isBlank c) ∧ ∀ c ∈ r, isBlank c
  head : ∀ c ∈ t.head?, ¬ isBlank c
  last : ∀ c ∈ t.getLast?, ¬ isBlank c

theorem trim_eq_rdropWhile (s : List Char) : trim s = (s.dropWhile isBlank).rdropWhile isBlank := rfl

/-- Blanks in front are dropped up to what starts with none. -/
theorem dropWhile_append_of_head {l : List Char} (hl : ∀ c ∈ l, isBlank c)
    (ht : ∀ c ∈ t.head?, ¬ isBlank c) : (l ++ t).dropWhile isBlank = t := by
  rw [List.dropWhile_append_of_pos hl]
  cases t with
  | nil => rfl
  | cons c t => exact List.dropWhile_cons_of_neg (ht c rfl)

theorem rdropWhile_append_of_last {r : List Char} (hr : ∀ c ∈ r, isBlank c)
    (ht : ∀ c ∈ t.getLast?, ¬ isBlank c) : (t ++ r).rdropWhile isBlank = t := by
  have hr' : ∀ c ∈ r.reverse, isBlank c := fun c hc => hr c (List.mem_reverse.1 hc)
  have ht' : ∀ c ∈ t.reverse.head?, ¬ isBlank c := by
    rwa [List.head?_reverse]
  rw [List.rdropWhile, List.reverse_append, dropWhile_append_of_head hr' ht', List.reverse_reverse]

theorem not_isBlank_of_head?_dropWhile {c : Char} (h : c ∈ (s.dropWhile isBlank).head?) :
    ¬ isBlank c := by
  have hfirst := List.head?_dropWhile_not isBlank s
  rw [Option.mem_def.1 h] at hfirst
  simpa using hfirst

theorem trims_trim (s : List Char) : Trims s (trim s) where
  cut := by
    obtain ⟨r, hr, hblank⟩ := exists_rdropWhile_append isBlank (s.dropWhile isBlank)
    refine ⟨s.takeWhile isBlank, r, ?_, fun c hc => List.mem_takeWhile_imp hc, hblank⟩
    rw [trim_eq_rdropWhile, ← hr, List.takeWhile_append_dropWhile]
  head := by
    intro c hc
    have hstart : trim s <+: s.dropWhile isBlank := List.rdropWhile_prefix isBlank _
    obtain ⟨t, ht⟩ := List.head?_eq_some_iff.1 hc
    obtain ⟨r, hr⟩ := hstart
    rw [ht] at hr
    apply not_isBlank_of_head?_dropWhile (s := s)
    rw [← hr]
    rfl
  last := by
    intro c hc
    rw [trim, List.getLast?_reverse] at hc
    exact not_isBlank_of_head?_dropWhile hc

theorem Trims.trim_eq (h : Trims s t) : trim s = t := by
  obtain ⟨l, r, rfl, hl, hr⟩ := h.cut
  rw [trim_eq_rdropWhile]
  cases t with
  | nil =>
    have hblank : ∀ c ∈ l ++ ([] ++ r), isBlank c := by
      intro c hc
      rcases List.mem_append.1 hc with hc | hc
      · exact hl c hc
      · exact hr c hc
    rw [List.dropWhile_eq_nil_iff.2 hblank]
    rfl
  | cons c t =>
    have hhead : ∀ d ∈ (c :: t ++ r).head?, ¬ isBlank d := h.head
    rw [dropWhile_append_of_head hl hhead, rdropWhile_append_of_last hr h.last]

/-- Trimming finds the one part of a text that is left between its blanks. -/
theorem trim_eq_iff : trim s = t ↔ Trims s t :=
  ⟨fun h => h ▸ trims_trim s, Trims.trim_eq⟩

theorem Trims.subset (h : Trims s t) : t ⊆ s := by
  obtain ⟨l, r, rfl, -⟩ := h.cut
  intro c hc
  exact List.mem_append_right l (List.mem_append_left r hc)

/-- What was trimmed once stays as it is. -/
theorem Trims.trim_self (h : Trims s t) : trim t = t :=
  Trims.trim_eq ⟨⟨[], [], by simp, by simp, by simp⟩, h.head, h.last⟩

end Gateway.Text
