import Gateway.AccessRecord
import Mathlib.Data.List.Infix
import Mathlib.Data.List.MinMax
import Mathlib.Data.List.Nodup

/-!
Patterns of access logs. Meant is one pass over the pattern, in which the longest name at each place
is replaced by its value. Replacing one name after the other comes to the same as long as no value and
no seam between a text and a value gives rise to a name that is still to be replaced.
-/
namespace Gateway

namespace Text

/-- A name that may stand in a pattern, and its value. -/
abbrev Variable := List Char × List Char

/-! ## Replacing one name -/

theorem replaceFrom_eq_of_le (name value : List Char) {fuel fuel' : Nat} {s : List Char}
    (h : s.length ≤ fuel) (h' : s.length ≤ fuel') :
    replaceFrom name value fuel s = replaceFrom name value fuel' s := by
  induction fuel generalizing fuel' s with
  | zero =>
    obtain rfl := List.length_eq_zero_iff.1 (Nat.le_zero.1 h)
    cases fuel' <;> rfl
  | succ fuel ih =>
    cases s with
    | nil => cases fuel' <;> rfl
    | cons c r =>
      obtain ⟨fuel', rfl⟩ : ∃ k, fuel' = k + 1 := ⟨fuel' - 1, by simp at h'; omega⟩
      rw [List.length_cons] at h h'
      have hrec : ∀ t, t.length ≤ r.length →
          replaceFrom name value fuel t = replaceFrom name value fuel' t :=
        fun t ht => ih (by omega) (by omega)
      simp only [replaceFrom]
      split
      · next rest hrest =>
        split at hrest
        · contradiction
        · next hname =>
          have hsplit := congrArg List.length (List.isPrefixOf?_eq_some_iff_append_eq.1 hrest)
          have hpos := List.length_pos_iff.2 hname
          rw [List.length_append, List.length_cons] at hsplit
          rw [hrec rest (by omega)]
      · rw [hrec r (Nat.le_refl _)]

section Replacing

variable {name : List Char} (value : List Char)

@[simp] theorem replaceAll_nil : replaceAll name value [] = [] := rfl

theorem replaceAll_cons_of_not_prefix {c : Char} {s : List Char} (h : ¬ name <+: c :: s) :
    replaceAll name value (c :: s) = c :: replaceAll name value s := by
  have hnone : (if name = [] then none else name.isPrefixOf? (c :: s)) = none := by
    split
    · rfl
    · refine Option.eq_none_iff_forall_ne_some.2 fun rest hrest => h ?_
      exact ⟨rest, List.isPrefixOf?_eq_some_iff_append_eq.1 hrest⟩
  rw [replaceAll, List.length_cons, replaceFrom, hnone]
  rfl

theorem replaceAll_append (hname : name ≠ []) (s : List Char) :
    replaceAll name value (name ++ s) = value ++ replaceAll name value s := by
  obtain ⟨c, t, rfl⟩ := List.exists_cons_of_ne_nil hname
  have hsome : (if c :: t = [] then none else (c :: t).isPrefixOf? (c :: (t ++ s))) = some s := by
    rw [if_neg hname]
    exact List.isPrefixOf?_eq_some_iff_append_eq.2 rfl
  rw [replaceAll, List.cons_append, List.length_cons, replaceFrom, hsome]
  exact congrArg (value ++ ·) (replaceFrom_eq_of_le _ _ (by simp) (Nat.le_refl _))

end Replacing

/-- One name after the other is replaced. -/
def replaceEach (vars : List Variable) (s : List Char) : List Char :=
  vars.foldl (fun s v => replaceAll v.1 v.2 s) s

theorem replaceEach_cons (v : Variable) (vars : List Variable) (s : List Char) :
    replaceEach (v :: vars) s = replaceEach vars (replaceAll v.1 v.2 s) := rfl

theorem replaceEach_append (vars vars' : List Variable) (s : List Char) :
    replaceEach (vars ++ vars') s = replaceEach vars' (replaceEach vars s) := List.foldl_append

theorem replaceEach_eq_self {vars : List Variable} {s : List Char}
    (h : ∀ v ∈ vars, replaceAll v.1 v.2 s = s) : replaceEach vars s = s := by
  induction vars with
  | nil => rfl
  | cons v vars ih =>
    obtain ⟨hv, hvars⟩ := List.forall_mem_cons.1 h
    rw [replaceEach_cons, hv, ih hvars]

/-- The name does not begin in the text, not even so that it would go on behind the text. -/
def Apart (name text : List Char) : Prop :=
  ∀ u ∈ text.tails, u ≠ [] → ¬ name <+: u ∧ ¬ u <+: name

instance (name text : List Char) : Decidable (Apart name text) :=
  inferInstanceAs (Decidable (∀ u ∈ text.tails, u ≠ [] → ¬ name <+: u ∧ ¬ u <+: name))

theorem replaceAll_append_of_apart {name text : List Char} (h : Apart name text)
    (value s : List Char) :
    replaceAll name value (text ++ s) = text ++ replaceAll name value s := by
  induction text with
  | nil => rfl
  | cons c r ih =>
    obtain ⟨hinside, hacross⟩ := h (c :: r) (by simp) (List.cons_ne_nil c r)
    have hno : ¬ name <+: c :: (r ++ s) := fun hpre =>
      (List.prefix_or_prefix_of_prefix hpre (List.prefix_append (c :: r) s)).elim hinside hacross
    have hrest : Apart name r := fun u hu =>
      h u ((List.mem_tails _ _).2 (((List.mem_tails _ _).1 hu).trans (List.suffix_cons c r)))
    rw [List.cons_append, replaceAll_cons_of_not_prefix value hno, ih hrest]
    rfl

/-- A name that starts with a dollar begins nowhere in a text without one. -/
theorem apart_of_not_mem {name text : List Char} (hname : ∃ t, name = '$' :: t) (h : '$' ∉ text) :
    Apart name text := by
  obtain ⟨t, rfl⟩ := hname
  intro u hu hne
  obtain ⟨c, r, rfl⟩ := List.exists_cons_of_ne_nil hne
  have hc : c ≠ '$' := by
    rintro rfl
    exact h (((List.mem_tails _ _).1 hu).subset List.mem_cons_self)
  simp [List.cons_prefix_cons, hc, hc.symm]

/-! ## One pass -/

/-- A character of a pattern, or a variable whose name stands in it. -/
inductive Piece where
  | char (c : Char)
  | place (v : Variable)

/-- A piece with the value of a variable for its name. -/
def Piece.value : Piece → List Char
  | char c => [c]
  | place v => v.2

/-- The pattern cut into pieces from left to right: where names start, the longest of them is taken, and
the cutting goes on behind it. -/
inductive Cut (vars : List Variable) : List Char → List Piece → Prop
  | nil : Cut vars [] []
  | char {c s ps} : (∀ w ∈ vars, ¬ w.1 <+: c :: s) → Cut vars s ps → Cut vars (c :: s) (.char c :: ps)
  | place {v s ps} : v ∈ vars → (∀ w ∈ vars, w.1 <+: v.1 ++ s → w.1.length ≤ v.1.length) →
      Cut vars s ps → Cut vars (v.1 ++ s) (.place v :: ps)

theorem Cut.name {vars : List Variable} {v : Variable} (hv : v ∈ vars) :
    Cut vars v.1 [.place v] := by
  have hcut : Cut vars (v.1 ++ []) [.place v] :=
    .place hv (fun w _ hpre => (List.append_nil v.1 ▸ hpre).length_le) .nil
  rwa [List.append_nil] at hcut

/-- Names start with a dollar and have no other, and no name goes on as a later one does. -/
structure IsTable (vars : List Variable) : Prop where
  dollar : ∀ v ∈ vars, ∃ t, v.1 = '$' :: t ∧ '$' ∉ t
  longerFirst : vars.Pairwise fun v w => ¬ v.1 <+: w.1

namespace IsTable

variable {vars : List Variable}

theorem name_ne_nil (h : IsTable vars) {v : Variable} (hv : v ∈ vars) : v.1 ≠ [] := by
  obtain ⟨t, ht, -⟩ := h.dollar v hv
  rw [ht]
  exact List.cons_ne_nil _ _

/-- No two variables have one name. -/
theorem eq_of_name_eq (h : IsTable vars) {v w : Variable} (hv : v ∈ vars) (hw : w ∈ vars)
    (hname : v.1 = w.1) : v = w := by
  have hnodup : (vars.map Prod.fst).Nodup :=
    List.pairwise_map.2 (h.longerFirst.imp fun hpre heq => hpre (by rw [heq]))
  exact List.inj_on_of_nodup_map hnodup hv hw hname

theorem not_prefix (h : IsTable vars) {done todo : List Variable} {v : Variable}
    (hvars : vars = done ++ v :: todo) :
    (∀ m ∈ done, ¬ m.1 <+: v.1) ∧ ∀ m ∈ todo, ¬ v.1 <+: m.1 := by
  subst hvars
  obtain ⟨-, htail, hcross⟩ := List.pairwise_append.1 h.longerFirst
  exact ⟨fun m hm => hcross m hm v List.mem_cons_self, (List.pairwise_cons.1 htail).1⟩

theorem exists_cut (h : IsTable vars) (s : List Char) : ∃ ps, Cut vars s ps := by
  induction hn : s.length using Nat.strongRecOn generalizing s with
  | ind n ih =>
    subst hn
    let length : Variable → Nat := fun v => v.1.length
    cases hlongest : (vars.filter fun v => v.1.isPrefixOf s).argmax length with
    | none =>
      have hno : ∀ w ∈ vars, ¬ w.1 <+: s := by
        simpa [List.argmax_eq_none, List.filter_eq_nil_iff] using hlongest
      cases s with
      | nil => exact ⟨[], .nil⟩
      | cons c s =>
        obtain ⟨ps, hps⟩ := ih s.length (by simp) s rfl
        exact ⟨_, .char hno hps⟩
    | some v =>
      obtain ⟨hv, hpre⟩ := List.mem_filter.1 (List.argmax_mem hlongest)
      obtain ⟨rest, rfl⟩ := List.isPrefixOf_iff_prefix.1 hpre
      have hpos := List.length_pos_iff.2 (h.name_ne_nil hv)
      obtain ⟨ps, hps⟩ := ih rest.length (by simp; omega) rest rfl
      refine ⟨_, .place hv (fun w hw hwpre => ?_) hps⟩
      have hmem : w ∈ vars.filter fun u => u.1.isPrefixOf (v.1 ++ rest) :=
        List.mem_filter.2 ⟨hw, List.isPrefixOf_iff_prefix.2 hwpre⟩
      have hle : length w ≤ length v := List.le_of_mem_argmax hmem hlongest
      exact hle

theorem cut_unique (h : IsTable vars) {s : List Char} {ps qs : List Piece}
    (hps : Cut vars s ps) (hqs : Cut vars s qs) : ps = qs := by
  induction hps generalizing qs with
  | nil =>
    generalize hs : ([] : List Char) = s at hqs
    cases hqs with
    | nil => rfl
    | char => contradiction
    | place hv => exact absurd (List.append_eq_nil_iff.1 hs.symm).1 (h.name_ne_nil hv)
  | @char c s ps hno hps ih =>
    generalize hs : c :: s = s' at hqs
    cases hqs with
    | nil => contradiction
    | char _ hqs =>
      obtain ⟨rfl, rfl⟩ := List.cons.inj hs
      rw [ih hqs]
    | place hv => exact absurd ⟨_, hs.symm⟩ (hno _ hv)
  | @place v s ps hv hlongest hps ih =>
    generalize hs : v.1 ++ s = s' at hqs
    cases hqs with
    | nil => exact absurd (List.append_eq_nil_iff.1 hs).1 (h.name_ne_nil hv)
    | char hno => exact absurd ⟨_, hs⟩ (hno _ hv)
    | @place w t qs hw hlongest' hqs =>
      have hle := hlongest w hw ⟨t, hs.symm⟩
      have hge := hlongest' v hv ⟨s, hs⟩
      obtain ⟨hname, rfl⟩ := List.append_inj hs (Nat.le_antisymm hge hle)
      rw [h.eq_of_name_eq hv hw hname, ih hqs]

end IsTable

/-! ## One name after the other -/

/-- The text of a piece once some of the variables have been replaced. -/
def Piece.spell (done : List Variable) : Piece → List Char
  | char c => [c]
  | place v => if v ∈ done then v.2 else v.1

theorem Piece.spell_place_of_mem {done : List Variable} {v : Variable} (h : v ∈ done) :
    (place v).spell done = v.2 := if_pos h

theorem Piece.spell_place_of_not_mem {done : List Variable} {v : Variable} (h : v ∉ done) :
    (place v).spell done = v.1 := if_neg h

/-- Replacing `n` neither touches the value of `m`, replaced before it, nor finds in the pattern a name
that begins before a place of `m` and goes on as that value does. -/
def Undisturbed (pattern : List Char) (m n : Variable) : Prop :=
  (m.1 <:+: pattern → Apart n.1 m.2) ∧
    ∀ i < n.1.length, 0 < i → n.1.take i ++ m.1 <:+: pattern →
      ¬ n.1.drop i <+: m.2 ∧ ¬ m.2 <+: n.1.drop i

instance (pattern : List Char) (m n : Variable) : Decidable (Undisturbed pattern m n) :=
  inferInstanceAs (Decidable (_ ∧ _))

theorem Undisturbed.not_prefix_append {pattern u w rest : List Char} {m n : Variable}
    (h : Undisturbed pattern m n) (hname : n.1 = u ++ w) (hu : u ≠ []) (hw : w ≠ [])
    (hplace : u ++ m.1 <:+: pattern) : ¬ w <+: m.2 ++ rest := by
  have hupos := List.length_pos_iff.2 hu
  have hwpos := List.length_pos_iff.2 hw
  obtain ⟨hinside, hacross⟩ := h.2 u.length (by rw [hname, List.length_append]; omega) hupos
    (by rwa [hname, List.take_left])
  rw [hname, List.drop_left] at hinside hacross
  exact fun hpre =>
    (List.prefix_or_prefix_of_prefix hpre (List.prefix_append m.2 rest)).elim hinside hacross

/-- A name leaves another as it is where it does not begin with it. -/
theorem IsTable.replaceAll_name_append {vars : List Variable} (htable : IsTable vars)
    {m v : Variable} (hm : m ∈ vars) (hv : v ∈ vars) {rest : List Char} (h : ¬ v.1 <+: m.1 ++ rest) :
    replaceAll v.1 v.2 (m.1 ++ rest) = m.1 ++ replaceAll v.1 v.2 rest := by
  obtain ⟨t, ht, hno⟩ := htable.dollar m hm
  obtain ⟨t', ht', -⟩ := htable.dollar v hv
  rw [ht] at h ⊢
  calc replaceAll v.1 v.2 ('$' :: (t ++ rest))
      = '$' :: replaceAll v.1 v.2 (t ++ rest) := replaceAll_cons_of_not_prefix v.2 h
    _ = '$' :: (t ++ replaceAll v.1 v.2 rest) := by
      rw [replaceAll_append_of_apart (apart_of_not_mem ⟨t', ht'⟩ hno)]

section OneAfterTheOther

variable {vars done : List Variable} {v : Variable} {pattern : List Char}

/-- What a name goes on with, behind its first characters in the pattern, was in the pattern already. -/
theorem Cut.prefix_of_prefix_spell {a s u w : List Char} {ps : List Piece} (htable : IsTable vars)
    (hsep : ∀ m ∈ done, Undisturbed pattern m v) (hv : v ∈ vars) (hcut : Cut vars s ps)
    (hpattern : pattern = a ++ s) (hu : u ≠ []) (hua : u <:+ a) (hname : v.1 = u ++ w)
    (hw : w <+: ps.flatMap (Piece.spell done)) : w <+: s := by
  induction hcut generalizing a u w with
  | nil => simpa using hw
  | @char c s ps _ _ ih =>
    cases w with
    | nil => exact List.nil_prefix
    | cons d w =>
      obtain ⟨rfl, hw'⟩ := List.cons_prefix_cons.1 (show d :: w <+: c :: _ from hw)
      obtain ⟨b, rfl⟩ := hua
      have hws : w <+: s := ih (a := b ++ u ++ [d]) (u := u ++ [d]) (by simp [hpattern]) (by simp)
        ⟨b, by simp⟩ (by simp [hname]) hw'
      exact List.cons_prefix_cons.2 ⟨rfl, hws⟩
  | @place m s ps hm hlongest hcut ih =>
    by_cases hwnil : w = []
    · exact hwnil ▸ List.nil_prefix
    rw [List.flatMap_cons] at hw
    by_cases hdone : m ∈ done
    · obtain ⟨b, rfl⟩ := hua
      have hplace : u ++ m.1 <:+: pattern := ⟨b, s, by simp [hpattern]⟩
      rw [Piece.spell_place_of_mem hdone] at hw
      exact absurd hw ((hsep m hdone).not_prefix_append hname hu hwnil hplace)
    · -- the name of `m` starts with a dollar, and behind its first character that of `v` has none
      obtain ⟨t, ht, -⟩ := htable.dollar m hm
      obtain ⟨t', ht', hno⟩ := htable.dollar v hv
      obtain ⟨d, w, rfl⟩ := List.exists_cons_of_ne_nil hwnil
      obtain ⟨e, u, rfl⟩ := List.exists_cons_of_ne_nil hu
      rw [Piece.spell_place_of_not_mem hdone, ht] at hw
      obtain ⟨rfl, -⟩ := List.cons_prefix_cons.1 hw
      obtain ⟨-, rfl⟩ := List.cons.inj (ht'.symm.trans hname)
      simp at hno

/-- A name that does not begin a text of the pattern does not begin it either once variables have been
replaced behind its first characters `u`. -/
theorem Cut.not_prefix_append_spell {a s u : List Char} {ps : List Piece} (htable : IsTable vars)
    (hsep : ∀ m ∈ done, Undisturbed pattern m v) (hv : v ∈ vars) (hcut : Cut vars s ps)
    (hpattern : pattern = a ++ (u ++ s)) (hu : u ≠ []) (hshort : ¬ v.1 <+: u)
    (hno : ¬ v.1 <+: u ++ s) : ¬ v.1 <+: u ++ ps.flatMap (Piece.spell done) := by
  intro hpre
  obtain ⟨w, hw⟩ := (List.prefix_or_prefix_of_prefix hpre (List.prefix_append u _)).resolve_left
    hshort
  have hspell : w <+: ps.flatMap (Piece.spell done) := by
    rwa [← hw, List.prefix_append_right_inj] at hpre
  have hws : w <+: s := hcut.prefix_of_prefix_spell htable hsep hv (a := a ++ u) (by simp [hpattern])
    hu (List.suffix_append a u) hw.symm hspell
  exact hno (by rwa [← hw, List.prefix_append_right_inj])

/-- Replacing one more variable gives its places their value and leaves all else as it is. -/
theorem Cut.replaceAll_spell {a s : List Char} {ps : List Piece} {todo : List Variable}
    (htable : IsTable vars) (hvars : vars = done ++ v :: todo)
    (hsep : ∀ m ∈ done, Undisturbed pattern m v) (hcut : Cut vars s ps)
    (hpattern : pattern = a ++ s) :
    replaceAll v.1 v.2 (ps.flatMap (Piece.spell done)) =
      ps.flatMap (Piece.spell (done ++ [v])) := by
  have hv : v ∈ vars := by simp [hvars]
  induction hcut generalizing a with
  | nil => rfl
  | @char c s ps hno hcut ih =>
    obtain ⟨t, ht, -⟩ := htable.dollar v hv
    have hshort : ¬ v.1 <+: [c] := fun h => hno v hv (h.trans (List.prefix_append [c] s))
    have hother : ¬ v.1 <+: [c] ++ ps.flatMap (Piece.spell done) :=
      hcut.not_prefix_append_spell htable hsep hv hpattern (by simp) hshort (hno v hv)
    calc replaceAll v.1 v.2 (c :: ps.flatMap (Piece.spell done))
        = c :: replaceAll v.1 v.2 (ps.flatMap (Piece.spell done)) :=
          replaceAll_cons_of_not_prefix v.2 hother
      _ = c :: ps.flatMap (Piece.spell (done ++ [v])) := by
          rw [ih (a := a ++ [c]) (by simp [hpattern])]
  | @place m s ps hm hlongest hcut ih =>
    have hplace : m.1 <:+: pattern := ⟨a, s, by simp [hpattern]⟩
    rw [List.flatMap_cons, List.flatMap_cons, ← ih (a := a ++ m.1) (by simp [hpattern])]
    by_cases hdone : m ∈ done
    · rw [Piece.spell_place_of_mem hdone, Piece.spell_place_of_mem (by simp [hdone])]
      exact replaceAll_append_of_apart ((hsep m hdone).1 hplace) v.2 _
    by_cases hself : m = v
    · subst hself
      rw [Piece.spell_place_of_not_mem hdone, Piece.spell_place_of_mem (by simp)]
      exact replaceAll_append m.2 (htable.name_ne_nil hm) _
    · have htodo : m ∈ todo := by simpa [hvars, hdone, hself] using hm
      rw [Piece.spell_place_of_not_mem hdone, Piece.spell_place_of_not_mem (by simp [hdone, hself])]
      have hlater : ¬ v.1 <+: m.1 := (htable.not_prefix hvars).2 m htodo
      have hother : ¬ v.1 <+: m.1 ++ s := fun hpre =>
        hlater (List.prefix_of_prefix_length_le hpre (List.prefix_append m.1 s)
          (hlongest v hv hpre))
      exact htable.replaceAll_name_append hm hv
        (hcut.not_prefix_append_spell htable hsep hv hpattern (htable.name_ne_nil hm) hlater hother)

/-- Nothing is replaced before the first variable. -/
theorem Cut.flatMap_spell_nil {s : List Char} {ps : List Piece} (hcut : Cut vars s ps) :
    ps.flatMap (Piece.spell []) = s := by
  induction hcut with
  | nil => rfl
  | char _ _ ih => exact congrArg _ ih
  | place _ _ _ ih => exact congrArg _ ih

/-- After the last variable every place has its value. -/
theorem Cut.flatMap_spell_all {s : List Char} {ps : List Piece} (hcut : Cut vars s ps) :
    ps.flatMap (Piece.spell vars) = ps.flatMap Piece.value := by
  induction hcut with
  | nil => rfl
  | char _ _ ih => exact congrArg _ ih
  | place hv _ _ ih =>
    rw [List.flatMap_cons, List.flatMap_cons, ih, Piece.spell_place_of_mem hv, Piece.value]

/-- Where no variable disturbs one before it, replacing one after the other is the one pass. -/
theorem Cut.replaceEach_eq (htable : IsTable vars) (hsep : vars.Pairwise (Undisturbed pattern))
    {ps : List Piece} (hcut : Cut vars pattern ps) :
    replaceEach vars pattern = ps.flatMap Piece.value := by
  have hrest : ∀ todo done, vars = done ++ todo →
      replaceEach todo (ps.flatMap (Piece.spell done)) = ps.flatMap (Piece.spell vars) := by
    intro todo
    induction todo with
    | nil => simp +contextual [replaceEach]
    | cons v todo ih =>
      intro done hvars
      have hbefore : ∀ m ∈ done, Undisturbed pattern m v := fun m hm =>
        (List.pairwise_append.1 (hvars ▸ hsep)).2.2 m hm v List.mem_cons_self
      rw [replaceEach_cons, hcut.replaceAll_spell htable hvars hbefore (List.nil_append _).symm]
      exact ih (done ++ [v]) (by simp [hvars])
  rw [← hcut.flatMap_spell_all, ← hrest vars [] rfl, hcut.flatMap_spell_nil]

/-- A variable that stands alone comes out as its value, in which all later variables are replaced. -/
theorem IsTable.replaceEach_name (htable : IsTable vars) {todo : List Variable}
    (hvars : vars = done ++ v :: todo) : replaceEach vars v.1 = replaceEach todo v.2 := by
  have hv : v ∈ vars := by simp [hvars]
  have hdone : replaceEach done v.1 = v.1 := by
    refine replaceEach_eq_self fun m hm => ?_
    have hno : ¬ m.1 <+: v.1 ++ [] := by
      rw [List.append_nil]
      exact (htable.not_prefix hvars).1 m hm
    simpa using htable.replaceAll_name_append hv (by simp [hvars, hm]) hno
  have hself : replaceAll v.1 v.2 v.1 = v.2 := by
    simpa using replaceAll_append v.2 (htable.name_ne_nil hv) []
  rw [hvars, replaceEach_append, hdone, replaceEach_cons, hself]

end OneAfterTheOther

end Text

/-! ## Lines of records -/

namespace AccessRecord

/-- The variables of patterns with their values for a record. -/
def bindings (r : AccessRecord) : List Text.Variable :=
  r.patternValues.map fun v => (v.1.toList, v.2.toList)

theorem isTable_bindings (r : AccessRecord) : Text.IsTable r.bindings where
  dollar := by
    have hnames : ∀ n ∈ r.bindings.map Prod.fst, n.head? = some '$' ∧ '$' ∉ n.tail := by
      simp only [bindings, patternValues, List.map_cons, List.map_nil]
      decide +kernel
    intro v hv
    obtain ⟨hhead, htail⟩ := hnames v.1 (List.mem_map_of_mem hv)
    exact ⟨v.1.tail, (List.cons_head?_tail hhead).symm, htail⟩
  longerFirst := by
    have hnames : (r.bindings.map Prod.fst).Pairwise fun n m => ¬ n <+: m := by
      simp only [bindings, patternValues, List.map_cons, List.map_nil]
      decide +kernel
    exact List.pairwise_map.1 hnames

theorem patternLine_eq (r : AccessRecord) (pattern : String) :
    r.patternLine pattern = .ofList (Text.replaceEach r.bindings pattern.toList) := by
  rw [patternLine, bindings, Text.replaceEach, List.foldl_map]

/-- The line of a pattern has the values for the names of its variables if no value and no seam gives rise to
a name that is replaced later. The value of a variable goes through all later replacements. -/
theorem line_pattern (r : AccessRecord) (pattern : String)
    (hpattern : pattern ∉ ["combined", "common", "json"]) :
    ∃ ps, (∀ qs, Text.Cut r.bindings pattern.toList qs ↔ qs = ps) ∧
      (r.bindings.Pairwise (Text.Undisturbed pattern.toList) →
        r.line pattern = .ofList (ps.flatMap Text.Piece.value)) ∧
      ∀ done v todo, r.bindings = done ++ v :: todo → pattern.toList = v.1 →
        r.line pattern = .ofList (Text.replaceEach todo v.2) := by
  have htable := r.isTable_bindings
  have hline : r.line pattern = r.patternLine pattern := by
    simp only [List.mem_cons, List.not_mem_nil, or_false, not_or] at hpattern
    obtain ⟨hcombined, hcommon, hjson⟩ := hpattern
    rw [line, if_neg hcombined, if_neg hcommon, if_neg hjson]
  rw [hline, patternLine_eq]
  obtain ⟨ps, hcut⟩ := htable.exists_cut pattern.toList
  refine ⟨ps, fun qs => ⟨fun hqs => htable.cut_unique hqs hcut, fun h => h ▸ hcut⟩, fun hsep => ?_, ?_⟩
  · rw [hcut.replaceEach_eq htable hsep]
  · intro done v todo hvars hname
    rw [hname, htable.replaceEach_name hvars]

/-- A request whose query holds a dollar, but no name of a variable. -/
def priced : AccessRecord where
  remoteAddr := "10.0.0.7"
  time := { seconds := 0 }
  method := "GET"
  path := "/items"
  query := some "max=$5"

theorem line_pattern_priced : "$request_uri" ∉ ["combined", "common", "json"] ∧
    priced.bindings.Pairwise (Text.Undisturbed "$request_uri".toList) ∧
    priced.line "$request_uri" = "/items?max=$5" := by
  have hpattern : "$request_uri" ∉ ["combined", "common", "json"] := by decide
  have hsep : priced.bindings.Pairwise (Text.Undisturbed "$request_uri".toList) := by decide +kernel
  have hmem : ("$request_uri".toList, "/items?max=$5".toList) ∈ priced.bindings := by decide +kernel
  obtain ⟨ps, hps, hline, -⟩ := line_pattern priced "$request_uri" hpattern
  refine ⟨hpattern, hsep, (hline hsep).trans ?_⟩
  rw [← (hps _).1 (.name hmem)]
  rfl

/-- A request whose path is the name of a variable. -/
def spelledOut : AccessRecord where
  remoteAddr := "10.0.0.7"
  time := { seconds := 0 }
  method := "GET"
  path := "/$status"

/-- The status is logged where the path names it. -/
theorem line_spelledOut : ¬ ∀ ps, Text.Cut spelledOut.bindings "$request_uri".toList ps →
    spelledOut.line "$request_uri" = .ofList (ps.flatMap Text.Piece.value) := by
  intro h
  have hmem : ("$request_uri".toList, "/$status".toList) ∈ spelledOut.bindings := by decide +kernel
  have hcode : spelledOut.line "$request_uri" = "/200" := by decide +kernel
  have hmeant := h _ (.name hmem)
  rw [hcode] at hmeant
  exact absurd hmeant (by decide +kernel)

end AccessRecord

end Gateway
