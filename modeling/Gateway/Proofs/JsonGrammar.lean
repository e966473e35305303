import Gateway.AccessRecord
import Gateway.Builtin
import Gateway.Proofs.Decoding
import Gateway.Proofs.JsonReading
import Mathlib.Data.List.DropRight
import Mathlib.Data.List.TakeWhile

/-!
The JSON grammar for objects with scalar members, and the reader against it: it reads every text of the
grammar, only those, and as what they spell. So what the gateway writes spells its fields and nothing
else.
-/
namespace Gateway

namespace Json

/-! ## The grammar -/

/-- The letters that may follow a backslash, but for `u`, and what they stand for. -/
def letters : List (Char × Char) :=
  [('"', '"'), ('\\', '\\'), ('/', '/'), ('b', '\x08'), ('f', '\x0c'), ('n', '\n'), ('r', '\r'),
   ('t', '\t')]

/-- The character that two surrogates stand for. -/
def paired (high low : Nat) : Nat := 0x10000 + (high - 0xD800) * 0x400 + (low - 0xDC00)

/-- The characters of a string and the text between its quotes. A character stands for itself or is
escaped, by a letter, by its code or by the surrogates of its code. -/
inductive SpellsChars : List Char → List Char → Prop
  | nil : SpellsChars [] []
  | plain {c s t} : c ≠ '"' → c ≠ '\\' → 0x20 ≤ c.toNat → SpellsChars s t →
      SpellsChars (c :: s) (c :: t)
  | letter {e c s t} : (e, c) ∈ letters → SpellsChars s t → SpellsChars (c :: s) ('\\' :: e :: t)
  | code {x y z w} {c : Char} {s t} : hexValue4? x y z w = some c.toNat → SpellsChars s t →
      SpellsChars (c :: s) ('\\' :: 'u' :: x :: y :: z :: w :: t)
  | pair {x y z w x' y' z' w' high low} {c : Char} {s t} :
      hexValue4? x y z w = some high → 0xD800 ≤ high → high < 0xDC00 →
      hexValue4? x' y' z' w' = some low → 0xDC00 ≤ low → low < 0xE000 →
      c.toNat = paired high low → SpellsChars s t →
      SpellsChars (c :: s)
        ('\\' :: 'u' :: x :: y :: z :: w :: '\\' :: 'u' :: x' :: y' :: z' :: w' :: t)

/-- Numbers are whole ones, without a zero in front of other digits. -/
inductive SpellsScalar : Scalar → List Char → Prop
  | null : SpellsScalar .null ['n', 'u', 'l', 'l']
  | number {ds : List Char} : ds ≠ [] → (∀ d ∈ ds, d.isDigit) →
      (ds.head? = some '0' → ds.length = 1) → SpellsScalar (.number (Nat.ofDigitChars 10 ds 0)) ds
  | text {s t} : SpellsChars s t → SpellsScalar (.text s) ('"' :: t ++ ['"'])

/-- White space. -/
def IsBlank (s : List Char) : Prop := ∀ c ∈ s, isBlank c

/-- A name in quotes, a colon and a value, with white space around them. -/
inductive SpellsMember : List Char × Scalar → List Char → Prop
  | mk {before behind after rest name t v w} : IsBlank before → SpellsChars name t → IsBlank behind →
      IsBlank after → SpellsScalar v w → IsBlank rest →
      SpellsMember (name, v)
        (before ++ '"' :: (t ++ '"' :: (behind ++ ':' :: (after ++ (w ++ rest)))))

/-- Members with commas between them. -/
inductive SpellsMembers : Object → List Char → Prop
  | last {m t} : SpellsMember m t → SpellsMembers [m] t
  | cons {m ms t u} : SpellsMember m t → SpellsMembers ms u → SpellsMembers (m :: ms) (t ++ ',' :: u)

/-- A whole text: braces around the members, with white space around both. -/
inductive Spells : Object → List Char → Prop
  | empty {before inside behind} : IsBlank before → IsBlank inside → IsBlank behind →
      Spells [] (before ++ '\x7b' :: (inside ++ '\x7d' :: behind))
  | members {before behind o t} : IsBlank before → SpellsMembers o t → IsBlank behind →
      Spells o (before ++ '\x7b' :: (t ++ '\x7d' :: behind))

/-! ## White space -/

theorem skipBlanks_append {b : List Char} (hb : IsBlank b) (s : List Char) :
    skipBlanks (b ++ s) = skipBlanks s := List.dropWhile_append_of_pos hb

theorem exists_blank_append_skipBlanks (s : List Char) : ∃ b, IsBlank b ∧ s = b ++ skipBlanks s :=
  ⟨s.takeWhile isBlank, fun _ hc => List.mem_takeWhile_imp hc, List.takeWhile_append_dropWhile.symm⟩

theorem skipBlanks_skipBlanks (s : List Char) : skipBlanks (skipBlanks s) = skipBlanks s :=
  List.dropWhile_idempotent _ s

theorem isBlank_iff_skipBlanks (s : List Char) : IsBlank s ↔ (skipBlanks s).isEmpty := by
  simp [IsBlank, skipBlanks, List.dropWhile_eq_nil_iff]

/-! ## Strings -/

theorem mem_letters_iff (e c : Char) : (e, c) ∈ letters ↔ escaped? e = some c := by
  constructor
  · intro h
    simp only [letters, List.mem_cons, List.not_mem_nil, or_false, Prod.mk.injEq] at h
    rcases h with ⟨rfl, rfl⟩ | ⟨rfl, rfl⟩ | ⟨rfl, rfl⟩ | ⟨rfl, rfl⟩ | ⟨rfl, rfl⟩ | ⟨rfl, rfl⟩ |
      ⟨rfl, rfl⟩ | ⟨rfl, rfl⟩ <;> rfl
  · intro h
    unfold escaped? at h
    split at h
    case h_9 => contradiction
    all_goals
      obtain rfl := Option.some.inj h
      decide

theorem hexValue?_lt {c : Char} {n : Nat} (h : hexValue? c = some n) : n < 16 := by
  unfold hexValue? at h
  simp only [Char.le_def, UInt32.le_iff_toNat_le] at h
  split_ifs at h with hdigit hlower hupper
  all_goals
    obtain rfl := Option.some.inj h
    simp at *
    omega

theorem hexValue4?_lt {x y z w : Char} {n : Nat} (h : hexValue4? x y z w = some n) :
    n < 0x10000 := by
  simp only [hexValue4?, Option.bind_eq_bind, Option.bind_eq_some_iff, Option.pure_def,
    Option.some.injEq] at h
  obtain ⟨a, ha, b, hb, c, hc, d, hd, rfl⟩ := h
  have := hexValue?_lt ha
  have := hexValue?_lt hb
  have := hexValue?_lt hc
  have := hexValue?_lt hd
  omega

theorem toNat_ofNat_of_isValidChar {n : Nat} (h : n.isValidChar) : (Char.ofNat n).toNat = n := by
  rw [Char.ofNat, dif_pos h]
  rfl

theorem readChars_code {x y z w c : Char} (h : hexValue4? x y z w = some c.toNat) (r : List Char) :
    readChars ('\\' :: 'u' :: x :: y :: z :: w :: r) = prepend c (readChars r) := by
  have hvalid : c.toNat.isValidChar := c.valid
  rw [readChars, h]
  dsimp only
  rw [if_neg (by unfold Nat.isValidChar at hvalid; omega),
    if_neg (by unfold Nat.isValidChar at hvalid; omega), Char.ofNat_toNat]

theorem readChars_pair {x y z w x' y' z' w' c : Char} {high low : Nat}
    (hhigh : hexValue4? x y z w = some high) (hhighRange : 0xD800 ≤ high ∧ high < 0xDC00)
    (hlow : hexValue4? x' y' z' w' = some low) (hlowRange : 0xDC00 ≤ low ∧ low < 0xE000)
    (hc : c.toNat = paired high low) (r : List Char) :
    readChars ('\\' :: 'u' :: x :: y :: z :: w :: '\\' :: 'u' :: x' :: y' :: z' :: w' :: r) =
      prepend c (readChars r) := by
  unfold paired at hc
  rw [readChars, hhigh]
  dsimp only
  rw [if_pos hhighRange]
  simp only [hlow]
  rw [if_pos hlowRange, ← hc, Char.ofNat_toNat]

theorem readChars_of_spells {s t : List Char} (h : SpellsChars s t) (r : List Char) :
    readChars (t ++ '"' :: r) = some (s, r) := by
  induction h with
  | nil => rw [List.nil_append, readChars]
  | plain hquote hslash hcontrol _ ih =>
    rw [List.cons_append, readChars_plain hquote hslash (Nat.not_lt.2 hcontrol), ih]
    rfl
  | @letter e c s t he _ ih =>
    have hu : e ≠ 'u' := by
      rintro rfl
      exact absurd ((mem_letters_iff _ _).1 he) (by simp [escaped?])
    rw [List.cons_append, List.cons_append, readChars_escaped hu ((mem_letters_iff _ _).1 he), ih]
    rfl
  | @code x y z w c s t hcode _ ih => exact (readChars_code hcode _).trans (congrArg _ ih)
  | pair hhigh hhlo hhhi hlow hllo hlhi hc _ ih =>
    exact (readChars_pair hhigh ⟨hhlo, hhhi⟩ hlow ⟨hllo, hlhi⟩ hc _).trans (congrArg _ ih)

theorem eq_of_prepend_eq_some {c : Char} {o : Option (List Char × List Char)} {s r : List Char}
    (h : prepend c o = some (s, r)) : ∃ s', s = c :: s' ∧ o = some (s', r) := by
  obtain ⟨⟨s', r'⟩, rfl, heq⟩ := Option.map_eq_some_iff.1 h
  obtain ⟨rfl, rfl⟩ := Prod.mk.inj heq
  exact ⟨s', rfl, rfl⟩

theorem spells_of_readChars {text : List Char} {s r : List Char} (h : readChars text = some (s, r)) :
    ∃ t, text = t ++ '"' :: r ∧ SpellsChars s t := by
  induction text using readChars.induct generalizing s r with
  | case1 => simp [readChars] at h
  | case2 r' =>
    rw [readChars] at h
    obtain ⟨rfl, rfl⟩ := Prod.mk.inj (Option.some.inj h)
    exact ⟨[], rfl, .nil⟩
  | case3 x y z w text hnone => simp [readChars, hnone] at h
  | case4 x y z w high hhigh hrange x' y' z' w' text hnone => simp [readChars, hhigh, hrange, hnone] at h
  | case5 x y z w high hhigh hrange x' y' z' w' text low hlow hrange' ih =>
    have hc : (Char.ofNat (paired high low)).toNat = paired high low :=
      toNat_ofNat_of_isValidChar (by unfold paired Nat.isValidChar; omega)
    rw [readChars_pair hhigh hrange hlow hrange' hc] at h
    obtain ⟨s, rfl, hread⟩ := eq_of_prepend_eq_some h
    obtain ⟨t, rfl, ht⟩ := ih hread
    exact ⟨_, rfl, .pair hhigh hrange.1 hrange.2 hlow hrange'.1 hrange'.2 hc ht⟩
  | case6 x y z w high hhigh hrange x' y' z' w' text low hlow hrange' =>
    simp [readChars, hhigh, hrange, hlow, hrange'] at h
  | case7 x y z w text high hhigh hrange hother =>
    rw [readChars, hhigh] at h
    dsimp only at h
    rw [if_pos hrange] at h
    split at h
    · exact absurd rfl (hother _ _ _ _ _)
    · contradiction
  | case8 x y z w text n hn hhigh hlow => simp [readChars, hn, hhigh, hlow] at h
  | case9 x y z w text n hn hhigh hlow ih =>
    have hlt := hexValue4?_lt hn
    have hc : (Char.ofNat n).toNat = n :=
      toNat_ofNat_of_isValidChar (by unfold Nat.isValidChar; omega)
    rw [← hc] at hn
    rw [readChars_code hn] at h
    obtain ⟨s, rfl, hread⟩ := eq_of_prepend_eq_some h
    obtain ⟨t, rfl, ht⟩ := ih hread
    exact ⟨_, rfl, .code hn ht⟩
  | case10 e text hu hnone =>
    rw [readChars, hnone] at h
    · contradiction
    · exact hu
  | case11 e text hu c hc ih =>
    rw [readChars, hc] at h
    · obtain ⟨s, rfl, hread⟩ := eq_of_prepend_eq_some h
      obtain ⟨t, rfl, ht⟩ := ih hread
      exact ⟨_, rfl, .letter ((mem_letters_iff e c).2 hc) ht⟩
    · exact hu
  | case12 c text hquote hu hslash hcontrol =>
    rw [readChars, if_pos hcontrol] at h
    · contradiction
    · exact hquote
    · exact hu
    · exact hslash
  | case13 c text hquote hu hslash hcontrol ih =>
    rw [readChars, if_neg hcontrol] at h
    · obtain ⟨s, rfl, hread⟩ := eq_of_prepend_eq_some h
      obtain ⟨t, rfl, ht⟩ := ih hread
      have hne : c ≠ '\\' := by
        rintro rfl
        cases t <;> exact hslash _ _ rfl rfl
      exact ⟨_, rfl, .plain hquote hne (Nat.not_lt.1 hcontrol) ht⟩
    · exact hquote
    · exact hu
    · exact hslash

/-! ## Scalars -/

theorem readScalar_of_spells {v : Scalar} {t : List Char} (h : SpellsScalar v t) {r : List Char}
    (hr : ∀ c ∈ r.head?, c.isDigit = false) : readScalar (t ++ r) = some (v, r) := by
  cases h with
  | null => rfl
  | number hne hdigits hzero => exact readScalar_digits hne hdigits hzero hr
  | text ht =>
    rw [List.append_assoc]
    simp only [List.cons_append, readScalar, List.nil_append, readChars_of_spells ht]
    rfl

theorem spells_of_readScalar {text r : List Char} {v : Scalar} (h : readScalar text = some (v, r)) :
    ∃ t, text = t ++ r ∧ SpellsScalar v t := by
  unfold readScalar at h
  split at h
  · obtain ⟨rfl, rfl⟩ := Prod.mk.inj (Option.some.inj h)
    exact ⟨_, rfl, .null⟩
  · obtain ⟨⟨s, r'⟩, hread, heq⟩ := Option.map_eq_some_iff.1 h
    obtain ⟨rfl, rfl⟩ := Prod.mk.inj heq
    obtain ⟨t, rfl, ht⟩ := spells_of_readChars hread
    exact ⟨'"' :: t ++ ['"'], by simp, .text ht⟩
  · dsimp only at h
    split at h
    · contradiction
    · next hgood =>
      obtain ⟨rfl, rfl⟩ := Prod.mk.inj (Option.some.inj h)
      rw [foldl_digits]
      have hne : text.takeWhile Char.isDigit ≠ [] := by
        intro hnil
        simp [hnil] at hgood
      have hzero : (text.takeWhile Char.isDigit).head? = some '0' →
          (text.takeWhile Char.isDigit).length = 1 := by
        simpa [hne] using hgood
      exact ⟨_, List.takeWhile_append_dropWhile.symm,
        .number hne (fun d hd => List.mem_takeWhile_imp hd) hzero⟩

/-- A value starts with no white space. -/
theorem skipBlanks_of_spells {v : Scalar} {t : List Char} (h : SpellsScalar v t) (r : List Char) :
    skipBlanks (t ++ r) = t ++ r := by
  cases h with
  | null => rfl
  | @number ds hne hdigits hzero =>
    obtain ⟨d, ds, rfl⟩ := List.exists_cons_of_ne_nil hne
    exact skipBlanks_of_not (isBlank_of_isDigit (hdigits d List.mem_cons_self)) _
  | text ht => rfl

/-! ## Members -/

/-- No number goes on into white space. -/
theorem head?_blank_append {b : List Char} (hb : IsBlank b) {c : Char} (hc : c.isDigit = false)
    (r : List Char) : ∀ d ∈ (b ++ c :: r).head?, d.isDigit = false := by
  cases b with
  | nil => simpa using hc
  | cons d b =>
    have hd : d.isDigit = false := Bool.eq_false_iff.2 fun hdigit =>
      Bool.eq_false_iff.1 (isBlank_of_isDigit hdigit) (hb d List.mem_cons_self)
    simpa using hd

theorem readMembers_of_spells_member {m : List Char × Scalar} {t : List Char} (h : SpellsMember m t)
    (fuel : Nat) (c : Char) (r : List Char) (hdigit : c.isDigit = false) (hblank : isBlank c = false) :
    readMembers (fuel + 1) (t ++ c :: r) =
      match c :: r with
      | ',' :: r => (readMembers fuel r).map fun p => (m :: p.1, p.2)
      | '\x7d' :: r => some ([m], r)
      | _ => none := by
  obtain @⟨before, behind, after, rest, name, t, v, w, hbefore, hname, hbehind, hafter, hvalue,
    hrest⟩ := h
  have hopen : skipBlanks (before ++ '"' :: (t ++ '"' :: (behind ++ ':' :: (after ++ (w ++ rest)))) ++
      c :: r) = '"' :: (t ++ '"' :: (behind ++ ':' :: (after ++ (w ++ (rest ++ c :: r))))) := by
    simp only [List.append_assoc, List.cons_append, skipBlanks_append hbefore]
    exact skipBlanks_of_not (by decide) _
  have hcolon : ∀ s, skipBlanks (behind ++ ':' :: s) = ':' :: s := fun s => by
    rw [skipBlanks_append hbehind, skipBlanks_of_not (by decide)]
  rw [readMembers, hopen]
  simp only [readChars_of_spells hname, hcolon, skipBlanks_append hafter, skipBlanks_of_spells hvalue,
    readScalar_of_spells hvalue (head?_blank_append hrest hdigit r), skipBlanks_append hrest]
  rewrite [skipBlanks_of_not hblank]
  rfl

theorem readMembers_of_spells {o : Object} {t : List Char} (h : SpellsMembers o t) {fuel : Nat}
    (hfuel : o.length ≤ fuel) (r : List Char) :
    readMembers fuel (t ++ '\x7d' :: r) = some (o, r) := by
  induction h generalizing fuel with
  | last hm =>
    obtain ⟨fuel, rfl⟩ := Nat.exists_eq_add_of_le' hfuel
    exact readMembers_of_spells_member hm fuel _ r (by decide) (by decide)
  | @cons m ms t u hm _ ih =>
    obtain ⟨fuel, rfl⟩ : ∃ k, fuel = k + 1 := ⟨fuel - 1, by simp at hfuel; omega⟩
    rw [List.append_assoc, List.cons_append,
      readMembers_of_spells_member hm fuel _ _ (by decide) (by decide)]
    simp only [ih (Nat.le_of_succ_le_succ hfuel)]
    rfl

theorem spells_member_of_read {text name : List Char} {value : Scalar}
    {inQuotes behindName behindColon behindValue : List Char}
    (hopen : skipBlanks text = '"' :: inQuotes)
    (hname : readChars inQuotes = some (name, behindName))
    (hcolon : skipBlanks behindName = ':' :: behindColon)
    (hvalue : readScalar (skipBlanks behindColon) = some (value, behindValue)) :
    ∃ t, text = t ++ skipBlanks behindValue ∧ SpellsMember (name, value) t := by
  obtain ⟨before, hbefore, htext⟩ := exists_blank_append_skipBlanks text
  obtain ⟨t, ht, hspellsName⟩ := spells_of_readChars hname
  obtain ⟨behind, hbehind, hbehindName⟩ := exists_blank_append_skipBlanks behindName
  obtain ⟨after, hafter, hbehindColon⟩ := exists_blank_append_skipBlanks behindColon
  obtain ⟨w, hw, hspellsValue⟩ := spells_of_readScalar hvalue
  obtain ⟨rest, hrest, hbehindValue⟩ := exists_blank_append_skipBlanks behindValue
  refine ⟨_, ?_, .mk hbefore hspellsName hbehind hafter hspellsValue hrest⟩
  calc text = before ++ '"' :: (t ++ '"' :: (behind ++ ':' :: (after ++ (w ++ behindValue)))) := by
        rw [← hw, ← hbehindColon, ← hcolon, ← hbehindName, ← ht, ← hopen, ← htext]
    _ = _ := by
        conv_lhs => rw [hbehindValue]
        simp only [List.append_assoc, List.cons_append]

theorem spells_of_readMembers {fuel : Nat} {text r : List Char} {o : Object}
    (h : readMembers fuel text = some (o, r)) : ∃ t, text = t ++ '\x7d' :: r ∧ SpellsMembers o t := by
  induction fuel generalizing text o with
  | zero => simp [readMembers] at h
  | succ fuel ih =>
    unfold readMembers at h
    split at h
    case h_2 => contradiction
    next hopen =>
    split at h
    case h_1 => contradiction
    next hname =>
    split at h
    case h_2 => contradiction
    next hcolon =>
    split at h
    case h_1 => contradiction
    next hvalue =>
    obtain ⟨t, rfl, ht⟩ := spells_member_of_read hopen hname hcolon hvalue
    split at h
    · next hcomma =>
      obtain ⟨⟨ms, r'⟩, hmembers, heq⟩ := Option.map_eq_some_iff.1 h
      obtain ⟨rfl, rfl⟩ := Prod.mk.inj heq
      obtain ⟨u, rfl, hu⟩ := ih hmembers
      exact ⟨t ++ ',' :: u, by rw [hcomma, List.append_assoc, List.cons_append], .cons ht hu⟩
    · next hclose =>
      obtain ⟨rfl, rfl⟩ := Prod.mk.inj (Option.some.inj h)
      exact ⟨t, by rw [hclose], .last ht⟩
    · contradiction

/-! ## Objects -/

theorem length_le_of_spells {o : Object} {t : List Char} (h : SpellsMembers o t) :
    o.length ≤ t.length := by
  induction h with
  | last hm =>
    cases hm
    simp only [List.length_append, List.length_cons, List.length_nil]
    omega
  | cons _ _ ih =>
    simp only [List.length_append, List.length_cons]
    omega

/-- Members without the white space in front of them. -/
theorem exists_spells_quote {o : Object} {t : List Char} (h : SpellsMembers o t) :
    ∃ u, SpellsMembers o ('"' :: u) ∧ ∀ r, skipBlanks (t ++ r) = '"' :: (u ++ r) := by
  have hmember : ∀ {m t}, SpellsMember m t →
      ∃ u, SpellsMember m ('"' :: u) ∧ ∀ r, skipBlanks (t ++ r) = '"' :: (u ++ r) := by
    rintro _ _ ⟨hbefore, hname, hbehind, hafter, hvalue, hrest⟩
    have hnothing : IsBlank [] := by simp [IsBlank]
    refine ⟨_, .mk hnothing hname hbehind hafter hvalue hrest, fun r => ?_⟩
    rw [List.append_assoc, skipBlanks_append hbefore]
    exact skipBlanks_of_not (by decide) _
  cases h with
  | last hm =>
    obtain ⟨u, hu, hskip⟩ := hmember hm
    exact ⟨u, .last hu, hskip⟩
  | @cons m ms t t' hm hms =>
    obtain ⟨u, hu, hskip⟩ := hmember hm
    refine ⟨u ++ ',' :: t', .cons hu hms, fun r => ?_⟩
    rw [List.append_assoc, hskip, List.append_assoc]

theorem readMembers_skipBlanks (fuel : Nat) (s : List Char) :
    readMembers fuel (skipBlanks s) = readMembers fuel s := by
  cases fuel with
  | zero => rfl
  | succ fuel => rw [readMembers, readMembers, skipBlanks_skipBlanks]

/-- The reader reads the texts of the grammar, as what they spell, and no others. -/
theorem read?_eq_some_iff {o : Object} {s : List Char} : read? s = some o ↔ Spells o s := by
  constructor
  · intro h
    obtain ⟨before, hbefore, hs⟩ := exists_blank_append_skipBlanks s
    unfold read? at h
    split at h
    case h_2 => contradiction
    next inside hopen =>
    obtain ⟨blanks, hblanks, hinside⟩ := exists_blank_append_skipBlanks inside
    rw [hs, hopen]
    split at h
    · next behind hclose =>
      split at h
      case isFalse => contradiction
      next hbehind =>
      obtain rfl := Option.some.inj h
      rw [hinside, hclose]
      exact .empty hbefore hblanks ((isBlank_iff_skipBlanks _).2 hbehind)
    · split at h
      case h_2 => contradiction
      next o' behind hmembers =>
      split at h
      case isFalse => contradiction
      next hbehind =>
      obtain rfl := Option.some.inj h
      rw [readMembers_skipBlanks] at hmembers
      obtain ⟨t, ht, hspells⟩ := spells_of_readMembers hmembers
      rw [ht]
      exact .members hbefore hspells ((isBlank_iff_skipBlanks _).2 hbehind)
  · intro h
    cases h with
    | @empty before inside behind hbefore hinside hbehind =>
      rw [read?, skipBlanks_append hbefore, skipBlanks_of_not (by decide)]
      simp only [skipBlanks_append hinside, skipBlanks_of_not (show isBlank '\x7d' = false by decide)]
      rw [if_pos ((isBlank_iff_skipBlanks _).1 hbehind)]
    | @members before behind o t hbefore ho hbehind =>
      obtain ⟨u, hu, hskip⟩ := exists_spells_quote ho
      have hfuel : o.length ≤ ('"' :: (u ++ '\x7d' :: behind)).length := by
        have hle := length_le_of_spells hu
        simp only [List.length_append, List.length_cons] at hle ⊢
        omega
      have hmembers := readMembers_of_spells hu hfuel behind
      refine read?_of_quote ?_ (hskip _) hmembers ((isBlank_iff_skipBlanks _).1 hbehind)
      rw [skipBlanks_append hbefore]
      exact skipBlanks_of_not (by decide) _

/-- What is written spells what was to be written, and nothing else. -/
theorem spells_write_iff (o o' : Object) : Spells o' (write o) ↔ o' = o := by
  rw [← read?_eq_some_iff, read?_write, Option.some_inj, eq_comm]

/-! ## Controls -/

/-- No character is a control. -/
def Printable (s : List Char) : Prop := ∀ c ∈ s, 0x20 ≤ c.toNat

instance (s : List Char) : Decidable (Printable s) :=
  decidable_of_iff (s.all fun c => 0x20 ≤ c.toNat) (by simp [Printable])

theorem printable_append {s t : List Char} : Printable (s ++ t) ↔ Printable s ∧ Printable t :=
  List.forall_mem_append

theorem printable_cons {c : Char} {s : List Char} :
    Printable (c :: s) ↔ 0x20 ≤ c.toNat ∧ Printable s := List.forall_mem_cons

theorem printable_escapeChar (c : Char) : Printable (escapeChar c) := by
  unfold escapeChar
  split_ifs with hquote hslash hback hform hline hreturn htab hcontrol
  all_goals try decide
  · have hdigit : ∀ n < 16, 0x20 ≤ (hexDigit n).toNat := by decide
    have hhigh := hdigit (c.toNat / 16) (by omega)
    have hlow := hdigit (c.toNat % 16) (by omega)
    exact printable_append.2 ⟨show Printable ['\\', 'u', '0', '0'] by decide,
      printable_cons.2 ⟨hhigh, printable_cons.2 ⟨hlow, by decide⟩⟩⟩
  · exact printable_cons.2 ⟨Nat.not_lt.1 hcontrol, by decide⟩

theorem printable_writeString (s : List Char) : Printable (writeString s) := by
  refine printable_append.2 ⟨printable_cons.2 ⟨by decide, fun c hc => ?_⟩, by decide⟩
  obtain ⟨d, -, hc⟩ := List.mem_flatMap.1 hc
  exact printable_escapeChar d c hc

theorem printable_scalar (v : Scalar) : Printable v.write := by
  cases v with
  | null => decide
  | text s => exact printable_writeString s
  | number n =>
    intro c hc
    have hdigit := Nat.isDigit_of_mem_toDigits (by decide) (by decide) hc
    simp only [Char.isDigit, Bool.and_eq_true, decide_eq_true_eq, ge_iff_le,
      UInt32.le_iff_toNat_le] at hdigit
    exact Nat.le_trans (by decide) hdigit.1

theorem printable_write (o : Object) : Printable (write o) := by
  have hmember : ∀ m, Printable (writeMember m) := fun m =>
    printable_append.2 ⟨printable_writeString m.1, printable_cons.2 ⟨by decide, printable_scalar m.2⟩⟩
  have hmembers : ∀ o, Printable (writeMembers o) := by
    intro o
    induction o with
    | nil => decide
    | cons m ms ih =>
      cases ms with
      | nil => exact hmember m
      | cons m' ms => exact printable_append.2 ⟨hmember m, printable_cons.2 ⟨by decide, ih⟩⟩
  exact printable_append.2 ⟨printable_cons.2 ⟨by decide, hmembers o⟩, by decide⟩

/-! ## What the gateway writes -/

/-- The line of every record is printable, and it is an object with the twelve fields of the record and
no other reading. So is what the built-in applications answer, with the six fields they echo. -/
theorem outputs_spell (r : AccessRecord) (convention method path root query : String) (bytes : Nat) :
    (∀ c ∈ (r.line "json").toList, 0x20 ≤ c.toNat) ∧
      (∀ o, Spells o (r.line "json").toList ↔
        o = [("body_bytes".toList, .number r.bodyBytes),
          ("handled_by".toList, .text r.handledBy.name.toList),
          ("http_version".toList, .text r.httpVersion.toList),
          ("method".toList, .text r.method.toList),
          ("path".toList, .text r.path.toList),
          ("query".toList, r.query.elim .null fun s => .text s.toList),
          ("referer".toList, r.referer.elim .null fun s => .text s.toList),
          ("remote_addr".toList, .text r.remoteAddr.toList),
          ("request_time_us".toList, .number r.microseconds),
          ("status".toList, .number r.status),
          ("time".toList, .text r.time.isoText.toList),
          ("user_agent".toList, r.userAgent.elim .null fun s => .text s.toList)]) ∧
      ∃ text, Builtin.echoBody convention method path root query bytes = Text.encode text ∧
        Text.decode (Text.encode text) = text ∧
        ∀ o, Spells o text ↔
          o = [("body_bytes".toList, .number bytes), ("convention".toList, .text convention.toList),
            ("method".toList, .text method.toList), ("path".toList, .text path.toList),
            ("query".toList, .text query.toList), ("root_path".toList, .text root.toList)] := by
  have hline : (r.line "json").toList = write r.object := by
    simp [AccessRecord.line, line]
  have hoptional : ∀ value, Scalar.optional value = value.elim .null fun s => .text s.toList := by
    rintro (_ | s) <;> rfl
  rw [hline]
  refine ⟨printable_write _, fun o => ?_, _, rfl, Text.decode_encode _, fun o => spells_write_iff _ o⟩
  rw [spells_write_iff, AccessRecord.object, hoptional, hoptional, hoptional]
  rfl

end Json

end Gateway
