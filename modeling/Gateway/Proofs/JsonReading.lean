import Gateway.Json
import Mathlib.Tactic.SplitIfs

/-!
What is written as a JSON object reads back, character by character and member by member, whatever
text follows.
-/
namespace Gateway.Json

/-! ## Strings -/

theorem hexValue?_hexDigit : ∀ n < 16, hexValue? (hexDigit n) = some n := by decide

theorem hexValue4?_control {n : Nat} (h : n < 0x20) :
    hexValue4? '0' '0' (hexDigit (n / 16)) (hexDigit (n % 16)) = some n := by
  have hzero : hexValue? '0' = some 0 := by decide
  have hhigh := hexValue?_hexDigit (n / 16) (by omega)
  have hlow := hexValue?_hexDigit (n % 16) (by omega)
  simp only [hexValue4?, hzero, hhigh, hlow, Option.pure_def, Option.bind_eq_bind,
    Option.bind_some, Option.some.injEq]
  omega

theorem readChars_escaped {e c : Char} (he : e ≠ 'u') (h : escaped? e = some c) (r : List Char) :
    readChars ('\\' :: e :: r) = prepend c (readChars r) := by
  rw [readChars, h]
  intro _ _ _ _ _ heq
  exact absurd heq he

theorem readChars_control {c : Char} (h : c.toNat < 0x20) (r : List Char) :
    readChars ('\\' :: 'u' :: '0' :: '0' :: hexDigit (c.toNat / 16) :: hexDigit (c.toNat % 16) :: r) =
      prepend c (readChars r) := by
  have hchar : Char.ofNat c.toNat = c := Char.ofNat_toNat c
  rw [readChars, hexValue4?_control h]
  dsimp only
  rw [if_neg (by omega), if_neg (by omega), hchar]

theorem readChars_plain {c : Char} (hquote : c ≠ '"') (hslash : c ≠ '\\') (h : ¬ c.toNat < 0x20)
    (r : List Char) : readChars (c :: r) = prepend c (readChars r) := by
  rw [readChars, if_neg h]
  · exact hquote
  · intro _ _ _ _ _ heq
    exact absurd heq hslash
  · intro _ _ heq
    exact absurd heq hslash

theorem readChars_escapeChar (c : Char) (r : List Char) :
    readChars (escapeChar c ++ r) = prepend c (readChars r) := by
  unfold escapeChar
  split_ifs with hquote hslash hback hform hline hreturn htab hcontrol
  · subst hquote
    exact readChars_escaped (by decide) rfl r
  · subst hslash
    exact readChars_escaped (by decide) rfl r
  · subst hback
    exact readChars_escaped (by decide) rfl r
  · subst hform
    exact readChars_escaped (by decide) rfl r
  · subst hline
    exact readChars_escaped (by decide) rfl r
  · subst hreturn
    exact readChars_escaped (by decide) rfl r
  · subst htab
    exact readChars_escaped (by decide) rfl r
  · exact readChars_control hcontrol r
  · exact readChars_plain hquote hslash hcontrol r

theorem readChars_escape (s r : List Char) :
    readChars (s.flatMap escapeChar ++ '"' :: r) = some (s, r) := by
  induction s with
  | nil => rw [List.flatMap_nil, List.nil_append, readChars]
  | cons c s ih =>
    rw [List.flatMap_cons, List.append_assoc, readChars_escapeChar, ih]
    rfl

/-! ## Numbers -/

theorem head?_toDigits_ne_zero {n : Nat} (h : n ≠ 0) : (Nat.toDigits 10 n).head? ≠ some '0' := by
  induction n using Nat.strongRecOn with
  | ind n ih =>
    by_cases hlt : n < 10
    · rw [Nat.toDigits_of_lt_base hlt]
      have hdigit : ∀ d < 10, d ≠ 0 → d.digitChar ≠ '0' := by decide
      simpa using hdigit n hlt h
    · have hsplit := Nat.toDigits_of_base_le (b := 10) (n := n) (by decide) (by omega)
      have hne : Nat.toDigits 10 (n / 10) ≠ [] := Nat.toDigits_ne_nil
      intro hzero
      rw [hsplit, List.head?_append, Option.or_eq_some_iff] at hzero
      rcases hzero with hhead | ⟨hnone, -⟩
      · exact ih (n / 10) (by omega) (by omega) hhead
      · exact hne (List.head?_eq_none_iff.1 hnone)

theorem readScalar_of_isDigit {c : Char} (hc : c.isDigit) (s : List Char) :
    readScalar (c :: s) =
      let digits := (c :: s).takeWhile Char.isDigit
      if digits.isEmpty || (digits.head? == some '0' && digits.length != 1) then none
      else some (.number (digits.foldl (fun n c => n * 10 + (c.toNat - 0x30)) 0),
        (c :: s).dropWhile Char.isDigit) := by
  rw [readScalar]
  · intro r heq
    obtain rfl := (List.cons.inj heq).1
    exact absurd hc (by decide)
  · intro r heq
    obtain rfl := (List.cons.inj heq).1
    exact absurd hc (by decide)

theorem foldl_digits (ds : List Char) :
    ds.foldl (fun n c => n * 10 + (c.toNat - 0x30)) 0 = Nat.ofDigitChars 10 ds 0 := by
  simp only [Nat.ofDigitChars_eq_foldl, Nat.mul_comm 10]
  rfl

/-- Digits, up to the first character that is none. -/
theorem readScalar_digits {ds r : List Char} (hne : ds ≠ []) (hdigits : ∀ d ∈ ds, d.isDigit)
    (hzero : ds.head? = some '0' → ds.length = 1) (hr : ∀ c ∈ r.head?, c.isDigit = false) :
    readScalar (ds ++ r) = some (.number (Nat.ofDigitChars 10 ds 0), r) := by
  have hrest : r.takeWhile Char.isDigit = [] ∧ r.dropWhile Char.isDigit = r := by
    cases r with
    | nil => exact ⟨rfl, rfl⟩
    | cons c r => simp [hr c rfl]
  have htake : (ds ++ r).takeWhile Char.isDigit = ds := by
    rw [List.takeWhile_append_of_pos hdigits, hrest.1, List.append_nil]
  have hdrop : (ds ++ r).dropWhile Char.isDigit = r := by
    rw [List.dropWhile_append_of_pos hdigits, hrest.2]
  have hgood : ¬ (ds.isEmpty || (ds.head? == some '0' && ds.length != 1)) := by
    simpa [hne] using hzero
  obtain ⟨c, s, rfl⟩ := List.exists_cons_of_ne_nil hne
  rw [List.cons_append] at htake hdrop ⊢
  rw [readScalar_of_isDigit (hdigits c List.mem_cons_self)]
  dsimp only
  rw [htake, hdrop, foldl_digits, if_neg hgood]

/-- The digits of a number, up to the first character that is none. -/
theorem readScalar_toDigits (n : Nat) {r : List Char} (hr : ∀ c ∈ r.head?, c.isDigit = false) :
    readScalar (Nat.toDigits 10 n ++ r) = some (.number n, r) := by
  have hdigits : ∀ d ∈ Nat.toDigits 10 n, d.isDigit := fun d hd =>
    Nat.isDigit_of_mem_toDigits (by decide) (by decide) hd
  have hzero : (Nat.toDigits 10 n).head? = some '0' → (Nat.toDigits 10 n).length = 1 := by
    intro hhead
    by_cases hn : n = 0
    · rw [hn]
      rfl
    · exact absurd hhead (head?_toDigits_ne_zero hn)
  rw [readScalar_digits Nat.toDigits_ne_nil hdigits hzero hr, Nat.ofDigitChars_ten_toDigits]

/-! ## Objects -/

theorem skipBlanks_of_not {c : Char} (h : isBlank c = false) (s : List Char) :
    skipBlanks (c :: s) = c :: s := by
  rw [skipBlanks, List.dropWhile_cons, h]
  rfl

theorem isBlank_of_isDigit {c : Char} (h : c.isDigit) : isBlank c = false := by
  apply Bool.eq_false_iff.2
  intro hblank
  simp only [isBlank, Bool.or_eq_true, beq_iff_eq] at hblank
  rcases hblank with ((rfl | rfl) | rfl) | rfl <;> exact absurd h (by decide)

/-- What follows a value keeps no number going. -/
theorem readScalar_write (v : Scalar) {r : List Char} (hr : ∀ c ∈ r.head?, c.isDigit = false) :
    readScalar (skipBlanks (v.write ++ r)) = some (v, r) := by
  cases v with
  | null => rfl
  | number n =>
    obtain ⟨c, s, hcons⟩ := List.exists_cons_of_ne_nil (Nat.toDigits_ne_nil (b := 10) (n := n))
    have hc : c.isDigit :=
      Nat.isDigit_of_mem_toDigits (by decide) (by decide) (hcons ▸ List.mem_cons_self)
    have hread := readScalar_toDigits n hr
    rw [Scalar.write, hcons] at *
    rw [List.cons_append] at *
    rw [skipBlanks_of_not (isBlank_of_isDigit hc), hread]
  | text s =>
    rw [Scalar.write, writeString, List.append_assoc, List.cons_append, skipBlanks_of_not (by decide),
      readScalar, List.singleton_append, readChars_escape]
    rfl

/-- The name and the colon are read the same way, whatever follows the value. -/
theorem readMembers_writeMember (name : List Char) (v : Scalar) (fuel : Nat) {c : Char}
    (t : List Char) (hdigit : c.isDigit = false) (hblank : isBlank c = false) :
    readMembers (fuel + 1) (writeMember (name, v) ++ c :: t) =
      match c :: t with
      | ',' :: r => (readMembers fuel r).map fun p => ((name, v) :: p.1, p.2)
      | '\x7d' :: r => some ([(name, v)], r)
      | _ => none := by
  have hvalue := readScalar_write v (r := c :: t) (by simpa using hdigit)
  have htext : writeMember (name, v) ++ c :: t =
      '"' :: (name.flatMap escapeChar ++ '"' :: ':' :: (v.write ++ c :: t)) := by
    simp [writeMember, writeString]
  rw [htext, readMembers, skipBlanks_of_not (by decide)]
  simp only [readChars_escape]
  rw [skipBlanks_of_not (by decide)]
  simp only [hvalue]
  rewrite [skipBlanks_of_not hblank]
  rfl

theorem readMembers_write (o : Object) (ho : o ≠ []) (r : List Char) {fuel : Nat}
    (hfuel : o.length ≤ fuel) :
    readMembers fuel (writeMembers o ++ '\x7d' :: r) = some (o, r) := by
  induction o generalizing fuel with
  | nil => exact absurd rfl ho
  | cons m ms ih =>
    obtain ⟨name, v⟩ := m
    obtain ⟨fuel, rfl⟩ : ∃ k, fuel = k + 1 := ⟨fuel - 1, by simp at hfuel; omega⟩
    cases ms with
    | nil =>
      rw [writeMembers, readMembers_writeMember _ _ _ _ (by decide) (by decide)]
      rfl
    | cons m' ms =>
      have hrest := ih (List.cons_ne_nil _ _) (Nat.le_of_succ_le_succ hfuel)
      rw [writeMembers, List.append_assoc, List.cons_append,
        readMembers_writeMember _ _ _ _ (by decide) (by decide)]
      · simp only [hrest]
        rfl
      · exact List.cons_ne_nil _ _

theorem length_le_length_writeMembers (o : Object) : o.length ≤ (writeMembers o).length := by
  induction o with
  | nil => exact Nat.le_refl _
  | cons m ms ih =>
    cases ms with
    | nil =>
      rw [writeMembers, writeMember, writeString]
      simp
    | cons m' ms =>
      simp only [writeMembers, List.length_append, List.length_cons] at ih ⊢
      omega

theorem exists_writeMembers_eq {o : Object} (ho : o ≠ []) : ∃ s, writeMembers o = '"' :: s := by
  obtain ⟨m, ms, rfl⟩ := List.exists_cons_of_ne_nil ho
  cases ms with
  | nil => exact ⟨_, rfl⟩
  | cons m' ms => exact ⟨_, rfl⟩

/-- Behind the opening brace, a quote begins the members, and white space may follow the closing brace. -/
theorem read?_of_quote {s t u r : List Char} {o : Object} (hs : skipBlanks s = '\x7b' :: t)
    (ht : skipBlanks t = '"' :: u)
    (hmembers : readMembers ('"' :: u).length ('"' :: u) = some (o, r))
    (hr : (skipBlanks r).isEmpty) : read? s = some o := by
  rw [read?, hs]
  simp only [ht]
  split
  · next heq => exact absurd (List.cons.inj heq).1 (by decide)
  · rw [hmembers]
    exact if_pos hr

/-- An object that was written reads back. -/
theorem read?_write (o : Object) : read? (write o) = some o := by
  by_cases ho : o = []
  · subst ho
    rfl
  · obtain ⟨s, hs⟩ := exists_writeMembers_eq ho
    have hfuel : o.length ≤ (writeMembers o ++ ['\x7d']).length := by
      have hle := length_le_length_writeMembers o
      simp only [List.length_append]
      omega
    have hread := readMembers_write o ho [] hfuel
    rw [hs, List.cons_append] at hread
    refine read?_of_quote (skipBlanks_of_not (by decide) _) ?_ hread rfl
    rw [hs]
    exact skipBlanks_of_not (by decide) _

end Gateway.Json
