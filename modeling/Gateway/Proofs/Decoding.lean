import Gateway.Text.Percent
import Mathlib.Tactic.SplitIfs

/-!
Percent-decoding and UTF-8 decoding of a text in parts. Encoded text reads back whatever bytes
follow it, and both decoders treat what stands before a slash apart from what stands after it.
-/
namespace Gateway.Text

/-! ## Characters of several bytes -/

theorem toNat_ofNat_of_lt {n : Nat} (h : n < 256) : (UInt8.ofNat n).toNat = n := by
  rw [UInt8.toNat_ofNat', Nat.mod_eq_of_lt h]

/-- What a byte begins, by its value. -/
theorem begin_ofNat {n : Nat} (h : n < 256) : begin (.ofNat n) =
    if n < 0x80 then .inl (.ofNat n)
    else if n < 0xC2 then .inl replacement
    else if n < 0xE0 then .inr { need := 1, value := n % 0x20 }
    else if n = 0xE0 then .inr { need := 2, value := 0, lo := 0xA0 }
    else if n = 0xED then .inr { need := 2, value := 0xD, hi := 0x9F }
    else if n < 0xF0 then .inr { need := 2, value := n % 0x10 }
    else if n = 0xF0 then .inr { need := 3, value := 0, lo := 0x90 }
    else if n < 0xF4 then .inr { need := 3, value := n % 0x08 }
    else if n = 0xF4 then .inr { need := 3, value := 4, hi := 0x8F }
    else .inl replacement := by
  simp only [begin, UInt8.lt_iff_toNat_lt, ← UInt8.toNat_inj, toNat_ofNat_of_lt h]
  rfl

theorem decodeFrom_of_inl {b : UInt8} {c : Char} (h : begin b = .inl c) (r : Bytes) :
    decodeFrom none (b :: r) = c :: decodeFrom none r := by
  rw [decodeFrom, h]

theorem decodeFrom_of_inr {b : UInt8} {p : Pending} (h : begin b = .inr p) (r : Bytes) :
    decodeFrom none (b :: r) = decodeFrom (some p) r := by
  rw [decodeFrom, h]

theorem decodeFrom_some_of_le {p : Pending} {b : UInt8} (h : p.lo ≤ b ∧ b ≤ p.hi) (r : Bytes) :
    decodeFrom (some p) (b :: r) =
      if p.need ≤ 1 then .ofNat (p.extend b) :: decodeFrom none r
      else decodeFrom (some { need := p.need - 1, value := p.extend b }) r := by
  rw [decodeFrom, if_pos h]

theorem decodeFrom_some_of_not {p : Pending} {b : UInt8} (h : ¬ (p.lo ≤ b ∧ b ≤ p.hi)) (r : Bytes) :
    decodeFrom (some p) (b :: r) = replacement :: decodeFrom none (b :: r) := by
  conv => lhs; rw [decodeFrom, if_neg h]
  rw [decodeFrom]

/-- The continuation byte with the six low bits of `x`. -/
def tail (x : Nat) : UInt8 := .ofNat (x % 0x40 + 0x80)

theorem toNat_tail (x : Nat) : (tail x).toNat = x % 0x40 + 0x80 :=
  toNat_ofNat_of_lt (by omega)

/-- The continuation byte of `x` is one that the character under way can go on with. -/
def Pending.Admits (p : Pending) (x : Nat) : Prop :=
  p.lo.toNat ≤ x % 0x40 + 0x80 ∧ x % 0x40 + 0x80 ≤ p.hi.toNat

theorem admits_default (need value x : Nat) : Pending.Admits { need, value } x := by
  constructor
  · show 0x80 ≤ _
    omega
  · show _ ≤ 0xBF
    omega

theorem decodeFrom_tail {p : Pending} {x : Nat} (h : p.Admits x) (r : Bytes) :
    decodeFrom (some p) (tail x :: r) =
      if p.need ≤ 1 then .ofNat (p.value * 0x40 + x % 0x40) :: decodeFrom none r
      else decodeFrom (some { need := p.need - 1, value := p.value * 0x40 + x % 0x40 }) r := by
  have hlow : (x % 0x40 + 0x80) % 0x40 = x % 0x40 := by omega
  have hrange : p.lo ≤ tail x ∧ tail x ≤ p.hi := by
    rwa [UInt8.le_iff_toNat_le, UInt8.le_iff_toNat_le, toNat_tail]
  rw [decodeFrom_some_of_le hrange, Pending.extend, toNat_tail, hlow]

theorem decodeFrom_tail₁ {p : Pending} {v : Nat} (hn : p.need = 1) (h : p.Admits v) (r : Bytes) :
    decodeFrom (some p) (tail v :: r) =
      .ofNat (p.value * 0x40 + v % 0x40) :: decodeFrom none r := by
  rw [decodeFrom_tail h, if_pos (Nat.le_of_eq hn)]

theorem decodeFrom_tail₂ {p : Pending} {v : Nat} (hn : p.need = 2) (h : p.Admits (v / 0x40))
    (r : Bytes) :
    decodeFrom (some p) (tail (v / 0x40) :: tail v :: r) =
      .ofNat (p.value * 0x1000 + v % 0x1000) :: decodeFrom none r := by
  have hv : (p.value * 0x40 + v / 0x40 % 0x40) * 0x40 + v % 0x40 =
      p.value * 0x1000 + v % 0x1000 := by omega
  rw [decodeFrom_tail h, if_neg (by omega), hn, decodeFrom_tail₁ rfl (admits_default ..), hv]

theorem decodeFrom_tail₃ {p : Pending} {v : Nat} (hn : p.need = 3) (h : p.Admits (v / 0x1000))
    (r : Bytes) :
    decodeFrom (some p) (tail (v / 0x1000) :: tail (v / 0x40) :: tail v :: r) =
      .ofNat (p.value * 0x40000 + v % 0x40000) :: decodeFrom none r := by
  have hv : (p.value * 0x40 + v / 0x1000 % 0x40) * 0x1000 + v % 0x1000 =
      p.value * 0x40000 + v % 0x40000 := by omega
  rw [decodeFrom_tail h, if_neg (by omega), hn, decodeFrom_tail₂ rfl (admits_default ..), hv]

theorem begin_lead₂ {v : Nat} (hlo : 0x80 ≤ v) (hhi : v < 0x800) :
    ∃ p, begin (.ofNat (v / 0x40 % 0x20 + 0xC0)) = .inr p ∧ p.need = 1 ∧ p.value = v / 0x40 ∧
      p.Admits v := by
  rw [begin_ofNat (by omega), if_neg (by omega), if_neg (by omega), if_pos (by omega)]
  exact ⟨_, rfl, rfl, by dsimp only; omega, admits_default ..⟩

/-- Two lead bytes narrow the range of the byte after them: what they rule out has a shorter form,
or is a surrogate. -/
theorem begin_lead₃ {v : Nat} (hlo : 0x800 ≤ v) (hhi : v < 0x10000)
    (hvalid : v < 0xD800 ∨ 0xDFFF < v) :
    ∃ p, begin (.ofNat (v / 0x1000 % 0x10 + 0xE0)) = .inr p ∧ p.need = 2 ∧
      p.value = v / 0x1000 ∧ p.Admits (v / 0x40) := by
  rw [begin_ofNat (by omega), if_neg (by omega), if_neg (by omega), if_neg (by omega)]
  by_cases h0 : v / 0x1000 % 0x10 + 0xE0 = 0xE0
  · rw [if_pos h0]
    exact ⟨_, rfl, rfl, by dsimp only; omega, show 0xA0 ≤ _ by omega, show _ ≤ 0xBF by omega⟩
  · by_cases hd : v / 0x1000 % 0x10 + 0xE0 = 0xED
    · rw [if_neg h0, if_pos hd]
      exact ⟨_, rfl, rfl, by dsimp only; omega, show 0x80 ≤ _ by omega, show _ ≤ 0x9F by omega⟩
    · rw [if_neg h0, if_neg hd, if_pos (by omega)]
      exact ⟨_, rfl, rfl, by dsimp only; omega, admits_default ..⟩

theorem begin_lead₄ {v : Nat} (hlo : 0x10000 ≤ v) (hhi : v < 0x110000) :
    ∃ p, begin (.ofNat (v / 0x40000 % 0x08 + 0xF0)) = .inr p ∧ p.need = 3 ∧
      p.value = v / 0x40000 ∧ p.Admits (v / 0x1000) := by
  rw [begin_ofNat (by omega), if_neg (by omega), if_neg (by omega), if_neg (by omega),
    if_neg (by omega), if_neg (by omega), if_neg (by omega)]
  by_cases h0 : v / 0x40000 % 0x08 + 0xF0 = 0xF0
  · rw [if_pos h0]
    exact ⟨_, rfl, rfl, by dsimp only; omega, show 0x90 ≤ _ by omega, show _ ≤ 0xBF by omega⟩
  · by_cases h4 : v / 0x40000 % 0x08 + 0xF0 < 0xF4
    · rw [if_neg h0, if_pos h4]
      exact ⟨_, rfl, rfl, by dsimp only; omega, admits_default ..⟩
    · rw [if_neg h0, if_neg h4, if_pos (by omega)]
      exact ⟨_, rfl, rfl, by dsimp only; omega, show 0x80 ≤ _ by omega, show _ ≤ 0x8F by omega⟩

theorem decodeFrom_utf8EncodeChar (c : Char) (r : Bytes) :
    decodeFrom none (String.utf8EncodeChar c ++ r) = c :: decodeFrom none r := by
  have hc : Char.ofNat c.val.toNat = c := Char.ofNat_toNat c
  have hvalid : c.val.toNat < 0xD800 ∨ 0xDFFF < c.val.toNat ∧ c.val.toNat < 0x110000 := c.valid
  have htail : ∀ x, UInt8.ofNat (x % 64 + 128) = tail x := fun _ => rfl
  unfold String.utf8EncodeChar
  generalize c.val.toNat = v at hc hvalid
  simp only [htail]
  split_ifs with h1 h2 h3
  · rw [List.singleton_append, decodeFrom, begin_ofNat (by omega), if_pos (by omega), hc]
  · obtain ⟨p, hp, hneed, hvalue, hadmits⟩ := begin_lead₂ (v := v) (by omega) (by omega)
    have hv : p.value * 0x40 + v % 0x40 = v := by omega
    simp only [List.cons_append, List.nil_append]
    rw [decodeFrom_of_inr hp, decodeFrom_tail₁ hneed hadmits, hv, hc]
  · obtain ⟨p, hp, hneed, hvalue, hadmits⟩ :=
      begin_lead₃ (v := v) (by omega) (by omega) (by omega)
    have hv : p.value * 0x1000 + v % 0x1000 = v := by omega
    simp only [List.cons_append, List.nil_append]
    rw [decodeFrom_of_inr hp, decodeFrom_tail₂ hneed hadmits, hv, hc]
  · obtain ⟨p, hp, hneed, hvalue, hadmits⟩ := begin_lead₄ (v := v) (by omega) (by omega)
    have hv : p.value * 0x40000 + v % 0x40000 = v := by omega
    simp only [List.cons_append, List.nil_append]
    rw [decodeFrom_of_inr hp, decodeFrom_tail₃ hneed hadmits, hv, hc]

theorem encode_cons (c : Char) (s : List Char) :
    encode (c :: s) = String.utf8EncodeChar c ++ encode s := List.flatMap_cons

/-- Encoded text reads back, whatever bytes follow. -/
theorem decode_encode_append (s : List Char) (r : Bytes) :
    decode (encode s ++ r) = s ++ decode r := by
  induction s with
  | nil => rfl
  | cons c s ih =>
    rw [encode_cons, List.append_assoc, decode, decodeFrom_utf8EncodeChar]
    exact congrArg (c :: ·) ih

theorem decode_encode (s : List Char) : decode (encode s) = s := by
  simpa [decode, decodeFrom] using decode_encode_append s []

theorem encode_inj {s t : List Char} : encode s = encode t ↔ s = t := by
  refine ⟨fun h => ?_, fun h => h ▸ rfl⟩
  rw [← decode_encode s, h, decode_encode]

/-! ## Any bytes -/

/-- The byte that comes next is a continuation byte, if a character is under way. -/
def Sound (st : Option Pending) : Prop := ∀ p ∈ st, 0x80 ≤ p.lo ∧ p.hi ≤ 0xBF

theorem sound_none : Sound none := fun _ h => nomatch h

theorem sound_default (need value : Nat) : Sound (some { need, value }) := by
  rintro p hp
  obtain rfl := Option.mem_some.1 hp
  exact ⟨UInt8.le_refl _, UInt8.le_refl _⟩

theorem sound_of_begin {b : UInt8} {p : Pending} (h : begin b = .inr p) : Sound (some p) := by
  rintro q hq
  obtain rfl := Option.mem_some.1 hq
  unfold begin at h
  split_ifs at h
  all_goals first | contradiction | (cases h; constructor <;> dsimp only <;> decide)

theorem begin_of_lt {b : UInt8} (h : b < 0x80) : begin b = .inl (.ofNat b.toNat) := by
  rw [begin, if_pos h]

theorem begin_of_continuation {b : UInt8} (hlo : 0x80 ≤ b) (hhi : b ≤ 0xBF) :
    begin b = .inl replacement := by
  have hlt : b < 0xC2 := UInt8.lt_of_le_of_lt hhi (by decide)
  rw [begin, if_neg (UInt8.not_lt.2 hlo), if_pos hlt]

/-- Reading a byte gives some characters, and a state in which the rest is read. -/
theorem exists_decodeFrom_cons {st : Option Pending} (hst : Sound st) (b : UInt8) :
    ∃ front next, Sound next ∧ ∀ r, decodeFrom st (b :: r) = front ++ decodeFrom next r := by
  have hnone : ∃ front next, Sound next ∧
      ∀ r, decodeFrom none (b :: r) = front ++ decodeFrom next r := by
    cases h : begin b with
    | inl c => exact ⟨[c], none, sound_none, decodeFrom_of_inl h⟩
    | inr p => exact ⟨[], some p, sound_of_begin h, decodeFrom_of_inr h⟩
  cases st with
  | none => exact hnone
  | some p =>
    by_cases h : p.lo ≤ b ∧ b ≤ p.hi
    · by_cases hn : p.need ≤ 1
      · refine ⟨[.ofNat (p.extend b)], none, sound_none, fun r => ?_⟩
        rw [decodeFrom_some_of_le h, if_pos hn]
        rfl
      · refine ⟨[], some { need := p.need - 1, value := p.extend b }, sound_default _ _, fun r => ?_⟩
        rw [decodeFrom_some_of_le h, if_neg hn]
        rfl
    · -- the byte is read again, as the first of a character
      obtain ⟨front, next, hnext, heq⟩ := hnone
      refine ⟨replacement :: front, next, hnext, fun r => ?_⟩
      rw [decodeFrom_some_of_not h, heq]
      rfl

/-- An ASCII byte is always read by itself. -/
theorem decodeFrom_append_ascii {b : UInt8} (hb : b < 0x80) (x y : Bytes) {st : Option Pending}
    (hst : Sound st) :
    decodeFrom st (x ++ b :: y) = decodeFrom st x ++ .ofNat b.toNat :: decode y := by
  induction x generalizing st with
  | nil =>
    have hb' := decodeFrom_of_inl (begin_of_lt hb) y
    cases st with
    | none => exact hb'
    | some p =>
      have hnot : ¬ (p.lo ≤ b ∧ b ≤ p.hi) := fun h =>
        UInt8.not_lt.2 (UInt8.le_trans (hst p rfl).1 h.1) hb
      rw [List.nil_append, decodeFrom_some_of_not hnot, hb']
      rfl
  | cons a x ih =>
    obtain ⟨front, next, hnext, heq⟩ := exists_decodeFrom_cons hst a
    rw [List.cons_append, heq, heq, ih hnext, List.append_assoc]

theorem decode_append_ascii {b : UInt8} (hb : b < 0x80) (x y : Bytes) :
    decode (x ++ b :: y) = decode x ++ .ofNat b.toNat :: decode y :=
  decodeFrom_append_ascii hb x y sound_none

/-- The ASCII bytes of encoded text are its ASCII characters. -/
theorem mem_encode_iff {b : UInt8} (hb : b < 0x80) {s : List Char} :
    b ∈ encode s ↔ .ofNat b.toNat ∈ s := by
  constructor
  · intro hmem
    obtain ⟨x, y, hxy⟩ := List.append_of_mem hmem
    have hdecode := decode_append_ascii hb x y
    rw [← hxy, decode_encode] at hdecode
    rw [hdecode]
    exact List.mem_append_right _ List.mem_cons_self
  · intro hmem
    have hascii : ∀ n < 0x80, UInt8.ofNat n ∈ String.utf8EncodeChar (.ofNat n) := by decide
    have hbyte := hascii b.toNat (UInt8.lt_iff_toNat_lt.1 hb)
    rw [UInt8.ofNat_toNat] at hbyte
    exact List.mem_flatMap_of_mem hmem hbyte

/-- A character under way adds one character at most. -/
theorem length_decodeFrom_le {st : Option Pending} (hst : Sound st) (r : Bytes) :
    (decodeFrom st r).length ≤ (decodeFrom st []).length + (decode r).length := by
  cases st with
  | none => exact Nat.le_add_left _ _
  | some p =>
    induction r generalizing p with
    | nil => exact Nat.le_add_right _ _
    | cons b r ih =>
      by_cases h : p.lo ≤ b ∧ b ≤ p.hi
      · have hb : begin b = .inl replacement :=
          begin_of_continuation (UInt8.le_trans (hst p rfl).1 h.1)
            (UInt8.le_trans h.2 (hst p rfl).2)
        rw [decode, decodeFrom_of_inl hb, decodeFrom_some_of_le h]
        split_ifs
        · exact Nat.le_add_left _ _
        · exact Nat.le_succ_of_le (ih _ (sound_default _ _))
      · rw [decodeFrom_some_of_not h, List.length_cons, Nat.add_comm]
        exact Nat.le_refl _

theorem length_decode_cons_le (b : UInt8) (r : Bytes) :
    (decode (b :: r)).length ≤ (decode r).length + 1 := by
  cases h : begin b with
  | inl c =>
    rw [decode, decodeFrom_of_inl h]
    exact Nat.le_refl _
  | inr p =>
    rw [decode, decodeFrom_of_inr h, Nat.add_comm]
    exact length_decodeFrom_le (sound_of_begin h) r

/-! ## Escapes -/

theorem unescape_cons_of_ne {b : UInt8} (hb : b ≠ 0x25) (r : Bytes) :
    unescape (b :: r) = b :: unescape r := by
  match r with
  | [] => rfl
  | [_] => rfl
  | _ :: _ :: _ => rw [unescape, if_neg hb]

theorem unescape_escape {h l x y : UInt8} (hx : hexDigit? h = some x) (hy : hexDigit? l = some y)
    (r : Bytes) : unescape (0x25 :: h :: l :: r) = (x * 16 + y) :: unescape r := by
  rw [unescape, if_pos rfl, hx, hy]

theorem unescape_percent_of_not {h l : UInt8}
    (hno : ∀ x y, hexDigit? h = some x → hexDigit? l = some y → False) (r : Bytes) :
    unescape (0x25 :: h :: l :: r) = 0x25 :: unescape (h :: l :: r) := by
  rw [unescape, if_pos rfl]
  split
  · next x y hx hy => exact (hno x y hx hy).elim
  · rfl

theorem unescape_append_of_not_mem {x : Bytes} (hx : 0x25 ∉ x) (y : Bytes) :
    unescape (x ++ y) = x ++ unescape y := by
  induction x with
  | nil => rfl
  | cons b x ih =>
    obtain ⟨hb, hx⟩ := not_or.1 (mt List.mem_cons.2 hx)
    rw [List.cons_append, unescape_cons_of_ne (Ne.symm hb), ih hx]
    rfl

/-- A byte that is neither a percent sign nor a digit belongs to no escape. -/
theorem unescape_append_cons {b : UInt8} (hb : b ≠ 0x25) (hdigit : hexDigit? b = none)
    (x y : Bytes) : unescape (x ++ b :: y) = unescape x ++ b :: unescape y := by
  have hlone : ∀ a : UInt8, unescape (a :: b :: y) = a :: b :: unescape y := by
    intro a
    match y with
    | [] => rfl
    | c :: y =>
      rw [unescape, hdigit, unescape_cons_of_ne hb]
      split_ifs <;> rfl
  fun_induction unescape x with
  | case1 => exact unescape_cons_of_ne hb y
  | case2 a => exact hlone a
  | case3 a c =>
    show unescape (a :: c :: b :: y) = a :: c :: b :: unescape y
    rw [unescape, hdigit, hlone]
    split_ifs
    · split <;> simp_all
    · rfl
  | case4 h l r x y hy hx ih =>
    simp only [List.cons_append] at ih ⊢
    rw [unescape_escape hx hy, ih]
  | case5 h l r hno ih =>
    simp only [List.cons_append] at ih ⊢
    rw [unescape_percent_of_not hno, ih]
  | case6 a h l r ha ih =>
    simp only [List.cons_append] at ih ⊢
    rw [unescape_cons_of_ne ha, ih]

theorem lt_of_hexDigit? {b x : UInt8} (h : hexDigit? b = some x) : b < 0x80 := by
  unfold hexDigit? at h
  split_ifs at h with h1 h2 h3
  · exact UInt8.lt_of_le_of_lt h1.2 (by decide)
  · exact UInt8.lt_of_le_of_lt h2.2 (by decide)
  · exact UInt8.lt_of_le_of_lt h3.2 (by decide)

/-- Replacing escapes never makes for more characters. -/
theorem length_decodeFrom_unescape_le {st : Option Pending} (hst : Sound st) (r : Bytes) :
    (decodeFrom st (unescape r)).length ≤ (decodeFrom st r).length := by
  fun_induction unescape r generalizing st with
  | case1 => exact Nat.le_refl _
  | case2 => exact Nat.le_refl _
  | case3 => exact Nat.le_refl _
  | case4 h l r x y hy hx ih =>
    -- the escape ends the character under way and reads as three more, where the byte in its place
    -- adds one at most
    have hpercent := decodeFrom_append_ascii (b := 0x25) (by decide) [] (h :: l :: r) hst
    have hh := decode_append_ascii (lt_of_hexDigit? hx) [] (l :: r)
    have hl := decode_append_ascii (lt_of_hexDigit? hy) [] r
    rw [List.nil_append] at hpercent hh hl
    rw [hpercent, hh, hl]
    have hbyte := length_decodeFrom_le hst ((x * 16 + y) :: unescape r)
    have hcons := length_decode_cons_le (x * 16 + y) (unescape r)
    have hrest : (decode (unescape r)).length ≤ (decode r).length := ih sound_none
    simp only [List.length_append, List.length_cons]
    omega
  | case5 h l r hno ih =>
    obtain ⟨front, next, hnext, heq⟩ := exists_decodeFrom_cons hst 0x25
    rw [heq, heq, List.length_append, List.length_append]
    exact Nat.add_le_add_left (ih hnext) _
  | case6 a h l r ha ih =>
    obtain ⟨front, next, hnext, heq⟩ := exists_decodeFrom_cons hst a
    rw [heq, heq, List.length_append, List.length_append]
    exact Nat.add_le_add_left (ih hnext) _

/-! ## Text with escapes -/

/-- The text that `s` stands for. -/
def unescapeChars (s : List Char) : List Char := decode (unescape (encode s))

theorem percent_not_mem_encode {s : List Char} (hs : '%' ∉ s) : 0x25 ∉ encode s :=
  mt (mem_encode_iff (by decide)).1 hs

theorem unescapeChars_append_of_not_mem {s : List Char} (hs : '%' ∉ s) (t : List Char) :
    unescapeChars (s ++ t) = s ++ unescapeChars t := by
  rw [unescapeChars, encode_append, unescape_append_of_not_mem (percent_not_mem_encode hs),
    decode_encode_append]
  rfl

/-- What a slash separates is read apart. -/
theorem unescapeChars_append_slash (s t : List Char) :
    unescapeChars (s ++ '/' :: t) = unescapeChars s ++ '/' :: unescapeChars t := by
  have hslash : encode ('/' :: t) = 0x2F :: encode t := encode_cons '/' t
  rw [unescapeChars, encode_append, hslash,
    unescape_append_cons (by decide) (by decide), decode_append_ascii (by decide)]
  rfl

theorem length_unescapeChars_le (s : List Char) : (unescapeChars s).length ≤ s.length := by
  have hle := length_decodeFrom_unescape_le sound_none (encode s)
  rwa [← decode, ← decode, decode_encode] at hle

end Gateway.Text
