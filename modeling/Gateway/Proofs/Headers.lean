import Gateway.Proofs.Mounting
import Mathlib.Data.List.Forall2

/-!
Headers among the variables of a request. A variable holds the values of all headers stored under it, in
their order. What is read under a name are the values of the headers with that name, however it is
spelled, except of the two that are stored under bare names.
-/
namespace Gateway

namespace CgiRequest

/-! ## Values in one variable -/

/-- Values as one text, which there is only if there is a value. -/
def joined : List String → Option String
  | [] => none
  | vs => some (",".intercalate vs)

theorem joined_of_ne_nil {vs : List String} (h : vs ≠ []) :
    joined vs = some (",".intercalate vs) := by
  cases vs with
  | nil => contradiction
  | cons v vs => rfl

theorem isSome_joined {vs : List String} : (joined vs).isSome ↔ vs ≠ [] := by
  cases vs with
  | nil => simp [joined]
  | cons v vs => simp [joined]

theorem joined_cons_cons (v w : String) (vs : List String) :
    joined (v :: w :: vs) = joined ((v ++ "," ++ w) :: vs) := rfl

theorem get?_addHeader_stored (r : CgiRequest) (name value key : String) :
    (r.addHeader name value).get? key =
      if storedVariable name = key then joined ((r.get? key).toList ++ [value])
      else r.get? key := by
  unfold addHeader
  dsimp only
  by_cases hkey : storedVariable name = key
  · subst hkey
    rw [if_pos rfl]
    split
    · next old hold => rw [get?_set, if_pos rfl, hold]; rfl
    · next hnone => rw [get?_set, if_pos rfl, hnone]; rfl
  · rw [if_neg hkey]
    split <;> rw [get?_set, if_neg (Ne.symm hkey)]

/-- A variable goes on from what it held with the values of the headers stored in it. -/
theorem get?_addHeaders_stored (r : CgiRequest) (fs : List Field) (key : String) :
    (r.addHeaders fs).get? key =
      joined ((r.get? key).toList ++ (fs.filter fun f => storedVariable f.1 = key).map (·.2)) := by
  induction fs generalizing r with
  | nil => cases h : r.get? key <;> simpa [addHeaders, joined] using h
  | cons f fs ih =>
    have hstep : (r.addHeaders (f :: fs)).get? key = ((r.addHeader f.1 f.2).addHeaders fs).get? key :=
      rfl
    rw [hstep, ih, get?_addHeader_stored]
    by_cases hkey : storedVariable f.1 = key
    · rw [if_pos hkey, List.filter_cons_of_pos (by simpa using hkey), List.map_cons]
      cases r.get? key with
      | none => rfl
      | some old => exact (joined_cons_cons old f.2 _).symm
    · rw [if_neg hkey, List.filter_cons_of_neg (by simpa using hkey)]

/-- Characters of the values, and of a comma behind each. -/
def weight : List String → Nat
  | [] => 0
  | v :: vs => v.length + 1 + weight vs

theorem eq_nil_of_weight_eq_zero {vs : List String} (h : weight vs = 0) : vs = [] := by
  cases vs with
  | nil => rfl
  | cons v vs =>
    rw [weight] at h
    omega

/-- What is kept and what is left out weigh as much as all. -/
theorem weight_filter_add_weight_filter_not (p : Field → Bool) (fs : List Field) :
    weight ((fs.filter p).map (·.2)) + weight ((fs.filter fun f => !p f).map (·.2)) =
      weight (fs.map (·.2)) := by
  induction fs with
  | nil => rfl
  | cons f fs ih => cases hp : p f <;> simp [hp, weight] <;> omega

theorem weight_cons_eq_length (v : String) (vs : List String) :
    weight (v :: vs) = (",".intercalate (v :: vs)).length + 1 := by
  induction vs generalizing v with
  | nil => simp [weight]
  | cons w vs ih =>
    have hjoin : ",".intercalate (v :: w :: vs) = ",".intercalate ((v ++ "," ++ w) :: vs) := rfl
    have hweight : weight (v :: w :: vs) = weight ((v ++ "," ++ w) :: vs) := by
      have hcomma : ",".length = 1 := rfl
      simp only [weight, String.length_append]
      omega
    rw [hweight, hjoin, ih]

/-- The text of values tells how many characters and commas went into it. -/
theorem weight_eq_of_joined_eq {vs ws : List String} (h : joined vs = joined ws) :
    weight vs = weight ws := by
  cases vs with
  | nil =>
    cases ws with
    | nil => rfl
    | cons w ws => nomatch h
  | cons v vs =>
    cases ws with
    | nil => nomatch h
    | cons w ws =>
      have htext : ",".intercalate (v :: vs) = ",".intercalate (w :: ws) := Option.some.inj h
      rw [weight_cons_eq_length, weight_cons_eq_length, htext]

/-- Values that are left out show in the text. -/
theorem joined_filter_eq_iff (p : Field → Bool) (fs : List Field) :
    joined ((fs.filter p).map (·.2)) = joined (fs.map (·.2)) ↔ ∀ f ∈ fs, p f := by
  constructor
  · intro h
    have hsplit := weight_filter_add_weight_filter_not p fs
    have hkept := weight_eq_of_joined_eq h
    have hnone : (fs.filter fun f => !p f).map (·.2) = [] := eq_nil_of_weight_eq_zero (by omega)
    rw [List.map_eq_nil_iff, List.filter_eq_nil_iff] at hnone
    intro f hf
    simpa using hnone f hf
  · intro h
    rw [List.filter_eq_self.2 h]

/-! ## Names -/

/-- Characters that names of headers do not tell apart: letters of either case, and the hyphen and
the underscore. -/
def AlikeChar (c d : Char) : Prop :=
  c.toUpper = d.toUpper ∨ (c = '-' ∨ c = '_') ∧ (d = '-' ∨ d = '_')

/-- Names of one header. -/
def Alike (m n : String) : Prop := List.Forall₂ AlikeChar m.toList n.toList

/-- The headers that are stored without `HTTP_` in front. -/
def IsBare (name : String) : Prop := name.toLower = "content-type" ∨ name.toLower = "content-length"

/-- Only a letter is changed by upper case. -/
theorem eq_of_toUpper_eq {c d : Char} (hd : d.isUpper = false) (h : c.toUpper = d) : c = d := by
  unfold Char.toUpper at h
  split at h
  · next hlower =>
    have hval : (c.val + ('A'.val - 'a'.val)).toNat = d.val.toNat := congrArg (·.val.toNat) h
    have hshift : ('A'.val - 'a'.val).toNat = 4294967264 := by decide
    have hsmall : ¬ ('A'.val ≤ d.val ∧ d.val ≤ 'Z'.val) := of_decide_eq_false hd
    rw [UInt32.toNat_add, hshift] at hval
    simp only [UInt32.le_iff_toNat_le, UInt32.reduceToNat, Char.reduceVal] at hsmall hlower
    omega
  · exact h

/-- How a character of a name is spelled in a variable. -/
def spelledChar (c : Char) : Char := if c = '-' then '_' else c.toUpper

theorem spelledChar_eq_iff (c d : Char) : spelledChar c = spelledChar d ↔ AlikeChar c d := by
  have hhyphen : ∀ {e : Char}, e.toUpper = '-' ↔ e = '-' :=
    ⟨eq_of_toUpper_eq (by decide), by rintro rfl; rfl⟩
  have hunderscore : ∀ {e : Char}, e.toUpper = '_' ↔ e = '_' :=
    ⟨eq_of_toUpper_eq (by decide), by rintro rfl; rfl⟩
  unfold spelledChar AlikeChar
  by_cases hc : c = '-' <;> by_cases hd : d = '-'
  · simp [hc, hd]
  · have hhyphen' : '-' = d.toUpper ↔ d = '-' := eq_comm.trans hhyphen
    have hunderscore' : '_' = d.toUpper ↔ d = '_' := eq_comm.trans hunderscore
    simp [hc, hd, hunderscore', hhyphen']
  · simp [hc, hd, hunderscore, hhyphen]
  · simp only [hc, hd, if_false, false_or]
    refine ⟨.inl, fun h => h.elim id ?_⟩
    rintro ⟨rfl, rfl⟩
    rfl

theorem variableSpelling_eq_iff (m n : String) :
    variableSpelling m = variableSpelling n ↔ Alike m n := by
  have hspelling : ∀ name, (variableSpelling name).toList = name.toList.map spelledChar := fun _ =>
    String.toList_ofList
  rw [← String.toList_inj, hspelling, hspelling, ← List.forall₂_eq_eq_eq,
    List.forall₂_map_left_iff, List.forall₂_map_right_iff]
  simp only [spelledChar_eq_iff, Alike]

theorem storedVariable_eq_headerVariable_iff (name n : String) :
    storedVariable name = headerVariable n ↔ Alike name n ∧ ¬ IsBare name := by
  have hbare : ∀ key : String, key.toList.head? = some 'C' → key ≠ headerVariable n := by
    rintro key hkey rfl
    rw [headerVariable, String.toList_append] at hkey
    have hhead : 'H' = 'C' := Option.some.inj hkey
    exact absurd hhead (by decide)
  have hheader : headerVariable name = headerVariable n ↔ Alike name n := by
    rw [← variableSpelling_eq_iff, headerVariable, headerVariable, ← String.toList_inj,
      String.toList_append, String.toList_append, List.append_cancel_left_eq, String.toList_inj]
  unfold storedVariable IsBare
  split
  · next htype => simp [htype, hbare contentType (by decide)]
  · next htype =>
    split
    · next hlength => simp [hlength, hbare contentLength (by decide)]
    · next hlength => simp [htype, hlength, hheader]

/-! ## Reading -/

instance (m n : String) : Decidable (Alike m n) :=
  decidable_of_iff _ (variableSpelling_eq_iff m n)

instance (name : String) : Decidable (IsBare name) :=
  inferInstanceAs (Decidable (_ ∨ _))

/-- Added headers read back under any spelling of their name, with their values in order, except the type
and the length of the content, which are stored where reading by name does not look. -/
theorem header?_addHeaders {r : CgiRequest} {n : String} (h : r.header? n = none) (fs : List Field) :
    let given := fs.filter fun f => Alike f.1 n
    (r.addHeaders fs).header? n = joined ((given.filter fun f => ¬ IsBare f.1).map (·.2)) ∧
      ((r.addHeaders fs).header? n = joined (given.map (·.2)) ↔
        ∀ f ∈ fs, Alike f.1 n → ¬ IsBare f.1) := by
  intro given
  have hstored : (fs.filter fun f => storedVariable f.1 = headerVariable n) =
      given.filter fun f => ¬ IsBare f.1 := by
    rw [List.filter_filter]
    congr 1
    funext f
    simp [storedVariable_eq_headerVariable_iff, Bool.and_comm]
  have hread : (r.addHeaders fs).header? n =
      joined ((given.filter fun f => ¬ IsBare f.1).map (·.2)) := by
    rw [header?, get?_addHeaders_stored, hstored]
    rw [header?] at h
    rw [h]
    rfl
  refine ⟨hread, ?_⟩
  rw [hread, joined_filter_eq_iff]
  simp [given]

/-- A name in three spellings, with other headers in between. -/
theorem header?_addHeaders_respelled :
    let r := ofPath "GET" "/"
    let fs := [("X-Forwarded-For", "10.0.0.1"), ("X-Forwarded", "no"), ("Content-Type", "text/html"),
      ("x_forwarded-for", ""), ("X-FORWARDED_FOR", "a,b")]
    r.header? "x-Forwarded-For" = none ∧ (∀ f ∈ fs, Alike f.1 "x-Forwarded-For" → ¬ IsBare f.1) ∧
      (r.addHeaders fs).header? "x-Forwarded-For" = some "10.0.0.1,,a,b" := by
  intro r fs
  have hnone : r.header? "x-Forwarded-For" = none := by decide
  have hnames : ∀ f ∈ fs, Alike f.1 "x-Forwarded-For" → ¬ IsBare f.1 := by decide +kernel
  exact ⟨hnone, hnames, ((header?_addHeaders hnone fs).2.2 hnames).trans (by decide +kernel)⟩

/-- The type of the content is there under its own variable, and reading it by name gives nothing. -/
theorem not_header?_addHeader_bare :
    let r := (ofPath "POST" "/").addHeader "Content-Type" "text/html"
    (ofPath "POST" "/").header? "Content-Type" = none ∧ Alike "Content-Type" "Content-Type" ∧
      r.get? contentType = some "text/html" ∧ r.header? "Content-Type" = none := by
  decide +kernel

end CgiRequest
end Gateway
