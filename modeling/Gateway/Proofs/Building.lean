import Gateway.Http.Response
import Gateway.Proofs.Decoding
import Mathlib.Logic.Basic
import Mathlib.Tactic.ByContra

/-!
Responses as they are built. Either every field that is given is sent, each name with all its values in
order, or one of them cannot be sent, and then none of them is and nothing of the body.
-/
namespace Gateway.Http

/-! ## Letter case -/

theorem isUpper_iff {c : Char} : c.isUpper ↔ 0x41 ≤ c.toNat ∧ c.toNat ≤ 0x5A := by
  unfold Char.isUpper
  rw [decide_eq_true_iff, ge_iff_le, UInt32.le_iff_toNat_le, UInt32.le_iff_toNat_le]
  rfl

theorem toNat_toLower {c : Char} (h : c.isUpper) : c.toLower.toNat = c.toNat + 0x20 := by
  have hrange : c.val ≥ 'A'.val ∧ c.val ≤ 'Z'.val := of_decide_eq_true h
  have hbound := isUpper_iff.1 h
  have hval : c.val.toNat = c.toNat := rfl
  have hshift : ('a'.val - 'A'.val).toNat = 0x20 := by decide
  unfold Char.toLower
  rw [dif_pos hrange]
  show (c.val + ('a'.val - 'A'.val)).toNat = _
  rw [UInt32.toNat_add, hshift, hval]
  omega

theorem toLower_of_not_isUpper {c : Char} (h : ¬ c.isUpper) : c.toLower = c := by
  unfold Char.toLower
  exact dif_neg (of_decide_eq_false (Bool.eq_false_iff.2 h))

theorem not_isUpper_toLower (c : Char) : ¬ c.toLower.isUpper := by
  by_cases h : c.isUpper
  · have hlower := toNat_toLower h
    have hbound := isUpper_iff.1 h
    rw [isUpper_iff, hlower]
    omega
  · rwa [toLower_of_not_isUpper h]

theorem toLower_toLower (s : String) : s.toLower.toLower = s.toLower := by
  apply String.toList_inj.1
  unfold String.toLower
  rw [String.toList_map, String.toList_map, List.map_map]
  apply List.map_congr_left
  intro c _
  exact toLower_of_not_isUpper (not_isUpper_toLower c)

/-- A character of a token stays one in lower case. -/
theorem isTokenChar_toLower {c : Char} (h : isTokenChar c) : isTokenChar c.toLower := by
  by_cases hupper : c.isUpper
  · have hlower := toNat_toLower hupper
    have hbound := isUpper_iff.1 hupper
    have hletter : c.toLower.isLower := by
      unfold Char.isLower
      rw [Bool.and_eq_true, decide_eq_true_iff, decide_eq_true_iff, ge_iff_le,
        UInt32.le_iff_toNat_le, UInt32.le_iff_toNat_le]
      show 0x61 ≤ c.toLower.toNat ∧ c.toLower.toNat ≤ 0x7A
      omega
    unfold isTokenChar Char.isAlphanum Char.isAlpha
    simp [hletter]
  · rwa [toLower_of_not_isUpper hupper]

/-! ## What a value may hold -/

/-- A control character, of which values may only hold the tab. -/
def IsControl (c : Char) : Prop := c.toNat < 0x20 ∧ c ≠ '\t' ∨ c.toNat = 0x7F

instance (c : Char) : Decidable (IsControl c) := inferInstanceAs (Decidable (_ ∨ _))

theorem isValueByte_of_le {b : UInt8} (h : 0x80 ≤ b) : isValueByte b := by
  have hlow : 0x20 ≤ b := UInt8.le_trans (by decide) h
  have hne : b ≠ 0x7F := by
    rintro rfl
    exact absurd h (by decide)
  simp [isValueByte, hlow, hne]

theorem isValueByte_ofNat_iff : ∀ n < 0x80, isValueByte (.ofNat n) ↔ ¬ IsControl (.ofNat n) := by
  decide

/-- Values are looked at byte by byte. The bytes that are refused are all of ASCII, so this refuses the
control characters and lets all text beyond ASCII through. -/
theorem isFieldValue_utf8_iff (s : String) :
    isFieldValue (Text.utf8 s) ↔ ∀ c ∈ s.toList, ¬ IsControl c := by
  unfold isFieldValue
  rw [List.all_eq_true]
  constructor
  · intro h c hc hcontrol
    have hsmall : c.toNat < 0x80 := by
      rcases hcontrol with ⟨hlow, -⟩ | hdelete
      · omega
      · omega
    have hbyte : (UInt8.ofNat c.toNat).toNat = c.toNat := Text.toNat_ofNat_of_lt (by omega)
    have hascii : UInt8.ofNat c.toNat < 0x80 := by
      rw [UInt8.lt_iff_toNat_lt, hbyte]
      exact hsmall
    have hmem : UInt8.ofNat c.toNat ∈ Text.utf8 s := by
      apply (Text.mem_encode_iff hascii).2
      rwa [hbyte, Char.ofNat_toNat]
    have hvalid := (isValueByte_ofNat_iff c.toNat hsmall).1 (h _ hmem)
    rw [Char.ofNat_toNat] at hvalid
    exact hvalid hcontrol
  · intro h b hb
    by_cases hascii : b < 0x80
    · have hchar := h _ ((Text.mem_encode_iff hascii).1 hb)
      have hvalid := (isValueByte_ofNat_iff b.toNat (UInt8.lt_iff_toNat_lt.1 hascii)).2 hchar
      rwa [UInt8.ofNat_toNat] at hvalid
    · exact isValueByte_of_le (UInt8.not_lt.1 hascii)

theorem wireField_of_valid {name : String} {value : Bytes} (hname : isFieldName name)
    (hvalue : isFieldValue value) : wireField name value = .ok (name.toLower, value) := by
  rw [wireField, if_neg (by simp [hname]), if_neg (by simp [hvalue])]

theorem valid_of_wireField_eq_ok {name : String} {value : Bytes} {field : WireField}
    (h : wireField name value = .ok field) : isFieldName name ∧ isFieldValue value := by
  unfold wireField at h
  split at h
  · contradiction
  · next hname =>
    split at h
    · contradiction
    · next hvalue =>
      rw [Bool.not_eq_true', Bool.not_eq_false] at hname hvalue
      exact ⟨hname, hvalue⟩

namespace Response

/-! ## The fields of a response -/

/-- What keeps a field from being sent: a name that is no token or too long, or a control character in
the value. -/
def IsUnsendable (f : Field) : Prop :=
  ¬ isToken f.1 ∨ maxFieldName < f.1.length ∨ ∃ c ∈ f.2.toList, IsControl c

instance (f : Field) : Decidable (IsUnsendable f) := inferInstanceAs (Decidable (_ ∨ _))

theorem isUnsendable_iff {f : Field} :
    IsUnsendable f ↔ ¬ (isFieldName f.1 ∧ isFieldValue (Text.utf8 f.2)) := by
  rw [isFieldValue_utf8_iff]
  unfold IsUnsendable isFieldName
  simp only [Bool.and_eq_true, decide_eq_true_eq, not_and_or, not_forall, not_not, Nat.not_le]
  rw [or_assoc]
  simp only [exists_prop]

/-- The field for the server is added: the server has a name, and no given field tells what serves. -/
def AddsServer (headers : List Field) (server : String) : Prop :=
  server ≠ "" ∧ ∀ f ∈ headers, f.1.toLower ≠ "server"

instance (headers : List Field) (server : String) : Decidable (AddsServer headers server) :=
  inferInstanceAs (Decidable (_ ∧ _))

theorem withServer_eq (headers : List Field) (server : String) :
    withServer headers server =
      if AddsServer headers server then headers ++ [(serverField, server)] else headers := by
  have hgiven : (namesServer headers || server.isEmpty) ↔ ¬ AddsServer headers server := by
    unfold AddsServer namesServer
    simp only [Bool.or_eq_true, List.any_eq_true, beq_iff_eq, String.isEmpty_iff, not_and_or,
      not_forall, not_not, exists_prop]
    exact or_comm
  unfold withServer
  by_cases h : AddsServer headers server
  · rw [if_pos h, if_neg (mt hgiven.1 (not_not_intro h))]
  · rw [if_neg h, if_pos (hgiven.2 h)]

/-- Some field keeps the response from being built, the one for the server included. -/
def Unbuildable (headers : List Field) (server : String) : Prop :=
  (∃ f ∈ headers, IsUnsendable f) ∨ AddsServer headers server ∧ ∃ c ∈ server.toList, IsControl c

theorem unbuildable_iff {headers : List Field} {server : String} :
    Unbuildable headers server ↔ ∃ f ∈ withServer headers server, IsUnsendable f := by
  have hserver : IsUnsendable (serverField, server) ↔ ∃ c ∈ server.toList, IsControl c := by
    have hname : isToken serverField := by decide
    have hlength : ¬ maxFieldName < serverField.length := by decide
    simp only [IsUnsendable, hname, hlength, not_true_eq_false, false_or]
  unfold Unbuildable
  rw [withServer_eq]
  split
  · next h => simp [h, hserver]
  · next h => simp [h]

/-- What can be built has fields of which every one can be sent. -/
theorem valid_of_not_unbuildable {headers : List Field} {server : String}
    (h : ¬ Unbuildable headers server) :
    ∀ f ∈ withServer headers server, isFieldName f.1 ∧ isFieldValue (Text.utf8 f.2) := by
  intro f hf
  by_contra hbad
  exact h (unbuildable_iff.2 ⟨f, hf, isUnsendable_iff.2 hbad⟩)

theorem mapM_wireField {fields : List Field}
    (h : ∀ f ∈ fields, isFieldName f.1 ∧ isFieldValue (Text.utf8 f.2)) :
    fields.mapM (fun f => wireField f.1 (Text.utf8 f.2)) =
      .ok (fields.map fun f => (f.1.toLower, Text.utf8 f.2)) := by
  induction fields with
  | nil => rfl
  | cons f fields ih =>
    obtain ⟨⟨hname, hvalue⟩, hrest⟩ := List.forall_mem_cons.1 h
    rw [List.mapM_cons, wireField_of_valid hname hvalue, ih hrest]
    rfl

/-- The first field that cannot be sent keeps all of them from it. -/
theorem exists_mapM_wireField_eq_error {fields : List Field} (h : ∃ f ∈ fields, IsUnsendable f) :
    ∃ e, fields.mapM (fun f => wireField f.1 (Text.utf8 f.2)) = .error e := by
  induction fields with
  | nil =>
    obtain ⟨f, hf, -⟩ := h
    exact absurd hf List.not_mem_nil
  | cons f fields ih =>
    rw [List.mapM_cons]
    cases hf : wireField f.1 (Text.utf8 f.2) with
    | error e => exact ⟨e, rfl⟩
    | ok field =>
      have hfirst : ¬ IsUnsendable f := by
        rw [isUnsendable_iff, not_not]
        exact valid_of_wireField_eq_ok hf
      have hrest : ∃ g ∈ fields, IsUnsendable g := by
        obtain ⟨g, hg, hbad⟩ := h
        rcases List.mem_cons.1 hg with rfl | hg
        · exact absurd hbad hfirst
        · exact ⟨g, hg, hbad⟩
      obtain ⟨e, he⟩ := ih hrest
      exact ⟨e, by rw [he]; rfl⟩

theorem exists_ofParts_eq_error (status : Nat) {headers : List Field} (body : Bytes)
    {server : String} (h : Unbuildable headers server) :
    ∃ e, ofParts status headers body server = .error e := by
  obtain ⟨e, he⟩ := exists_mapM_wireField_eq_error (unbuildable_iff.1 h)
  refine ⟨e, ?_⟩
  unfold ofParts
  rw [he]
  rfl

theorem ofParts_of_valid (status : Nat) {headers : List Field} (body : Bytes) {server : String}
    (h : ∀ f ∈ withServer headers server, isFieldName f.1 ∧ isFieldValue (Text.utf8 f.2)) :
    ofParts status headers body server =
      .ok ⟨status, (withServer headers server).map fun f => (f.1.toLower, Text.utf8 f.2), body⟩ := by
  unfold ofParts
  rw [mapM_wireField h]
  rfl

theorem build_of_unbuildable (status : Nat) {headers : List Field} (body : Bytes) {server : String}
    (h : Unbuildable headers server) : build status headers body server = serverError := by
  obtain ⟨e, he⟩ := exists_ofParts_eq_error status body h
  unfold build
  rw [he]

/-- A response of which every field can be sent is built as it is given. -/
theorem build_of_valid (status : Nat) {headers : List Field} (body : Bytes) {server : String}
    (h : ∀ f ∈ withServer headers server, isFieldName f.1 ∧ isFieldValue (Text.utf8 f.2)) :
    build status headers body server =
      ⟨status, (withServer headers server).map fun f => (f.1.toLower, Text.utf8 f.2), body⟩ := by
  unfold build
  rw [ofParts_of_valid status body h]

theorem buildNotices_ne_nil_iff (status : Nat) (headers : List Field) (body : Bytes)
    (server : String) :
    buildNotices status headers body server ≠ [] ↔ Unbuildable headers server := by
  unfold buildNotices
  by_cases h : Unbuildable headers server
  · obtain ⟨e, he⟩ := exists_ofParts_eq_error status body h
    rw [he]
    exact iff_of_true (List.cons_ne_nil _ _) h
  · rw [ofParts_of_valid status body (valid_of_not_unbuildable h)]
    exact iff_of_false (not_not_intro rfl) h

/-! ## What a response holds -/

/-- The values of a field in order, whatever the letter case of its name. -/
def values (r : Response) (name : String) : List Bytes :=
  (r.headers.filter fun f => f.1.toLower = name.toLower).map (·.2)

theorem values_lowered (status : Nat) (fields : List Field) (body : Bytes) (name : String) :
    values ⟨status, fields.map fun f => (f.1.toLower, Text.utf8 f.2), body⟩ name =
      (fields.filter fun f => f.1.toLower = name.toLower).map fun f => Text.utf8 f.2 := by
  have hname : ((fun f : WireField => decide (f.1.toLower = name.toLower)) ∘
      fun f : Field => (f.1.toLower, Text.utf8 f.2)) =
        fun f : Field => decide (f.1.toLower = name.toLower) := by
    funext f
    simp only [Function.comp_apply, toLower_toLower]
  unfold values
  rw [List.filter_map, List.map_map, hname]
  rfl

theorem filter_withServer (headers : List Field) (server name : String) :
    (withServer headers server).filter (fun f => f.1.toLower = name.toLower) =
      headers.filter (fun f => f.1.toLower = name.toLower) ++
        if AddsServer headers server ∧ name.toLower = "server" then [(serverField, server)] else [] := by
  have hlower : serverField.toLower = "server" := by decide +kernel
  rw [withServer_eq]
  by_cases hadds : AddsServer headers server
  · rw [if_pos hadds, List.filter_append]
    by_cases hname : name.toLower = "server"
    · rw [if_pos ⟨hadds, hname⟩, List.filter_cons_of_pos (by simp [hlower, hname])]
      rfl
    · rw [if_neg (mt And.right hname), List.filter_cons_of_neg (by simp [hlower, Ne.symm hname])]
      rfl
  · rw [if_neg hadds, if_neg (mt And.left hadds), List.append_nil]

/-- A field that can be sent holds no line break: its name is a token, also in lower case, and its value
holds no control character but the tab. -/
theorem no_lineBreak {f : Field} (h : ¬ IsUnsendable f) :
    '\r' ∉ f.1.toLower.toList ∧ '\n' ∉ f.1.toLower.toList ∧
      0x0D ∉ Text.utf8 f.2 ∧ 0x0A ∉ Text.utf8 f.2 := by
  obtain ⟨hname, hvalue⟩ := not_not.1 (isUnsendable_iff.not.1 h)
  have hchar : ∀ c ∈ f.1.toLower.toList, isTokenChar c := by
    intro c hc
    have htoken : ∀ d ∈ f.1.toList, isTokenChar d := by
      unfold isFieldName isToken at hname
      simp only [Bool.and_eq_true, List.all_eq_true] at hname
      exact hname.1.2
    unfold String.toLower at hc
    rw [String.toList_map, List.mem_map] at hc
    obtain ⟨d, hd, rfl⟩ := hc
    exact isTokenChar_toLower (htoken d hd)
  have hbyte : ∀ b ∈ Text.utf8 f.2, isValueByte b := List.all_eq_true.1 hvalue
  refine ⟨fun hmem => ?_, fun hmem => ?_, fun hmem => ?_, fun hmem => ?_⟩
  · exact absurd (hchar _ hmem) (by decide)
  · exact absurd (hchar _ hmem) (by decide)
  · exact absurd (hbyte _ hmem) (by decide)
  · exact absurd (hbyte _ hmem) (by decide)

/-- A response holds its status, its body and all fields with all their values, or else it is the fixed one
and that is noted. No line break gets into its fields either way. -/
theorem build_complete_or_fixed (status : Nat) (headers : List Field) (body : Bytes)
    (server : String) :
    let response := build status headers body server
    (Unbuildable headers server → response = serverError) ∧
      (¬ Unbuildable headers server →
        response.status = status ∧ response.body = body ∧
        ∀ name, response.values name =
          ((headers.filter fun f => f.1.toLower = name.toLower).map fun f => Text.utf8 f.2) ++
            if AddsServer headers server ∧ name.toLower = "server" then [Text.utf8 server] else []) ∧
      (buildNotices status headers body server ≠ [] ↔ Unbuildable headers server) ∧
      ∀ f ∈ response.headers,
        '\r' ∉ f.1.toList ∧ '\n' ∉ f.1.toList ∧ 0x0D ∉ f.2 ∧ 0x0A ∉ f.2 := by
  intro response
  refine ⟨build_of_unbuildable status body, fun h => ?_,
    buildNotices_ne_nil_iff status headers body server, ?_⟩
  · have hbuilt : response = _ := build_of_valid status body (valid_of_not_unbuildable h)
    refine ⟨by rw [hbuilt], by rw [hbuilt], fun name => ?_⟩
    rw [hbuilt, values_lowered, filter_withServer, List.map_append]
    split
    · rfl
    · rfl
  · by_cases h : Unbuildable headers server
    · have hfixed : response = serverError := build_of_unbuildable status body h
      rw [hfixed]
      exact fun f hf => absurd hf List.not_mem_nil
    · have hbuilt : response = _ := build_of_valid status body (valid_of_not_unbuildable h)
      rw [hbuilt]
      intro f hf
      obtain ⟨g, hg, rfl⟩ := List.mem_map.1 hf
      apply no_lineBreak
      exact fun hbad => h (unbuildable_iff.2 ⟨g, hg, hbad⟩)

/-- Text beyond ASCII keeps no response from being built: a value may hold more than visible characters
of ASCII, spaces and tabs. -/
theorem build_ne_serverError_accented :
    let headers := [("X-Name", "é")]
    let response := build 200 headers (Text.utf8 "hi") "host"
    (∃ f ∈ headers, ∃ c ∈ f.2.toList, ¬ (0x20 ≤ c.toNat ∧ c.toNat < 0x7F ∨ c = '\t')) ∧
      response ≠ serverError ∧ response.values "x-name" = [Text.utf8 "é"] := by
  intro headers response
  refine ⟨⟨("X-Name", "é"), List.mem_singleton_self _, 'é', ?_, by decide⟩, ?_, ?_⟩
  · exact List.mem_singleton_self 'é'
  · decide +kernel
  · decide +kernel

end Response
end Gateway.Http
