import Gateway.Proofs.Agreement

/-!
Mount points below mount points. Taking one off and then another off what is left is taking off the one
that both make up. This goes for text and for bytes, and the root grows to the same text either way.
-/
namespace Gateway.Mount

/-- A text that starts with a slash and does not end with one, as mount points in normal form do. -/
structure IsPoint (mount : String) : Prop where
  head : mount.toList.head? = some '/'
  last : mount.toList.getLast? ≠ some '/'

instance (mount : String) : Decidable (IsPoint mount) :=
  decidable_of_iff (mount.toList.head? = some '/' ∧ mount.toList.getLast? ≠ some '/')
    ⟨fun h => ⟨h.1, h.2⟩, fun h => ⟨h.head, h.last⟩⟩

theorem IsPoint.ne_nil {mount : String} (h : IsPoint mount) : mount.toList ≠ [] := by
  intro hnil
  have hhead := h.head
  rw [hnil] at hhead
  contradiction

theorem IsPoint.ne_slash {mount : String} (h : IsPoint mount) : mount.toList ≠ ['/'] := by
  intro hslash
  have hlast := h.last
  rw [hslash] at hlast
  exact hlast rfl

/-- A text that ends in a mount point ends in no slash. -/
theorem IsPoint.dropSlashes_append {mount : String} (h : IsPoint mount) (s : List Char) :
    dropSlashes (s ++ mount.toList) = s ++ mount.toList := by
  rw [dropSlashes_eq_rdropWhile, Text.rdropWhile_eq_self_iff_getLast?,
    List.getLast?_append_of_ne_nil s h.ne_nil]
  intro c hc hslash
  obtain rfl := of_decide_eq_true hslash
  exact h.last hc

theorem isPoint_ofText {raw : String} (h : (ofText raw).isEnabled) : IsPoint (ofText raw).text := by
  constructor
  · obtain ⟨name, hname, -⟩ := exists_of_isEnabled h
    rw [hname]
    rfl
  · rw [ofText, toList_normalize]
    exact getLast?_normalizeChars_ne raw.toList

/-! ## Text and bytes -/

section Remainder

variable {α : Type} [BEq α] [LawfulBEq α] {slash : α} {a b : List α}

/-- A mount point of two parts comes off where the first part does and the second comes off the rest.
The second part starts with a slash, so the path never goes on behind the first without one. -/
theorem remainder_append_mount (ha : a ≠ []) (hhead : b.head? = some slash) (hb : b ≠ [slash])
    (path : List α) :
    remainder slash (a ++ b) path = (remainder slash a path).bind (remainder slash b) := by
  obtain ⟨name, rfl⟩ := List.head?_eq_some_iff.1 hhead
  have hne : slash :: name ≠ [] := List.cons_ne_nil slash name
  apply Option.ext
  intro rest
  rw [Option.bind_eq_some_iff, remainder_eq_some_iff]
  constructor
  · rintro ⟨-, ⟨rfl, rfl⟩ | ⟨r, rfl, rfl⟩⟩
    · refine ⟨slash :: name, remainder_append ha name, ?_⟩
      exact remainder_eq_some_iff.2 ⟨hne, .inl ⟨rfl, rfl⟩⟩
    · refine ⟨slash :: name ++ slash :: r, ?_, remainder_append hne r⟩
      rw [List.append_assoc]
      exact remainder_append ha (name ++ slash :: r)
  · rintro ⟨between, hfirst, hsecond⟩
    refine ⟨List.append_ne_nil_of_left_ne_nil ha _, ?_⟩
    rcases (remainder_eq_some_iff.1 hfirst).2 with ⟨-, rfl⟩ | ⟨r, rfl, rfl⟩
    · -- the slash that is left of the first part is too short for the second
      rcases (remainder_eq_some_iff.1 hsecond).2 with ⟨hslash, -⟩ | ⟨r, -, hslash⟩
      · exact absurd hslash.symm hb
      · have hlength := congrArg List.length hslash
        simp only [List.length_append, List.length_cons, List.length_nil] at hlength
        omega
    · rcases (remainder_eq_some_iff.1 hsecond).2 with ⟨hrest, rfl⟩ | ⟨r', rfl, hrest⟩
      · exact .inl ⟨by rw [hrest], rfl⟩
      · exact .inr ⟨r', rfl, by rw [hrest, List.append_assoc]⟩

end Remainder

section Nested

variable {a b : String}

theorem remainder_nested (ha : IsPoint a) (hb : IsPoint b) (path : List Char) :
    remainder '/' (a ++ b).toList path =
      (remainder '/' a.toList path).bind (remainder '/' b.toList) := by
  rw [String.toList_append]
  exact remainder_append_mount ha.ne_nil hb.head hb.ne_slash path

theorem remainder_utf8_nested (ha : IsPoint a) (hb : IsPoint b) (raw : Bytes) :
    remainder slashByte (Text.utf8 (a ++ b)) raw =
      (remainder slashByte (Text.utf8 a) raw).bind (remainder slashByte (Text.utf8 b)) := by
  have happend : Text.utf8 (a ++ b) = Text.utf8 a ++ Text.utf8 b := by
    unfold Text.utf8
    rw [String.toList_append, Text.encode_append]
  have hne : Text.utf8 a ≠ [] := fun h => ha.ne_nil (Text.encode_inj.1 h)
  have hslash : Text.utf8 b ≠ [slashByte] := fun h => hb.ne_slash (Text.encode_inj.1 h)
  have hhead : (Text.utf8 b).head? = some slashByte := by
    obtain ⟨name, hname⟩ := List.head?_eq_some_iff.1 hb.head
    rw [Text.utf8, hname, Text.encode_cons]
    rfl
  rw [happend]
  exact remainder_append_mount hne hhead hslash raw

/-- Both of two mount points come off a path if the one that they make up does, and leave the same. -/
theorem strip_strip_nested (ha : IsPoint a) (hb : IsPoint b) (path : String) :
    ((strip path (a ++ b)).isMatch ↔
        (strip path a).isMatch ∧ (strip (strip path a).path b).isMatch) ∧
      ((strip path (a ++ b)).isMatch →
        (strip (strip path a).path b).path = (strip path (a ++ b)).path) := by
  have hnested := remainder_nested ha hb (Path.rootedChars path.toList)
  simp only [isMatch_strip_iff_isSome]
  cases h : remainder '/' a.toList (Path.rootedChars path.toList) with
  | none =>
    rw [h, Option.bind_none] at hnested
    rw [hnested]
    simp
  | some between =>
    have hbetween : Path.rootedChars (strip path a).path.toList = between := by
      rw [rootedChars_of_isAbsolute (isAbsolute_strip path a), strip_eq_of_some h,
        String.toList_ofList]
    rw [h, Option.bind_some] at hnested
    rw [hnested, hbetween]
    refine ⟨by simp, fun hmatch => ?_⟩
    obtain ⟨rest, hrest⟩ := Option.isSome_iff_exists.1 hmatch
    have hlast : remainder '/' b.toList (Path.rootedChars (strip path a).path.toList) = some rest := by
      rw [hbetween, hrest]
    rw [strip_eq_of_some hlast, strip_eq_of_some (hnested.trans hrest)]

theorem stripBytes_eq_of_some {raw rest : Bytes} {mount : String}
    (h : remainder slashByte (Text.utf8 mount) (rootedBytes raw) = some rest) :
    stripBytes raw mount = rest := by
  simp only [stripBytes, h, Option.getD_some]

theorem stripBytes_stripBytes_nested (ha : IsPoint a) (hb : IsPoint b) {raw : Bytes}
    (h : (remainder slashByte (Text.utf8 (a ++ b)) (rootedBytes raw)).isSome) :
    stripBytes (stripBytes raw a) b = stripBytes raw (a ++ b) := by
  obtain ⟨rest, hrest⟩ := Option.isSome_iff_exists.1 h
  obtain ⟨between, hfirst, hsecond⟩ :=
    Option.bind_eq_some_iff.1 (remainder_utf8_nested ha hb (rootedBytes raw) ▸ hrest)
  have hrooted : rootedBytes between = between := by
    unfold rootedBytes
    apply if_pos
    rcases (remainder_eq_some_iff.1 hfirst).2 with ⟨-, rfl⟩ | ⟨r, rfl, -⟩
    · rfl
    · rfl
  have hlast : remainder slashByte (Text.utf8 b) (rootedBytes between) = some rest := by
    rw [hrooted, hsecond]
  rw [stripBytes_eq_of_some hfirst, stripBytes_eq_of_some hlast, stripBytes_eq_of_some hrest]

/-- A root that ends in a mount point has no slash to drop in front of the next. -/
theorem extendRoot_extendRoot (ha : IsPoint a) (root b : String) :
    extendRoot (extendRoot root a) b = extendRoot root (a ++ b) := by
  apply String.toList_inj.1
  unfold extendRoot
  simp only [String.toList_append, String.toList_ofList, ha.dropSlashes_append, List.append_assoc]

end Nested

/-- A mount point below another comes off with it at once or after it, from the same paths and with the
same rest, and moves to the same root. Bytes that both come off at once lose them one after the other. -/
theorem strip_nested {a b : String} (ha : IsPoint a) (hb : IsPoint b) :
    (∀ path,
      ((strip path (a ++ b)).isMatch ↔
        (strip path a).isMatch ∧ (strip (strip path a).path b).isMatch) ∧
      ((strip path (a ++ b)).isMatch →
        (strip (strip path a).path b).path = (strip path (a ++ b)).path)) ∧
    (∀ root, extendRoot (extendRoot root a) b = extendRoot root (a ++ b)) ∧
    ∀ raw, (remainder slashByte (Text.utf8 (a ++ b)) (rootedBytes raw)).isSome →
      stripBytes (stripBytes raw a) b = stripBytes raw (a ++ b) :=
  ⟨strip_strip_nested ha hb, fun root => extendRoot_extendRoot ha root b,
    fun _ h => stripBytes_stripBytes_nested ha hb h⟩

/-- A path that ends with the second mount point, below a root of slashes, and bytes that go on with
what is no text. -/
theorem strip_nested_ends :
    let raw := Text.utf8 "api//v1/" ++ [0xFF]
    IsPoint "/api" ∧ IsPoint "//v1" ∧ (strip "api//v1" ("/api" ++ "//v1")).isMatch ∧
      (strip (strip "api//v1" "/api").path "//v1").path = "/" ∧
      extendRoot (extendRoot "//" "/api") "//v1" = "/api//v1" ∧
      stripBytes (stripBytes raw "/api") "//v1" = [slashByte, 0xFF] := by
  intro raw
  have ha : IsPoint "/api" := by decide
  have hb : IsPoint "//v1" := by decide
  have hmatch : (strip "api//v1" ("/api" ++ "//v1")).isMatch := by decide
  have hbytes : (remainder slashByte (Text.utf8 ("/api" ++ "//v1")) (rootedBytes raw)).isSome := by
    decide
  obtain ⟨htext, hroot, hraw⟩ := strip_nested ha hb
  refine ⟨ha, hb, hmatch, ?_, ?_, ?_⟩
  · rw [(htext "api//v1").2 hmatch]
    decide
  · rw [hroot]
    decide
  · rw [hraw raw hbytes]
    decide

end Gateway.Mount
