import Gateway.Mount
import Gateway.Proofs.Decoding
import Gateway.Proofs.Trimming

/-!
What is left of a path when a mount point in normal form is taken off it. The bytes of an undecoded
path lose what the characters they encode would lose.
-/
namespace Gateway

theorem Stripped.isMatch_iff {s : Stripped} : s.isMatch ↔ s.matched.toList ≠ [] := by
  simp [isMatch]

namespace Mount

theorem dropSlashes_eq_rdropWhile (s : List Char) : dropSlashes s = s.rdropWhile (· = '/') := rfl

/-- Text without a name needs no case of its own: rooted, it is nothing but slashes. -/
theorem normalizeChars_eq_rdropWhile (raw : List Char) :
    normalizeChars raw = (Path.rootedChars (Text.trim raw)).rdropWhile (· = '/') := by
  unfold normalizeChars
  dsimp only
  split
  · next hnil =>
    rw [hnil]
    rfl
  · exact dropSlashes_eq_rdropWhile _

theorem toList_normalize (raw : String) : (normalize raw).toList = normalizeChars raw.toList :=
  String.toList_ofList

theorem isAbsolute_normalizeChars {raw : List Char} (h : normalizeChars raw ≠ []) :
    Path.isAbsolute (normalizeChars raw) := by
  obtain ⟨r, hr⟩ := Path.isAbsolute_iff.1 (Path.isAbsolute_rootedChars (Text.trim raw))
  obtain ⟨c, t, ht⟩ := List.exists_cons_of_ne_nil h
  have hfront : normalizeChars raw <+: '/' :: r := by
    rw [normalizeChars_eq_rdropWhile, hr]
    exact List.rdropWhile_prefix _ _
  rw [ht] at hfront ⊢
  obtain ⟨rfl, -⟩ := List.cons_prefix_cons.1 hfront
  rfl

theorem getLast?_normalizeChars_ne (raw : List Char) : (normalizeChars raw).getLast? ≠ some '/' := by
  have hdropped : (normalizeChars raw).rdropWhile (· = '/') = normalizeChars raw := by
    rw [normalizeChars_eq_rdropWhile, List.rdropWhile_idempotent]
  intro hlast
  exact Text.rdropWhile_eq_self_iff_getLast?.1 hdropped '/' hlast (decide_eq_true rfl)

/-- What is left of a text that has a name in it is a slash and more. -/
theorem exists_normalizeChars_eq {raw : List Char} (h : normalizeChars raw ≠ []) :
    ∃ name, normalizeChars raw = '/' :: name ∧ name ≠ [] := by
  obtain ⟨name, hname⟩ := Path.isAbsolute_iff.1 (isAbsolute_normalizeChars h)
  refine ⟨name, hname, ?_⟩
  rintro rfl
  exact getLast?_normalizeChars_ne raw (by rw [hname]; rfl)

/-- A mount point that strips anything is a slash and a name. -/
theorem exists_of_isEnabled {raw : String} (h : (ofText raw).isEnabled) :
    ∃ name, (ofText raw).text.toList = '/' :: name ∧ name ≠ [] := by
  rw [ofText, toList_normalize]
  apply exists_normalizeChars_eq
  rw [← toList_normalize]
  simpa [isEnabled, ofText] using h

section Remainder

variable {α : Type} [BEq α] [LawfulBEq α] {slash : α} {mount path rest : List α}

theorem remainder_eq_some_iff :
    remainder slash mount path = some rest ↔ mount ≠ [] ∧
      (path = mount ∧ rest = [slash] ∨ ∃ r, rest = slash :: r ∧ path = mount ++ slash :: r) := by
  have hsplit : ∀ {r}, mount.isPrefixOf? path = some r ↔ mount ++ r = path :=
    List.isPrefixOf?_eq_some_iff_append_eq
  unfold remainder
  constructor
  · intro h
    split at h
    · contradiction
    · next hmount =>
      refine ⟨by simpa using hmount, ?_⟩
      split at h
      · next hnil =>
        have hpath := hsplit.1 hnil
        rw [List.append_nil] at hpath
        exact .inl ⟨hpath.symm, (Option.some.inj h).symm⟩
      · next c r hcons =>
        split at h
        · next hc =>
          obtain rfl := eq_of_beq hc
          exact .inr ⟨r, (Option.some.inj h).symm, (hsplit.1 hcons).symm⟩
        · contradiction
      · contradiction
  · rintro ⟨hmount, hpath⟩
    rw [if_neg (by simpa using hmount)]
    rcases hpath with ⟨rfl, rfl⟩ | ⟨r, rfl, rfl⟩
    · rw [hsplit.2 (List.append_nil _)]
    · rw [hsplit.2 rfl]
      simp

theorem remainder_append (hmount : mount ≠ []) (r : List α) :
    remainder slash mount (mount ++ slash :: r) = some (slash :: r) :=
  remainder_eq_some_iff.2 ⟨hmount, .inr ⟨r, rfl, rfl⟩⟩

/-- Something is cut off where the path ends with the mount point or goes on with a slash behind it. -/
theorem isSome_remainder_iff : (remainder slash mount path).isSome ↔
    mount ≠ [] ∧ (path = mount ∨ mount ++ [slash] <+: path) := by
  have hassoc : ∀ r, mount ++ [slash] ++ r = path ↔ path = mount ++ slash :: r := fun r => by
    rw [List.append_assoc, List.singleton_append, eq_comm]
  rw [Option.isSome_iff_exists]
  constructor
  · rintro ⟨rest, hrest⟩
    obtain ⟨hmount, ⟨hpath, -⟩ | ⟨r, -, hpath⟩⟩ := remainder_eq_some_iff.1 hrest
    · exact ⟨hmount, .inl hpath⟩
    · exact ⟨hmount, .inr ⟨r, (hassoc r).2 hpath⟩⟩
  · rintro ⟨hmount, hpath | ⟨r, hr⟩⟩
    · exact ⟨[slash], remainder_eq_some_iff.2 ⟨hmount, .inl ⟨hpath, rfl⟩⟩⟩
    · exact ⟨slash :: r, remainder_eq_some_iff.2 ⟨hmount, .inr ⟨r, rfl, (hassoc r).1 hr⟩⟩⟩

end Remainder

theorem rootedChars_of_isAbsolute {path : List Char} (h : Path.isAbsolute path) :
    Path.rootedChars path = path := by
  rw [Path.rootedChars, if_pos h]

section Strip

variable {path mount : String}

theorem strip_eq_of_some {rest : List Char}
    (h : remainder '/' mount.toList (Path.rootedChars path.toList) = some rest) :
    strip path mount = ⟨.ofList rest, mount⟩ := by
  simp only [strip, h]

theorem strip_eq_of_none (h : remainder '/' mount.toList (Path.rootedChars path.toList) = none) :
    strip path mount = ⟨.ofList (Path.rootedChars path.toList), ""⟩ := by
  simp only [strip, h]

theorem strip_of_remainder {rest : List Char} (habs : Path.isAbsolute path.toList)
    (h : remainder '/' mount.toList path.toList = some rest) :
    strip path mount = ⟨.ofList rest, mount⟩ := by
  rw [← rootedChars_of_isAbsolute habs] at h
  exact strip_eq_of_some h

theorem strip_of_remainder_eq_none (habs : Path.isAbsolute path.toList)
    (h : remainder '/' mount.toList path.toList = none) : strip path mount = ⟨path, ""⟩ := by
  have hrooted := rootedChars_of_isAbsolute habs
  rw [← hrooted] at h
  rw [strip_eq_of_none h, hrooted, String.ofList_toList]

theorem isMatch_strip_iff_isSome : (strip path mount).isMatch ↔
    (remainder '/' mount.toList (Path.rootedChars path.toList)).isSome := by
  rw [Stripped.isMatch_iff]
  cases h : remainder '/' mount.toList (Path.rootedChars path.toList) with
  | none => simp [strip_eq_of_none h]
  | some rest =>
    have hmount := (remainder_eq_some_iff.1 h).1
    simp [strip_eq_of_some h, hmount]

theorem matched_strip (h : (strip path mount).isMatch) : (strip path mount).matched = mount := by
  obtain ⟨rest, hrest⟩ := Option.isSome_iff_exists.1 (isMatch_strip_iff_isSome.1 h)
  rw [strip_eq_of_some hrest]

theorem path_strip_eq_rootedChars (h : ¬ (strip path mount).isMatch) :
    (strip path mount).path = .ofList (Path.rootedChars path.toList) := by
  rw [isMatch_strip_iff_isSome, Option.not_isSome_iff_eq_none] at h
  rw [strip_eq_of_none h]

theorem isMatch_strip_iff : (strip path mount).isMatch ↔ mount.toList ≠ [] ∧
    (Path.rootedChars path.toList = mount.toList ∨
      mount.toList ++ ['/'] <+: Path.rootedChars path.toList) := by
  rw [isMatch_strip_iff_isSome, isSome_remainder_iff]

end Strip

/-- Bytes are stripped as the text they encode. -/
theorem remainder_encode (mount path : List Char) :
    remainder slashByte (Text.encode mount) (Text.encode path) =
      (remainder '/' mount path).map Text.encode := by
  have hslash : ∀ r, Text.encode ('/' :: r) = slashByte :: Text.encode r := Text.encode_cons '/'
  have hnil : Text.encode mount = [] ↔ mount = [] := Text.encode_inj (t := [])
  cases h : remainder '/' mount path with
  | some rest =>
    obtain ⟨hmount, hpath⟩ := remainder_eq_some_iff.1 h
    refine remainder_eq_some_iff.2 ⟨mt hnil.1 hmount, ?_⟩
    rcases hpath with ⟨rfl, rfl⟩ | ⟨r, rfl, rfl⟩
    · exact .inl ⟨rfl, rfl⟩
    · exact .inr ⟨Text.encode r, hslash r, by rw [Text.encode_append, hslash]⟩
  | none =>
    refine Option.eq_none_iff_forall_ne_some.2 fun rest hrest => ?_
    obtain ⟨hmount, hpath⟩ := remainder_eq_some_iff.1 hrest
    have hno : ∀ rest, remainder '/' mount path ≠ some rest := by simp [h]
    rcases hpath with ⟨heq, -⟩ | ⟨r, -, heq⟩
    · have hpath : path = mount := Text.encode_inj.1 heq
      exact hno _ (remainder_eq_some_iff.2 ⟨mt hnil.2 hmount, .inl ⟨hpath, rfl⟩⟩)
    · have hread : Text.decode (slashByte :: r) = '/' :: Text.decode r :=
        Text.decode_append_ascii (by decide) [] r
      have hpath : path = mount ++ '/' :: Text.decode r := by
        rw [← Text.decode_encode path, heq, Text.decode_encode_append, hread]
      exact hno _ (remainder_eq_some_iff.2 ⟨mt hnil.2 hmount, .inr ⟨_, rfl, hpath⟩⟩)

/-- The bytes of a path are cut where its text is. -/
theorem remainder_utf8 (path mount : String) :
    remainder slashByte (Text.utf8 mount) (Text.encode (Path.rootedChars path.toList)) =
      if (strip path mount).isMatch then some (Text.utf8 (strip path mount).path) else none := by
  rw [Text.utf8, remainder_encode]
  cases h : remainder '/' mount.toList (Path.rootedChars path.toList) with
  | none => simp [strip_eq_of_none h, Stripped.isMatch]
  | some rest =>
    have hmatch : (strip path mount).isMatch := by
      rw [strip_eq_of_some h]
      exact Stripped.isMatch_iff.2 (remainder_eq_some_iff.1 h).1
    rw [if_pos hmatch, strip_eq_of_some h, Option.map_some, Text.utf8, String.toList_ofList]

/-- The slash in front of a path is the same before its bytes are taken and after. -/
theorem rootedBytes_encode (path : List Char) :
    rootedBytes (Text.encode path) = Text.encode (Path.rootedChars path) := by
  have hslash : ∀ r, Text.encode ('/' :: r) = slashByte :: Text.encode r := Text.encode_cons '/'
  unfold rootedBytes Path.rootedChars
  by_cases habs : Path.isAbsolute path
  · obtain ⟨rest, rfl⟩ := Path.isAbsolute_iff.1 habs
    rw [if_pos habs, hslash]
    rfl
  · have hhead : (Text.encode path).head? ≠ some slashByte := by
      intro hhead
      obtain ⟨r, hr⟩ := List.head?_eq_some_iff.1 hhead
      have hpath : path = '/' :: Text.decode r := by
        rw [← Text.decode_encode path, hr]
        exact Text.decode_append_ascii (by decide) [] r
      exact habs (Path.isAbsolute_iff.2 ⟨_, hpath⟩)
    rw [if_neg habs, if_neg hhead, hslash]

/-- The undecoded form of a path loses what the path itself would lose. -/
theorem stripBytes_utf8 (path mount : String) :
    stripBytes (Text.utf8 path) mount = Text.utf8 (strip path mount).path := by
  have hrooted : rootedBytes (Text.utf8 path) = Text.encode (Path.rootedChars path.toList) :=
    rootedBytes_encode path.toList
  unfold stripBytes
  dsimp only
  rw [hrooted, Text.utf8, remainder_encode]
  cases h : remainder '/' mount.toList (Path.rootedChars path.toList) with
  | some rest => simp [strip_eq_of_some h, Text.utf8]
  | none => simp [strip_eq_of_none h, Text.utf8]

/-- Takes the bytes of `mount` off the bytes of a path, and reads those that are left as text. -/
def stripReading (path mount : String) : Stripped :=
  let rooted := Path.rootedChars path.toList
  match remainder slashByte (Text.utf8 mount) (Text.encode rooted) with
  | some rest => ⟨Text.decoded rest, mount⟩
  | none => ⟨.ofList rooted, ""⟩

/-- No character is cut in two: reading the bytes that are left gives the characters that are left. -/
theorem stripReading_eq (path mount : String) : stripReading path mount = strip path mount := by
  unfold stripReading
  dsimp only
  rw [Text.utf8, remainder_encode]
  cases h : remainder '/' mount.toList (Path.rootedChars path.toList) with
  | some rest =>
    rw [strip_eq_of_some h, Option.map_some]
    simp only [Text.decoded, Text.decode_encode]
  | none =>
    rw [strip_eq_of_none h]
    rfl

/-- What is left of a path is the end of it, or the slash that is left of the mount point itself. -/
theorem path_strip_suffix (path mount : String) :
    (strip path mount).path.toList <:+ Path.rootedChars path.toList ∨
      (strip path mount).path = "/" := by
  cases h : remainder '/' mount.toList (Path.rootedChars path.toList) with
  | none =>
    rw [strip_eq_of_none h, String.toList_ofList]
    exact .inl (List.suffix_refl _)
  | some rest =>
    rw [strip_eq_of_some h, String.toList_ofList]
    rcases (remainder_eq_some_iff.1 h).2 with ⟨-, rfl⟩ | ⟨r, rfl, hpath⟩
    · exact .inr rfl
    · rw [hpath]
      exact .inl (List.suffix_append _ _)

theorem count_path_strip_le {c : Char} (hc : c ≠ '/') (path mount : String) :
    (strip path mount).path.toList.count c ≤ path.toList.count c := by
  have hrooted : (Path.rootedChars path.toList).count c = path.toList.count c := by
    unfold Path.rootedChars
    split
    · rfl
    · exact List.count_cons_of_ne (Ne.symm hc)
  rcases path_strip_suffix path mount with hsuffix | hslash
  · rw [← hrooted]
    exact hsuffix.sublist.count_le c
  · have hnone : c ∉ ['/'] := by simpa using hc
    have hzero : (strip path mount).path.toList.count c = 0 := by
      rw [hslash]
      exact List.count_eq_zero_of_not_mem hnone
    omega

/-- Bytes and text lose the same, whatever stands in the path and in the mount point. The bytes left of a
path are UTF-8, so reading them puts no replacement character into the text. -/
theorem strip_bytewise (path mount : String) :
    let c := Path.rootedChars path.toList
    let s := strip path mount
    stripBytes (Text.utf8 path) mount = Text.utf8 s.path ∧
      stripReading path mount = s ∧
      (∀ rest ∈ remainder slashByte (Text.utf8 mount) (Text.encode c),
        rest.toByteArray.IsValidUTF8 ∧ rest = Text.utf8 s.path) ∧
      (s.path.toList <:+ c ∨ s.path = "/") ∧
      s.path.toList.count Text.replacement ≤ path.toList.count Text.replacement := by
  intro c s
  refine ⟨stripBytes_utf8 path mount, stripReading_eq path mount, ?_, path_strip_suffix path mount,
    count_path_strip_le (by decide) path mount⟩
  intro rest hrest
  have hcut : remainder slashByte (Text.utf8 mount) (Text.encode c) =
      if s.isMatch then some (Text.utf8 s.path) else none := remainder_utf8 path mount
  rw [hcut] at hrest
  have hbytes : rest = Text.utf8 s.path := by
    split at hrest
    · exact (Option.mem_some.1 hrest).symm
    · contradiction
  refine ⟨?_, hbytes⟩
  rw [hbytes]
  exact .intro s.path.toList rfl

end Mount
end Gateway
