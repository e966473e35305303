import Gateway.Proofs.Agreement
import Gateway.Proofs.RawPath

/-!
Taking a mount point off a path takes it off once. The path is cut behind the mount point if one of its
segments ends there, and a mount point that is repeated stays for the next time.
-/
namespace Gateway.Mount

variable {path : String}

/-- A mount point in normal form is longer than the slash that is left of itself. -/
theorem one_lt_length {raw : String} (hmount : (ofText raw).isEnabled) :
    1 < (ofText raw).text.toList.length := by
  obtain ⟨name, htext, hname⟩ := exists_of_isEnabled hmount
  have hpos := List.length_pos_iff.2 hname
  rw [htext, List.length_cons]
  omega

theorem ne_nil_of_isEnabled {raw : String} (hmount : (ofText raw).isEnabled) :
    (ofText raw).text.toList ≠ [] := by
  have hlength := one_lt_length hmount
  exact List.ne_nil_of_length_pos (by omega)

/-- Taking off a mount point changes every path that is below it. -/
theorem path_strip_ne_iff {raw : String} (hmount : (ofText raw).isEnabled)
    (habs : Path.isAbsolute path.toList) :
    (strip path (ofText raw).text).path ≠ path ↔ (strip path (ofText raw).text).isMatch := by
  constructor
  · intro hne
    by_contra hmatch
    exact hne (path_strip_of_not_isMatch habs hmatch)
  · intro hmatch heq
    obtain ⟨name, htext, hname⟩ := exists_of_isEnabled hmount
    obtain ⟨rest, hrest⟩ := Option.isSome_iff_exists.1 (isMatch_strip_iff_isSome.1 hmatch)
    have hpath : rest = path.toList := by
      rw [← heq, strip_eq_of_some hrest, String.toList_ofList]
    rw [rootedChars_of_isAbsolute habs] at hrest
    have hshorter := length_lt_of_remainder htext hname hrest
    rw [hpath] at hshorter
    exact lt_irrefl _ hshorter

/-- What is left of a path is below the mount point if the path starts with it twice. -/
theorem isMatch_strip_strip_iff {raw : String} (hmount : (ofText raw).isEnabled) (path : String) :
    let p := (ofText raw).text.toList
    let c := Path.rootedChars path.toList
    (strip (strip path (ofText raw).text).path (ofText raw).text).isMatch ↔
      c = p ++ p ∨ p ++ p ++ ['/'] <+: c := by
  intro p c
  obtain ⟨name, htext, -⟩ := exists_of_isEnabled hmount
  have hlength : 1 < p.length := one_lt_length hmount
  have hne : p ≠ [] := ne_nil_of_isEnabled hmount
  have hrooted := rootedChars_of_isAbsolute (isAbsolute_strip path (ofText raw).text)
  rw [isMatch_strip_iff, hrooted, and_iff_right hne]
  cases h : remainder '/' p c with
  | none =>
    -- a path that starts with the mount point twice would have been cut behind the first
    have hcut : ¬ (c = p ∨ p ++ ['/'] <+: c) := fun hcut => by
      have hsome := isSome_remainder_iff.2 ⟨hne, hcut⟩
      simp [h] at hsome
    have hslash : p ++ ['/'] <+: p ++ p := by
      rw [List.prefix_append_right_inj]
      exact ⟨name, htext.symm⟩
    rw [strip_eq_of_none h, String.toList_ofList]
    constructor
    · exact fun habs => absurd habs hcut
    · rintro (htwice | htwice)
      · rw [← htwice] at hslash
        exact absurd (.inr hslash) hcut
      · have hfirst : p ++ p <+: c := (List.prefix_append _ _).trans htwice
        exact absurd (.inr (hslash.trans hfirst)) hcut
  | some rest =>
    rw [strip_eq_of_some h, String.toList_ofList]
    rcases (remainder_eq_some_iff.1 h).2 with ⟨hc, rfl⟩ | ⟨r, rfl, hc⟩
    · -- the mount point is too long for the slash that is left, as it is for itself with another in front
      have hleft : ¬ (['/'] = p ∨ p ++ ['/'] <+: ['/']) := by
        rintro (heq | hstart)
        · rw [← heq] at hlength
          exact lt_irrefl 1 hlength
        · have hle := hstart.length_le
          rw [List.length_append] at hle
          omega
      have hright : ¬ (p = p ++ p ∨ p ++ p ++ ['/'] <+: p) := by
        rintro (heq | hstart)
        · exact hne (List.self_eq_append_right.1 heq)
        · have hle := hstart.length_le
          simp only [List.length_append] at hle
          omega
      rw [hc]
      exact iff_of_false hleft hright
    · rw [hc, List.append_assoc, List.append_cancel_left_eq, List.prefix_append_right_inj]

/-- A mount point is taken off a path once, where the path is the mount point or goes on behind it with a
slash. A second time takes something off exactly if the mount point stands there twice. -/
theorem strip_once (path : String) :
    (∀ raw, (ofText raw).isEnabled →
      let mount := (ofText raw).text
      let p := mount.toList
      let c := Path.rootedChars path.toList
      let s := strip path mount
      (s.isMatch ↔ c = p ∨ p ++ ['/'] <+: c) ∧
        (s.isMatch → s.matched = mount ∧ (c = p ∧ s.path = "/" ∨ c ≠ p ∧ c = p ++ s.path.toList)) ∧
        (¬ s.isMatch → s.matched = "" ∧ s.path.toList = c) ∧
        Path.isAbsolute s.path.toList ∧
        ((strip s.path mount).path ≠ s.path ↔ c = p ++ p ∨ p ++ p ++ ['/'] <+: c) ∧
        remainder slashByte (Text.utf8 mount) (Text.encode c) =
          if s.isMatch then some (Text.utf8 s.path) else none) ∧
      ¬ (strip path disabled.text).isMatch := by
  constructor
  · intro raw hmount mount p c s
    have hne : p ≠ [] := ne_nil_of_isEnabled hmount
    have hmatch : s.isMatch ↔ c = p ∨ p ++ ['/'] <+: c := by
      rw [isMatch_strip_iff, and_iff_right hne]
    have habs : Path.isAbsolute s.path.toList := isAbsolute_strip path mount
    refine ⟨hmatch, fun h => ?_, fun h => ?_, habs, ?_, remainder_utf8 path mount⟩
    · obtain ⟨rest, hrest⟩ :=
        Option.isSome_iff_exists.1 (isSome_remainder_iff.2 ⟨hne, hmatch.1 h⟩)
      have hs : s = ⟨.ofList rest, mount⟩ := strip_eq_of_some hrest
      rw [hs, String.toList_ofList]
      refine ⟨rfl, ?_⟩
      rcases (remainder_eq_some_iff.1 hrest).2 with ⟨hc, rfl⟩ | ⟨r, rfl, hc⟩
      · exact .inl ⟨hc, rfl⟩
      · have hlonger : c ≠ p := fun heq => by
          rw [heq, List.self_eq_append_right] at hc
          exact List.cons_ne_nil '/' r hc
        exact .inr ⟨hlonger, hc⟩
    · have hnone : remainder '/' p c = none := by
        rw [← Option.not_isSome_iff_eq_none, isSome_remainder_iff]
        exact fun hcut => h (hmatch.2 hcut.2)
      have hs : s = ⟨.ofList c, ""⟩ := strip_eq_of_none hnone
      rw [hs, String.toList_ofList]
      exact ⟨rfl, rfl⟩
    · rw [path_strip_ne_iff hmount habs]
      exact isMatch_strip_strip_iff hmount path
  · rw [isMatch_strip_iff]
    exact fun h => h.1 rfl

/-- Below a mount point that stands there twice, in a path without its slash in front. -/
theorem strip_once_twice :
    let mount := (ofText " svc/ ").text
    (ofText " svc/ ").isEnabled ∧ (strip "svc/svc/items" mount).path = "/svc/items" ∧
      (strip (strip "svc/svc/items" mount).path mount).path ≠ (strip "svc/svc/items" mount).path := by
  intro mount
  have hmount : (ofText " svc/ ").isEnabled := by decide
  have htwice : mount.toList ++ mount.toList ++ ['/'] <+: Path.rootedChars "svc/svc/items".toList := by
    decide
  have hpath : (strip "svc/svc/items" mount).path = "/svc/items" := by decide
  obtain ⟨-, -, -, -, hagain, -⟩ := (strip_once "svc/svc/items").1 " svc/ " hmount
  exact ⟨hmount, hpath, hagain.2 (.inr htwice)⟩

end Gateway.Mount
