import Gateway.Proofs.Mounting

/-!
The undecoded path of a connection. It is stripped by what it spells, while the path is stripped by
what it stands for, so the two stay in step unless the mount point is spelled with escapes.
-/
namespace Gateway

namespace Text

/-- No text starts with what it stands for and goes on with a slash: what it stands for would start
with what that stands for, and so on without an end. -/
theorem ne_unescapeChars_append_slash (s t : List Char) : s ≠ unescapeChars s ++ '/' :: t := by
  induction hn : s.length using Nat.strongRecOn generalizing s t with
  | ind n ih =>
    intro h
    have hread := congrArg unescapeChars h
    rw [unescapeChars_append_slash] at hread
    have hshorter : (unescapeChars s).length < n := by
      have hlength := congrArg List.length h
      simp only [List.length_append, List.length_cons] at hlength
      omega
    exact ih _ hshorter (unescapeChars s) (unescapeChars t) rfl hread

/-- Where a text with a slash behind it stands for what starts with the text itself, the text has no
escapes. -/
theorem unescapeChars_eq_self {s t u : List Char} (h : unescapeChars s ++ t = s ++ u)
    (ht : ∀ c r, t = c :: r → c = '/') : unescapeChars s = s ∧ t = u := by
  obtain ⟨z, hz⟩ : unescapeChars s <+: s := List.prefix_of_prefix_length_le
    ⟨t, h⟩ (List.prefix_append s u) (length_unescapeChars_le s)
  cases z with
  | nil =>
    rw [List.append_nil] at hz
    refine ⟨hz, ?_⟩
    rw [hz] at h
    exact List.append_cancel_left h
  | cons c z =>
    -- what is missing of the text would start with a slash, since it is the start of t
    have hrest : t = c :: z ++ u := by
      have h' := h
      conv at h' => rhs; rw [← hz, List.append_assoc]
      exact List.append_cancel_left h'
    obtain rfl := ht c _ hrest
    exact absurd hz.symm (ne_unescapeChars_append_slash s z)

end Text

namespace Mount

variable {mount path rest : List Char}

theorem length_lt_of_remainder {name : List Char} (hmount : mount = '/' :: name) (hname : name ≠ [])
    (h : remainder '/' mount path = some rest) : rest.length < path.length := by
  have hpos := List.length_pos_iff.2 hname
  rcases (remainder_eq_some_iff.1 h).2 with ⟨rfl, rfl⟩ | ⟨r, rfl, rfl⟩
  · simp only [hmount, List.length_cons, List.length_nil]
    omega
  · simp only [hmount, List.length_append, List.length_cons]
    omega

/-- If both what a path stands for and what it spells go on behind the mount point, the rest of one
stands for the rest of the other. -/
theorem unescapeChars_remainder {rest' : List Char}
    (h : remainder '/' mount (Text.unescapeChars path) = some rest)
    (h' : remainder '/' mount path = some rest') : rest = Text.unescapeChars rest' := by
  have hslash : ∀ r, Text.unescapeChars ('/' :: r) = '/' :: Text.unescapeChars r :=
    Text.unescapeChars_append_slash []
  rcases (remainder_eq_some_iff.1 h').2 with ⟨rfl, rfl⟩ | ⟨r', rfl, rfl⟩
  · rcases (remainder_eq_some_iff.1 h).2 with ⟨-, rfl⟩ | ⟨r, -, hpath⟩
    · exact (hslash []).symm
    · have heq := Text.unescapeChars_eq_self (t := []) (by simpa using hpath) (by simp)
      exact absurd heq.2 (by simp)
  · rw [Text.unescapeChars_append_slash] at h
    have hhead : ∀ c r, '/' :: Text.unescapeChars r' = c :: r → c = '/' := fun c r hc =>
      (List.cons.inj hc).1.symm
    rw [hslash]
    rcases (remainder_eq_some_iff.1 h).2 with ⟨hpath, -⟩ | ⟨r, rfl, hpath⟩
    · have heq := Text.unescapeChars_eq_self (u := []) (by simpa using hpath) hhead
      exact absurd heq.2 (by simp)
    · exact (Text.unescapeChars_eq_self hpath hhead).2.symm

end Mount

namespace Scope

/-- The path is what the undecoded path stands for. -/
def InStep (s : Scope) : Prop := s.path = Text.decoded (Text.unescape s.rawPath)

instance (s : Scope) : Decidable s.InStep := inferInstanceAs (Decidable (_ = _))

theorem inStep_scope (r : Http.Request) (a : Arrival) : (r.scope a).InStep := rfl

section Behind

variable {r : Http.Request} {a : Arrival} {m : Mount} {rest : List Char}

theorem behind_of_remainder_eq_none (hpath : Path.isAbsolute r.path.toList)
    (h : Mount.remainder '/' m.text.toList r.path.toList = none) :
    (r.scope a).behind m = r.scope a := by
  have hstrip : Mount.strip (r.scope a).path m.text = ⟨r.path, ""⟩ :=
    Mount.strip_of_remainder_eq_none hpath h
  simp only [behind, hstrip]
  rfl

theorem inStep_behind_of_remainder (hraw : Path.isAbsolute r.rawPath.toList)
    (hpath : Path.isAbsolute r.path.toList)
    (h : Mount.remainder '/' m.text.toList r.path.toList = some rest) :
    ((r.scope a).behind m).InStep ↔
      rest = Text.unescapeChars (Mount.strip r.rawPath m.text).path.toList := by
  have hstrip : Mount.strip (r.scope a).path m.text = ⟨.ofList rest, m.text⟩ :=
    Mount.strip_of_remainder hpath h
  have hmatch : (Stripped.mk (.ofList rest) m.text).isMatch :=
    Stripped.isMatch_iff.2 (Mount.remainder_eq_some_iff.1 h).1
  rw [behind_of_strip hstrip hmatch (Text.isEmpty_utf8 hraw)]
  show String.ofList rest = Text.decoded (Text.unescape (Mount.stripBytes (Text.utf8 r.rawPath) _)) ↔ _
  rw [Mount.stripBytes_utf8]
  exact String.ofList_inj

end Behind

/-- A connection is in step, and it stays so behind a mount point exactly if its undecoded path
spells out the mount point wherever its path starts with it. -/
theorem inStep_behind_iff {r : Http.Request} (hraw : Path.isAbsolute r.rawPath.toList)
    (a : Arrival) (raw : String) :
    let mount := Mount.ofText raw
    (r.scope a).InStep ∧ (((r.scope a).behind mount).InStep ↔
      ((Mount.strip r.path mount.text).isMatch → (Mount.strip r.rawPath mount.text).isMatch)) := by
  intro mount
  have hpath : Path.isAbsolute r.path.toList := Http.Request.isAbsolute_decodedPath hraw
  have hread : r.path.toList = Text.unescapeChars r.rawPath.toList := String.toList_ofList
  refine ⟨inStep_scope r a, ?_⟩
  cases h : Mount.remainder '/' mount.text.toList r.path.toList with
  | none =>
    rw [behind_of_remainder_eq_none hpath h, Mount.strip_of_remainder_eq_none hpath h]
    simp [inStep_scope, Stripped.isMatch]
  | some rest =>
    have hmount := (Mount.remainder_eq_some_iff.1 h).1
    rw [inStep_behind_of_remainder hraw hpath h, Mount.strip_of_remainder hpath h]
    cases h' : Mount.remainder '/' mount.text.toList r.rawPath.toList with
    | none =>
      -- the undecoded path is left whole, and stands for more than the rest of the path
      rw [Mount.strip_of_remainder_eq_none hraw h', ← hread]
      have henabled : mount.isEnabled := by
        simpa [Mount.isEnabled] using hmount
      obtain ⟨name, hform, hname⟩ := Mount.exists_of_isEnabled henabled
      have hlt := Mount.length_lt_of_remainder hform hname h
      have hne : rest ≠ r.path.toList := fun heq => Nat.ne_of_lt hlt (congrArg List.length heq)
      simp [Stripped.isMatch_iff, hne, hmount]
    | some rest' =>
      rw [Mount.strip_of_remainder hraw h', String.toList_ofList]
      rw [hread] at h
      simp [Stripped.isMatch_iff, Mount.unescapeChars_remainder h h']

/-- A mount point that is spelled out is taken off both paths, whatever escapes follow. -/
theorem inStep_behind_spelledOut :
    let r : Http.Request := { method := "GET", target := ⟨"/svc/caf%C3%A9%2F%ff%2", none⟩ }
    let a : Arrival := ⟨⟨.v4 10 0 0 7, 0, 50000⟩, ⟨.v4 10 0 0 1, 0, 8000⟩, 0, { seconds := 0 }, 0⟩
    Path.isAbsolute r.rawPath.toList ∧ (Mount.strip r.path (Mount.ofText "/svc").text).isMatch ∧
      ((r.scope a).behind (Mount.ofText "/svc")).InStep := by
  intro r a
  have hraw : Path.isAbsolute r.rawPath.toList := by decide
  have hspelled : (Mount.strip r.rawPath (Mount.ofText "/svc").text).isMatch := by decide
  exact ⟨hraw, by decide, (inStep_behind_iff hraw a "/svc").2.2 fun _ => hspelled⟩

/-- An escaped letter is enough: the mount point is taken off the path only. -/
theorem not_inStep_behind_escaped :
    let r : Http.Request := { method := "GET", target := ⟨"/%73vc/items", none⟩ }
    let a : Arrival := ⟨⟨.v4 10 0 0 7, 0, 50000⟩, ⟨.v4 10 0 0 1, 0, 8000⟩, 0, { seconds := 0 }, 0⟩
    let inner := (r.scope a).behind (Mount.ofText "/svc")
    Path.isAbsolute r.rawPath.toList ∧ (r.scope a).InStep ∧ inner.path = "/items" ∧
      inner.rawPath = Text.utf8 "/%73vc/items" ∧ ¬ inner.InStep := by
  decide

end Scope

end Gateway
