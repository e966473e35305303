import Gateway.Settings.Layers
import Gateway.Settings.Setting
import Mathlib.Data.List.Infix

/-!
What a store holds of the settings once the values of a layer are put over it: those of the layer where
it has one, and those from before everywhere else.
-/
namespace Gateway.Settings

theorem lookup_cons_of_ne {α β : Type} [BEq α] [LawfulBEq α] {k m : α} (h : k ≠ m) (b : β)
    (l : List (α × β)) : List.lookup k ((m, b) :: l) = List.lookup k l := by
  rw [List.lookup_cons, beq_eq_false_iff_ne.mpr h]

namespace Store

/-! ## Putting one cell -/

section Cells

variable {s : Store} {k l : Key} {c : Cell}

theorem covers_iff : covers k l ↔ k <+: l := List.isPrefixOf_iff_prefix

theorem lookup_filter_keys (p : Key → Bool) (cells : List (Key × Cell)) (l : Key) :
    (cells.filter fun e => p e.1).lookup l = if p l then cells.lookup l else none := by
  induction cells with
  | nil => simp
  | cons e cells ih =>
    obtain ⟨m, c⟩ := e
    by_cases hm : l = m
    · subst hm
      cases hp : p l with
      | true => simp [hp]
      | false => simp [hp, ih]
    · cases hp : p m with
      | true => simp [hp, lookup_cons_of_ne hm, ih]
      | false => simp [hp, lookup_cons_of_ne hm, ih]

theorem mem_set {e : Key × Cell} (h : e ∈ (s.set k c).cells) : e ∈ s.cells ∨ e = (k, c) := by
  unfold set at h
  dsimp only at h
  split at h
  · exact .inl (List.mem_of_mem_filter h)
  · rcases List.mem_append.mp h with hold | hnew
    · exact .inl (List.mem_of_mem_filter (List.mem_of_mem_filter hold))
    · exact .inr (List.mem_singleton.mp hnew)

theorem lookup_set_self (h : c.value ≠ .emptyTable) : (s.set k c).cells.lookup k = some c := by
  have hcovers : covers k k := covers_iff.mpr List.prefix_rfl
  unfold set
  dsimp only
  rw [if_neg fun hempty => h hempty.1, List.lookup_append, lookup_filter_keys (!covers k ·)]
  simp [hcovers]

/-- A key that lies neither above nor below keeps its cell. -/
theorem lookup_set_of_apart (habove : ¬l <+: k) (hbelow : ¬k <+: l) :
    (s.set k c).cells.lookup l = s.cells.lookup l := by
  have hne : l ≠ k := by
    rintro rfl
    exact hbelow List.prefix_rfl
  have habove' : covers l k = false := by rwa [Bool.eq_false_iff, Ne, covers_iff]
  have hbelow' : covers k l = false := by rwa [Bool.eq_false_iff, Ne, covers_iff]
  have hfree : (s.cells.filter fun e => !(covers e.1 k && e.1 != k)).lookup l =
      s.cells.lookup l := by
    rw [lookup_filter_keys fun m => !(covers m k && m != k)]
    simp [habove']
  unfold set
  dsimp only
  split
  · exact hfree
  · rw [List.lookup_append, lookup_filter_keys (!covers k ·), hfree]
    simp [hbelow', lookup_cons_of_ne hne]

/-- An empty table changes nothing where there is a table. -/
theorem set_emptyTable {origin : Option String} (habove : ∀ e ∈ s.cells, ¬e.1 <+: k)
    (hbelow : ∃ e ∈ s.cells, k <+: e.1) : s.set k { value := .emptyTable, origin } = s := by
  have hfree : (s.cells.filter fun e => !(covers e.1 k && e.1 != k)) = s.cells := by
    rw [List.filter_eq_self]
    intro e he
    simp [Bool.eq_false_iff, covers_iff, habove e he]
  have hany : s.cells.any fun e => covers k e.1 := by
    obtain ⟨e, he, hcovers⟩ := hbelow
    exact List.any_eq_true.mpr ⟨e, he, covers_iff.mpr hcovers⟩
  unfold set
  dsimp only
  rw [hfree, if_pos ⟨rfl, hany⟩]

end Cells

end Store

/-! ## Putting a layer -/

/-- A value that keeps the shape of the settings: it puts nothing below a setting and no table at one,
and no value at a section. -/
def Plain (e : Key × Value) : Prop :=
  ∀ x : Setting, (x.key <+: e.1 → e.1 = x.key ∧ e.2 ≠ .emptyTable) ∧
    (e.1 <+: x.key → e.1 ≠ x.key → e.2 = .emptyTable)

/-- The value that a layer gives to a setting: of several the last counts. -/
def given (values : List (Key × Value)) (x : Setting) : Option Value :=
  List.lookup x.key values.reverse

theorem key_eq_of_above {x y : Setting} (h : x.key <+: y.key) : x.key = y.key :=
  h.eq_of_length rfl

theorem plain_of_key {x : Setting} {v : Value} (hv : v ≠ .emptyTable) : Plain (x.key, v) := by
  intro y
  constructor
  · intro h
    exact ⟨(key_eq_of_above h).symm, hv⟩
  · intro h hne
    exact absurd (key_eq_of_above h) hne

theorem given_append (values values' : List (Key × Value)) (x : Setting) :
    given (values ++ values') x = (given values' x).or (given values x) := by
  rw [given, given, given, List.reverse_append, List.lookup_append]

namespace Store

/-- The store holds a value or nothing at each setting, and something in each section. -/
structure Shaped (s : Store) : Prop where
  apart : ∀ e ∈ s.cells, ∀ x : Setting, e.1 <+: x.key ∨ x.key <+: e.1 → e.1 = x.key
  value : ∀ e ∈ s.cells, ∀ x : Setting, e.1 = x.key → e.2.value ≠ .emptyTable
  defaults : ∀ x : Setting, (given Settings.defaults x).isSome → (s.cells.lookup x.key).isSome

/-- The value that a store holds at a setting. -/
def held (s : Store) (x : Setting) : Option Value := (s.cells.lookup x.key).map (·.value)

/-- Each section has a setting with a default. -/
theorem exists_default (x : Setting) :
    ∃ y : Setting, y.place.1 = x.place.1 ∧ (given Settings.defaults y).isSome := by
  have hall : ∀ x ∈ Setting.all, ∃ y ∈ Setting.all,
      y.place.1 = x.place.1 ∧ (given Settings.defaults y).isSome := by decide
  obtain ⟨y, -, hy⟩ := hall x x.mem_all
  exact ⟨y, hy⟩

section Shaped

variable {s : Store} (h : s.Shaped)

include h

theorem Shaped.exists_below {k : Key} {x : Setting} (hk : k <+: x.key) (hne : k ≠ x.key) :
    ∃ e ∈ s.cells, k <+: e.1 := by
  obtain ⟨y, hplace, hdefault⟩ := exists_default x
  obtain ⟨e, he, hkey⟩ := List.lookup_isSome_iff.mp (h.defaults y hdefault)
  have hsection : k <+: [x.place.1] :=
    (List.prefix_concat_iff.mp (show k <+: [x.place.1] ++ [x.place.2] from hk)).resolve_left hne
  refine ⟨e, he, ?_⟩
  rw [← beq_iff_eq.mp hkey, Setting.key, hplace]
  exact hsection.trans (List.prefix_append [x.place.1] [y.place.2])

/-- Nothing is above a key that is above a setting. -/
theorem Shaped.not_above {k : Key} {x : Setting} (hk : k <+: x.key) (hne : k ≠ x.key) :
    ∀ e ∈ s.cells, ¬e.1 <+: k := by
  intro e he habove
  have hsame := h.apart e he x (.inl (habove.trans hk))
  rw [hsame] at habove
  exact hne (hk.eq_of_length_le habove.length_le)

variable {k : Key} {v : Value} (origin : Option String) (hplain : Plain (k, v))

include hplain

/-- A plain value changes the setting at its key, if there is one, and no other. -/
theorem Shaped.lookup_set (x : Setting) :
    (s.set k { value := v, origin }).cells.lookup x.key =
      if k = x.key then some { value := v, origin } else s.cells.lookup x.key := by
  obtain ⟨hbelow, habove⟩ := hplain x
  by_cases hsame : k = x.key
  · subst hsame
    rw [if_pos rfl, lookup_set_self]
    exact (hbelow List.prefix_rfl).2
  · rw [if_neg hsame]
    by_cases hk : k <+: x.key
    · obtain rfl : v = .emptyTable := habove hk hsame
      rw [set_emptyTable (h.not_above hk hsame) (h.exists_below hk hsame)]
    · apply lookup_set_of_apart
      · exact fun hx => hsame (hbelow hx).1
      · exact hk

theorem Shaped.set : (s.set k { value := v, origin }).Shaped := by
  constructor
  · intro e he x hx
    rcases mem_set he with hold | rfl
    · exact h.apart e hold x hx
    · rcases hx with hk | hx
      · by_contra hne
        obtain rfl : v = .emptyTable := (hplain x).2 hk hne
        rw [set_emptyTable (h.not_above hk hne) (h.exists_below hk hne)] at he
        exact hne (h.apart _ he x (.inl hk))
      · exact ((hplain x).1 hx).1
  · intro e he x hx
    rcases mem_set he with hold | rfl
    · exact h.value e hold x hx
    · have hx' : k = x.key := hx
      exact ((hplain x).1 (hx' ▸ List.prefix_rfl)).2
  · intro x hdefault
    rw [h.lookup_set origin hplain]
    split
    · rfl
    · exact h.defaults x hdefault

end Shaped

/-- Putting one layer over a store: each setting has the value that the layer gives it, and where it
gives none, the one it had. -/
theorem Shaped.layer {s : Store} (h : s.Shaped) (origin : Option String)
    {values : List (Key × Value)} (hplain : ∀ e ∈ values, Plain e) :
    (s.layer origin values).Shaped ∧
      ∀ x, (s.layer origin values).held x = (given values x).or (s.held x) := by
  induction values generalizing s with
  | nil => exact ⟨h, fun x => rfl⟩
  | cons e values ih =>
    obtain ⟨k, v⟩ := e
    obtain ⟨hfirst, hrest⟩ := List.forall_mem_cons.mp hplain
    obtain ⟨hshaped, hheld⟩ := ih (h.set origin hfirst) hrest
    refine ⟨hshaped, fun x => (hheld x).trans ?_⟩
    rw [← List.singleton_append, given_append, Option.or_assoc, held, held,
      h.lookup_set origin hfirst]
    by_cases hsame : k = x.key
    · simp [hsame, given]
    · simp [hsame, given, lookup_cons_of_ne (Ne.symm hsame)]

/-! ## The defaults -/

theorem layer_defaults : ({} : Store).layer none Settings.defaults =
    ⟨Settings.defaults.map fun v => (v.1, { value := v.2 })⟩ := by
  decide

theorem exists_setting_of_mem_defaults {e : Key × Value} (he : e ∈ Settings.defaults) :
    ∃ x : Setting, e.1 = x.key ∧ e.2 ≠ .emptyTable := by
  have hall : ∀ e ∈ Settings.defaults, ∃ x ∈ Setting.all, e.1 = x.key ∧ e.2 ≠ .emptyTable := by
    decide
  obtain ⟨x, -, hx⟩ := hall e he
  exact ⟨x, hx⟩

theorem shaped_defaults : (({} : Store).layer none Settings.defaults).Shaped := by
  rw [layer_defaults]
  constructor
  · intro e he x hx
    obtain ⟨d, hd, rfl⟩ := List.mem_map.mp he
    obtain ⟨y, hkey, -⟩ := exists_setting_of_mem_defaults hd
    simp only [hkey] at hx ⊢
    rcases hx with hx | hx
    · exact key_eq_of_above hx
    · exact (key_eq_of_above hx).symm
  · intro e he x hx
    obtain ⟨d, hd, rfl⟩ := List.mem_map.mp he
    obtain ⟨y, -, hvalue⟩ := exists_setting_of_mem_defaults hd
    exact hvalue
  · intro x hdefault
    obtain ⟨d, hd, hkey⟩ := List.lookup_isSome_iff.mp hdefault
    exact List.lookup_isSome_iff.mpr
      ⟨_, List.mem_map.mpr ⟨d, List.mem_reverse.mp hd, rfl⟩, hkey⟩

theorem held_defaults (x : Setting) :
    (({} : Store).layer none Settings.defaults).held x = given Settings.defaults x := by
  rw [layer_defaults]
  cases x <;> rfl

end Store
end Gateway.Settings
