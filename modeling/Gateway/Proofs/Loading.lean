import Gateway.Proofs.Trimming
import Gateway.Registry

/-!
Loading an entry of a registry. Whatever was registered in whatever order, an entry leads to the last object
of its name, or to the error that tells which of its parts has none; and where it leads to an object, the
label of the object leads there too.
-/
namespace Gateway.Registry

variable {α β ε : Type}

/-! ## The parts of an entry -/

/-- An entry names a module and, if it has a colon, what stands behind the first one as an attribute.
Blanks around either do not belong to it. -/
inductive Names (entry : String) : String → Option String → Prop
  | whole {module : String} (hcolon : ':' ∉ entry.toList)
      (hmodule : Text.Trims entry.toList module.toList) : Names entry module none
  | parts {m a : List Char} {module attr : String} (hentry : entry.toList = m ++ ':' :: a)
      (hcolon : ':' ∉ m) (hmodule : Text.Trims m module.toList) (hattr : Text.Trims a attr.toList) :
      Names entry module (some attr)

/-- The names that loading reads. -/
def named (entry : String) : String × Option String :=
  match splitColon entry.toList with
  | some (m, a) => (.ofList (Text.trim m), some (.ofList (Text.trim a)))
  | none => (Text.trimmed entry, none)

theorem splitColon_of_not_mem {s : List Char} (h : ':' ∉ s) : splitColon s = none := by
  have hall : s.dropWhile (· ≠ ':') = [] := by
    apply List.dropWhile_eq_nil_iff.2
    intro c hc
    exact decide_eq_true fun heq => h (heq ▸ hc)
  rw [splitColon, hall]

theorem splitColon_append {m : List Char} (h : ':' ∉ m) (a : List Char) :
    splitColon (m ++ ':' :: a) = some (m, a) := by
  have hm : ∀ c ∈ m, decide (c ≠ ':') = true := fun c hc =>
    decide_eq_true fun heq => h (heq ▸ hc)
  rw [splitColon, List.dropWhile_append_of_pos hm, List.takeWhile_append_of_pos hm]
  simp

section Entry

variable {entry module : String} {attr : Option String}

theorem named_of_not_mem (h : ':' ∉ entry.toList) : named entry = (Text.trimmed entry, none) := by
  simp only [named, splitColon_of_not_mem h]

theorem named_of_append {m a : List Char} (hentry : entry.toList = m ++ ':' :: a) (hm : ':' ∉ m) :
    named entry = (.ofList (Text.trim m), some (.ofList (Text.trim a))) := by
  simp only [named, hentry, splitColon_append hm]

theorem ofList_trim_eq_iff {s : List Char} {t : String} :
    .ofList (Text.trim s) = t ↔ Text.Trims s t.toList := by
  rw [← Text.trim_eq_iff, ← String.toList_inj, String.toList_ofList]

theorem names_iff : Names entry module attr ↔ named entry = (module, attr) := by
  constructor
  · intro h
    cases h with
    | whole hcolon hmodule =>
      rw [named_of_not_mem hcolon, Text.trimmed, ofList_trim_eq_iff.2 hmodule]
    | parts hentry hcolon hmodule hattr =>
      rw [named_of_append hentry hcolon, ofList_trim_eq_iff.2 hmodule, ofList_trim_eq_iff.2 hattr]
  · intro h
    by_cases hcolon : ':' ∈ entry.toList
    · obtain ⟨m, a, hentry, hm⟩ := List.eq_append_cons_of_mem hcolon
      rw [named_of_append hentry hm] at h
      obtain ⟨hmodule, hattr⟩ := Prod.mk.inj h
      subst hattr
      exact .parts hentry hm (ofList_trim_eq_iff.1 hmodule) (ofList_trim_eq_iff.1 rfl)
    · rw [named_of_not_mem hcolon] at h
      obtain ⟨hmodule, rfl⟩ := Prod.mk.inj h
      exact .whole hcolon (ofList_trim_eq_iff.1 hmodule)

theorem trimmed_of_trims {s : List Char} {t : String} (h : Text.Trims s t.toList) :
    Text.trimmed t = t := by
  rw [Text.trimmed, h.trim_self, String.ofList_toList]

/-- A name of a module is trimmed and has no colon. -/
theorem Names.module_shape (h : Names entry module attr) :
    ':' ∉ module.toList ∧ Text.trimmed module = module := by
  have hfrom : ∃ m, ':' ∉ m ∧ Text.Trims m module.toList := by
    cases h with
    | whole hcolon hmodule => exact ⟨_, hcolon, hmodule⟩
    | parts _ hcolon hmodule _ => exact ⟨_, hcolon, hmodule⟩
  obtain ⟨m, hcolon, hmodule⟩ := hfrom
  constructor
  · exact fun hc => hcolon (hmodule.subset hc)
  · exact trimmed_of_trims hmodule

theorem Names.attr_shape {a : String} (h : Names entry module (some a)) : Text.trimmed a = a := by
  cases h with
  | parts _ _ _ hattr => exact trimmed_of_trims hattr

/-- A label names the parts that it is made of, as trimmed names cannot be told apart from it otherwise. -/
theorem named_label {l : LoadedEntry ε} (hcolon : ':' ∉ l.module.toList)
    (hmodule : Text.trimmed l.module = l.module) (hattr : Text.trimmed l.attr = l.attr) :
    named l.label = (l.module, some l.attr) := by
  have hlabel : l.label.toList = l.module.toList ++ ':' :: l.attr.toList := by
    simp [LoadedEntry.label]
  rw [named_of_append hlabel hcolon]
  rw [Text.trimmed] at hmodule hattr
  rw [hmodule, hattr]

end Entry

/-! ## What was registered last -/

/-- The last of the pairs under a name holds `x`. -/
def Last (l : List (String × α)) (name : String) (x : α) : Prop :=
  ∃ before after, l = before ++ (name, x) :: after ∧ name ∉ after.map (·.1)

theorem forall_bne_iff {l : List (String × α)} {name : String} :
    (∀ p ∈ l, name != p.1) ↔ name ∉ l.map (·.1) := by
  constructor
  · intro h hname
    obtain ⟨p, hp, rfl⟩ := List.mem_map.1 hname
    exact bne_iff_ne.1 (h p hp) rfl
  · intro h p hp
    exact bne_iff_ne.2 fun heq => h (heq ▸ List.mem_map_of_mem hp)

theorem lookup_reverse_eq_some_iff {l : List (String × α)} {name : String} {x : α} :
    l.reverse.lookup name = some x ↔ Last l name x := by
  rw [List.lookup_eq_some_iff]
  constructor
  · rintro ⟨after, before, hl, hafter⟩
    refine ⟨before.reverse, after.reverse, ?_, ?_⟩
    · rw [← List.reverse_reverse l, hl]
      simp
    · exact forall_bne_iff.1 fun p hp => hafter p (List.mem_reverse.1 hp)
  · rintro ⟨before, after, rfl, hafter⟩
    refine ⟨after.reverse, before.reverse, by simp, ?_⟩
    exact fun p hp => forall_bne_iff.2 hafter p (List.mem_reverse.1 hp)

theorem lookup_reverse_eq_none_iff {l : List (String × α)} {name : String} :
    l.reverse.lookup name = none ↔ name ∉ l.map (·.1) := by
  rw [List.lookup_eq_none_iff, forall_bne_iff, List.map_reverse, List.mem_reverse]

theorem lookup_map_snd (f : α → β) (l : List (String × α)) (name : String) :
    (l.map fun p => (p.1, f p.2)).lookup name = (l.lookup name).map f := by
  induction l with
  | nil => rfl
  | cons p l ih =>
    rw [List.map_cons, List.lookup_cons, List.lookup_cons, ih]
    split <;> rfl

/-- The exports that are made one after the other. -/
def exportsOf (es : List (String × ε)) : Exports ε := es.foldl (fun done e => done.add e.1 e.2) []

/-- The registry that modules are added to one after the other, each with the exports that it was given
one after the other. -/
def ofModules (ms : List (String × List (String × ε))) : Registry ε :=
  ms.foldl (fun r m => r.register m.1 (exportsOf m.2)) []

theorem exportsOf_eq (es : List (String × ε)) : exportsOf es = es.reverse := by
  have hfold : exportsOf es = (es.map id).reverse ++ [] := List.foldl_flip_cons_eq_append
  simpa using hfold

theorem lookup_ofModules (ms : List (String × List (String × ε))) (name : String) :
    (ofModules ms).lookup name = (ms.reverse.lookup name).map exportsOf := by
  have hfold : ofModules ms = (ms.map fun m => (m.1, exportsOf m.2)).reverse ++ [] :=
    List.foldl_flip_cons_eq_append
  rw [hfold, List.append_nil, ← List.map_reverse, lookup_map_snd]

theorem lookup_ofModules_eq_some_iff {ms : List (String × List (String × ε))} {name : String}
    {x : Exports ε} :
    (ofModules ms).lookup name = some x ↔ ∃ es, Last ms name es ∧ exportsOf es = x := by
  simp only [lookup_ofModules, Option.map_eq_some_iff, lookup_reverse_eq_some_iff]

theorem lookup_ofModules_eq_none_iff {ms : List (String × List (String × ε))} {name : String} :
    (ofModules ms).lookup name = none ↔ name ∉ ms.map (·.1) := by
  rw [lookup_ofModules, Option.map_eq_none_iff, lookup_reverse_eq_none_iff]

/-! ## Loading -/

/-- The export that an attribute selects, or the defaults where none is given. -/
def selected? (es : Exports ε) : Option String → Option (String × ε)
  | some a => (es.lookup a).map (a, ·)
  | none => defaultExport? es

/-- What is missing of a module that is there. -/
def missing (module : String) : Option String → StartupError
  | some a => .missingAttribute module a
  | none => .missingApp module

theorem load_eq (r : Registry ε) (entry : String) : r.load entry =
    match r.lookup (named entry).1 with
    | none => .error (.moduleNotFound (named entry).1)
    | some es =>
      match selected? es (named entry).2 with
      | some (a, object) => .ok ⟨(named entry).1, a, object⟩
      | none => .error (missing (named entry).1 (named entry).2) := by
  cases hsplit : splitColon entry.toList with
  | none =>
    simp only [load, named, hsplit]
    cases r.lookup (Text.trimmed entry) with
    | none => rfl
    | some es => cases h : defaultExport? es <;> simp [h, selected?, missing]
  | some parts =>
    simp only [load, named, hsplit]
    cases r.lookup (.ofList (Text.trim parts.1)) with
    | none => rfl
    | some es => cases h : es.lookup (.ofList (Text.trim parts.2)) <;> simp [h, selected?, missing]

section Load

variable {r : Registry ε} {entry module : String} {attr : Option String}

theorem load_eq_ok_iff (h : Names entry module attr) {l : LoadedEntry ε} : r.load entry = .ok l ↔
    l.module = module ∧
      ∃ es, r.lookup module = some es ∧ selected? es attr = some (l.attr, l.object) := by
  obtain ⟨m, a, object⟩ := l
  rw [load_eq, names_iff.1 h]
  cases hmodule : r.lookup module with
  | none => simp
  | some es =>
    cases hselected : selected? es attr with
    | none => simp [hselected]
    | some found => simp [hselected, eq_comm, Prod.ext_iff]

theorem load_eq_error_iff (h : Names entry module attr) {e : StartupError} :
    r.load entry = .error e ↔ r.lookup module = none ∧ e = .moduleNotFound module ∨
      ∃ es, r.lookup module = some es ∧ selected? es attr = none ∧ e = missing module attr := by
  rw [load_eq, names_iff.1 h]
  cases hmodule : r.lookup module with
  | none => simp [eq_comm]
  | some es => cases hselected : selected? es attr <;> simp [hselected, eq_comm]

theorem exists_default_of_defaultExport? {es : Exports ε} {a : String} {object : ε}
    (h : defaultExport? es = some (a, object)) :
    a ∈ defaultAttributes ∧ es.lookup a = some object := by
  obtain ⟨name, hname, hfound⟩ := List.exists_of_findSome?_eq_some h
  obtain ⟨found, hlookup, heq⟩ := Option.map_eq_some_iff.1 hfound
  obtain ⟨rfl, rfl⟩ := Prod.mk.inj heq
  exact ⟨hname, hlookup⟩

/-- Loading the label of what was loaded loads the same again. -/
theorem load_label {l : LoadedEntry ε} (h : r.load entry = .ok l) : r.load l.label = .ok l := by
  have hnames : Names entry (named entry).1 (named entry).2 := names_iff.2 rfl
  obtain ⟨hmodule, es, hes, hselected⟩ := (load_eq_ok_iff hnames).1 h
  obtain ⟨hcolon, htrimmed⟩ := hnames.module_shape
  have hattr : Text.trimmed l.attr = l.attr ∧ es.lookup l.attr = some l.object := by
    cases hgiven : (named entry).2 with
    | none =>
      rw [hgiven] at hselected
      obtain ⟨hdefault, hlookup⟩ := exists_default_of_defaultExport? hselected
      have hall : ∀ a ∈ defaultAttributes, Text.trimmed a = a := by decide
      exact ⟨hall l.attr hdefault, hlookup⟩
    | some a =>
      rw [hgiven] at hselected hnames
      obtain ⟨object, hlookup, heq⟩ := Option.map_eq_some_iff.1 hselected
      obtain ⟨rfl, rfl⟩ := Prod.mk.inj heq
      exact ⟨hnames.attr_shape, hlookup⟩
  rw [← hmodule] at hes hcolon htrimmed
  have hagain := names_iff.2 (named_label hcolon htrimmed hattr.1)
  apply (load_eq_ok_iff hagain).2
  refine ⟨rfl, es, hes, ?_⟩
  rw [selected?, hattr.2]
  rfl

end Load

section History

variable {es : List (String × ε)} {attr : Option String}

theorem defaultExport?_eq (es : Exports ε) : defaultExport? es =
    ((es.lookup "app").map ("app", ·)).or ((es.lookup "application").map ("application", ·)) := by
  simp only [defaultExport?, defaultAttributes, List.findSome?_cons, List.findSome?_nil]
  cases es.lookup "app" <;> cases es.lookup "application" <;> rfl

theorem selected?_exportsOf_eq_some_iff {a : String} {object : ε} :
    selected? (exportsOf es) attr = some (a, object) ↔ Last es a object ∧
      (attr = some a ∨ attr = none ∧ (a = "app" ∨ a = "application" ∧ "app" ∉ es.map (·.1))) := by
  simp only [← lookup_reverse_eq_some_iff, ← lookup_reverse_eq_none_iff, ← exportsOf_eq]
  cases attr with
  | some given =>
    rw [selected?, Option.map_eq_some_iff]
    constructor
    · rintro ⟨o, hlookup, heq⟩
      obtain ⟨rfl, rfl⟩ := Prod.mk.inj heq
      exact ⟨hlookup, .inl rfl⟩
    · rintro ⟨hlookup, heq | ⟨heq, -⟩⟩
      · obtain rfl := Option.some.inj heq
        exact ⟨object, hlookup, rfl⟩
      · contradiction
  | none =>
    rw [selected?, defaultExport?_eq]
    constructor
    · intro h
      rcases Option.or_eq_some_iff.1 h with h | ⟨hnone, h⟩
      · obtain ⟨o, hlookup, heq⟩ := Option.map_eq_some_iff.1 h
        obtain ⟨rfl, rfl⟩ := Prod.mk.inj heq
        exact ⟨hlookup, .inr ⟨rfl, .inl rfl⟩⟩
      · obtain ⟨o, hlookup, heq⟩ := Option.map_eq_some_iff.1 h
        obtain ⟨rfl, rfl⟩ := Prod.mk.inj heq
        exact ⟨hlookup, .inr ⟨rfl, .inr ⟨rfl, Option.map_eq_none_iff.1 hnone⟩⟩⟩
    · rintro ⟨hlookup, heq | ⟨-, rfl | ⟨rfl, hnone⟩⟩⟩
      · contradiction
      · rw [hlookup]
        rfl
      · rw [hnone, hlookup]
        rfl

theorem selected?_exportsOf_eq_none_iff : selected? (exportsOf es) attr = none ↔
    (∃ a, attr = some a ∧ a ∉ es.map (·.1)) ∨
      attr = none ∧ "app" ∉ es.map (·.1) ∧ "application" ∉ es.map (·.1) := by
  simp only [← lookup_reverse_eq_none_iff, ← exportsOf_eq]
  cases attr with
  | some given => simp [selected?]
  | none => simp [selected?, defaultExport?_eq]

end History

/-- Where an entry leads in a registry tells what was last registered under the names in it. It fails for
the first of them that nothing is registered under, and what it leads to can be loaded by its label. -/
theorem load_ofModules (ms : List (String × List (String × ε))) (entry : String) :
    ∃ module attr, (∀ module' attr', Names entry module' attr' ↔ module' = module ∧ attr' = attr) ∧
      (∀ e, (ofModules ms).load entry = .error e ↔
        e = .moduleNotFound module ∧ module ∉ ms.map (·.1) ∨
        ∃ es, Last ms module es ∧
          ((∃ a, attr = some a ∧ a ∉ es.map (·.1) ∧ e = .missingAttribute module a) ∨
            attr = none ∧ "app" ∉ es.map (·.1) ∧ "application" ∉ es.map (·.1) ∧
              e = .missingApp module)) ∧
      (∀ l, (ofModules ms).load entry = .ok l ↔
        l.module = module ∧ ∃ es, Last ms module es ∧ Last es l.attr l.object ∧
          (attr = some l.attr ∨
            attr = none ∧ (l.attr = "app" ∨ l.attr = "application" ∧ "app" ∉ es.map (·.1)))) ∧
      ∀ l, (ofModules ms).load entry = .ok l → (ofModules ms).load l.label = .ok l := by
  have hnames : Names entry (named entry).1 (named entry).2 := names_iff.2 rfl
  refine ⟨(named entry).1, (named entry).2, fun module' attr' => ?_, fun e => ?_, fun l => ?_,
    fun l => load_label⟩
  · rw [names_iff, Prod.ext_iff, @eq_comm _ module', @eq_comm _ attr']
  · rw [load_eq_error_iff hnames, lookup_ofModules_eq_none_iff, and_comm]
    apply or_congr_right
    constructor
    · rintro ⟨_, hes, hnone, rfl⟩
      obtain ⟨es, hlast, rfl⟩ := lookup_ofModules_eq_some_iff.1 hes
      refine ⟨es, hlast, ?_⟩
      rcases selected?_exportsOf_eq_none_iff.1 hnone with ⟨a, hattr, ha⟩ | ⟨hattr, happ, happlication⟩
      · exact .inl ⟨a, hattr, ha, hattr ▸ rfl⟩
      · exact .inr ⟨hattr, happ, happlication, hattr ▸ rfl⟩
    · rintro ⟨es, hlast, hmissing⟩
      refine ⟨exportsOf es, lookup_ofModules_eq_some_iff.2 ⟨es, hlast, rfl⟩, ?_⟩
      rw [selected?_exportsOf_eq_none_iff]
      rcases hmissing with ⟨a, hattr, ha, rfl⟩ | ⟨hattr, happ, happlication, rfl⟩
      · exact ⟨.inl ⟨a, hattr, ha⟩, hattr ▸ rfl⟩
      · exact ⟨.inr ⟨hattr, happ, happlication⟩, hattr ▸ rfl⟩
  · rw [load_eq_ok_iff hnames]
    apply and_congr_right
    intro hmodule
    constructor
    · rintro ⟨_, hes, hselected⟩
      obtain ⟨es, hlast, rfl⟩ := lookup_ofModules_eq_some_iff.1 hes
      exact ⟨es, hlast, selected?_exportsOf_eq_some_iff.1 hselected⟩
    · rintro ⟨es, hlast, hselected⟩
      exact ⟨exportsOf es, lookup_ofModules_eq_some_iff.2 ⟨es, hlast, rfl⟩,
        selected?_exportsOf_eq_some_iff.2 hselected⟩

/-- A module that was registered again, by its name alone: the default that it has now, and the label of that. -/
theorem load_ofModules_again :
    let r := ofModules [("site", [("app", 1)]), ("site", [("application", 2), ("application", 3)])]
    r.load " site " = .ok ⟨"site", "application", 3⟩ ∧
      r.load "site:application" = .ok ⟨"site", "application", 3⟩ := by
  intro r
  have hload : r.load " site " = .ok ⟨"site", "application", 3⟩ := by decide
  obtain ⟨_, _, -, -, -, hlabel⟩ :=
    load_ofModules [("site", [("app", 1)]), ("site", [("application", 2), ("application", 3)])] " site "
  exact ⟨hload, hlabel _ hload⟩

end Gateway.Registry
