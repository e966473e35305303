import Gateway.Volume
import Mathlib.Logic.Relation
import Mathlib.Data.List.Infix

/-!
Walks through a volume, one step at a time. A walk that arrives has found a location without links
on the way, and walks of volumes that differ in file contents only are the same.
-/
namespace Gateway

/-- Strictly below `root`, compared by whole names. -/
def Location.IsBelow (p root : Location) : Prop := root <+: p ∧ root ≠ p

namespace Entry

def IsLink : Entry → Prop
  | link _ => True
  | _ => False

/-- The entry without the contents of a file. -/
def shape : Entry → Entry
  | file _ => file (.ofData [])
  | e => e

theorem shape_eq_directory {e : Entry} : e.shape = directory ↔ e = directory := by
  cases e <;> simp [shape]

theorem shape_eq_link {e : Entry} {target : List Char} :
    e.shape = link target ↔ e = link target := by
  cases e <;> simp [shape]

theorem not_isLink {e : Entry} (h : ∀ target, e ≠ link target) : ¬ e.IsLink := by
  cases e with
  | link target => exact fun _ => h target rfl
  | _ => exact id

theorem isLink_shape {e : Entry} : e.shape.IsLink ↔ e.IsLink := by
  cases e <;> simp [shape, IsLink]

end Entry

namespace Path

/-- A segment that names something in a directory. -/
structure IsName (s : Segment) : Prop where
  ne_nil : s ≠ []
  ne_dot : s ≠ dot
  ne_dotDot : s ≠ dotDot

theorem isName_of_not {s : Segment} (hs : ¬ (s = [] ∨ s = dot)) (hup : s ≠ dotDot) : IsName s :=
  ⟨(not_or.1 hs).1, (not_or.1 hs).2, hup⟩

end Path

namespace Volume

/-- Where a walk stands: the links it may still pass through, the location it has reached and the
segments to come. -/
structure Stage where
  links : Nat
  here : Location
  todo : List Path.Segment

/-- One step of a walk. Each starts in a directory, and takes one segment. -/
inductive Step (v : Volume) : Stage → Stage → Prop
  | stay {links : Nat} {here : Location} {s : Path.Segment} {todo : List Path.Segment}
      (hd : v.isDirectory here) (hs : s = [] ∨ s = Path.dot) :
      Step v ⟨links, here, s :: todo⟩ ⟨links, here, todo⟩
  | up {links : Nat} {here : Location} {todo : List Path.Segment} (hd : v.isDirectory here) :
      Step v ⟨links, here, Path.dotDot :: todo⟩ ⟨links, here.dropLast, todo⟩
  | enter {links : Nat} {here : Location} {s : Path.Segment} {todo : List Path.Segment} {e : Entry}
      (hd : v.isDirectory here) (hs : Path.IsName s) (ha : admits here s)
      (he : v.entry? (here ++ [s]) = some e) (hl : ¬ e.IsLink) :
      Step v ⟨links, here, s :: todo⟩ ⟨links, here ++ [s], todo⟩
  | follow {links : Nat} {here : Location} {s : Path.Segment} {todo : List Path.Segment}
      {target : List Char} (hd : v.isDirectory here) (hs : Path.IsName s) (ha : admits here s)
      (he : v.entry? (here ++ [s]) = some (.link target)) :
      Step v ⟨links + 1, here, s :: todo⟩
        ⟨links, if Path.isAbsolute target then [] else here, Path.segments target ++ todo⟩

abbrev Steps (v : Volume) : Stage → Stage → Prop := Relation.ReflTransGen v.Step

variable {v : Volume}

theorem Step.walk_eq {a b : Stage} (h : v.Step a b) :
    v.walk a.links a.here a.todo = v.walk b.links b.here b.todo := by
  cases h with
  | stay hd hs => rw [walk, if_neg (by simp [hd]), if_pos hs]
  | up hd => rw [walk, if_neg (by simp [hd]), if_neg (by simp [Path.dotDot, Path.dot]), if_pos rfl]
  | enter hd hs ha he hl =>
    rw [walk, if_neg (by simp [hd]), if_neg (not_or.2 ⟨hs.ne_nil, hs.ne_dot⟩),
      if_neg hs.ne_dotDot, if_neg (by simp [ha]), he]
    split
    · simp_all
    · simp_all [Entry.IsLink]
    · rfl
  | follow hd hs ha he =>
    rw [walk, if_neg (by simp [hd]), if_neg (not_or.2 ⟨hs.ne_nil, hs.ne_dot⟩),
      if_neg hs.ne_dotDot, if_neg (by simp [ha]), he]

theorem Steps.walk_eq {a b : Stage} (h : v.Steps a b) :
    v.walk a.links a.here a.todo = v.walk b.links b.here b.todo := by
  induction h with
  | refl => rfl
  | tail _ hstep ih => exact ih.trans hstep.walk_eq

theorem steps_of_walk {links : Nat} {here : Location} {todo : List Path.Segment} {p : Location}
    (h : v.walk links here todo = some p) : ∃ n, v.Steps ⟨links, here, todo⟩ ⟨n, p, []⟩ := by
  fun_induction walk v links here todo with
  | case1 links here =>
    obtain rfl : here = p := Option.some.inj h
    exact ⟨links, .refl⟩
  | case2 => simp at h
  | case3 links here s todo hd hs ih =>
    obtain ⟨n, hn⟩ := ih h
    exact ⟨n, hn.head (.stay (by simpa using hd) hs)⟩
  | case4 links here todo hd hs ih =>
    obtain ⟨n, hn⟩ := ih h
    exact ⟨n, hn.head (.up (by simpa using hd))⟩
  | case5 => simp at h
  | case6 => simp at h
  | case7 => simp at h
  | case8 here s todo hd hs hup ha target he n ih =>
    obtain ⟨k, hk⟩ := ih h
    have hname := Path.isName_of_not hs hup
    exact ⟨k, hk.head (.follow (by simpa using hd) hname (by simpa using ha) he)⟩
  | case9 links here s todo hd hs hup ha e hl he ih =>
    obtain ⟨n, hn⟩ := ih h
    have hname := Path.isName_of_not hs hup
    exact ⟨n, hn.head (.enter (by simpa using hd) hname (by simpa using ha) he
      (Entry.not_isLink hl))⟩

/-- A walk arrives where its steps lead. -/
theorem walk_eq_some_iff {links : Nat} {here : Location} {todo : List Path.Segment}
    {p : Location} :
    v.walk links here todo = some p ↔ ∃ n, v.Steps ⟨links, here, todo⟩ ⟨n, p, []⟩ := by
  refine ⟨steps_of_walk, ?_⟩
  rintro ⟨n, hn⟩
  rw [hn.walk_eq, walk]

theorem Step.append {a b : Stage} (h : v.Step a b) (more : List Path.Segment) :
    v.Step { a with todo := a.todo ++ more } { b with todo := b.todo ++ more } := by
  cases h with
  | stay hd hs => exact .stay hd hs
  | up hd => exact .up hd
  | enter hd hs ha he hl => exact .enter hd hs ha he hl
  | follow hd hs ha he =>
    simp only [List.cons_append, List.append_assoc]
    exact .follow hd hs ha he

theorem Steps.append {a b : Stage} (h : v.Steps a b) (more : List Path.Segment) :
    v.Steps { a with todo := a.todo ++ more } { b with todo := b.todo ++ more } := by
  induction h with
  | refl => exact .refl
  | tail _ hstep ih => exact ih.tail (hstep.append more)

theorem Step.of_append {links : Nat} {here : Location} {s : Path.Segment}
    {todo more : List Path.Segment} {c : Stage} (h : v.Step ⟨links, here, s :: todo ++ more⟩ c) :
    ∃ b, v.Step ⟨links, here, s :: todo⟩ b ∧ c = { b with todo := b.todo ++ more } := by
  cases h with
  | stay hd hs => exact ⟨_, .stay hd hs, rfl⟩
  | up hd => exact ⟨_, .up hd, rfl⟩
  | enter hd hs ha he hl => exact ⟨_, .enter hd hs ha he hl, rfl⟩
  | follow hd hs ha he => exact ⟨_, .follow hd hs ha he, by simp⟩

/-- A walk that arrives passes a stage at which exactly its last segments are to come. -/
theorem Steps.split {links n : Nat} {here p : Location} {todo more : List Path.Segment}
    (h : v.Steps ⟨links, here, todo ++ more⟩ ⟨n, p, []⟩) :
    ∃ m q, v.Steps ⟨links, here, todo⟩ ⟨m, q, []⟩ ∧ v.Steps ⟨m, q, more⟩ ⟨n, p, []⟩ := by
  generalize hx : Stage.mk links here (todo ++ more) = x at h
  induction h using Relation.ReflTransGen.head_induction_on generalizing links here todo with
  | refl =>
    obtain ⟨rfl, rfl, hnil⟩ := Stage.mk.inj hx
    obtain ⟨rfl, rfl⟩ := List.append_eq_nil_iff.1 hnil
    exact ⟨links, here, .refl, .refl⟩
  | head hstep hrest ih =>
    subst hx
    cases todo with
    | nil => exact ⟨links, here, .refl, hrest.head hstep⟩
    | cons s todo =>
      obtain ⟨b, hb, rfl⟩ := hstep.of_append
      obtain ⟨m, q, hm, hq⟩ := ih rfl
      exact ⟨m, q, hm.head hb, hq⟩

theorem Steps.of_append_empty {links n : Nat} {here p : Location} {todo : List Path.Segment}
    (h : v.Steps ⟨links, here, todo ++ [[]]⟩ ⟨n, p, []⟩) :
    ∃ m, v.Steps ⟨links, here, todo⟩ ⟨m, p, []⟩ := by
  obtain ⟨m, q, hm, hq⟩ := h.split
  have hwalk : v.walk m q [[]] = some p := walk_eq_some_iff.2 ⟨n, hq⟩
  have hqp : q = p := by
    rw [walk] at hwalk
    split at hwalk
    · simp at hwalk
    · simpa [walk] using hwalk
  exact ⟨m, hqp ▸ hm⟩

theorem walk_eq_none_of_not_isDirectory {links : Nat} {here : Location} {todo : List Path.Segment}
    (hd : ¬ v.isDirectory here) (ht : todo ≠ []) : v.walk links here todo = none := by
  obtain ⟨s, rest, rfl⟩ := List.exists_cons_of_ne_nil ht
  rw [walk, if_pos (by simpa using hd)]

/-- The location names an entry, and no link stands there or on the way: whatever is above it is a
directory. -/
structure Resolved (v : Volume) (p : Location) : Prop where
  above : ∀ q, p.IsBelow q → v.entry? q = some .directory
  entry : ∃ e, v.entry? p = some e ∧ ¬ e.IsLink
  isName : ∀ s ∈ p, Path.IsName s ∧ '/' ∉ s

theorem entry?_nil (v : Volume) : v.entry? [] = some .directory := rfl

theorem isDirectory_iff {p : Location} : v.isDirectory p ↔ v.entry? p = some .directory := by
  rw [isDirectory, beq_iff_eq]

theorem Resolved.nil (v : Volume) : v.Resolved [] where
  above _ hq := absurd (List.prefix_nil.1 hq.1) hq.2
  entry := ⟨.directory, v.entry?_nil, id⟩
  isName _ hs := absurd hs List.not_mem_nil

theorem Resolved.of_isBelow {p q : Location} (h : v.Resolved p) (hq : p.IsBelow q) :
    v.Resolved q where
  above r hr := h.above r ⟨hr.1.trans hq.1, fun heq => hr.2 (hr.1.eq_of_length_le
    (heq ▸ hq.1.length_le))⟩
  entry := ⟨.directory, h.above q hq, id⟩
  isName s hs := h.isName s (hq.1.subset hs)

theorem Resolved.dropLast {p : Location} (h : v.Resolved p) : v.Resolved p.dropLast := by
  by_cases hp : p = []
  · subst hp
    exact Resolved.nil v
  · refine h.of_isBelow ⟨p.dropLast_prefix, fun heq => ?_⟩
    have hlen := congrArg List.length heq
    have hpos := List.length_pos_iff.2 hp
    rw [List.length_dropLast] at hlen
    omega

theorem Resolved.append_singleton {p : Location} {s : Path.Segment} {e : Entry} (h : v.Resolved p)
    (hd : v.isDirectory p) (hs : Path.IsName s ∧ '/' ∉ s) (he : v.entry? (p ++ [s]) = some e)
    (hl : ¬ e.IsLink) : v.Resolved (p ++ [s]) where
  above q hq := by
    have hqp : q <+: p := (List.prefix_concat_iff.1 hq.1).resolve_left hq.2
    by_cases heq : q = p
    · exact heq ▸ isDirectory_iff.1 hd
    · exact h.above q ⟨hqp, heq⟩
  entry := ⟨e, he, hl⟩
  isName t ht := by
    rcases List.mem_append.1 ht with ht | ht
    · exact h.isName t ht
    · exact List.mem_singleton.1 ht ▸ hs

/-- What holds at every stage of a walk: where it stands is resolved, and no segment to come has a
slash in it. -/
def Stage.Sound (v : Volume) (a : Stage) : Prop := v.Resolved a.here ∧ ∀ s ∈ a.todo, '/' ∉ s

theorem Step.sound {a b : Stage} (h : v.Step a b) (ha : a.Sound v) : b.Sound v := by
  obtain ⟨hr, hslash⟩ := ha
  cases h with
  | stay hd hs => exact ⟨hr, fun s hs => hslash s (List.mem_cons_of_mem _ hs)⟩
  | up hd => exact ⟨hr.dropLast, fun s hs => hslash s (List.mem_cons_of_mem _ hs)⟩
  | enter hd hs ha he hl =>
    exact ⟨hr.append_singleton hd ⟨hs, hslash _ List.mem_cons_self⟩ he hl,
      fun s hs => hslash s (List.mem_cons_of_mem _ hs)⟩
  | @follow _ here _ _ target hd hs ha he =>
    constructor
    · show v.Resolved (if Path.isAbsolute target then [] else here)
      split
      · exact Resolved.nil v
      · exact hr
    · intro s hs
      rcases List.mem_append.1 hs with hs | hs
      · exact Path.slash_not_mem_of_mem_segments hs
      · exact hslash s (List.mem_cons_of_mem _ hs)

theorem Steps.sound {a b : Stage} (h : v.Steps a b) (ha : a.Sound v) : b.Sound v := by
  induction h with
  | refl => exact ha
  | tail _ hstep ih => exact hstep.sound ih

theorem canonical?_eq_some_iff {path : List Char} {p : Location} :
    v.canonical? path = some p ↔
      '\x00' ∉ path ∧ Path.isAbsolute path ∧
        ∃ n, v.Steps ⟨maxLinks, [], Path.segments path⟩ ⟨n, p, []⟩ := by
  rw [← walk_eq_some_iff, canonical?]
  by_cases hnul : '\x00' ∈ path <;> by_cases habs : Path.isAbsolute path <;> simp [hnul, habs]

/-- The canonical location of a path is resolved. -/
theorem resolved_of_canonical? {path : List Char} {p : Location} (h : v.canonical? path = some p) :
    v.Resolved p := by
  obtain ⟨_, _, n, hn⟩ := canonical?_eq_some_iff.1 h
  have hstart : Stage.Sound v ⟨maxLinks, [], Path.segments path⟩ :=
    ⟨Resolved.nil v, fun s hs => Path.slash_not_mem_of_mem_segments hs⟩
  exact (hn.sound hstart).1

/-- The volumes have the same names, directories and links. The contents of files may differ. -/
def SameShape (v w : Volume) : Prop :=
  ∀ p, (v.entry? p).map Entry.shape = (w.entry? p).map Entry.shape

namespace SameShape

variable {w : Volume}

theorem symm (h : v.SameShape w) : w.SameShape v := fun p => (h p).symm

theorem exists_entry? {p : Location} {e : Entry} (h : v.SameShape w) (hv : v.entry? p = some e) :
    ∃ e', w.entry? p = some e' ∧ e'.shape = e.shape := by
  have hp := h p
  rw [hv] at hp
  exact Option.map_eq_some_iff.1 hp.symm

theorem isDirectory {p : Location} (h : v.SameShape w) (hd : v.isDirectory p) :
    w.isDirectory p := by
  obtain ⟨e, he, hs⟩ := h.exists_entry? (isDirectory_iff.1 hd)
  rw [isDirectory_iff, he, Entry.shape_eq_directory.1 hs]

theorem step {a b : Stage} (h : v.SameShape w) (hstep : v.Step a b) : w.Step a b := by
  cases hstep with
  | stay hd hs => exact .stay (h.isDirectory hd) hs
  | up hd => exact .up (h.isDirectory hd)
  | enter hd hs ha he hl =>
    obtain ⟨e', he', hs'⟩ := h.exists_entry? he
    have hl' : ¬ e'.IsLink := by rwa [← Entry.isLink_shape, hs', Entry.isLink_shape]
    exact .enter (h.isDirectory hd) hs ha he' hl'
  | follow hd hs ha he =>
    obtain ⟨e', he', hs'⟩ := h.exists_entry? he
    exact .follow (h.isDirectory hd) hs ha (Entry.shape_eq_link.1 hs' ▸ he')

theorem steps {a b : Stage} (h : v.SameShape w) (hsteps : v.Steps a b) : w.Steps a b := by
  induction hsteps with
  | refl => exact .refl
  | tail _ hstep ih => exact ih.tail (h.step hstep)

theorem walk_eq_some {links : Nat} {here p : Location} {todo : List Path.Segment}
    (h : v.SameShape w) (hv : v.walk links here todo = some p) :
    w.walk links here todo = some p := by
  obtain ⟨n, hn⟩ := walk_eq_some_iff.1 hv
  exact walk_eq_some_iff.2 ⟨n, h.steps hn⟩

theorem canonical?_eq (h : v.SameShape w) (path : List Char) :
    v.canonical? path = w.canonical? path := by
  unfold canonical?
  split
  · rfl
  · exact Option.ext fun p => ⟨h.walk_eq_some, h.symm.walk_eq_some⟩

end SameShape

end Volume
end Gateway
