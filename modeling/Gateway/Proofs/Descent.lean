import Gateway.Proofs.Collapsing
import Gateway.Proofs.Containment

/-!
Lookups in a site without links. Where nothing below the canonical root is a link, a lookup is one walk
straight down from the root over the names that are left of the request path, and it never escapes.
-/
namespace Gateway

namespace Volume

/-- What stands where the names lead, straight down from `here`: every name but the first is looked
up in the directory before it, as far as names and paths may be long. A name with a NUL is none. -/
def descend (v : Volume) (here : Location) : List Path.Segment → Option Entry
  | [] => v.entry? here
  | s :: names =>
    if v.isDirectory here ∧ admits here s ∧ '\x00' ∉ s then v.descend (here ++ [s]) names else none

/-- Nothing below `here` is a link. -/
def LinkFree (v : Volume) (here : Location) : Prop :=
  ∀ p target, p.IsBelow here → v.entry? p ≠ some (.link target)

variable {v : Volume} {here : Location} {names : List Path.Segment}

theorem isBelow_append (here : Location) {names : List Path.Segment} (h : names ≠ []) :
    Location.IsBelow (here ++ names) here :=
  ⟨List.prefix_append here names, fun heq => h (List.self_eq_append_right.1 heq)⟩

theorem LinkFree.append (h : v.LinkFree here) (s : Path.Segment) : v.LinkFree (here ++ [s]) := by
  intro p target hp
  apply h p target
  constructor
  · exact (List.prefix_append here [s]).trans hp.1
  · rintro rfl
    have hlength := hp.1.length_le
    rw [List.length_append, List.length_singleton] at hlength
    omega

theorem descend_of_entry?_eq_none (h : v.entry? here = none) (names : List Path.Segment) :
    v.descend here names = none := by
  cases names with
  | nil => exact h
  | cons s names =>
    have hd : ¬ v.isDirectory here := by
      rw [isDirectory_iff, h]
      simp
    exact if_neg fun hall => hd hall.1

theorem descend_of_nul_mem {s : Path.Segment} (hs : s ∈ names) (hnul : '\x00' ∈ s) :
    v.descend here names = none := by
  induction names generalizing here with
  | nil => exact absurd hs List.not_mem_nil
  | cons t names ih =>
    unfold descend
    split
    · next hall =>
      rcases List.mem_cons.1 hs with rfl | hs
      · exact absurd hnul hall.2.2
      · exact ih hs
    · rfl

theorem entry?_of_descend {e : Entry} (h : v.descend here names = some e) :
    v.entry? (here ++ names) = some e := by
  induction names generalizing here with
  | nil => rwa [List.append_nil]
  | cons s names ih =>
    unfold descend at h
    split at h
    · rw [List.append_cons]
      exact ih h
    · contradiction

/-- Without links below it a walk from an entry goes straight down. -/
theorem walk_eq_descend (hfree : v.LinkFree here) (hhere : (v.entry? here).isSome)
    (hnames : ∀ s ∈ names, Path.IsName s ∧ '\x00' ∉ s) (links : Nat) :
    v.walk links here names = (v.descend here names).map fun _ => here ++ names := by
  induction names generalizing here with
  | nil =>
    obtain ⟨e, he⟩ := Option.isSome_iff_exists.1 hhere
    rw [walk, descend, he, List.append_nil]
    rfl
  | cons s names ih =>
    obtain ⟨hname, hnul⟩ := hnames s List.mem_cons_self
    have hstay : ¬ (s = [] ∨ s = Path.dot) := not_or.2 ⟨hname.ne_nil, hname.ne_dot⟩
    unfold descend
    by_cases hd : v.isDirectory here
    · by_cases ha : admits here s
      · rw [walk, if_neg (by simp [hd]), if_neg hstay, if_neg hname.ne_dotDot, if_neg (by simp [ha]),
          if_pos ⟨hd, ha, hnul⟩]
        cases he : v.entry? (here ++ [s]) with
        | none =>
          rw [descend_of_entry?_eq_none he]
          rfl
        | some e =>
          have hrest := ih (hfree.append s) (Option.isSome_iff_exists.2 ⟨e, he⟩)
            fun t ht => hnames t (List.mem_cons_of_mem s ht)
          rw [← List.append_cons] at hrest
          cases e with
          | link target => exact absurd he (hfree _ target (isBelow_append here (by simp)))
          | file data => exact hrest
          | directory => exact hrest
      · rw [walk, if_neg (by simp [hd]), if_neg hstay, if_neg hname.ne_dotDot, if_pos (by simp [ha]),
          if_neg fun hall => ha hall.2.1]
        rfl
    · rw [walk_eq_none_of_not_isDirectory hd (List.cons_ne_nil s names),
        if_neg fun hall => hd hall.1]
      rfl

end Volume

namespace Site

open Volume (LinkFree)

variable {site : Site} {r : Location}

theorem isAbsolute_requested {path : List Char} (h : path = [] ∨ Path.isAbsolute path) :
    Path.isAbsolute (requested path) ∧ Path.lexical (requested path) = Path.lexical path := by
  rcases h with rfl | h
  · exact ⟨rfl, rfl⟩
  · have hne : path ≠ [] := by
      rintro rfl
      contradiction
    rw [requested, if_neg hne]
    exact ⟨h, rfl⟩

theorem walk_segments_join {v : Volume} {links : Nat} (hd : v.isDirectory r)
    {names : List Path.Segment} (h : ∀ s ∈ names, '/' ∉ s) :
    v.walk links r (Path.segments (Path.join names)) = v.walk links r names := by
  cases names with
  | nil =>
    -- the empty text has one empty segment, which goes nowhere
    have hstep : Volume.Step v ⟨links, r, [[]]⟩ ⟨links, r, []⟩ := .stay hd (Or.inl rfl)
    exact hstep.walk_eq
  | cons s names => rw [Path.segments_join (List.cons_ne_nil s names) h]

/-- Without links below the root, the candidate for a request path leads straight down from it. -/
theorem canonical?_candidate (hroot : site.volume.canonical? site.root = some r)
    (hd : site.volume.isDirectory r) (hfree : site.volume.LinkFree r) {path : List Char}
    (hpath : path = [] ∨ Path.isAbsolute path) :
    site.volume.canonical? (site.candidate path) =
      (site.volume.descend r (Path.lexical path)).map fun _ => r ++ Path.lexical path := by
  obtain ⟨habs, hlexical⟩ := isAbsolute_requested hpath
  have hbelow : site.candidate path = joined site.root (Path.join (Path.lexical path)) := by
    rw [candidate, Path.dropWhile_collapseChars habs, hlexical]
  have hname : ∀ s ∈ Path.lexical path, Path.IsName s ∧ '/' ∉ s :=
    fun s hs => Path.isName_of_mem_lexical hs
  rw [hbelow]
  by_cases hnul : ∃ s ∈ Path.lexical path, '\x00' ∈ s
  · obtain ⟨s, hs, hc⟩ := hnul
    have hmem : '\x00' ∈ joined site.root (Path.join (Path.lexical path)) :=
      (nul_mem_joined (Volume.canonical?_eq_some_iff.1 hroot).1 _).2 (Path.mem_join_of_mem hs hc)
    rw [Volume.canonical?, if_pos (by simp [hmem]), Volume.descend_of_nul_mem hs hc]
    rfl
  · have hno : ∀ s ∈ Path.lexical path, '\x00' ∉ s := fun s hs hc => hnul ⟨s, hs, hc⟩
    have hjoin : '\x00' ∉ Path.join (Path.lexical path) := by
      intro hmem
      rcases Path.mem_of_mem_join hmem with hslash | ⟨s, hs, hc⟩
      · exact absurd hslash (by decide)
      · exact hno s hs hc
    obtain ⟨n, hn⟩ := canonical?_joined hroot
    have hentry : (site.volume.entry? r).isSome := by
      rw [Volume.isDirectory_iff.1 hd]
      rfl
    rw [hn _ hjoin, walk_segments_join hd fun s hs => (hname s hs).2]
    exact Volume.walk_eq_descend hfree hentry (fun s hs => ⟨(hname s hs).1, hno s hs⟩) n

/-- Where nothing below the canonical root is a link, a lookup goes straight down from the root. -/
theorem resolve_eq_of_descend (hroot : site.volume.canonical? site.root = some r)
    (hd : site.volume.isDirectory r) (hfree : site.volume.LinkFree r) {path : List Char}
    (hpath : path = [] ∨ Path.isAbsolute path) :
    site.resolve path =
      match site.volume.descend r (Path.lexical path) with
      | some (.file file) => .found (r ++ Path.lexical path) file
      | _ => .missing := by
  have hbelow : r.isPrefixOf (r ++ Path.lexical path) :=
    List.isPrefixOf_iff_prefix.2 (List.prefix_append r _)
  unfold resolve
  rw [hroot, canonical?_candidate hroot hd hfree hpath]
  cases hentry : site.volume.descend r (Path.lexical path) with
  | none => rfl
  | some e =>
    have hat := Volume.entry?_of_descend hentry
    cases e <;> simp [hbelow, hat]

/-- Where nothing below the canonical root is a link, a lookup finds a file exactly where the names left of
the request path lead straight down to one, and nothing is logged. -/
theorem resolve_exact (hroot : site.volume.canonical? site.root = some r)
    (hd : site.volume.isDirectory r) (hfree : site.volume.LinkFree r) {path : List Char}
    (hpath : path = [] ∨ Path.isAbsolute path) :
    let names := Path.lexical path
    (∀ p file, site.resolve path = .found p file ↔
      p = r ++ names ∧ site.volume.descend r names = some (.file file)) ∧
    (∀ target, site.resolve path ≠ .escaped target) ∧
    notices (.ofList path) (site.resolve path) = [] := by
  intro names
  rw [resolve_eq_of_descend hroot hd hfree hpath]
  cases hentry : site.volume.descend r names with
  | none => simp [notices]
  | some e =>
    cases e with
    | file file => simp [names, notices, eq_comm]
    | directory => simp [notices]
    | link target => simp [notices]

/-- A root that is a link to a directory with a file in it. -/
def plainTree : Volume where
  entries := [([['l']], .link ['/', 'p']), ([['p']], .directory), ([['p'], ['d']], .directory),
    ([['p'], ['d'], ['a']], .file (.ofData [1]))]

theorem resolve_exact_plainTree :
    let site : Site := ⟨plainTree, "/l/".toList⟩
    site.volume.canonical? site.root = some [['p']] ∧ site.volume.LinkFree [['p']] ∧
      site.resolve "/../x/../d//./a/".toList = .found [['p'], ['d'], ['a']] (.ofData [1]) ∧
      site.resolve "/d/a/b".toList = .missing := by
  intro site
  have hname : ∀ c, c ≠ '.' → Path.IsName [c] := by
    intro c hc
    constructor <;> simp [Path.dot, Path.dotDot, hc]
  have hlink : site.volume.entry? [['l']] = some (.link ['/', 'p']) := rfl
  have hroot : site.volume.canonical? site.root = some [['p']] := by
    refine Volume.canonical?_eq_some_iff.2 ⟨by decide, rfl, 39, ?_⟩
    apply Relation.ReflTransGen.head (.stay rfl (Or.inl rfl))
    apply Relation.ReflTransGen.head (.follow rfl (hname 'l' (by decide)) (by decide) hlink)
    apply Relation.ReflTransGen.head (.stay rfl (Or.inl rfl))
    apply Relation.ReflTransGen.head (.enter rfl (hname 'p' (by decide)) (by decide) rfl id)
    exact .single (.stay rfl (Or.inl rfl))
  have hfree : site.volume.LinkFree [['p']] := by
    rintro p target ⟨⟨q, rfl⟩, -⟩
    simp only [site, Volume.entry?, plainTree, List.lookup_cons, List.lookup_nil]
    repeat' split
    all_goals simp_all
  have hmain (path : List Char) (hpath : path = [] ∨ Path.isAbsolute path) :=
    resolve_exact hroot rfl hfree hpath
  refine ⟨hroot, hfree, ?_, ?_⟩
  · exact ((hmain _ (Or.inr rfl)).1 _ _).2 ⟨by decide, by decide⟩
  · obtain ⟨hfound, hescaped, -⟩ := hmain "/d/a/b".toList (Or.inr rfl)
    cases hlookup : site.resolve "/d/a/b".toList with
    | missing => rfl
    | escaped target => exact absurd hlookup (hescaped target)
    | found p file =>
      have hnone : site.volume.descend [['p']] (Path.lexical "/d/a/b".toList) = none := by decide
      rw [((hfound p file).1 hlookup).2] at hnone
      contradiction

end Site

end Gateway
