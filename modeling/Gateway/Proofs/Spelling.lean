import Gateway.Proofs.Containment

/-!
The spelling of a root. Walks that come to the same directory go on in the same way, as long as they
have links left. So what a lookup finds depends on where the root of a site leads, and not on the
links and dots on the way there.
-/
namespace Gateway

namespace Volume

/-- The walk is about to follow a link, and may pass through no more. -/
inductive Stage.Spent (v : Volume) : Stage → Prop
  | intro {here : Location} {s : Path.Segment} {todo : List Path.Segment} {target : List Char}
      (hd : v.isDirectory here) (hs : Path.IsName s) (ha : admits here s)
      (he : v.entry? (here ++ [s]) = some (.link target)) : Spent v ⟨0, here, s :: todo⟩

/-- The walk runs out of links on its way. -/
def Overruns (v : Volume) (a : Stage) : Prop := ∃ b, v.Steps a b ∧ b.Spent v

/-- The walk to a path meets more links than it may pass through. -/
def Exceeds (v : Volume) (path : List Char) : Prop :=
  v.Overruns ⟨maxLinks, [], Path.segments path⟩

variable {v : Volume}

theorem Stage.Spent.walk_eq {a : Stage} (h : a.Spent v) :
    v.walk a.links a.here a.todo = none := by
  cases h with
  | intro hd hs ha he =>
    rw [walk, if_neg (by simp [hd]), if_neg (not_or.2 ⟨hs.ne_nil, hs.ne_dot⟩),
      if_neg hs.ne_dotDot, if_neg (by simp [ha]), he]

theorem Overruns.of_steps {a b : Stage} (h : v.Overruns b) (hsteps : v.Steps a b) :
    v.Overruns a := by
  obtain ⟨c, hc, hspent⟩ := h
  exact ⟨c, hsteps.trans hc, hspent⟩

theorem Overruns.walk_eq {a : Stage} (h : v.Overruns a) :
    v.walk a.links a.here a.todo = none := by
  obtain ⟨b, hsteps, hspent⟩ := h
  exact hsteps.walk_eq.trans hspent.walk_eq

theorem Exceeds.canonical?_eq {path : List Char} (h : v.Exceeds path) :
    v.canonical? path = none := by
  unfold canonical?
  split
  · rfl
  · exact h.walk_eq

theorem not_exceeds_of_canonical? {path : List Char} {p : Location}
    (h : v.canonical? path = some p) : ¬ v.Exceeds path := by
  intro hover
  rw [hover.canonical?_eq] at h
  contradiction

/-- More links make a difference only to a walk that runs out of them. -/
theorem walk_add_links (k : Nat) {links : Nat} {here : Location} {todo : List Path.Segment}
    (h : ¬ v.Overruns ⟨links, here, todo⟩) :
    v.walk (links + k) here todo = v.walk links here todo := by
  have hnext : ∀ {a b : Stage}, v.Step a b → ¬ v.Overruns a → ¬ v.Overruns b :=
    fun hstep hno hover => hno (hover.of_steps (.single hstep))
  fun_induction walk v links here todo with
  | case1 => rw [walk]
  | case2 links here s todo hd => rw [walk, if_pos hd]
  | case3 links here s todo hd hs ih =>
    have hstep (n : Nat) : v.Step ⟨n, here, s :: todo⟩ ⟨n, here, todo⟩ :=
      .stay (by simpa using hd) hs
    exact (hstep _).walk_eq.trans (ih (hnext (hstep _) h))
  | case4 links here todo hd hs ih =>
    have hstep (n : Nat) : v.Step ⟨n, here, Path.dotDot :: todo⟩ ⟨n, here.dropLast, todo⟩ :=
      .up (by simpa using hd)
    exact (hstep _).walk_eq.trans (ih (hnext (hstep _) h))
  | case5 links here s todo hd hs hup ha => rw [walk, if_neg hd, if_neg hs, if_neg hup, if_pos ha]
  | case6 links here s todo hd hs hup ha he =>
    rw [walk, if_neg hd, if_neg hs, if_neg hup, if_neg ha, he]
  | case7 here s todo hd hs hup ha target he =>
    -- the walk stands before a link and has none left, which is what was excluded
    have hname := Path.isName_of_not hs hup
    exact absurd ⟨_, .refl, .intro (by simpa using hd) hname (by simpa using ha) he⟩ h
  | case8 here s todo hd hs hup ha target he links ih =>
    have hname := Path.isName_of_not hs hup
    have hstep (n : Nat) : v.Step ⟨n + 1, here, s :: todo⟩
        ⟨n, if Path.isAbsolute target then [] else here, Path.segments target ++ todo⟩ :=
      .follow (by simpa using hd) hname (by simpa using ha) he
    rw [Nat.succ_add]
    exact (hstep _).walk_eq.trans (ih (hnext (hstep _) h))
  | case9 links here s todo hd hs hup ha e hl he ih =>
    have hname := Path.isName_of_not hs hup
    have hstep (n : Nat) : v.Step ⟨n, here, s :: todo⟩ ⟨n, here ++ [s], todo⟩ :=
      .enter (by simpa using hd) hname (by simpa using ha) he (Entry.not_isLink hl)
    exact (hstep _).walk_eq.trans (ih (hnext (hstep _) h))

/-- Walks from one place over the same segments, neither of which runs out of links, are the same. -/
theorem walk_eq_of_not_overruns {m n : Nat} {here : Location} {todo : List Path.Segment}
    (hm : ¬ v.Overruns ⟨m, here, todo⟩) (hn : ¬ v.Overruns ⟨n, here, todo⟩) :
    v.walk m here todo = v.walk n here todo := by
  rcases Nat.le_total m n with hle | hle
  · obtain ⟨k, rfl⟩ := Nat.exists_eq_add_of_le hle
    exact (walk_add_links k hm).symm
  · obtain ⟨k, rfl⟩ := Nat.exists_eq_add_of_le hle
    exact walk_add_links k hn

end Volume

namespace Site

variable {v : Volume} {root root' : List Char}

/-- A joined path leads where it leads from any other spelling of its root. -/
theorem canonical?_joined_eq (h : v.canonical? root = v.canonical? root') {r : Location}
    (hr : v.canonical? root = some r) {below : List Char} (hlinks : ¬ v.Exceeds (joined root below))
    (hlinks' : ¬ v.Exceeds (joined root' below)) :
    v.canonical? (joined root below) = v.canonical? (joined root' below) := by
  have hr' : v.canonical? root' = some r := h ▸ hr
  obtain ⟨hnul, habs, -⟩ := Volume.canonical?_eq_some_iff.1 hr
  obtain ⟨hnul', habs', -⟩ := Volume.canonical?_eq_some_iff.1 hr'
  by_cases hb : '\x00' ∈ below
  · rw [Volume.canonical?, Volume.canonical?, if_pos (by simp [nul_mem_joined hnul, hb]),
      if_pos (by simp [nul_mem_joined hnul', hb])]
  · obtain ⟨m, hm⟩ := steps_joined hr
    obtain ⟨n, hn⟩ := steps_joined hr'
    have hrest : v.walk m r (Path.segments below) = v.walk n r (Path.segments below) :=
      Volume.walk_eq_of_not_overruns (fun hover => hlinks (hover.of_steps (hm below)))
        fun hover => hlinks' (hover.of_steps (hn below))
    calc v.canonical? (joined root below)
        = v.walk m r (Path.segments below) :=
          (canonical?_eq_walk hnul habs hb).trans (hm below).walk_eq
      _ = v.walk n r (Path.segments below) := hrest
      _ = v.canonical? (joined root' below) :=
          ((canonical?_eq_walk hnul' habs' hb).trans (hn below).walk_eq).symm

theorem resolve_eq_missing {site : Site} (h : site.volume.canonical? site.root = none)
    (path : List Char) : site.resolve path = .missing := by
  rw [resolve, h]

theorem resolve_eq_missing_of_exceeds (site : Site) {path : List Char}
    (h : site.volume.Exceeds (site.candidate path)) : site.resolve path = .missing := by
  rw [resolve, h.canonical?_eq]
  cases site.volume.canonical? site.root <;> rfl

/-- Two spellings of one root lead every request path to the same file, or out of the site to the same place,
or nowhere, as long as neither walk meets more links than it may pass through. -/
theorem resolve_eq_of_sameRoot (h : v.canonical? root = v.canonical? root') (path : List Char) :
    let site : Site := ⟨v, root⟩
    let site' : Site := ⟨v, root'⟩
    (¬ v.Exceeds (site.candidate path) → ¬ v.Exceeds (site'.candidate path) →
      site.resolve path = site'.resolve path) ∧
    (site.resolve path ≠ .missing → site'.resolve path ≠ .missing →
      site.resolve path = site'.resolve path) := by
  intro site site'
  have hsame : ¬ v.Exceeds (site.candidate path) → ¬ v.Exceeds (site'.candidate path) →
      site.resolve path = site'.resolve path := by
    intro hlinks hlinks'
    cases hr : v.canonical? root with
    | none =>
      have hr' : v.canonical? root' = none := h ▸ hr
      rw [resolve_eq_missing hr, resolve_eq_missing hr']
    | some r =>
      have hcandidate : v.canonical? (site.candidate path) = v.canonical? (site'.candidate path) :=
        canonical?_joined_eq h hr hlinks hlinks'
      simp only [resolve, site, site'] at hcandidate ⊢
      rw [h, hcandidate]
  refine ⟨hsame, fun hfound hfound' => ?_⟩
  exact hsame (mt site.resolve_eq_missing_of_exceeds hfound)
    (mt site'.resolve_eq_missing_of_exceeds hfound')

/-- A directory, and a link to it beside it; in the directory a file, and a link to the file. -/
def linkedRoot : Volume where
  entries := [([['w']], .link "/s/p".toList), ([['s']], .directory), ([['s'], ['p']], .directory),
    ([['s'], ['p'], ['a']], .file (.ofData [1])),
    ([['s'], ['p'], ['l']], .link "../p/./a".toList)]

/-- A relative request climbs out of the root, and comes back to it, through a link as without. -/
theorem resolve_eq_of_sameRoot_linkedRoot :
    let site : Site := ⟨linkedRoot, "/w/".toList⟩
    let site' : Site := ⟨linkedRoot, "/s/.//p/../p".toList⟩
    let path := "x/../../p/l".toList
    linkedRoot.canonical? site.root = linkedRoot.canonical? site'.root ∧
      ¬ linkedRoot.Exceeds (site.candidate path) ∧ ¬ linkedRoot.Exceeds (site'.candidate path) ∧
      site.resolve path = site'.resolve path ∧
      site'.resolve path = .found [['s'], ['p'], ['a']] (.ofData [1]) := by
  intro site site' path
  have hroot : linkedRoot.canonical? site.root = some [['s'], ['p']] := by
    have hsegments : Path.segments site.root = [[], ['w'], []] := by decide
    rw [Volume.canonical?, if_neg (by decide), hsegments]
    simp +decide [Volume.walk, linkedRoot, Volume.entry?, List.lookup_cons, Volume.maxLinks, Path.segments]
  have hroot' : linkedRoot.canonical? site'.root = some [['s'], ['p']] := by
    have hsegments : Path.segments site'.root = [[], ['s'], ['.'], [], ['p'], ['.', '.'], ['p']] := by
      decide
    rw [Volume.canonical?, if_neg (by decide), hsegments]
    simp +decide [Volume.walk, linkedRoot, Volume.entry?, List.lookup_cons]
  have hleads : linkedRoot.canonical? (site.candidate path) = some [['s'], ['p'], ['a']] := by
    have hsegments : Path.segments (site.candidate path) = [[], ['w'], ['.', '.'], ['p'], ['l']] := by
      decide
    rw [Volume.canonical?, if_neg (by decide), hsegments]
    simp +decide [Volume.walk, linkedRoot, Volume.entry?, List.lookup_cons, Volume.maxLinks, Path.segments]
  have hleads' : linkedRoot.canonical? (site'.candidate path) = some [['s'], ['p'], ['a']] := by
    have hsegments : Path.segments (site'.candidate path) =
        [[], ['s'], ['.'], [], ['p'], ['.', '.'], ['p'], ['.', '.'], ['p'], ['l']] := by decide
    rw [Volume.canonical?, if_neg (by decide), hsegments]
    simp +decide [Volume.walk, linkedRoot, Volume.entry?, List.lookup_cons, Volume.maxLinks, Path.segments]
  have hsame := hroot.trans hroot'.symm
  have hlinks := Volume.not_exceeds_of_canonical? hleads
  have hlinks' := Volume.not_exceeds_of_canonical? hleads'
  refine ⟨hsame, hlinks, hlinks', (resolve_eq_of_sameRoot hsame path).1 hlinks hlinks', ?_⟩
  rw [resolve, hroot', hleads']
  rfl

end Site

end Gateway
