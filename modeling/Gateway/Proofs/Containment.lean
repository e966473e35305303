import Gateway.Front
import Gateway.Proofs.Walk

/-!
What a static site can give away. A lookup finds regular files strictly below the canonical root and
nothing else, so contents of files elsewhere have no influence on any answer.
-/
namespace Gateway

namespace Site

/-- The segments of a joined path are those of the root, without the empty one after a slash at its
end, and then those of the path below. -/
theorem segments_joined (root : List Char) :
    ∃ up, (Path.segments root = up ∨ Path.segments root = up ++ [[]]) ∧
      ∀ below, Path.segments (joined root below) = up ++ Path.segments below := by
  by_cases hlast : root.getLast? = some '/'
  · obtain ⟨r, rfl⟩ := List.getLast?_eq_some_iff.1 hlast
    refine ⟨Path.segments r, Or.inr (Path.segments_append_slash r []), fun below => ?_⟩
    rw [joined, if_pos hlast, List.append_assoc, List.singleton_append, Path.segments_append_slash]
  · refine ⟨Path.segments root, Or.inl rfl, fun below => ?_⟩
    rw [joined, if_neg hlast, Path.segments_append_slash]

theorem isAbsolute_joined {root : List Char} (h : Path.isAbsolute root) (below : List Char) :
    Path.isAbsolute (joined root below) := by
  obtain ⟨r, rfl⟩ := Path.isAbsolute_iff.1 h
  unfold joined
  split <;> exact Path.isAbsolute_iff.2 ⟨_, rfl⟩

theorem nul_mem_joined {root : List Char} (h : '\x00' ∉ root) (below : List Char) :
    '\x00' ∈ joined root below ↔ '\x00' ∈ below := by
  unfold joined
  split <;> simp [h]

/-- On the way to a joined path the walk comes to the canonical root, with the links that are left
there, before it takes the segments of the path below. -/
theorem steps_joined {v : Volume} {root : List Char} {r : Location}
    (h : v.canonical? root = some r) :
    ∃ n, ∀ below, v.Steps ⟨Volume.maxLinks, [], Path.segments (joined root below)⟩
      ⟨n, r, Path.segments below⟩ := by
  obtain ⟨-, -, k, hk⟩ := Volume.canonical?_eq_some_iff.1 h
  obtain ⟨up, hup, hseg⟩ := segments_joined root
  have hr : ∃ n, v.Steps ⟨Volume.maxLinks, [], up⟩ ⟨n, r, []⟩ := by
    rcases hup with hup | hup
    · exact ⟨k, hup ▸ hk⟩
    · exact (hup ▸ hk).of_append_empty
  obtain ⟨n, hn⟩ := hr
  refine ⟨n, fun below => ?_⟩
  rw [hseg]
  exact hn.append (Path.segments below)

theorem canonical?_eq_walk {v : Volume} {root : List Char} (hnul : '\x00' ∉ root)
    (habs : Path.isAbsolute root) {below : List Char} (hb : '\x00' ∉ below) :
    v.canonical? (joined root below) =
      v.walk Volume.maxLinks [] (Path.segments (joined root below)) := by
  have hj : '\x00' ∉ joined root below := fun hm => hb ((nul_mem_joined hnul below).1 hm)
  rw [Volume.canonical?, if_neg (by simp [hj, isAbsolute_joined habs below])]

/-- With the links that are left after the root, the walk to a joined path goes on from the
canonical root over the path below. -/
theorem canonical?_joined {v : Volume} {root : List Char} {r : Location}
    (h : v.canonical? root = some r) :
    ∃ n, ∀ below, '\x00' ∉ below →
      v.canonical? (joined root below) = v.walk n r (Path.segments below) := by
  obtain ⟨hnul, habs, -⟩ := Volume.canonical?_eq_some_iff.1 h
  obtain ⟨n, hn⟩ := steps_joined h
  refine ⟨n, fun below hb => ?_⟩
  rw [canonical?_eq_walk hnul habs hb]
  exact (hn below).walk_eq

theorem isDirectory_of_canonical?_joined {v : Volume} {root below : List Char} {r p : Location}
    (hr : v.canonical? root = some r) (hp : v.canonical? (joined root below) = some p) :
    v.isDirectory r := by
  have hroot := (Volume.canonical?_eq_some_iff.1 hr).1
  have hbelow : '\x00' ∉ below := fun hb =>
    (Volume.canonical?_eq_some_iff.1 hp).1 ((nul_mem_joined hroot below).2 hb)
  obtain ⟨n, hn⟩ := canonical?_joined hr
  by_contra hd
  rw [hn below hbelow,
    Volume.walk_eq_none_of_not_isDirectory hd (Path.segments_ne_nil below)] at hp
  simp at hp

end Site

theorem Lookup.ext {a b : Lookup} (hfound : ∀ p file, a = found p file ↔ b = found p file)
    (hescaped : ∀ p, a = escaped p ↔ b = escaped p) : a = b := by
  cases a <;> cases b <;> simp_all

namespace Site

/-- The site holds the file `p` for a request path: the candidate leads to `p`, a regular file that
lies strictly below the canonical root and has no link in its own location. -/
structure Holds (site : Site) (path : List Char) (p : Location) (file : File) : Prop where
  leads : site.volume.canonical? (site.candidate path) = some p
  resolved : site.volume.Resolved p
  entry : site.volume.entry? p = some (.file file)
  isBelow : ∃ root, site.volume.canonical? site.root = some root ∧ p.IsBelow root

theorem resolve_eq_found_iff {site : Site} {path : List Char} {p : Location} {file : File} :
    site.resolve path = .found p file ↔ site.Holds path p file := by
  constructor
  · intro h
    unfold resolve at h
    split at h
    · next root q hroot hq =>
      split at h
      · next hpre =>
        split at h
        · next d hfile =>
          obtain ⟨rfl, rfl⟩ := Lookup.found.inj h
          have hdir := isDirectory_of_canonical?_joined hroot hq
          refine ⟨hq, Volume.resolved_of_canonical? hq, hfile, root, hroot,
            List.isPrefixOf_iff_prefix.1 hpre, ?_⟩
          rintro rfl
          rw [Volume.isDirectory_iff, hfile] at hdir
          simp at hdir
        · simp at h
      · simp at h
    · simp at h
  · rintro ⟨hleads, -, hfile, root, hroot, hpre, -⟩
    simp only [resolve, hroot, hleads, List.isPrefixOf_iff_prefix.2 hpre, hfile, if_true]

theorem resolve_eq_escaped_iff {site : Site} {path : List Char} {p : Location} :
    site.resolve path = .escaped p ↔
      ∃ root, site.volume.canonical? site.root = some root ∧
        site.volume.canonical? (site.candidate path) = some p ∧ ¬ root <+: p := by
  constructor
  · intro h
    unfold resolve at h
    split at h
    · next root q hroot hq =>
      split at h
      · split at h <;> simp at h
      · next hpre =>
        obtain rfl := Lookup.escaped.inj h
        exact ⟨root, hroot, hq, mt List.isPrefixOf_iff_prefix.2 hpre⟩
    · simp at h
  · rintro ⟨root, hroot, hleads, hpre⟩
    simp only [resolve, hroot, hleads]
    exact if_neg (mt List.isPrefixOf_iff_prefix.1 hpre)

/-- A lookup finds exactly the files that the site holds, and gives none in every other case. -/
theorem resolve_contained (site : Site) (path : List Char) :
    (∀ p file, site.resolve path = .found p file ↔ site.Holds path p file) ∧
      ((site.resolve path).file? = none ↔ ∀ p file, ¬ site.Holds path p file) := by
  refine ⟨fun p file => resolve_eq_found_iff, ?_⟩
  simp only [← resolve_eq_found_iff]
  cases site.resolve path <;> simp [Lookup.file?]

end Site

/-- The volumes differ at most in files that are not below the canonical root, in their contents or in
what goes wrong with them: they have the same names, directories and links. -/
structure Volume.AgreeBelow (root : List Char) (v w : Volume) : Prop where
  sameShape : v.SameShape w
  eq_below : ∀ r p, v.canonical? root = some r → p.IsBelow r → v.entry? p = w.entry? p

namespace Volume.AgreeBelow

variable {v w : Volume} {root : List Char}

theorem symm (h : AgreeBelow root v w) : AgreeBelow root w v where
  sameShape := h.sameShape.symm
  eq_below r p hr hp := (h.eq_below r p (h.sameShape.canonical?_eq root ▸ hr) hp).symm

theorem holds {path : List Char} {p : Location} {file : File} (h : AgreeBelow root v w)
    (hv : (Site.mk v root).Holds path p file) : (Site.mk w root).Holds path p file := by
  obtain ⟨hleads, -, hfile, r, hr, hp⟩ := hv
  have hleads' : w.canonical? ((Site.mk w root).candidate path) = some p :=
    (h.sameShape.canonical?_eq _).symm.trans hleads
  exact ⟨hleads', resolved_of_canonical? hleads', (h.eq_below r p hr hp).symm.trans hfile, r,
    (h.sameShape.canonical?_eq root).symm.trans hr, hp⟩

theorem escapes {path : List Char} {p : Location} (h : AgreeBelow root v w)
    (hv : (Site.mk v root).resolve path = .escaped p) :
    (Site.mk w root).resolve path = .escaped p := by
  obtain ⟨r, hr, hleads, hp⟩ := Site.resolve_eq_escaped_iff.1 hv
  exact Site.resolve_eq_escaped_iff.2 ⟨r, (h.sameShape.canonical?_eq root).symm.trans hr,
    (h.sameShape.canonical?_eq _).symm.trans hleads, hp⟩

theorem resolve_eq (h : AgreeBelow root v w) (path : List Char) :
    (Site.mk v root).resolve path = (Site.mk w root).resolve path := by
  apply Lookup.ext
  · intro p file
    rw [Site.resolve_eq_found_iff, Site.resolve_eq_found_iff]
    exact ⟨h.holds, h.symm.holds⟩
  · intro p
    exact ⟨h.escapes, h.symm.escapes⟩

theorem syncApp_eq (h : AgreeBelow root v w) :
    (Site.mk v root).syncApp = (Site.mk w root).syncApp := by
  funext r
  simp only [Site.syncApp, h.resolve_eq]

theorem asyncApp_eq (h : AgreeBelow root v w) :
    (Site.mk v root).asyncApp = (Site.mk w root).asyncApp := by
  funext scope
  simp only [Site.asyncApp, Site.program, Site.response, Site.outcome, Site.failure?,
    h.resolve_eq]

end Volume.AgreeBelow

namespace Front

/-- Behind a front, no answer of any application and no notice depends on contents of files outside the
canonical root. -/
theorem eq_of_agreeBelow {v w : Volume} {root : List Char} (h : Volume.AgreeBelow root v w)
    (mount : Mount) :
    (∀ {m : Type → Type} [Monad m] (app : CgiRequest → m SyncRun) (r : CgiRequest),
      syncM ⟨mount, v, root⟩ app r = syncM ⟨mount, w, root⟩ app r) ∧
    (∀ {m : Type → Type} [Monad m] (app : Scope → m Program) (scope : Scope),
      asyncM ⟨mount, v, root⟩ app scope = asyncM ⟨mount, w, root⟩ app scope) := by
  constructor
  · intro m _ app r
    simp only [syncM, attempt, h.syncApp_eq]
  · intro m _ app scope
    simp only [asyncM, lookup, h.resolve_eq, h.asyncApp_eq]

/-- A root with a file in it and a link to a file outside. -/
def linkedTree (secret : Bytes) : Volume where
  entries := [([['p']], .directory), ([['p'], ['a']], .file (.ofData [1])),
    ([['p'], ['l']], .link ['/', 's']), ([['s']], .file (.ofData secret))]

theorem canonical?_linkedTree (secret : Bytes) :
    (linkedTree secret).canonical? ['/', 'p'] = some [['p']] := by
  refine Volume.canonical?_eq_some_iff.2 ⟨by decide, rfl, Volume.maxLinks, ?_⟩
  have hname : Path.IsName ['p'] := ⟨by decide, by decide, by decide⟩
  exact .head (.stay rfl (Or.inl rfl)) (.head (.enter rfl hname (by decide) rfl id) .refl)

theorem agreeBelow_linkedTree (a b : Bytes) :
    Volume.AgreeBelow ['/', 'p'] (linkedTree a) (linkedTree b) where
  sameShape p := by
    simp only [Volume.entry?, linkedTree, List.lookup_cons, List.lookup_nil]
    repeat' split
    all_goals simp_all [Entry.shape]
  eq_below r p hr hp := by
    have hroot := canonical?_linkedTree a
    obtain rfl : [['p']] = r := Option.some.inj (hroot.symm.trans hr)
    obtain ⟨q, rfl⟩ := hp.1
    simp [Volume.entry?, linkedTree, List.lookup_cons, List.lookup_nil]

theorem eq_of_agreeBelow_linkedTree :
    Volume.AgreeBelow ['/', 'p'] (linkedTree [2]) (linkedTree [3]) ∧
      Volume.entry? (linkedTree [2]) [['s']] ≠ Volume.entry? (linkedTree [3]) [['s']] ∧
      sync ⟨.disabled, linkedTree [2], ['/', 'p']⟩ (fun r => ⟨[], r, .body ⟨[], none⟩, []⟩)
          (.ofPath "GET" "/l") =
        sync ⟨.disabled, linkedTree [3], ['/', 'p']⟩ (fun r => ⟨[], r, .body ⟨[], none⟩, []⟩)
          (.ofPath "GET" "/l") ∧
      async ⟨.disabled, linkedTree [2], ['/', 'p']⟩ (fun _ => .done) (.http "GET" "/l") =
        async ⟨.disabled, linkedTree [3], ['/', 'p']⟩ (fun _ => .done) (.http "GET" "/l") :=
  have h := agreeBelow_linkedTree [2] [3]
  ⟨h, by decide, (eq_of_agreeBelow h .disabled).1 _ _, (eq_of_agreeBelow h .disabled).2 _ _⟩

end Front
end Gateway
