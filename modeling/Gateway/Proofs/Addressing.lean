import Gateway.Proofs.Nesting

/-!
The address of a request, which is its root and its path. What a mount point takes off the path goes to
the root, so that the address stays as it is but for slashes between the two. The CGI form of a request
and the scope of a connection move alike.
-/
namespace Gateway

namespace Mount

/-- The path lies below the mount point or is the mount point itself. -/
def Covers (m : Mount) (path : String) : Prop :=
  m.text.toList ≠ [] ∧ (Path.rootedChars path.toList = m.text.toList ∨
    m.text.toList ++ ['/'] <+: Path.rootedChars path.toList)

instance (m : Mount) (path : String) : Decidable (m.Covers path) := inferInstanceAs (Decidable (_ ∧ _))

variable {path mount : String}

theorem strip_congr {path' : String}
    (h : Path.rootedChars path.toList = Path.rootedChars path'.toList) :
    strip path mount = strip path' mount := by
  unfold strip
  rw [h]

/-- The new root and what is left of the path spell the old root and the path. The mount point itself
leaves a slash that was not there. -/
theorem extendRoot_append_path_strip (h : (strip path mount).isMatch) (root : String) :
    let c := Path.rootedChars path.toList
    (extendRoot root mount).toList ++ (strip path mount).path.toList =
      root.toList.rdropWhile (· = '/') ++ (c ++ if c = mount.toList then ['/'] else []) := by
  intro c
  obtain ⟨rest, hrest⟩ := Option.isSome_iff_exists.1 (isMatch_strip_iff_isSome.1 h)
  unfold extendRoot
  rw [strip_eq_of_some hrest, String.toList_append, String.toList_ofList, String.toList_ofList,
    dropSlashes_eq_rdropWhile, List.append_assoc]
  rcases (remainder_eq_some_iff.1 hrest).2 with ⟨hc, rfl⟩ | ⟨r, rfl, hc⟩
  · have hc' : c = mount.toList := hc
    rw [if_pos hc', hc']
  · have hlonger : c ≠ mount.toList := fun heq => by
      have hself : mount.toList = mount.toList ++ '/' :: r := heq.symm.trans hc
      exact List.cons_ne_nil '/' r (List.self_eq_append_right.1 hself)
    have hc' : c = mount.toList ++ '/' :: r := hc
    rw [if_neg hlonger, List.append_nil, hc']

/-- A root grows by every mount point. One that did not would end in the mount point, so that it would
have no slash to drop and the mount point would stand behind it. -/
theorem extendRoot_ne (h : IsPoint mount) (root : String) : extendRoot root mount ≠ root := by
  intro heq
  have hroot : root.toList = dropSlashes root.toList ++ mount.toList := by
    conv => lhs; rw [← heq, extendRoot, String.toList_append, String.toList_ofList]
  have hself : dropSlashes root.toList = dropSlashes root.toList ++ mount.toList := by
    conv => lhs; rw [hroot, h.dropSlashes_append]
  exact h.ne_nil (List.self_eq_append_right.1 hself)

theorem isPoint_of_isMatch {raw : String} (h : (strip path (ofText raw).text).isMatch) :
    IsPoint (ofText raw).text := by
  have hne := (isMatch_strip_iff.1 h).1
  apply isPoint_ofText
  simpa [isEnabled] using hne

end Mount

section Behind

variable {m : Mount}

/-- A missing path is the empty one, and either is the slash. -/
theorem CgiRequest.rootedChars_path {r : CgiRequest} {path : String}
    (h : (r.get? pathInfo).getD "" = path) :
    Path.rootedChars r.path.toList = Path.rootedChars path.toList := by
  unfold CgiRequest.path
  cases hget : r.get? pathInfo with
  | none =>
    rw [hget, Option.getD_none] at h
    rw [← h]
    rfl
  | some p =>
    rw [hget, Option.getD_some] at h
    subst h
    dsimp only
    split
    · next hempty =>
      rw [String.isEmpty_iff.1 hempty]
      rfl
    · rfl

theorem CgiRequest.get?_scriptName_behind (r : CgiRequest) (m : Mount) :
    (r.behind m).get? scriptName =
      if (Mount.strip r.path m.text).isMatch then some (Mount.extendRoot r.root m.text)
      else r.get? scriptName := by
  have hpath : scriptName ≠ pathInfo := by decide
  unfold behind
  dsimp only
  split
  · next hmatch => rw [get?_set, if_pos rfl, Mount.matched_strip hmatch]
  · rw [get?_set, if_neg hpath]

theorem Scope.behind_of_isMatch {s : Scope} (h : (Mount.strip s.path m.text).isMatch) :
    s.behind m = { s with
      path := (Mount.strip s.path m.text).path
      rawPath := (s.behind m).rawPath
      rootPath := Mount.extendRoot s.rootPath m.text } := by
  unfold behind
  dsimp only
  rw [if_pos h, Mount.matched_strip h]

theorem Scope.behind_of_not_isMatch {s : Scope} (h : ¬ (Mount.strip s.path m.text).isMatch) :
    s.behind m = s := by
  unfold behind
  dsimp only
  rw [if_neg h]

end Behind

/-- Whatever the raw path is, a request and a scope both get behind a mount point or neither does. Root and
path still spell the address, and nothing else is changed. -/
theorem behind_agree (raw : String) {r : CgiRequest} {s : Scope}
    (hpath : Path.rootedChars r.path.toList = Path.rootedChars s.path.toList)
    (hroot : r.root = s.rootPath) :
    let m := Mount.ofText raw
    let c := Path.rootedChars s.path.toList
    let r' := r.behind m
    let s' := s.behind m
    (r'.root ≠ r.root ↔ m.Covers s.path) ∧ (s'.rootPath ≠ s.rootPath ↔ m.Covers s.path) ∧
      (m.Covers s.path →
        r'.get? CgiRequest.pathInfo = some s'.path ∧
        r'.get? CgiRequest.scriptName = some s'.rootPath ∧
        s'.rootPath.toList ++ s'.path.toList = s.rootPath.toList.rdropWhile (· = '/') ++
          (c ++ if c = m.text.toList then ['/'] else [])) ∧
      (¬ m.Covers s.path →
        r'.get? CgiRequest.scriptName = r.get? CgiRequest.scriptName ∧
        r'.get? CgiRequest.pathInfo = some (.ofList c) ∧ s' = s) ∧
      (∀ key, key ≠ CgiRequest.pathInfo → key ≠ CgiRequest.scriptName →
        r'.get? key = r.get? key) ∧
      r'.input = r.input ∧
      s' = { s with path := s'.path, rawPath := s'.rawPath, rootPath := s'.rootPath } := by
  intro m c r' s'
  have hcut : Mount.strip r.path m.text = Mount.strip s.path m.text := Mount.strip_congr hpath
  have hcovers : (Mount.strip s.path m.text).isMatch ↔ m.Covers s.path := Mount.isMatch_strip_iff
  have hinfo : r'.get? CgiRequest.pathInfo = some (Mount.strip s.path m.text).path := by
    rw [CgiRequest.get?_pathInfo_behind, hcut]
  have hname := r.get?_scriptName_behind m
  have hframe : ∀ key, key ≠ CgiRequest.pathInfo → key ≠ CgiRequest.scriptName →
      r'.get? key = r.get? key := fun key hinfo hname => CgiRequest.get?_behind hinfo hname r m
  rw [← hcovers]
  rw [hcut] at hname
  by_cases h : (Mount.strip s.path m.text).isMatch
  · have hs : s' = _ := Scope.behind_of_isMatch h
    have hspath : s'.path = (Mount.strip s.path m.text).path := by rw [hs]
    have hsroot : s'.rootPath = Mount.extendRoot s.rootPath m.text := by rw [hs]
    rw [if_pos h, hroot, ← hsroot] at hname
    have hrroot : r'.root = s'.rootPath := by
      unfold CgiRequest.root
      rw [hname, Option.getD_some]
    have hgrown : s'.rootPath ≠ s.rootPath := by
      rw [hsroot]
      exact Mount.extendRoot_ne (Mount.isPoint_of_isMatch h) s.rootPath
    have haddress := Mount.extendRoot_append_path_strip h s.rootPath
    rw [← hspath, ← hsroot] at haddress
    rw [← hspath] at hinfo hs
    rw [← hsroot] at hs
    rw [hrroot, hroot]
    exact ⟨iff_of_true hgrown h, iff_of_true hgrown h, fun _ => ⟨hinfo, hname, haddress⟩,
      fun hno => absurd h hno, hframe, r.input_behind m, hs⟩
  · have hs : s' = s := Scope.behind_of_not_isMatch h
    rw [if_neg h] at hname
    have hrroot : r'.root = r.root := by
      unfold CgiRequest.root
      rw [hname]
    rw [Mount.path_strip_eq_rootedChars h] at hinfo
    rw [hrroot, hs]
    exact ⟨iff_of_false (not_not_intro rfl) h, iff_of_false (not_not_intro rfl) h,
      fun hyes => absurd hyes h, fun _ => ⟨hname, hinfo, rfl⟩, hframe, r.input_behind m, rfl⟩

/-- The mount point itself, without its slash in front and below a root that ends in slashes. -/
theorem behind_agree_ends :
    let r := (CgiRequest.ofPath "POST" "svc").set CgiRequest.scriptName "/outer//"
    let s := { Scope.http "POST" "svc" with rootPath := "/outer//" }
    let m := Mount.ofText " svc/ "
    Path.rootedChars r.path.toList = Path.rootedChars s.path.toList ∧ r.root = s.rootPath ∧
      m.Covers s.path ∧ (r.behind m).get? CgiRequest.pathInfo = some "/" ∧
      (r.behind m).get? CgiRequest.scriptName = some "/outer/svc" := by
  intro r s m
  have hpath : Path.rootedChars r.path.toList = Path.rootedChars s.path.toList :=
    CgiRequest.rootedChars_path (by decide)
  have hroot : r.root = s.rootPath := by decide
  have hcovers : m.Covers s.path := by decide
  obtain ⟨-, -, hbehind, -⟩ := behind_agree " svc/ " hpath hroot
  obtain ⟨hinfo, hname, -⟩ := hbehind hcovers
  refine ⟨hpath, hroot, hcovers, ?_, ?_⟩
  · rw [hinfo]
    decide
  · rw [hname]
    decide

end Gateway
