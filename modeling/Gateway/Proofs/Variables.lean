import Gateway.Proofs.Headers
import Mathlib.Data.List.Nodup

/-!
The variables of a request in the CGI form. No header reaches those that tell about its line and its
connection, whatever the header is called. Every other variable belongs to the headers that are stored
under it and holds all their values, in the order of the headers. Received headers stand together by
their names, in the order in which the names first came.
-/
namespace Gateway

namespace CgiRequest

/-! ## Names of variables -/

def keys (r : CgiRequest) : List String := r.vars.map (·.1)

theorem mem_keys_iff {r : CgiRequest} {key : String} : key ∈ r.keys ↔ (r.get? key).isSome := by
  rw [keys, get?, List.lookup_isSome_iff, List.mem_map]
  constructor
  · rintro ⟨v, hv, rfl⟩
    exact ⟨v, hv, beq_self_eq_true v.1⟩
  · rintro ⟨v, hv, hkey⟩
    exact ⟨v, hv, (eq_of_beq hkey).symm⟩

/-- A variable that is set stays where it is, and a new one comes last. -/
theorem keys_set (r : CgiRequest) (key value : String) :
    (r.set key value).keys = if key ∈ r.keys then r.keys else r.keys ++ [key] := by
  unfold keys set
  induction r.vars with
  | nil => rfl
  | cons v vs ih =>
    rw [setIn]
    by_cases hkey : v.1 = key
    · simp [hkey]
    · have hkey' : key ≠ v.1 := Ne.symm hkey
      rw [if_neg hkey, List.map_cons, ih]
      by_cases hmem : key ∈ vs.map (·.1)
      · simp [hmem]
      · simp [hmem, hkey']

theorem nodup_keys_set {r : CgiRequest} (h : r.keys.Nodup) (key value : String) :
    (r.set key value).keys.Nodup := by
  rw [keys_set]
  split
  · exact h
  · next hkey =>
    have hapart : List.Disjoint r.keys [key] := List.disjoint_singleton.2 hkey
    exact h.append (List.nodup_singleton key) hapart

theorem exists_addHeader_eq_set (r : CgiRequest) (name value : String) :
    ∃ v, r.addHeader name value = r.set (storedVariable name) v := by
  unfold addHeader
  dsimp only
  split
  · exact ⟨_, rfl⟩
  · exact ⟨_, rfl⟩

/-- No variable is there twice, however many headers are added. -/
theorem nodup_keys_addHeaders {r : CgiRequest} (h : r.keys.Nodup) (fs : List Field) :
    (r.addHeaders fs).keys.Nodup := by
  induction fs generalizing r with
  | nil => exact h
  | cons f fs ih =>
    obtain ⟨v, hset⟩ := exists_addHeader_eq_set r f.1 f.2
    have hfirst : (r.addHeader f.1 f.2).keys.Nodup := by
      rw [hset]
      exact nodup_keys_set h (storedVariable f.1) v
    exact ih hfirst

/-! ## Whose a variable is -/

/-- The variables that tell about a request apart from its headers. -/
def lineVariables : List String :=
  [requestMethod, pathInfo, scriptName, queryString, serverName, serverPort, serverProtocol, remoteAddr]

/-- The variable of the headers of a name. The type and the length of the content have one each, and
every other name is spelled in upper case, with `_` for `-`, behind `HTTP_`. -/
inductive StoredUnder (name : String) : String → Prop
  | type (h : name.toLower = "content-type") : StoredUnder name "CONTENT_TYPE"
  | length (h : name.toLower = "content-length") : StoredUnder name "CONTENT_LENGTH"
  | other (h : ¬ IsBare name) : StoredUnder name ("HTTP_" ++ variableSpelling name)

theorem storedVariable_eq_iff {name key : String} :
    storedVariable name = key ↔ StoredUnder name key := by
  unfold storedVariable
  constructor
  · rintro rfl
    split
    · next h => exact .type h
    · next htype =>
      split
      · next h => exact .length h
      · next hlength => exact .other (not_or.2 ⟨htype, hlength⟩)
  · intro h
    cases h with
    | type h => rw [if_pos h, contentType]
    | length h =>
      have htype : name.toLower ≠ "content-type" := by rw [h]; decide
      rw [if_neg htype, if_pos h, contentLength]
    | other h =>
      obtain ⟨htype, hlength⟩ := not_or.1 h
      rw [if_neg htype, if_neg hlength, headerVariable]

instance (name key : String) : Decidable (StoredUnder name key) :=
  decidable_of_iff _ storedVariable_eq_iff

theorem isOwn_of_mem_lineVariables {key : String} (h : key ∈ lineVariables) : IsOwn key := by
  have hall : ∀ key ∈ lineVariables,
      key.toList.head? ≠ some 'H' ∧ contentType ≠ key ∧ contentLength ≠ key := by decide
  obtain ⟨hhead, htype, hlength⟩ := hall key h
  exact isOwn_of_head hhead htype hlength

/-- No name of a header, whatever its characters, is stored under a variable of the request line. -/
theorem not_mem_lineVariables {name key : String} (h : StoredUnder name key) :
    key ∉ lineVariables := fun hkey =>
  isOwn_of_mem_lineVariables hkey name (storedVariable_eq_iff.2 h)

end CgiRequest

namespace Http.Request

/-! ## Headers as they are received -/

section Grouped

variable {f : WireField} {fs : List WireField}

theorem addField_of_forall_ne (h : ∀ g ∈ fs, g.1 ≠ f.1) : addField f fs = fs ++ [f] := by
  have hnone : fs.reverse.dropWhile (fun g => g.1 ≠ f.1) = [] := by simpa using h
  unfold addField
  rw [List.span_eq_takeWhile_dropWhile, hnone]

theorem addField_append {g : WireField} {front back : List WireField} (hg : g.1 = f.1)
    (hback : ∀ g ∈ back, g.1 ≠ f.1) :
    addField f (front ++ g :: back) = front ++ g :: f :: back := by
  have hpass : ∀ g ∈ back.reverse, (!decide (g.1 = f.1)) = true := by simpa using hback
  unfold addField
  rw [List.span_eq_takeWhile_dropWhile]
  simp [List.takeWhile_append_of_pos hpass, List.dropWhile_append_of_pos hpass, hg]

theorem grouped_append_singleton (fs : List WireField) (f : WireField) :
    grouped (fs ++ [f]) = addField f (grouped fs) := List.foldl_concat _ _ _ _

/-- The names of fields, each once and in the order in which they first come. -/
def names (fs : List WireField) : List String := (fs.map (·.1)).eraseDups

theorem mem_names_iff {name : String} : name ∈ names fs ↔ ∃ f ∈ fs, f.1 = name := by
  rw [names, List.mem_eraseDups, List.mem_map]

theorem names_append_singleton (fs : List WireField) (f : WireField) :
    names (fs ++ [f]) = if f.1 ∈ names fs then names fs else names fs ++ [f.1] := by
  unfold names
  rw [List.map_append, List.eraseDups_append]
  by_cases hmem : f.1 ∈ fs.map (·.1)
  · simp [List.removeAll, hmem]
  · simp [List.removeAll, hmem, List.eraseDups_cons]

theorem nodup_names (fs : List WireField) : (names fs).Nodup := by
  induction fs using List.reverseRecOn with
  | nil => exact List.nodup_nil
  | append_singleton fs f ih =>
    rw [names_append_singleton]
    split
    · exact ih
    · next hnew => exact ih.append (List.nodup_singleton f.1) (List.disjoint_singleton.2 hnew)

/-- The fields of a name, in their order. -/
def named (fs : List WireField) (name : String) : List WireField := fs.filter (·.1 = name)

theorem mem_named_iff {name : String} : f ∈ named fs name ↔ f ∈ fs ∧ f.1 = name := by
  simp [named]

theorem named_append_singleton (fs : List WireField) (f : WireField) (name : String) :
    named (fs ++ [f]) name = if f.1 = name then named fs name ++ [f] else named fs name := by
  unfold named
  split <;> simp [*]

theorem named_eq_nil {name : String} (h : name ∉ names fs) : named fs name = [] :=
  List.eq_nil_iff_forall_not_mem.2 fun g hg => h (mem_names_iff.2 ⟨g, mem_named_iff.1 hg⟩)

theorem exists_named_eq {name : String} (h : name ∈ names fs) :
    ∃ front g, named fs name = front ++ [g] ∧ g.1 = name := by
  obtain ⟨f, hf⟩ := mem_names_iff.1 h
  have hne : named fs name ≠ [] := List.ne_nil_of_mem (mem_named_iff.2 hf)
  obtain ⟨front, g, hfront⟩ := (List.eq_nil_or_concat (named fs name)).resolve_left hne
  rw [List.concat_eq_append] at hfront
  have hg : g ∈ named fs name := by simp [hfront]
  exact ⟨front, g, hfront, (mem_named_iff.1 hg).2⟩

theorem ne_of_mem_flatMap_named {g : WireField} {ns : List String} {name : String}
    (hname : name ∉ ns) (hg : g ∈ ns.flatMap (named fs)) : g.1 ≠ name := by
  obtain ⟨n, hn, hmem⟩ := List.mem_flatMap.1 hg
  intro heq
  exact hname (heq ▸ (mem_named_iff.1 hmem).2 ▸ hn)

/-- A field changes nothing under other names. -/
theorem flatMap_named_append_singleton {ns : List String} (h : f.1 ∉ ns) :
    ns.flatMap (named (fs ++ [f])) = ns.flatMap (named fs) := by
  apply List.flatMap_congr
  intro name hname
  have hne : f.1 ≠ name := fun heq => h (heq ▸ hname)
  rw [named_append_singleton, if_neg hne]

/-- The fields of a name stand together in their own order, where the first of them came. -/
theorem grouped_eq (fs : List WireField) : grouped fs = (names fs).flatMap (named fs) := by
  induction fs using List.reverseRecOn with
  | nil => rfl
  | append_singleton fs f ih =>
    rw [grouped_append_singleton, ih, names_append_singleton]
    split
    · next hold =>
      obtain ⟨ns, ms, hnames⟩ := List.append_of_mem hold
      have hnodup := nodup_names fs
      rw [hnames, List.nodup_middle, List.nodup_cons, List.mem_append, not_or] at hnodup
      obtain ⟨⟨hns, hms⟩, -⟩ := hnodup
      obtain ⟨front, g, hfront, hg⟩ := exists_named_eq hold
      have hlast : addField f (ns.flatMap (named fs) ++ front ++ g :: ms.flatMap (named fs)) = _ :=
        addField_append hg fun _ => ne_of_mem_flatMap_named hms
      simp only [hnames, List.flatMap_append, List.flatMap_cons,
        flatMap_named_append_singleton hns, flatMap_named_append_singleton hms,
        named_append_singleton, if_true, hfront]
      simpa using hlast
    · next hnew =>
      rw [addField_of_forall_ne fun _ => ne_of_mem_flatMap_named hnew, List.flatMap_append,
        flatMap_named_append_singleton hnew]
      simp [named_append_singleton, named_eq_nil hnew]

theorem filter_flatMap_named (p : String → Bool) (fs : List WireField) (ns : List String) :
    (ns.flatMap (named fs)).filter (fun f => p f.1) = (ns.filter p).flatMap (named fs) := by
  have hnamed (name : String) (f : WireField) (hf : f ∈ named fs name) : p f.1 = p name := by
    rw [(mem_named_iff.1 hf).2]
  induction ns with
  | nil => rfl
  | cons name ns ih =>
    rw [List.flatMap_cons, List.filter_append, ih, List.filter_congr (hnamed name)]
    cases hp : p name <;> simp [hp]

end Grouped

open CgiRequest

variable (r : Request) (a : Arrival) (body : Bytes)

theorem keys_cgiLine : (r.cgiLine a body).keys = lineVariables := rfl

/-- Headers and nothing else decide about a variable that is not of the request line. -/
theorem get?_cgi_of_not_mem {key : String} (hkey : key ∉ lineVariables) :
    (r.cgi a body).get? key =
      joined ((r.fields.filter fun f => StoredUnder f.1 key).map (·.2)) := by
  have hnone : (r.cgiLine a body).get? key = none := by
    rw [← keys_cgiLine r a body, mem_keys_iff] at hkey
    exact Option.not_isSome_iff_eq_none.1 hkey
  rw [cgi_eq, get?_addHeaders_stored, hnone]
  simp only [storedVariable_eq_iff]
  rfl

/-- Names of received headers that are stored in one variable follow each other there, each with all of
its values. -/
theorem get?_cgi_of_grouped {sent : List WireField} (hsent : r.headers = grouped sent) {key : String}
    (hkey : key ∉ lineVariables) :
    (r.cgi a body).get? key =
      joined (((names sent).filter fun name => StoredUnder name key).flatMap fun name =>
        (named sent name).map fun f => Text.decoded f.2) := by
  rw [get?_cgi_of_not_mem r a body hkey, fields, hsent, List.filter_map, List.map_map,
    ← List.map_flatMap]
  congr 2
  rw [grouped_eq]
  exact filter_flatMap_named (fun name => decide (StoredUnder name key)) sent (names sent)

/-- A request is told as if it had no headers, but for one variable for each way in which their names are
stored. It holds the values of all headers stored there, in the order in which the request lists them. -/
theorem cgi_variables :
    (∀ key ∈ lineVariables,
      (r.cgi a body).get? key = ({ r with headers := [] }.cgi a body).get? key) ∧
    (r.cgi a body).input = ({ r with headers := [] }.cgi a body).input ∧
    ({ r with headers := [] }.cgi a body).keys = lineVariables ∧
    (r.cgi a body).keys.Nodup ∧
    (∀ key, key ∈ (r.cgi a body).keys ↔ key ∈ lineVariables ∨ ∃ f ∈ r.fields, StoredUnder f.1 key) ∧
    (∀ f ∈ r.fields, ∀ key, StoredUnder f.1 key → key ∉ lineVariables ∧ (r.cgi a body).get? key =
      some (",".intercalate ((r.fields.filter fun g => StoredUnder g.1 key).map (·.2)))) ∧
    -- received headers of one name stand together
    ∀ sent, r.headers = grouped sent → ∀ key, key ∉ lineVariables → (r.cgi a body).get? key =
      joined (((names sent).filter fun name => StoredUnder name key).flatMap fun name =>
        (named sent name).map fun f => Text.decoded f.2) := by
  have hbare : { r with headers := [] }.cgi a body = r.cgiLine a body := rfl
  rw [hbare]
  have hline : ∀ key ∈ lineVariables, (r.cgi a body).get? key = (r.cgiLine a body).get? key := by
    intro key hkey
    exact get?_cgi r a body (isOwn_of_mem_lineVariables hkey)
  have hnodup : (r.cgiLine a body).keys.Nodup := by
    rw [keys_cgiLine]
    decide
  refine ⟨hline, input_cgi r a body, keys_cgiLine r a body, nodup_keys_addHeaders hnodup r.fields,
    ?_, ?_, fun sent hsent key hkey => get?_cgi_of_grouped r a body hsent hkey⟩
  · intro key
    rw [mem_keys_iff]
    by_cases hkey : key ∈ lineVariables
    · rw [hline key hkey, ← mem_keys_iff, keys_cgiLine]
      simp [hkey]
    · rw [get?_cgi_of_not_mem r a body hkey, isSome_joined]
      simp [hkey]
  · intro f hf key hstored
    have hkey := not_mem_lineVariables hstored
    refine ⟨hkey, ?_⟩
    rw [get?_cgi_of_not_mem r a body hkey, joined_of_ne_nil]
    have hmem : f.2 ∈ (r.fields.filter fun g => StoredUnder g.1 key).map (·.2) :=
      List.mem_map_of_mem (List.mem_filter.2 ⟨hf, decide_eq_true hstored⟩)
    exact List.ne_nil_of_mem hmem

/-- A name that would be a variable of the request line gets one of its own. Names that differ in
spelling only share one, in which the values of either stand together. -/
theorem cgi_variables_shared :
    let given : List WireField :=
      [("Path_Info", [0x2F]), ("X-A", [0x31]), ("x_A", [0x32]), ("x-a", [0x33])]
    let sent : List WireField :=
      [("path_info", [0x2F]), ("x-a", [0x31]), ("x_a", [0x32]), ("x-a", [0x33])]
    let r : Request :=
      { method := "GET", target := ⟨"/", none⟩
        headers := [("path_info", [0x2F]), ("x-a", [0x31]), ("x-a", [0x33]), ("x_a", [0x32])] }
    let told := r.cgi ⟨⟨.v4 10 0 0 7, 0, 50000⟩, ⟨.v4 10 0 0 1, 0, 8000⟩, 0, { seconds := 0 }, 0⟩ []
    ofParts? "GET" "/" .http11 given [] = some r ∧ r.headers = grouped sent ∧
    pathInfo ∈ lineVariables ∧ told.get? pathInfo = some "/" ∧
    ("x_a", "2") ∈ r.fields ∧ StoredUnder "x_a" "HTTP_X_A" ∧ told.get? "HTTP_X_A" = some "1,3,2" ∧
    told.get? "HTTP_PATH_INFO" = some "/" := by
  intro given sent r told
  have hsent : r.headers = grouped sent := by decide +kernel
  have hreceived : ofParts? "GET" "/" .http11 given [] = some r := by
    have hmethod : isToken "GET" = true := by decide +kernel
    have htarget : Target.ofText? "/" = some ⟨"/", none⟩ := by decide +kernel
    have hfields : given.mapM (fun h => (wireField h.1 h.2).toOption) = some sent := by
      decide +kernel
    simp [ofParts?, hmethod, htarget, hfields, r, ← hsent]
  have hline : pathInfo ∈ lineVariables := by decide
  have hfield : ("x_a", "2") ∈ r.fields := by decide +kernel
  have hstored : StoredUnder "x_a" "HTTP_X_A" := by decide +kernel
  obtain ⟨hsame, -, -, -, -, hjoined, hgrouped⟩ :=
    cgi_variables r ⟨⟨.v4 10 0 0 7, 0, 50000⟩, ⟨.v4 10 0 0 1, 0, 8000⟩, 0, { seconds := 0 }, 0⟩ []
  refine ⟨hreceived, hsent, hline, (hsame pathInfo hline).trans ?_, hfield, hstored, ?_, ?_⟩
  · decide +kernel
  · rw [(hjoined _ hfield _ hstored).2]
    decide +kernel
  · rw [hgrouped sent hsent _ (by decide)]
    decide +kernel

end Http.Request
end Gateway
