import Gateway.Proofs.Grammar
import Gateway.Proofs.Scripts
import Gateway.Proofs.Transparency

/-!
Files as bodies. A file is cut into full chunks, of which only the last may be shorter, and these
make up the file again. Both kinds of caller get all of it, under a start that tells its length, and
to a HEAD the same start alone.
-/
namespace Gateway

namespace Site

/-- The chunks make up the data, and only the last of them is shorter than `size`. None is empty. -/
structure Framed (size : Nat) (data : Bytes) (chunks : List Bytes) : Prop where
  flatten : chunks.flatten = data
  ne_nil : ∀ chunk ∈ chunks, chunk ≠ []
  length_le : ∀ chunk ∈ chunks, chunk.length ≤ size
  full : ∀ chunk ∈ chunks.dropLast, chunk.length = size

theorem framed_nil (size : Nat) : Framed size [] [] where
  flatten := rfl
  ne_nil _ h := absurd h List.not_mem_nil
  length_le _ h := absurd h List.not_mem_nil
  full _ h := absurd h List.not_mem_nil

theorem Framed.eq_nil {size : Nat} {chunks : List Bytes} (h : Framed size [] chunks) :
    chunks = [] := by
  refine List.eq_nil_iff_forall_not_mem.2 fun chunk hmem => ?_
  exact h.ne_nil chunk hmem (List.flatten_eq_nil_iff.1 h.flatten chunk hmem)

/-- A chunk that is taken off the front of data is full where data are left. -/
theorem Framed.cons {size : Nat} {data : Bytes} {chunks : List Bytes} (hsize : 0 < size)
    (hdata : data ≠ []) (h : Framed size (data.drop size) chunks) :
    Framed size data (data.take size :: chunks) where
  flatten := by rw [List.flatten_cons, h.flatten, List.take_append_drop]
  ne_nil chunk hmem := by
    rcases List.mem_cons.1 hmem with rfl | hmem
    · have hpos := List.length_pos_iff.2 hdata
      apply List.length_pos_iff.1
      rw [List.length_take]
      omega
    · exact h.ne_nil chunk hmem
  length_le chunk hmem := by
    rcases List.mem_cons.1 hmem with rfl | hmem
    · exact List.length_take_le size data
    · exact h.length_le chunk hmem
  full chunk hmem := by
    by_cases hlast : chunks = []
    · rw [hlast] at hmem
      contradiction
    · rw [List.dropLast_cons_of_ne_nil hlast] at hmem
      rcases List.mem_cons.1 hmem with rfl | hmem
      · have hleft : data.drop size ≠ [] := by
          intro hnil
          rw [hnil] at h
          exact hlast h.eq_nil
        have hlength := mt List.drop_eq_nil_iff.2 hleft
        rw [List.length_take]
        omega
      · exact h.full chunk hmem

theorem framed_chunksOf {size : Nat} (hsize : 0 < size) (data : Bytes) :
    Framed size data (chunksOf size data) := by
  fun_induction chunksOf size data with
  | case1 data h =>
    obtain rfl : data = [] := h.resolve_right (Nat.ne_of_gt hsize)
    exact framed_nil size
  | case2 data h ih => exact Framed.cons hsize (not_or.1 h).1 ih

/-- Of a file that cannot be read to its end, a GET gets what can be read, and no final part. -/
theorem response_of_unreadable {site : Site} {method path error : String} {file : File}
    (hget : method.toLower = "get") (ho : (site.resolve path.toList).opened? = some file)
    (hread : file.readError? = some error) :
    site.outcome method path = .error (.raised ("static file read failed: " ++ error)) ∧
      site.response method path = .responseStart 200 (fileHeaders path file) ::
        Collection.parts (chunksOf chunkSize file.data) := by
  have hfails : readError? method file = some error := readError?_eq_some_iff.2 ⟨hget, hread⟩
  constructor
  · rw [outcome, failure?, ho, Option.bind_some, hfails]
  · rw [response_of_opened (serves_iff.2 (.inl hget)) ho, fileResponse, hfails,
      chunksFor_of_get hget file]
    exact congrArg _ (List.append_nil _)

/-- A GET of a file gets a 200, its length, and its bytes in chunks of 65536, of which only the last may be
shorter; as messages these end with an empty part. A HEAD gets the start only. -/
theorem file_framed {site : Site} {path : String} {data : Bytes}
    (hfound : (site.resolve path.toList).file? = some (.ofData data)) :
    let headers : List Field :=
      [("Content-Type", MediaType.ofPath path), ("Content-Length", toString data.length)]
    (∀ r : CgiRequest, r.path = path →
      (r.method.toLower = "get" → ∃ chunks,
        site.syncApp r =
          { sink := [.start 200 headers], request := r, result := .body { chunks } } ∧
        Framed 65536 data chunks ∧ (data = [] → chunks = [])) ∧
      (r.method.toLower = "head" → site.syncApp r =
        { sink := [.start 200 headers], request := r, result := .body { chunks := [] } })) ∧
    ∀ s : Scope, s.kind = .http → s.path = path → ∀ incoming,
      let call := (site.asyncApp s).transcript incoming true
      call.standing = .returned (.ok ()) ∧
      (s.method.toLower = "get" → ∃ chunks,
        call.sent =
          .responseStart 200 headers :: (Collection.parts chunks ++ [.responseBody [] false]) ∧
        Framed 65536 data chunks ∧
        ∃ p, Collection.ofMessages call.sent = .ok p ∧ p.status = some 200 ∧
          p.headers = headers ∧ p.body = data) ∧
      (s.method.toLower = "head" →
        call.sent = [.responseStart 200 headers, .responseBody [] false] ∧
        ∃ p, Collection.ofMessages call.sent = .ok p ∧ p.status = some 200 ∧
          p.headers = headers ∧ p.body = []) := by
  intro headers
  have hframed : Framed 65536 data (chunksOf chunkSize data) := framed_chunksOf (by decide) data
  have hget {method : String} (h : method.toLower = "get") :
      chunksFor method (.ofData data) = chunksOf chunkSize data := chunksFor_of_get h _
  have hhead {method : String} (h : method.toLower = "head") :
      chunksFor method (.ofData data) = [] := chunksFor_of_head h _
  refine ⟨fun r hpath => ⟨fun h => ?_, fun h => ?_⟩, ?_⟩
  · have hrun := syncApp_of_whole hfound rfl hpath (serves_iff.2 (.inl h))
    rw [hget h] at hrun
    refine ⟨_, hrun, hframed, ?_⟩
    rintro rfl
    exact hframed.eq_nil
  · have hrun := syncApp_of_whole hfound rfl hpath (serves_iff.2 (.inr h))
    rwa [hhead h] at hrun
  · intro s hkind hpath incoming call
    obtain ⟨hsent, hstanding⟩ := site.transcript_asyncApp hkind incoming
    rw [hpath] at hsent hstanding
    rw [outcome_of_failure? (failure?_of_whole hfound rfl s.method)] at hstanding
    refine ⟨hstanding, fun h => ?_, fun h => ?_⟩
    · rw [response_of_whole hfound rfl (serves_iff.2 (.inl h)), hget h] at hsent
      refine ⟨_, hsent, hframed, ?_⟩
      have hspells : Collection.Spells 200 headers data call.sent := by
        have hwhole : Collection.Spells 200 headers ((chunksOf chunkSize data).flatten ++ [])
            call.sent := by
          rw [hsent]
          exact .whole (chunksOf chunkSize data) [] []
        rwa [List.append_nil, hframed.flatten] at hwhole
      exact hspells.ofMessages rfl
    · rw [response_of_whole hfound rfl (serves_iff.2 (.inr h)), hhead h] at hsent
      refine ⟨hsent, ?_⟩
      have hspells : Collection.Spells 200 headers [] call.sent := by
        rw [hsent]
        exact .whole [] [] []
      exact hspells.ofMessages rfl

/-- A file of a full chunk and ten bytes more. -/
theorem file_framed_holding :
    let data : Bytes := List.replicate 65546 7
    let s := Scope.http "get" "/./a"
    ((holding (.ofData data)).resolve "/./a".toList).file? = some (.ofData data) ∧
      (∃ headers chunks, Framed 65536 data chunks ∧
        (holding (.ofData data)).syncApp (.ofPath "GET" "/./a") =
          { sink := [.start 200 headers], request := .ofPath "GET" "/./a"
            result := .body { chunks } }) ∧
      ∃ p, Collection.ofMessages (((holding (.ofData data)).asyncApp s).transcript [] true).sent = .ok p ∧
        p.status = some 200 ∧ p.body = data := by
  intro data s
  have hfound : ((holding (.ofData data)).resolve "/./a".toList).file? = some (.ofData data) := by
    rw [resolve_holding]
    rfl
  obtain ⟨hsync, hasync⟩ := file_framed hfound
  obtain ⟨chunks, hrun, hframed, -⟩ := (hsync (.ofPath "GET" "/./a") rfl).1 (by decide +kernel)
  obtain ⟨-, -, -, p, hp, hstatus, -, hbody⟩ := (hasync s rfl rfl []).2.1 (by decide +kernel)
  exact ⟨hfound, ⟨_, chunks, hframed, hrun⟩, p, hp, hstatus, hbody⟩

end Site

end Gateway
