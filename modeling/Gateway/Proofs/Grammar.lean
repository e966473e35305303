import Gateway.Proofs.Collecting

/-!
Which messages make up a response: its start, then its body in parts, up to the first that is marked
as the final one or up to the end. Any other message breaks off the response. Whatever follows the
final part, or a message that breaks the response off, does not count.
-/
namespace Gateway.Collection

/-- The messages spell the response with this status, these headers and this body. -/
inductive Spells (status : Nat) (headers : List Field) : Bytes → List Message → Prop
  /-- The final part never came. -/
  | cut (chunks : List Bytes) :
    Spells status headers chunks.flatten (.responseStart status headers :: parts chunks)
  | whole (chunks : List Bytes) (last : Bytes) (rest : List Message) :
    Spells status headers (chunks.flatten ++ last)
      (.responseStart status headers :: (parts chunks ++ .responseBody last false :: rest))

theorem foldl_add_whole {status : Nat} (h : Http.Response.isStatus status) (headers : List Field)
    (chunks : List Bytes) (last : Bytes) (rest : List Message) :
    (.responseStart status headers :: (parts chunks ++ .responseBody last false :: rest)).foldl add
        empty =
      .complete { status := some status, headers, chunks := last :: chunks.reverse } := by
  rw [← List.cons_append, List.foldl_append, foldl_add_started h, List.foldl_cons, add_body rfl]
  exact foldl_add_of_isOver rfl rest

theorem Spells.ofMessages {status : Nat} {headers : List Field} {body : Bytes} {ms : List Message}
    (h : Spells status headers body ms) (hvalid : Http.Response.isStatus status) :
    ∃ p, ofMessages ms = .ok p ∧ p.status = some status ∧ p.headers = headers ∧ p.body = body := by
  cases h with
  | cut chunks =>
    refine ⟨{ status := some status, headers, chunks := chunks.reverse }, ?_, rfl, rfl, ?_⟩
    · rw [Collection.ofMessages, foldl_add_started hvalid]
      rfl
    · simp only [Produced.body, List.reverse_reverse]
  | whole chunks last rest =>
    refine ⟨{ status := some status, headers, chunks := last :: chunks.reverse }, ?_, rfl, rfl, ?_⟩
    · rw [Collection.ofMessages, foldl_add_whole hvalid]
      rfl
    · simp only [Produced.body, List.reverse_cons, List.reverse_reverse, List.flatten_concat]

/-- A response starts once: what follows is part of its body. -/
theorem Spells.second {status : Nat} {headers : List Field} {body : Bytes} {m n : Message}
    {ms : List Message} (h : Spells status headers body (m :: n :: ms)) :
    ∃ chunk more, n = .responseBody chunk more := by
  generalize hms : m :: n :: ms = all at h
  cases h with
  | cut chunks =>
    cases chunks with
    | nil => nomatch (List.cons.inj hms).2
    | cons chunk chunks => exact ⟨chunk, true, (List.cons.inj (List.cons.inj hms).2).1⟩
  | whole chunks last rest =>
    cases chunks with
    | nil => exact ⟨last, false, (List.cons.inj (List.cons.inj hms).2).1⟩
    | cons chunk chunks => exact ⟨chunk, true, (List.cons.inj (List.cons.inj hms).2).1⟩

theorem whole_of_foldl_add {ms : List Message} {p : Produced}
    (h : ms.foldl add empty = .complete p) :
    ∃ status headers chunks last rest, Http.Response.isStatus status ∧
      ms = .responseStart status headers :: (parts chunks ++ .responseBody last false :: rest) := by
  -- the final part is the last message that makes a difference
  induction ms using List.reverseRecOn generalizing p with
  | nil => contradiction
  | append_singleton ms m ih =>
    rw [List.foldl_append, List.foldl_cons, List.foldl_nil] at h
    cases hc : ms.foldl add empty with
    | failed e => simp [hc, add] at h
    | complete q =>
      obtain ⟨status, headers, chunks, last, rest, hvalid, rfl⟩ := ih hc
      exact ⟨status, headers, chunks, last, rest ++ [m], hvalid, by simp⟩
    | going q =>
      rw [hc] at h
      rcases add_going_cases q m with ⟨_, _, _, _, _, hadd⟩ | ⟨chunk, more, rfl, hsome, hadd⟩ |
        ⟨e, he⟩
      · simp [hadd] at h
      · cases more with
        | true => simp [hadd] at h
        | false =>
          rcases started_of_foldl_add hc with rfl | ⟨status, headers, chunks, rfl, hvalid⟩
          · obtain rfl : q = {} := (going.inj hc).symm
            contradiction
          · exact ⟨status, headers, chunks, chunk, [], hvalid, by simp⟩
      · simp [he] at h

theorem result_eq_ok_iff {c : Collection} {p : Produced} :
    c.result = .ok p ↔ c = .going p ∨ c = .complete p := by
  cases c <;> simp [result]

/-- Only messages that spell a response are collected without an error, or none at all. -/
theorem nil_or_spells {ms : List Message} {p : Produced} (h : ofMessages ms = .ok p) :
    ms = [] ∨ ∃ status headers body, Http.Response.isStatus status ∧
      Spells status headers body ms := by
  rcases result_eq_ok_iff.1 h with hgoing | hcomplete
  · rcases started_of_foldl_add hgoing with rfl | ⟨status, headers, chunks, rfl, hvalid⟩
    · exact .inl rfl
    · exact .inr ⟨status, headers, _, hvalid, .cut chunks⟩
  · obtain ⟨status, headers, chunks, last, rest, hvalid, rfl⟩ := whole_of_foldl_add hcomplete
    exact .inr ⟨status, headers, _, hvalid, .whole chunks last rest⟩

/-- Only messages that spell a response make up one that was started. -/
theorem exists_spells {ms : List Message} {p : Produced} (h : ofMessages ms = .ok p)
    (hstatus : p.status.isSome) :
    ∃ status headers body, Http.Response.isStatus status ∧ Spells status headers body ms := by
  rcases nil_or_spells h with rfl | hspells
  · obtain rfl : p = {} := (Except.ok.inj h).symm
    contradiction
  · exact hspells

/-! ## Messages that make up no response -/

/-- The messages break the grammar of a response at the first that may not stand where it does. What
follows this one is not looked at. -/
inductive Breaks : AppError → List Message → Prop
  /-- Something else comes before the start. -/
  | unstarted {m : Message} (h : ∀ status headers, m ≠ .responseStart status headers)
      (rest : List Message) :
    Breaks (.unexpectedMessage "http.response.start" m.kind) (m :: rest)
  | invalid {status : Nat} (h : ¬ Http.Response.isStatus status) (headers : List Field)
      (rest : List Message) :
    Breaks (.raised ("invalid status code " ++ toString status))
      (.responseStart status headers :: rest)
  /-- Something else comes among the parts of the body. -/
  | interrupted {status : Nat} (hvalid : Http.Response.isStatus status) (headers : List Field)
      (chunks : List Bytes) {m : Message} (h : ∀ chunk more, m ≠ .responseBody chunk more)
      (rest : List Message) :
    Breaks (.unexpectedMessage "http.response.body" m.kind)
      (.responseStart status headers :: (parts chunks ++ m :: rest))

theorem Breaks.append {e : AppError} {ms : List Message} (h : Breaks e ms) (more : List Message) :
    Breaks e (ms ++ more) := by
  cases h with
  | unstarted h rest => exact .unstarted h (rest ++ more)
  | invalid h headers rest => exact .invalid h headers (rest ++ more)
  | interrupted hvalid headers chunks h rest =>
    rw [List.cons_append, List.append_assoc, List.cons_append]
    exact .interrupted hvalid headers chunks h (rest ++ more)

end Gateway.Collection
