import Gateway.Exchange.Produced
import Mathlib.Data.List.Induction

/-!
What is collected of the messages of a response. A collection that is over takes no more messages,
and one that goes on has seen nothing but a start and parts of a body, in this order.
-/
namespace Gateway.Collection

theorem add_of_isOver {c : Collection} (h : c.isOver) (m : Message) : c.add m = c := by
  cases c with
  | going p => contradiction
  | complete p => rfl
  | failed e => rfl

theorem foldl_add_of_isOver {c : Collection} (h : c.isOver) (ms : List Message) :
    ms.foldl add c = c := by
  induction ms with
  | nil => rfl
  | cons m ms ih => rw [List.foldl_cons, add_of_isOver h, ih]

theorem add_start {status : Nat} (h : Http.Response.isStatus status) (headers : List Field) :
    empty.add (.responseStart status headers) = .going { status := some status, headers } := by
  simp [empty, add, h, Produced.start]

theorem add_body {p : Produced} (h : p.status.isSome) (chunk : Bytes) (more : Bool) :
    (going p).add (.responseBody chunk more) =
      if more then .going (p.write chunk) else .complete (p.write chunk) := by
  obtain ⟨status, hstatus⟩ := Option.isSome_iff_exists.1 h
  simp [add, hstatus]

/-- What a message does to a collection that goes on: it starts the response, adds to its body or
is not the one expected. -/
theorem add_going_cases (p : Produced) (m : Message) :
    (∃ status headers, m = .responseStart status headers ∧ p.status = none ∧
        Http.Response.isStatus status ∧ (going p).add m = .going (p.start status headers)) ∨
      (∃ chunk more, m = .responseBody chunk more ∧ p.status.isSome ∧ (going p).add m =
        if more then .going (p.write chunk) else .complete (p.write chunk)) ∨
      ∃ e, (going p).add m = .failed e := by
  simp only [add]
  split
  · next status headers hstatus =>
    by_cases hvalid : Http.Response.isStatus status
    · exact .inl ⟨status, headers, rfl, hstatus, hvalid, if_pos hvalid⟩
    · exact .inr (.inr ⟨_, if_neg hvalid⟩)
  · next chunk more status hstatus =>
    exact .inr (.inl ⟨chunk, more, rfl, by simp [hstatus], rfl⟩)
  · exact .inr (.inr ⟨_, rfl⟩)

/-- Parts of a body, none of them the last. -/
def parts (chunks : List Bytes) : List Message := chunks.map (.responseBody · true)

theorem foldl_add_parts {p : Produced} (h : p.status.isSome) (chunks : List Bytes) :
    (parts chunks).foldl add (.going p) = .going { p with chunks := chunks.reverse ++ p.chunks } := by
  induction chunks generalizing p with
  | nil => rfl
  | cons chunk chunks ih =>
    show (parts chunks).foldl add ((going p).add (.responseBody chunk true)) = _
    have hwrite : (p.write chunk).status.isSome := h
    rw [add_body h, if_pos rfl, ih hwrite]
    simp [Produced.write]

theorem foldl_add_started {status : Nat} (h : Http.Response.isStatus status) (headers : List Field)
    (chunks : List Bytes) :
    (.responseStart status headers :: parts chunks).foldl add empty =
      .going { status := some status, headers, chunks := chunks.reverse } := by
  rw [List.foldl_cons, add_start h, foldl_add_parts rfl, List.append_nil]

/-- A collection that goes on has seen nothing yet, or a response that was started. -/
theorem started_of_foldl_add {ms : List Message} {p : Produced}
    (h : ms.foldl add empty = .going p) :
    ms = [] ∨ ∃ status headers chunks, ms = .responseStart status headers :: parts chunks ∧
      Http.Response.isStatus status := by
  -- the last message decides, so the list is taken apart from its end
  induction ms using List.reverseRecOn generalizing p with
  | nil => exact .inl rfl
  | append_singleton ms m ih =>
    rw [List.foldl_append, List.foldl_cons, List.foldl_nil] at h
    cases hc : ms.foldl add empty with
    | complete q => simp [hc, add] at h
    | failed e => simp [hc, add] at h
    | going q =>
      rw [hc] at h
      refine .inr ?_
      rcases ih hc with rfl | ⟨status, headers, chunks, rfl, hvalid⟩
      · obtain rfl : q = {} := (going.inj hc).symm
        rcases add_going_cases {} m with ⟨status, headers, rfl, -, hvalid, -⟩ |
          ⟨_, _, _, hsome, _⟩ | ⟨e, he⟩
        · exact ⟨status, headers, [], rfl, hvalid⟩
        · contradiction
        · simp [he] at h
      · obtain rfl := going.inj ((foldl_add_started hvalid headers chunks).symm.trans hc)
        rcases add_going_cases { status := some status, headers, chunks := chunks.reverse } m with
          ⟨_, _, _, hnone, _⟩ | ⟨chunk, more, rfl, -, hadd⟩ | ⟨e, he⟩
        · contradiction
        · cases more with
          | true => exact ⟨status, headers, chunks ++ [chunk], by simp [parts], hvalid⟩
          | false => simp [hadd] at h
        · simp [he] at h

/-- A response is complete only with the final part of its body. -/
theorem exists_final_of_foldl_add {ms : List Message} {p : Produced}
    (h : ms.foldl add empty = .complete p) : ∃ chunk, .responseBody chunk false ∈ ms := by
  induction ms using List.reverseRecOn with
  | nil => contradiction
  | append_singleton ms m ih =>
    rw [List.foldl_append, List.foldl_cons, List.foldl_nil] at h
    cases hc : ms.foldl add empty with
    | going q =>
      rw [hc] at h
      rcases add_going_cases q m with ⟨_, _, _, _, _, hadd⟩ | ⟨chunk, more, rfl, -, hadd⟩ | ⟨e, he⟩
      · simp [hadd] at h
      · cases more with
        | true => simp [hadd] at h
        | false => exact ⟨chunk, List.mem_append_right _ (List.mem_singleton_self _)⟩
      · simp [he] at h
    | complete q =>
      obtain ⟨chunk, hmem⟩ := ih (hc.trans (by rw [hc] at h; exact h))
      exact ⟨chunk, List.mem_append_left _ hmem⟩
    | failed e => simp [hc, add] at h

end Gateway.Collection
