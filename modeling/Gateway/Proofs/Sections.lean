import Gateway.Proofs.Storing

/-!
Reading settings from a store. Where the store holds one value or none at each setting, and only values
that the setting can have, each is read as the value that it stands for.
-/
namespace Gateway

namespace Settings

/-- A setting is read as the value that it becomes. -/
theorem Store.exists_read {s : Store} {x : Setting} {α : Type} {f : α → Value}
    {read : Value → Option α} {result : Except LoadError (Option α)}
    (hvalid : ∀ v, s.held x = some v → (x.read? v).isSome)
    (hread : ∀ v, x.read? v = (read v).map f)
    (hresult : (∀ v, s.held x = some v → (read v).isSome) →
      result = .ok ((s.held x).bind read)) :
    ∃ o, result = .ok o ∧ (s.held x).bind x.read? = o.map f := by
  have hsame : x.read? = fun v => (read v).map f := funext hread
  refine ⟨(s.held x).bind read, hresult fun v hv => ?_, ?_⟩
  · have hsome := hvalid v hv
    rwa [hread, Option.isSome_map] at hsome
  · rw [hsame]
    exact Option.map_bind.symm

namespace Store.Shaped

variable {s : Store} (h : s.Shaped)

include h

theorem get_key (x : Setting) :
    s.get x.key = (s.cells.lookup x.key).elim .nothing .cell := by
  unfold get
  cases hlookup : s.cells.lookup x.key with
  | none =>
    have hnone : (s.cells.any fun e => covers x.key e.1) = false := by
      rw [List.any_eq_false]
      intro e he hcovers
      have hsame := h.apart e he x (.inr (covers_iff.mp hcovers))
      have hfree := List.lookup_eq_none_iff.mp hlookup e he
      simp [hsame] at hfree
    simp [hnone]
  | some c =>
    obtain ⟨before, after, hcells, -⟩ := List.lookup_eq_some_iff.mp hlookup
    have hvalue := h.value (x.key, c) (by simp [hcells]) x rfl
    obtain ⟨v, origin⟩ := c
    cases v with
    | emptyTable => exact absurd rfl hvalue
    | _ => rfl

theorem open_section (x : Setting) (expected : String) :
    Section.open? s x.place.1 expected = .ok ⟨s, x.place.1, expected⟩ := by
  have habove : [x.place.1] <+: x.key := List.prefix_append [x.place.1] [x.place.2]
  have hne : [x.place.1] ≠ x.key := by simp [Setting.key]
  have hnone : s.cells.lookup [x.place.1] = none := by
    rw [List.lookup_eq_none_iff]
    intro e he
    rw [bne_iff_ne]
    intro hsame
    rw [hsame] at habove hne
    exact hne (h.apart e he x (.inl habove))
  have hany : (s.cells.any fun e => covers [x.place.1] e.1) = true := by
    obtain ⟨e, he, hbelow⟩ := h.exists_below habove hne
    exact List.any_eq_true.mpr ⟨e, he, covers_iff.mpr hbelow⟩
  have htable : s.get [x.place.1] = .table := by simp [get, hnone, hany]
  rw [Section.open?, htable]

variable {x : Setting}

/-- A field is read from the value that is held, where `convert` reads it as `read` does. -/
theorem field_eq {α : Type} {convert : Cell → Except Found α} {read : Value → Option α}
    (hconvert : ∀ c a, read c.value = some a → convert c = .ok a)
    (hvalid : ∀ v, s.held x = some v → (read v).isSome) (expected what : String) :
    Section.field ⟨s, x.place.1, expected⟩ x.place.2 what convert =
      .ok ((s.held x).bind read) := by
  have hget := h.get_key x
  unfold held at hvalid ⊢
  unfold Section.field
  dsimp only
  rw [show [x.place.1, x.place.2] = x.key from rfl, hget]
  cases hlookup : s.cells.lookup x.key with
  | none => rfl
  | some c =>
    rw [hlookup] at hvalid
    obtain ⟨a, ha⟩ := Option.isSome_iff_exists.mp (hvalid c.value rfl)
    simp [hconvert c a ha, ha]

theorem text_eq (hvalid : ∀ v, s.held x = some v → v.text?.isSome) (expected : String) :
    Section.text ⟨s, x.place.1, expected⟩ x.place.2 = .ok ((s.held x).bind Value.text?) := by
  refine h.field_eq (fun c a hread => ?_) hvalid expected "a string"
  obtain ⟨v, origin⟩ := c
  cases v with
  | emptyTable => contradiction
  | _ => exact congrArg Except.ok (Option.some.inj hread)

theorem boolean_eq (hvalid : ∀ v, s.held x = some v → v.truth?.isSome) (expected : String) :
    Section.boolean ⟨s, x.place.1, expected⟩ x.place.2 = .ok ((s.held x).bind Value.truth?) := by
  refine h.field_eq (fun c a hread => ?_) hvalid expected "a boolean"
  obtain ⟨v, origin⟩ := c
  cases v with
  | emptyTable => contradiction
  | integer n => exact congrArg Except.ok (Option.some.inj hread)
  | boolean b => exact congrArg Except.ok (Option.some.inj hread)
  | text t =>
    simp only [Value.truth?, List.mem_cons] at hread
    dsimp only
    split at hread
    · next htrue =>
      rw [if_pos htrue]
      exact congrArg Except.ok (Option.some.inj hread)
    · next htrue =>
      split at hread
      · next hfalse =>
        rw [if_neg htrue, if_pos hfalse]
        exact congrArg Except.ok (Option.some.inj hread)
      · contradiction

theorem number_eq (hvalid : ∀ v, s.held x = some v → v.number?.isSome) (expected : String) :
    Section.number ⟨s, x.place.1, expected⟩ x.place.2 = .ok ((s.held x).bind Value.number?) := by
  have hget : s.get [x.place.1, x.place.2] = _ := h.get_key x
  unfold Section.number
  dsimp only
  rw [hget]
  split
  · next n origin hcell =>
    -- no number is negative
    cases hlookup : s.cells.lookup x.key with
    | none =>
      rw [hlookup] at hcell
      contradiction
    | some c =>
      rw [hlookup] at hcell
      obtain rfl := Held.cell.inj hcell
      have hnegative := hvalid (.integer (.negSucc n)) (by simp [held, hlookup])
      simp [Value.number?] at hnegative
  · refine h.field_eq (fun c a hread => ?_) hvalid expected "an integer"
    obtain ⟨v, origin⟩ := c
    cases v with
    | emptyTable => contradiction
    | boolean b => exact congrArg Except.ok (Option.some.inj hread)
    | integer n =>
      simp only [Value.number?] at hread
      split at hread
      · contradiction
      · exact congrArg Except.ok (Option.some.inj hread)
    | text t =>
      cases hnumber : Section.numberOfText t with
      | ok n =>
        simp only [Value.number?, hnumber] at hread
        exact hnumber.trans (congrArg Except.ok (Option.some.inj hread))
      | error found => simp [Value.number?, hnumber, Except.toOption] at hread

theorem port_eq (hvalid : ∀ v, s.held x = some v → v.port?.isSome) (expected : String) :
    Section.port ⟨s, x.place.1, expected⟩ x.place.2 = .ok ((s.held x).bind Value.port?) := by
  have hnumber : ∀ v, s.held x = some v → ∃ n, v.number? = some n ∧ n < UInt16.size := by
    intro v hv
    obtain ⟨n, hn⟩ := Option.isSome_iff_exists.mp (Option.isSome_map.symm.trans (hvalid v hv))
    obtain ⟨hn, hlt⟩ := Option.filter_eq_some_iff.mp hn
    exact ⟨n, hn, of_decide_eq_true hlt⟩
  unfold Section.port
  rw [h.number_eq fun v hv => ?_]
  · cases hheld : s.held x with
    | none => rfl
    | some v =>
      obtain ⟨n, hn, hlt⟩ := hnumber v hheld
      have hport : v.port? = some (.ofNat n) := by
        simp [Value.port?, hn, Option.filter, hlt]
      simp only [Option.bind_some, hn, hport]
      dsimp only [bind, Except.bind]
      rw [if_pos hlt]
      rfl
  · obtain ⟨n, hn, -⟩ := hnumber v hv
    simp [hn]

/-- A setting with a default is always read. -/
theorem exists_eq_some {α : Type} {f : α → Value} {read : Except LoadError (Option α)}
    (hvalid : ∀ v, s.held x = some v → (x.read? v).isSome)
    (hdefault : (given Settings.defaults x).isSome)
    (hread : ∃ o, read = .ok o ∧ (s.held x).bind x.read? = o.map f) :
    ∃ a, read = .ok (some a) ∧ (s.held x).bind x.read? = some (f a) := by
  obtain ⟨o, rfl, ho⟩ := hread
  have hheld : (s.held x).isSome := by
    rw [held, Option.isSome_map]
    exact h.defaults x hdefault
  obtain ⟨v, hv⟩ := Option.isSome_iff_exists.mp hheld
  have hsome := hvalid v hv
  rw [hv, Option.bind_some] at ho ⊢
  cases o with
  | none =>
    rw [ho] at hsome
    contradiction
  | some a => exact ⟨a, rfl, ho⟩

end Store.Shaped

/-- A shaped store is read as settings if it holds nothing but values that settings can have. -/
theorem ofStore_of_shaped {s : Store} (h : s.Shaped)
    (hvalid : ∀ x v, s.held x = some v → (x.read? v).isSome) :
    ∃ settings, ofStore s = .ok settings ∧
      ∀ x, settings.value? x = (s.held x).bind x.read? := by
  have text (x : Setting) (hkind : x.kind = .text) (hdefault : (given defaults x).isSome)
      (expected : String) :=
    h.exists_eq_some (hvalid x) hdefault <|
      Store.exists_read (hvalid x) (fun v => by rw [Setting.read?, hkind, Kind.read?])
        (h.text_eq · expected)
  have truth (x : Setting) (hkind : x.kind = .truth) (hdefault : (given defaults x).isSome)
      (expected : String) :=
    h.exists_eq_some (hvalid x) hdefault <|
      Store.exists_read (hvalid x) (fun v => by rw [Setting.read?, hkind, Kind.read?])
        (h.boolean_eq · expected)
  have number (x : Setting) (hkind : x.kind = .number) (hdefault : (given defaults x).isSome)
      (expected : String) :=
    h.exists_eq_some (hvalid x) hdefault <|
      Store.exists_read (hvalid x) (fun v => by rw [Setting.read?, hkind, Kind.read?])
        (h.number_eq · expected)
  obtain ⟨host, rhost, vhost⟩ := text .host rfl (by decide) "ServerConfig"
  obtain ⟨port, rport, vport⟩ :=
    Store.exists_read (hvalid .port) (fun _ => rfl) (h.port_eq · "ServerConfig")
  obtain ⟨entry, rentry, ventry⟩ := text .entry rfl (by decide) "AppConfig"
  obtain ⟨dir, rdir, vdir⟩ := text .staticDir rfl (by decide) "StaticFilesConfig"
  obtain ⟨mount, rmount, vmount⟩ :=
    Store.exists_read (hvalid .mount) (fun _ => rfl) (h.text_eq · "RoutePrefixConfig")
  obtain ⟨strip, rstrip, vstrip⟩ := truth .strip rfl (by decide) "RoutePrefixConfig"
  obtain ⟨level, rlevel, vlevel⟩ := text .level rfl (by decide) "LoggingConfig"
  obtain ⟨access, raccess, vaccess⟩ := truth .accessLog rfl (by decide) "LoggingConfig"
  obtain ⟨format, rformat, vformat⟩ := text .accessLogFormat rfl (by decide) "LoggingConfig"
  obtain ⟨name, rname, vname⟩ := text .serverName rfl (by decide) "HttpConfig"
  obtain ⟨body, rbody, vbody⟩ := number .maxBodySize rfl (by decide) "HttpConfig"
  obtain ⟨keep, rkeep, vkeep⟩ := number .keepAliveTimeout rfl (by decide) "PerformanceConfig"
  obtain ⟨read, rread, vread⟩ := number .readTimeout rfl (by decide) "PerformanceConfig"
  obtain ⟨write, rwrite, vwrite⟩ := number .writeTimeout rfl (by decide) "PerformanceConfig"
  refine ⟨⟨host, port, entry, dir, mount, strip, level, access, format, name, body, keep, read,
    write⟩, ?_, ?_⟩
  · have oserver := h.open_section .host "ServerConfig"
    have oapp := h.open_section .entry "AppConfig"
    have ofiles := h.open_section .staticDir "StaticFilesConfig"
    have omount := h.open_section .mount "RoutePrefixConfig"
    have olog := h.open_section .level "LoggingConfig"
    have ohttp := h.open_section .serverName "HttpConfig"
    have operf := h.open_section .readTimeout "PerformanceConfig"
    simp only [Setting.place] at *
    simp only [ofStore, *, bind, Except.bind, Section.require]
    rfl
  · intro x
    cases x with
    | host => exact vhost.symm
    | port => exact vport.symm
    | entry => exact ventry.symm
    | staticDir => exact vdir.symm
    | mount => exact vmount.symm
    | strip => exact vstrip.symm
    | level => exact vlevel.symm
    | accessLog => exact vaccess.symm
    | accessLogFormat => exact vformat.symm
    | serverName => exact vname.symm
    | maxBodySize => exact vbody.symm
    | keepAliveTimeout => exact vkeep.symm
    | readTimeout => exact vread.symm
    | writeTimeout => exact vwrite.symm

end Settings

end Gateway
