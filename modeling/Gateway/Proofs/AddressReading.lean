import Gateway.Address
import Gateway.Proofs.JsonReading
import Mathlib.Data.List.Infix
import Mathlib.Tactic.SplitIfs

/-!
Addresses are read back from their texts: every number, every group and every address from what it is
written as, whatever follows that does not go on with it, and so every socket address.
-/
namespace Gateway.IpAddress

/-! ## Numbers -/

/-- The digits of a base are read as what they stand for. -/
def Legible (base : Nat) : Prop := ∀ d < base, digit? base (Nat.digitChar d) = some d

theorem legible_ten : Legible 10 := by
  unfold Legible
  decide

theorem legible_sixteen : Legible 16 := by
  unfold Legible
  decide

/-- What follows a number does not go on with it. -/
def Ends (base : Nat) (rest : List Char) : Prop := ∀ c ∈ rest.head?, digit? base c = none

section Numbers

variable {base bound n : Nat} {s rest : List Char}

theorem ends_nil : Ends base [] := nofun

theorem ends_cons {c : Char} (h : digit? base c = none) : Ends base (c :: rest) := by
  rintro _ ⟨rfl⟩
  exact h

theorem Ends.takeWhile (h : Ends base rest) :
    rest.takeWhile (fun c => (digit? base c).isSome) = [] := by
  cases rest with
  | nil => rfl
  | cons c r => simp [h c rfl]

theorem exists_toDigits_eq (hbase : 1 < base) (n : Nat) :
    ∃ ds, Nat.toDigits base n = ds.map Nat.digitChar ∧ (∀ d ∈ ds, d < base) ∧ ds ≠ [] ∧
      ds.foldl (fun n d => n * base + d) 0 = n := by
  induction n using Nat.strong_induction_on with
  | _ n ih =>
    by_cases hlt : n < base
    · exact ⟨[n], Nat.toDigits_of_lt_base hlt, by simpa, by simp, by simp⟩
    · obtain ⟨ds, hdigits, hds, -, hvalue⟩ := ih (n / base) (Nat.div_lt_self (by omega) hbase)
      have hlast : n % base < base := Nat.mod_lt n (by omega)
      refine ⟨ds ++ [n % base], ?_, ?_, by simp, ?_⟩
      · rw [Nat.toDigits_of_base_le hbase (by omega), hdigits, List.map_append]
        rfl
      · intro d hd
        rcases List.mem_append.1 hd with hd | hd
        · exact hds d hd
        · rwa [List.mem_singleton.1 hd]
      · rw [List.foldl_append, hvalue]
        exact Nat.div_add_mod' n base

theorem isSome_digit?_of_mem_map (hlegible : Legible base) {ds : List Nat} (hds : ∀ d ∈ ds, d < base) :
    ∀ c ∈ ds.map Nat.digitChar, (digit? base c).isSome := by
  intro c hc
  obtain ⟨d, hd, rfl⟩ := List.mem_map.1 hc
  rw [hlegible d (hds d hd)]
  rfl

theorem isSome_digit?_of_mem (hbase : 1 < base) (hlegible : Legible base) :
    ∀ c ∈ Nat.toDigits base n, (digit? base c).isSome := by
  obtain ⟨ds, hdigits, hds, -⟩ := exists_toDigits_eq hbase n
  rw [hdigits]
  exact isSome_digit?_of_mem_map hlegible hds

theorem not_mem_toDigits (hbase : 1 < base) (hlegible : Legible base) {c : Char}
    (hc : digit? base c = none) : c ∉ Nat.toDigits base n := by
  intro hmem
  have hsome := isSome_digit?_of_mem hbase hlegible c hmem
  rw [hc] at hsome
  contradiction

theorem digits_map_append (hlegible : Legible base) {ds : List Nat} (hds : ∀ d ∈ ds, d < base)
    (hrest : Ends base rest) : digits base (ds.map Nat.digitChar ++ rest) = ds := by
  have hread : (ds.map Nat.digitChar).filterMap (digit? base) = ds := by
    rw [List.filterMap_map]
    exact (List.filterMap_congr fun d hd => hlegible d (hds d hd)).trans List.filterMap_some
  rw [digits, List.takeWhile_append_of_pos (isSome_digit?_of_mem_map hlegible hds), hrest.takeWhile,
    List.append_nil, hread]

theorem number_toDigits (hbase : 1 < base) (hlegible : Legible base) (hn : n < bound)
    (hrest : Ends base rest) : number base bound (Nat.toDigits base n ++ rest) = some (n, rest) := by
  obtain ⟨ds, hdigits, hds, hne, hvalue⟩ := exists_toDigits_eq hbase n
  have hgood : ¬ (ds = [] ∨ bound ≤ n) := not_or.2 ⟨hne, Nat.not_le.2 hn⟩
  rw [number, hdigits, digits_map_append hlegible hds hrest, hvalue, if_neg hgood,
    List.drop_left' (List.length_map _)]

theorem number_eq_none (h : Ends base s) : number base bound s = none := by
  have hnil : digits base s = [] := by rw [digits, h.takeWhile, List.filterMap_nil]
  rw [number, hnil]
  exact if_pos (.inl rfl)

theorem suffix_of_number (h : number base bound s = some (n, rest)) : rest <:+ s := by
  unfold number at h
  dsimp only at h
  split_ifs at h
  obtain ⟨-, rfl⟩ := Prod.mk.inj (Option.some.inj h)
  exact List.drop_suffix _ s

end Numbers

theorem char_self (c : Char) (s : List Char) : char c (c :: s) = some s := if_pos rfl

theorem char_eq_none {c : Char} {s : List Char} (h : s.head? ≠ some c) : char c s = none := by
  cases s with
  | nil => rfl
  | cons x r => exact if_neg fun hx => h (congrArg some hx)

/-! ## Version 4 -/

section Dotted

variable {s rest : List Char}

theorem octet_toDigits (x : UInt8) (hrest : Ends 10 rest) :
    octet (Nat.toDigits 10 x.toNat ++ rest) = some (x, rest) := by
  have hread := number_toDigits (by decide) legible_ten x.toNat_lt hrest
  have hlength : (Nat.toDigits 10 x.toNat ++ rest).length - rest.length =
      (Nat.toDigits 10 x.toNat).length := by simp
  have hshort : (Nat.toDigits 10 x.toNat).length ≤ 3 := by
    have hlt := x.toNat_lt
    exact (Nat.length_toDigits_le_iff (by decide) (by decide)).2 (by omega)
  have hzero : (Nat.toDigits 10 x.toNat ++ rest).head? = some '0' →
      (Nat.toDigits 10 x.toNat).length = 1 := by
    rw [List.head?_append_of_ne_nil _ Nat.toDigits_ne_nil]
    intro hhead
    by_cases hx : x.toNat = 0
    · rw [hx]
      rfl
    · exact absurd hhead (Json.head?_toDigits_ne_zero hx)
  have hgood : ¬ (3 < (Nat.toDigits 10 x.toNat).length ∨
      (Nat.toDigits 10 x.toNat ++ rest).head? = some '0' ∧
        1 < (Nat.toDigits 10 x.toNat).length) := by
    rintro (hlong | ⟨hhead, hlong⟩)
    · omega
    · exact absurd (hzero hhead) (Nat.ne_of_gt hlong)
  rw [octet, hread]
  dsimp only [Option.bind_eq_bind, Option.bind_some]
  rw [hlength, if_neg hgood, UInt8.ofNat_toNat]

theorem octet_eq_none (h : Ends 10 s) : octet s = none := by
  rw [octet, number_eq_none h]
  rfl

theorem suffix_of_octet {x : UInt8} (h : octet s = some (x, rest)) : rest <:+ s := by
  unfold octet at h
  obtain ⟨⟨n, r⟩, hread, h⟩ := Option.bind_eq_some_iff.1 h
  dsimp only at h
  split_ifs at h
  obtain ⟨-, rfl⟩ := Prod.mk.inj (Option.some.inj h)
  exact suffix_of_number hread

theorem toList_dotted (a b c d : UInt8) : (dotted a b c d).toList =
    Nat.toDigits 10 a.toNat ++ '.' :: (Nat.toDigits 10 b.toNat ++ '.' ::
      (Nat.toDigits 10 c.toNat ++ '.' :: Nat.toDigits 10 d.toNat)) := by
  simp [dotted]

theorem readV4_dotted (a b c d : UInt8) (hrest : Ends 10 rest) :
    readV4 ((dotted a b c d).toList ++ rest) = some ((a, b, c, d), rest) := by
  have hdot (r : List Char) : Ends 10 ('.' :: r) := ends_cons (by decide)
  simp only [toList_dotted, List.append_assoc, List.cons_append, readV4, octet_toDigits _ (hdot _),
    octet_toDigits _ hrest, char_self, Option.bind_eq_bind, Option.bind_some, Option.pure_def]

theorem readV4_of_ends (h : Ends 10 s) : readV4 s = none := by
  rw [readV4, octet_eq_none h]
  rfl

/-- What has no dot in it is no address of version 4. -/
theorem readV4_of_not_mem (h : '.' ∉ s) : readV4 s = none := by
  unfold readV4
  cases hread : octet s with
  | none => rfl
  | some found =>
    obtain ⟨x, r⟩ := found
    have hdot : char '.' r = none :=
      char_eq_none fun hhead => h ((suffix_of_octet hread).subset (List.mem_of_mem_head? hhead))
    simp only [Option.bind_eq_bind, Option.bind_some, hdot, Option.bind_none]

end Dotted

/-! ## Groups -/

section Groups

variable {s rest : List Char}

theorem group_toDigits (g : UInt16) (hrest : Ends 16 rest) :
    group (Nat.toDigits 16 g.toNat ++ rest) = some (g, rest) := by
  have hread := number_toDigits (by decide) legible_sixteen g.toNat_lt hrest
  have hlength : (Nat.toDigits 16 g.toNat ++ rest).length - rest.length =
      (Nat.toDigits 16 g.toNat).length := by simp
  have hshort : (Nat.toDigits 16 g.toNat).length ≤ 4 :=
    (Nat.length_toDigits_le_iff (by decide) (by decide)).2 g.toNat_lt
  rw [group, hread]
  dsimp only [Option.bind_eq_bind, Option.bind_some]
  rw [hlength, if_neg (Nat.not_lt.2 hshort), UInt16.ofNat_toNat]

theorem group_eq_none (h : Ends 16 s) : group s = none := by
  rw [group, number_eq_none h]
  rfl

/-- Groups, each behind a colon. -/
def colons (gs : List UInt16) : List Char := gs.flatMap fun g => ':' :: Nat.toDigits 16 g.toNat

theorem toList_joined_cons (g : UInt16) (gs : List UInt16) :
    (Ip6.joined (g :: gs)).toList = Nat.toDigits 16 g.toNat ++ colons gs := by
  induction gs generalizing g with
  | nil => simp [Ip6.joined, colons]
  | cons h gs ih =>
    have hnext := ih h
    simp only [Ip6.joined, List.map_cons, String.intercalate_cons_cons, String.toList_append,
      String.toList_ofList] at hnext ⊢
    rw [hnext, colons, colons, List.flatMap_cons]
    simp

/-- A character that no group is written with. -/
theorem not_mem_colons {c : Char} (hdigit : digit? 16 c = none) (hcolon : c ≠ ':') (gs : List UInt16) :
    c ∉ colons gs := by
  intro hc
  obtain ⟨g, -, hc⟩ := List.mem_flatMap.1 hc
  rcases List.mem_cons.1 hc with hc | hc
  · exact hcolon hc
  · exact not_mem_toDigits (by decide) legible_sixteen hdigit hc

theorem not_mem_joined {c : Char} (hdigit : digit? 16 c = none) (hcolon : c ≠ ':') (gs : List UInt16) :
    c ∉ (Ip6.joined gs).toList := by
  cases gs with
  | nil => exact List.not_mem_nil
  | cons g gs =>
    intro hc
    refine not_mem_colons hdigit hcolon (g :: gs) ?_
    rw [toList_joined_cons] at hc
    exact List.mem_cons_of_mem _ hc

/-- What follows groups does not go on with them. -/
structure Stops (rest : List Char) : Prop where
  ends : Ends 16 rest
  colon : ∀ r, rest = ':' :: r → Ends 16 r
  noDot : '.' ∉ rest

theorem readGroups_none (first : Bool) {room : Nat} {here : Option (List Char)}
    (hhere : (if first then some s else char ':' s) = here) (hdotted : here.bind readV4 = none)
    (hgroup : here.bind group = none) : readGroups first room s = { values := [], rest := s } := by
  cases room with
  | zero => rfl
  | succ room =>
    rw [readGroups, hhere, hdotted, hgroup]
    simp

/-- A colon is no start of a group. -/
theorem readGroups_colon (room : Nat) (s : List Char) :
    readGroups true room (':' :: s) = { values := [], rest := ':' :: s } :=
  readGroups_none true rfl (readV4_of_ends (ends_cons (by decide)))
    (group_eq_none (ends_cons (by decide)))

theorem readGroups_group (first : Bool) {room : Nat} {here : List Char} {g : UInt16}
    (hhere : (if first then some s else char ':' s) = some here) (hdotted : readV4 here = none)
    (hgroup : group here = some (g, rest)) : readGroups first (room + 1) s =
      { readGroups false room rest with values := g :: (readGroups false room rest).values } := by
  rw [readGroups, hhere, Option.bind_some, Option.bind_some, hdotted, hgroup]
  simp

/-- Where an address of version 4 can be read, it is the last of the groups. -/
theorem readGroups_dotted (a b c d : UInt8) (room : Nat) (hrest : Ends 10 rest) :
    readGroups false (room + 2) (':' :: ((dotted a b c d).toList ++ rest)) =
      { values := [groupOf a b, groupOf c d], dotted := true, rest } := by
  rw [readGroups, if_neg Bool.false_ne_true, char_self, if_neg (Nat.succ_ne_zero room),
    Option.bind_some, readV4_dotted a b c d hrest]

theorem Stops.noGroup (h : Stops rest) : (char ':' rest).bind group = none := by
  by_cases hcolon : rest.head? = some ':'
  · obtain ⟨r, rfl⟩ := List.head?_eq_some_iff.1 hcolon
    exact group_eq_none (h.colon r rfl)
  · rw [char_eq_none hcolon]
    rfl

theorem Stops.noDotted (h : Stops rest) : (char ':' rest).bind readV4 = none := by
  by_cases hcolon : rest.head? = some ':'
  · obtain ⟨r, rfl⟩ := List.head?_eq_some_iff.1 hcolon
    exact readV4_of_not_mem fun hdot => h.noDot (List.mem_cons_of_mem _ hdot)
  · rw [char_eq_none hcolon]
    rfl

theorem ends_colons (gs : List UInt16) (h : Ends 16 rest) : Ends 16 (colons gs ++ rest) := by
  cases gs with
  | nil => exact h
  | cons g gs => exact ends_cons (by decide)

theorem readV4_colons (g : UInt16) (gs : List UInt16) (h : '.' ∉ rest) :
    readV4 (Nat.toDigits 16 g.toNat ++ (colons gs ++ rest)) = none := by
  apply readV4_of_not_mem
  rw [← List.append_assoc, ← toList_joined_cons, List.mem_append]
  exact not_or.2 ⟨not_mem_joined (by decide) (by decide) _, h⟩

theorem readGroups_colons (hrest : Stops rest) (gs : List UInt16) {room : Nat}
    (hroom : gs.length ≤ room) :
    readGroups false room (colons gs ++ rest) = { values := gs, rest } := by
  -- each group is read with one less of the room, and what follows ends the last
  induction gs generalizing room with
  | nil => exact readGroups_none false rfl hrest.noDotted hrest.noGroup
  | cons g gs ih =>
    obtain ⟨room, rfl⟩ := Nat.exists_eq_add_of_lt hroom
    have hhere : char ':' (colons (g :: gs) ++ rest) =
        some (Nat.toDigits 16 g.toNat ++ (colons gs ++ rest)) := by
      simp [colons, char]
    have hnext := ih (Nat.le_add_right gs.length room)
    rw [readGroups_group (s := colons (g :: gs) ++ rest) false hhere (readV4_colons g gs hrest.noDot)
      (group_toDigits g (ends_colons gs hrest.ends)), hnext]

theorem readGroups_joined (hrest : Stops rest) (gs : List UInt16) {room : Nat}
    (hroom : gs.length ≤ room) :
    readGroups true room ((Ip6.joined gs).toList ++ rest) = { values := gs, rest } := by
  cases gs with
  | nil => exact readGroups_none true rfl (readV4_of_not_mem hrest.noDot) (group_eq_none hrest.ends)
  | cons g gs =>
    obtain ⟨room, rfl⟩ := Nat.exists_eq_add_of_lt hroom
    rw [toList_joined_cons, List.append_assoc,
      readGroups_group true rfl (readV4_colons g gs hrest.noDot)
        (group_toDigits g (ends_colons gs hrest.ends)),
      readGroups_colons hrest gs (Nat.le_add_right _ _)]

end Groups

/-! ## Version 6 -/

/-- The forms of a text for groups. -/
inductive Written : List UInt16 → List Char → Prop where
  /-- The last two groups in the form of an address of version 4. -/
  | mapped (a b c d : UInt8) :
      Written [0, 0, 0, 0, 0, 0xFFFF, groupOf a b, groupOf c d]
        (':' :: ':' :: (Nat.toDigits 16 0xFFFF ++ ':' :: (dotted a b c d).toList))
  /-- A double colon for one or more groups that are zero. -/
  | shortened (front back : List UInt16) (zeros : Nat) :
      Written (front ++ List.replicate (zeros + 1) 0 ++ back)
        ((Ip6.joined front).toList ++ ':' :: ':' :: (Ip6.joined back).toList)
  | full (gs : List UInt16) : Written gs (Ip6.joined gs).toList

/-- A text for groups starts with a colon or has nothing in it but digits and colons. -/
theorem Written.colon_or_plain {gs : List UInt16} {s : List Char} (h : Written gs s) :
    (∃ r, s = ':' :: r) ∨ ∀ c, digit? 16 c = none → c ≠ ':' → c ∉ s := by
  cases h with
  | mapped a b c d => exact .inl ⟨_, rfl⟩
  | shortened front back zeros =>
    refine .inr fun c hdigit hcolon => ?_
    simp [not_mem_joined hdigit hcolon front, not_mem_joined hdigit hcolon back, hcolon]
  | full => exact .inr fun c hdigit hcolon => not_mem_joined hdigit hcolon gs

theorem ofGroups?_groups (g : Ip6) : ofGroups? g.groups = some g := dif_pos g.length_groups

/-- What follows an address of version 6: a zone or the end of the brackets. -/
structure Closes (rest : List Char) : Prop where
  head : rest.head? = some '%' ∨ rest.head? = some ']'
  noDot : '.' ∉ rest

section Version6

variable {rest : List Char}

theorem Closes.ends {base : Nat} (h : Closes rest) (hzone : digit? base '%' = none)
    (hend : digit? base ']' = none) : Ends base rest := by
  intro c hc
  rcases h.head with hhead | hhead
  · exact Option.mem_unique hc hhead ▸ hzone
  · exact Option.mem_unique hc hhead ▸ hend

theorem Closes.stops (h : Closes rest) : Stops rest where
  ends := h.ends (by decide) (by decide)
  colon := by
    rintro r rfl
    rcases h.head with hhead | hhead
    · exact absurd hhead (by simp)
    · exact absurd hhead (by simp)
  noDot := h.noDot

theorem stops_double (gs : List UInt16) (hrest : Stops rest) :
    Stops (':' :: ':' :: ((Ip6.joined gs).toList ++ rest)) where
  ends := ends_cons (by decide)
  colon := by
    intro r hr
    obtain rfl := (List.cons.inj hr).2
    exact ends_cons (by decide)
  noDot := by
    have hgroups := not_mem_joined (c := '.') (by decide) (by decide) gs
    simp [hgroups, hrest.noDot]

/-- The groups on both sides of a double colon leave those that it stands for. -/
theorem readV6_double (g : Ip6) {s r : List Char} {front back : List UInt16} {zeros : Nat} {d : Bool}
    (hg : g.groups = front ++ List.replicate (zeros + 1) 0 ++ back)
    (hfront : readGroups true 8 s = { values := front, rest := ':' :: ':' :: r })
    (hback : readGroups true (7 - front.length) r = { values := back, dotted := d, rest }) :
    readV6 s = some (g, rest) := by
  have hlength := g.length_groups
  rw [hg, List.length_append, List.length_append, List.length_replicate] at hlength
  have hzeros : 8 - front.length - back.length = zeros + 1 := by omega
  have hshort : front.length ≠ 8 := by omega
  rw [readV6, hfront]
  dsimp only
  rw [if_neg hshort, if_neg Bool.false_ne_true, char_self]
  dsimp only [Option.bind_eq_bind, Option.bind_some]
  rw [char_self, Option.bind_some, hback]
  dsimp only
  rw [hzeros, ← hg, ofGroups?_groups]
  rfl

/-- Every form of a text for an address is read. -/
theorem readV6_of_written (hrest : Closes rest) (g : Ip6) {s : List Char} (hs : Written g.groups s) :
    readV6 (s ++ rest) = some (g, rest) := by
  have hlength := g.length_groups
  generalize hgs : g.groups = gs at hs hlength
  cases hs with
  | mapped a b c d =>
    -- nothing stands before the double colon, and `ffff` is no start of an address of version 4
    have hzeros : g.groups = [] ++ List.replicate 5 0 ++ [0xFFFF, groupOf a b, groupOf c d] := hgs
    have hmark : Ends 10 (Nat.toDigits 16 0xFFFF ++ ':' :: ((dotted a b c d).toList ++ rest)) :=
      ends_cons (by decide)
    have hback : readGroups true 7
        (Nat.toDigits 16 0xFFFF ++ ':' :: ((dotted a b c d).toList ++ rest)) =
        { values := [0xFFFF, groupOf a b, groupOf c d], dotted := true, rest } := by
      rw [readGroups_group true rfl (readV4_of_ends hmark)
          (group_toDigits 0xFFFF (ends_cons (by decide))),
        readGroups_dotted a b c d 4 (hrest.ends (by decide) (by decide))]
    have htext := readV6_double g hzeros (readGroups_colon 8 _) hback
    simpa only [List.append_assoc, List.cons_append] using htext
  | shortened front back zeros =>
    rw [List.length_append, List.length_append, List.length_replicate] at hlength
    have hdouble := stops_double back hrest.stops
    have hfront := readGroups_joined hdouble front (by omega : front.length ≤ 8)
    have hback := readGroups_joined hrest.stops back (by omega : back.length ≤ 7 - front.length)
    rw [List.append_assoc]
    exact readV6_double g hgs hfront hback
  | full =>
    have hfront := readGroups_joined hrest.stops gs (Nat.le_of_eq hlength)
    rw [readV6, hfront]
    dsimp only
    rw [if_pos hlength, ← hgs, ofGroups?_groups]
    rfl

end Version6

/-! ## What is written -/

/-- The groups of a run are zero. -/
def IsRun (gs : List UInt16) (r : Ip6.Run) : Prop :=
  ∀ i, r.start ≤ i → i < r.start + r.length → gs[i]? = some 0

theorem isRun_empty (gs : List UInt16) (i : Nat) : IsRun gs ⟨i, 0⟩ :=
  fun _ hlow hhigh => absurd hhigh (Nat.not_lt.2 hlow)

/-- The run that a zero group at the index `i` goes on with, or starts. -/
def grown (current : Ip6.Run) (i : Nat) : Ip6.Run :=
  if current.length = 0 then ⟨i, 1⟩ else { current with length := current.length + 1 }

section Runs

variable {before gs : List UInt16} {best current : Ip6.Run}

/-- A run that reaches up to a zero group goes on with it. -/
theorem IsRun.extend (h : IsRun (before ++ 0 :: gs) current)
    (hend : current.start + current.length = before.length) :
    IsRun (before ++ 0 :: gs) { current with length := current.length + 1 } := by
  intro i hlow hhigh
  by_cases hlast : i = before.length
  · simp [hlast]
  · exact h i hlow (by simp at hhigh; omega)

theorem isRun_grown (h : IsRun (before ++ 0 :: gs) current)
    (hend : current.length = 0 ∨ current.start + current.length = before.length) :
    IsRun (before ++ 0 :: gs) (grown current before.length) ∧
      (grown current before.length).start + (grown current before.length).length =
        before.length + 1 := by
  unfold grown
  split_ifs with hzero
  · exact ⟨(isRun_empty _ before.length).extend rfl, rfl⟩
  · have hreach := hend.resolve_left hzero
    exact ⟨h.extend hreach, congrArg (· + 1) hreach⟩

theorem longestRun_zero (best current : Ip6.Run) (i : Nat) (gs : List UInt16) :
    Ip6.longestRun best current i (0 :: gs) =
      Ip6.longestRun (if best.length < (grown current i).length then grown current i else best)
        (grown current i) (i + 1) gs := rfl

end Runs

/-- The longest run that is found is one, as are the best and the current one on the way. -/
theorem isRun_longestRun (before gs : List UInt16) {best current : Ip6.Run}
    (hbest : IsRun (before ++ gs) best) (hcurrent : IsRun (before ++ gs) current)
    (hend : current.length = 0 ∨ current.start + current.length = before.length) :
    IsRun (before ++ gs) (Ip6.longestRun best current before.length gs) := by
  -- the groups that were passed stay in front, so that a run keeps its place
  induction gs generalizing before best current with
  | nil => exact hbest
  | cons g gs ih =>
    have hsplit : before ++ g :: gs = (before ++ [g]) ++ gs := by simp
    have hlength : (before ++ [g]).length = before.length + 1 := by simp
    by_cases hg : g = 0
    · subst hg
      obtain ⟨hgrown, hreach⟩ := isRun_grown hcurrent hend
      have hlonger : IsRun (before ++ 0 :: gs)
          (if best.length < (grown current before.length).length then grown current before.length
            else best) := by
        split_ifs
        · exact hgrown
        · exact hbest
      rw [hsplit] at hlonger hgrown
      have hrest := ih (before ++ [0]) hlonger hgrown (.inr (hreach.trans hlength.symm))
      rwa [hlength, ← longestRun_zero, ← hsplit] at hrest
    · rw [hsplit] at hbest ⊢
      have hrest := ih (before ++ [g]) hbest (isRun_empty _ 0) (.inl rfl)
      rwa [Ip6.longestRun, if_neg hg, ← hlength]

theorem split_of_isRun {gs : List UInt16} {r : Ip6.Run} (h : IsRun gs r) :
    gs = gs.take r.start ++ List.replicate r.length 0 ++ gs.drop (r.start + r.length) := by
  have hrun : (gs.drop r.start).take r.length = List.replicate r.length 0 := by
    apply List.ext_getElem?
    intro i
    rw [List.getElem?_take, List.getElem?_drop, List.getElem?_replicate]
    split_ifs with hi
    · exact h _ (Nat.le_add_right _ _) (Nat.add_lt_add_left hi _)
    · rfl
  rw [← hrun, ← List.drop_drop, List.append_assoc, List.take_append_drop, List.take_append_drop]

theorem groupOf_bytesOf (g : UInt16) : groupOf (bytesOf g).1 (bytesOf g).2 = g := by
  have hlt := g.toNat_lt
  have hhigh : g.toNat / 256 % 256 = g.toNat / 256 := Nat.mod_eq_of_lt (by omega)
  rw [groupOf, bytesOf, UInt8.toNat_ofNat', UInt8.toNat_ofNat', Nat.mod_mod, hhigh,
    Nat.div_add_mod', UInt16.ofNat_toNat]

/-- What is written for groups is one of the forms. -/
theorem written_groupsText (gs : List UInt16) : Written gs (groupsText gs).toList := by
  unfold groupsText
  split
  · next x y =>
    have hmapped := Written.mapped (bytesOf x).1 (bytesOf x).2 (bytesOf y).1 (bytesOf y).2
    have hmark : Nat.toDigits 16 0xFFFF = ['f', 'f', 'f', 'f'] := by decide
    rw [groupOf_bytesOf, groupOf_bytesOf, hmark] at hmapped
    simpa using hmapped
  · have hrun : IsRun gs (Ip6.longestRun ⟨0, 0⟩ ⟨0, 0⟩ 0 gs) :=
      isRun_longestRun [] gs (isRun_empty gs 0) (isRun_empty gs 0) (.inl rfl)
    dsimp only
    generalize Ip6.longestRun ⟨0, 0⟩ ⟨0, 0⟩ 0 gs = run at hrun ⊢
    split_ifs with hlong
    · have hsplit := split_of_isRun hrun
      obtain ⟨zeros, hzeros⟩ := Nat.exists_eq_add_of_lt hlong
      have hshort := Written.shortened (gs.take run.start) (gs.drop (run.start + run.length)) (1 + zeros)
      rw [← hzeros, ← hsplit] at hshort
      simpa using hshort
    · exact .full gs

end Gateway.IpAddress

namespace Gateway.SocketAddress

open IpAddress

theorem readPort_toDigits (port : UInt16) :
    readPort (':' :: Nat.toDigits 10 port.toNat) = some (port, []) := by
  have hread := number_toDigits (by decide) legible_ten port.toNat_lt (ends_nil : Ends 10 [])
  rw [List.append_nil] at hread
  rw [readPort, char_self]
  dsimp only [Option.bind_eq_bind, Option.bind_some]
  rw [hread]
  simp

/-- The zone of an address as it is written, nothing for zero. -/
def zoneText (zone : UInt32) : List Char :=
  if zone = 0 then [] else '%' :: Nat.toDigits 10 zone.toNat

theorem readZone_zoneText (zone : UInt32) (s : List Char) :
    (readZone (zoneText zone ++ ']' :: s)).getD (0, zoneText zone ++ ']' :: s) = (zone, ']' :: s) := by
  unfold zoneText
  split_ifs with hzone
  · have hnone : readZone ([] ++ ']' :: s) = none := rfl
    rw [hnone, hzone]
    rfl
  · have hread := number_toDigits (by decide) legible_ten zone.toNat_lt
      (ends_cons (by decide) : Ends 10 (']' :: s))
    rw [readZone, List.cons_append, char_self]
    dsimp only [Option.bind_eq_bind, Option.bind_some]
    rw [hread]
    simp

theorem closes_zoneText (zone : UInt32) {s : List Char} (hs : '.' ∉ s) :
    Closes (zoneText zone ++ ']' :: s) where
  head := by
    unfold zoneText
    split_ifs
    · exact .inr rfl
    · exact .inl rfl
  noDot := by
    have hdigits : '.' ∉ Nat.toDigits 10 zone.toNat :=
      not_mem_toDigits (by decide) legible_ten (by decide)
    unfold zoneText
    split_ifs
    · simpa using hs
    · simpa [hdigits] using hs

theorem ofText?_of_readV4 {s : String} {a : SocketAddress} (h : readV4 s.toList = some (a, [])) :
    ofText? s = some a := by
  rw [ofText?, h]
  rfl

theorem ofText?_of_readV4_eq_none {s : String} (h : IpAddress.readV4 s.toList = none) :
    ofText? s = match readV6 s.toList with
      | some (a, []) => some a
      | _ => none := by
  have hnone : readV4 s.toList = none := by
    rw [readV4, h]
    rfl
  rw [ofText?, hnone]
  rfl

section Texts

variable {s : String} {gs : List UInt16} {t : List Char} (port : UInt16)

theorem ofText?_dotted (a b c d : UInt8)
    (hs : s.toList = (dotted a b c d).toList ++ ':' :: Nat.toDigits 10 port.toNat) :
    ofText? s = some { ip := .v4 a b c d, port } := by
  apply ofText?_of_readV4
  rw [hs, readV4, readV4_dotted a b c d (ends_cons (by decide))]
  dsimp only [Option.bind_eq_bind, Option.bind_some]
  rw [readPort_toDigits]
  rfl

/-- An address of version 6 is read in brackets, whichever form its groups are written in. -/
theorem ofText?_brackets (g : Ip6) (ht : Written g.groups t) (zone : UInt32)
    (hs : s.toList = '[' :: (t ++ (zoneText zone ++ ']' :: ':' :: Nat.toDigits 10 port.toNat))) :
    ofText? s = some { ip := .v6 g, zone, port } := by
  have hport : '.' ∉ Nat.toDigits 10 port.toNat :=
    not_mem_toDigits (by decide) legible_ten (by decide)
  have hcloses : Closes (zoneText zone ++ ']' :: ':' :: Nat.toDigits 10 port.toNat) :=
    closes_zoneText zone (by simp [hport])
  have hread : readV6 s.toList = some ({ ip := .v6 g, zone, port }, []) := by
    rw [hs, readV6, char_self]
    dsimp only [Option.bind_eq_bind, Option.bind_some]
    rw [readV6_of_written hcloses g ht]
    dsimp only [Option.bind_some]
    rw [readZone_zoneText]
    dsimp only
    rw [char_self, Option.bind_some, readPort_toDigits]
    rfl
  rw [ofText?_of_readV4_eq_none (readV4_of_ends (hs ▸ ends_cons (by decide))), hread]

/-- Without brackets an address of version 6 is not told from its port, and not read. -/
theorem ofText?_bare (ht : Written gs t)
    (hs : s.toList = t ++ ':' :: Nat.toDigits 10 port.toNat) : ofText? s = none := by
  have hunread : IpAddress.readV4 s.toList = none ∧ s.toList.head? ≠ some '[' := by
    rw [hs]
    rcases ht.colon_or_plain with ⟨r, rfl⟩ | hplain
    · exact ⟨readV4_of_ends (ends_cons (by decide)), by simp⟩
    · have hnot {c : Char} (hc : digit? 16 c = none) (hc' : digit? 10 c = none) (hcolon : c ≠ ':') :
          c ∉ t ++ ':' :: Nat.toDigits 10 port.toNat := by
        have hport : c ∉ Nat.toDigits 10 port.toNat :=
          not_mem_toDigits (by decide) legible_ten hc'
        simp [hplain c hc hcolon, hcolon, hport]
      exact ⟨readV4_of_not_mem (hnot (by decide) (by decide) (by decide)),
        fun hhead => hnot (by decide) (by decide) (by decide) (List.mem_of_mem_head? hhead)⟩
  have hnone : readV6 s.toList = none := by
    rw [readV6, char_eq_none hunread.2]
    rfl
  rw [ofText?_of_readV4_eq_none hunread.1, hnone]

end Texts

/-- Every socket address is read back from its text. Only addresses of version 6 have zones. -/
theorem ofText?_text (a : SocketAddress) (hzone : ∀ w x y z, a.ip = .v4 w x y z → a.zone = 0) :
    ofText? a.text = some a := by
  obtain ⟨ip, zone, port⟩ := a
  cases ip with
  | v4 w x y z => 
    obtain rfl : zone = 0 := hzone w x y z rfl
    exact ofText?_dotted port w x y z (by simp [text, IpAddress.text])
  | v6 g =>
    apply ofText?_brackets port g (written_groupsText g.groups) zone
    unfold text zoneText
    split_ifs <;> simp [IpAddress.text]

end Gateway.SocketAddress
