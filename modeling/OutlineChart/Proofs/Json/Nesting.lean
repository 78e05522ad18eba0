import OutlineChart.Proofs.Json.Strings

/-! # Nesting of JSON documents

How deep a value nests is all that the room for its document decides: with room enough the value is
read, and with less its reading ends at the first array or object that there is no room for.  A
document that is no document can end so too, but only if it opens more than there is room for.  The
fuel of the readers never runs out.
-/

namespace OutlineChart

namespace Json

/-! ## Depth -/

mutual

/-- How many arrays and objects stand in one another. -/
def Value.depth : Value → Nat
  | .array vs => depthOfItems vs + 1
  | .object fs => depthOfFields fs + 1
  | _ => 0

def depthOfItems : List Value → Nat
  | [] => 0
  | v :: vs => max v.depth (depthOfItems vs)

def depthOfFields : List (Text × Value) → Nat
  | [] => 0
  | (_, v) :: fs => max v.depth (depthOfFields fs)

end

/-- What nests no deeper than there is room for is read; anything else is refused for its depth. -/
structure Fits {α : Type} (room depth : Nat) (r : Except Fault α) (a : α) : Prop where
  of_le : depth ≤ room → r = .ok a
  of_lt : room < depth → ∃ nest, r = .error (.tooDeep nest)

namespace Fits

variable {α β : Type} {room depth depth' : Nat} {a : α} {b : β} {x : Except Fault α}

theorem ok (room : Nat) (a : α) : Fits room 0 (.ok a) a :=
  ⟨fun _ => rfl, fun h => absurd h (Nat.not_lt_zero _)⟩

theorem map (h : Fits room depth x a) (f : α → β) : Fits room depth (x.map f) (f a) where
  of_le hle := by
    rw [h.of_le hle]
    rfl
  of_lt hlt := by
    obtain ⟨nest, hnest⟩ := h.of_lt hlt
    rw [hnest]
    exact ⟨nest, rfl⟩

theorem bind {f : α → Except Fault β} (h : Fits room depth x a) (hf : Fits room depth' (f a) b) :
    Fits room (max depth depth') (x >>= f) b where
  of_le hle := by
    obtain ⟨hfirst, hsecond⟩ := Nat.max_le.1 hle
    rw [h.of_le hfirst]
    exact hf.of_le hsecond
  of_lt hlt := by
    by_cases hfirst : room < depth
    · obtain ⟨nest, hnest⟩ := h.of_lt hfirst
      rw [hnest]
      exact ⟨nest, rfl⟩
    · rw [h.of_le (Nat.not_lt.1 hfirst)]
      exact hf.of_lt (by omega)

/-- An array or an object takes one level for itself. -/
theorem nest {nest : Nest} {x : Nat → Except Fault α} (h : ∀ room, Fits room depth (x room) a)
    (room : Nat) :
    Fits room (depth + 1)
      (match room with
      | 0 => .error (.tooDeep nest)
      | room + 1 => x room) a := by
  cases room with
  | zero => exact ⟨fun hle => absurd hle (Nat.not_succ_le_zero _), fun _ => ⟨nest, rfl⟩⟩
  | succ room =>
      exact ⟨fun hle => (h room).of_le (Nat.le_of_succ_le_succ hle),
        fun hlt => (h room).of_lt (Nat.lt_of_succ_lt_succ hlt)⟩

end Fits

/-! ## Readers with other room -/

variable {fuel room : Nat} {cs rest : List Char}

/-- Where the readers succeed with some room, the depth of what they give is the room they need. -/
structure Scales (fuel : Nat) : Prop where
  value : ∀ ⦃big cs v rest⦄, value fuel big cs = .ok (v, rest) →
    ∀ room, Fits room v.depth (Json.value fuel room cs) (v, rest)
  items : ∀ ⦃big cs vs rest⦄, items fuel big cs = .ok (vs, rest) →
    ∀ room, Fits room (depthOfItems vs) (Json.items fuel room cs) (vs, rest)
  fields : ∀ ⦃big cs fs rest⦄, fields fuel big cs = .ok (fs, rest) →
    ∀ room, Fits room (depthOfFields fs) (Json.fields fuel room cs) (fs, rest)

theorem word?_depth {v : Value} (h : word? cs = some (v, rest)) : v.depth = 0 := by
  obtain ⟨⟨word, value⟩, hmem, hafter⟩ := List.exists_of_findSome?_eq_some h
  obtain ⟨rest', -, heq⟩ := Option.map_eq_some_iff.1 hafter
  cases heq
  simp only [words, List.mem_cons, Prod.mk.injEq, List.not_mem_nil, or_false] at hmem
  rcases hmem with ⟨-, rfl⟩ | ⟨-, rfl⟩ | ⟨-, rfl⟩ | ⟨-, rfl⟩ | ⟨-, rfl⟩ | ⟨-, rfl⟩ <;> rfl

theorem number?_depth {v : Value} (h : number? cs = some (v, rest)) : v.depth = 0 := by
  obtain ⟨_, -, heq⟩ := Option.map_eq_some_iff.1 h
  cases heq
  rfl

theorem Scales.value_succ (h : Scales fuel) {big : Nat} {v : Value}
    (hread : Json.value (fuel + 1) big cs = .ok (v, rest)) (room : Nat) :
    Fits room v.depth (Json.value (fuel + 1) room cs) (v, rest) := by
  unfold Json.value at hread ⊢
  split at hread
  · obtain ⟨⟨t, rest'⟩, hliteral, heq⟩ := map_eq_ok_iff.1 hread
    cases heq
    dsimp only
    rw [hliteral]
    exact .ok room _
  · split at hread
    · cases hread
    · split at hread
      · cases hread
        exact .nest (.ok · _) room
      · obtain ⟨⟨vs, rest'⟩, hitems, heq⟩ := map_eq_ok_iff.1 hread
        cases heq
        exact .nest (fun room => (h.items hitems room).map _) room
  · split at hread
    · cases hread
    · split at hread
      · cases hread
        exact .nest (.ok · _) room
      · obtain ⟨⟨fs, rest'⟩, hfields, heq⟩ := map_eq_ok_iff.1 hread
        cases heq
        exact .nest (fun room => (h.fields hfields room).map _) room
  · -- neither words nor numbers hold other values
    have hdepth : v.depth = 0 := by
      rcases Option.or_eq_some_iff.1 (orInvalid_eq_ok_iff.1 hread) with hword | ⟨-, hnumber⟩
      · exact word?_depth hword
      · exact number?_depth hnumber
    rw [hread, hdepth]
    exact .ok room _

theorem Scales.items_succ (h : Scales fuel) {big : Nat} {vs : List Value}
    (hread : Json.items (fuel + 1) big cs = .ok (vs, rest)) (room : Nat) :
    Fits room (depthOfItems vs) (Json.items (fuel + 1) room cs) (vs, rest) := by
  unfold Json.items at hread ⊢
  obtain ⟨⟨v, rest'⟩, hvalue, hread⟩ := bind_eq_ok_iff.1 hread
  dsimp only at hread
  split at hread
  · next hclosed =>
      cases hread
      refine (h.value hvalue room).bind ?_
      dsimp only
      rw [hclosed]
      exact .ok room _
  · next hmore =>
      obtain ⟨⟨vs, rest''⟩, hitems, heq⟩ := bind_eq_ok_iff.1 hread
      cases heq
      refine (h.value hvalue room).bind ?_
      dsimp only
      rw [hmore]
      exact (h.items hitems room).map fun read => (v :: read.1, read.2)
  · cases hread

theorem Scales.fields_succ (h : Scales fuel) {big : Nat} {fs : List (Text × Value)}
    (hread : Json.fields (fuel + 1) big cs = .ok (fs, rest)) (room : Nat) :
    Fits room (depthOfFields fs) (Json.fields (fuel + 1) room cs) (fs, rest) := by
  unfold Json.fields at hread ⊢
  obtain ⟨⟨key, rest'⟩, hkey, hread⟩ := bind_eq_ok_iff.1 hread
  obtain ⟨⟨v, rest''⟩, hvalue, hread⟩ := bind_eq_ok_iff.1 hread
  rw [hkey]
  dsimp only at hread
  split at hread
  · next hclosed =>
      cases hread
      refine (h.value hvalue room).bind ?_
      dsimp only
      rw [hclosed]
      exact .ok room _
  · next hmore =>
      obtain ⟨⟨fs, rest''⟩, hfields, heq⟩ := bind_eq_ok_iff.1 hread
      cases heq
      refine (h.value hvalue room).bind ?_
      dsimp only
      rw [hmore]
      exact (h.fields hfields room).map fun read => ((key, v) :: read.1, read.2)
  · cases hread

theorem scales (fuel : Nat) : Scales fuel := by
  induction fuel with
  | zero =>
      constructor
      all_goals
        intro big cs a rest h
        cases h
  | succ fuel ih =>
      exact ⟨fun _ _ _ _ => ih.value_succ, fun _ _ _ _ => ih.items_succ,
        fun _ _ _ _ => ih.fields_succ⟩

/-- A document whose value is known for some room needs room for the depth of that value. -/
theorem fits_parse {big : Nat} {v : Value} (h : parse big cs = .ok v) (room : Nat) :
    Fits room v.depth (parse room cs) v := by
  obtain ⟨⟨v', rest⟩, hvalue, hend⟩ := bind_eq_ok_iff.1 h
  obtain rfl : v' = v := by
    dsimp only at hend
    split at hend
    · cases hend
      rfl
    · cases hend
  have hfits : Fits room (max v'.depth 0) (parse room cs) v' := by
    refine ((scales _).value hvalue room).bind ?_
    rw [hend]
    exact .ok room _
  rwa [Nat.max_zero] at hfits

/-! ## What the readers leave -/

theorem skipBlanks_suffix (cs : List Char) : skipBlanks cs <:+ cs := List.dropWhile_suffix _

theorem literal?_suffix {t : Text} (h : literal? cs = some (t, rest)) : rest <:+ cs := by
  obtain ⟨body, rfl, -⟩ := literal?_eq_some_iff.1 h
  exact ⟨body ++ ['"'], by simp⟩

theorem key?_suffix {key : Text} (h : key? cs = some (key, rest)) : rest <:+ cs := by
  unfold key? at h
  split at h
  · obtain ⟨⟨t, rest'⟩, hliteral, h⟩ := Option.bind_eq_some_iff.1 h
    dsimp only at h
    split at h
    · next hcolon =>
        cases h
        have hbehind := skipBlanks_suffix rest'
        rw [hcolon] at hbehind
        exact (skipBlanks_suffix _).trans <| (List.suffix_cons _ _).trans <|
          hbehind.trans <| (literal?_suffix hliteral).trans (List.suffix_cons _ _)
    · cases h
  · cases h

theorem word?_suffix {v : Value} (h : word? cs = some (v, rest)) : rest <:+ cs := by
  obtain ⟨⟨word, value⟩, -, hafter⟩ := List.exists_of_findSome?_eq_some h
  obtain ⟨rest', hrest, heq⟩ := Option.map_eq_some_iff.1 hafter
  cases heq
  unfold after? at hrest
  split at hrest
  · cases hrest
    exact List.drop_suffix _ _
  · cases hrest

theorem wholePart?_suffix {whole : List Char} (h : wholePart? cs = some (whole, rest)) :
    rest <:+ cs := by
  unfold wholePart? at h
  split at h
  · cases h
    exact List.suffix_cons _ _
  · split at h
    · cases h
      exact (List.dropWhile_suffix _).trans (List.suffix_cons _ _)
    · cases h
  · cases h

theorem fraction_suffix (cs : List Char) : (fraction cs).2 <:+ cs := by
  unfold fraction
  split
  · split
    · exact List.suffix_rfl
    · exact (List.dropWhile_suffix _).trans (List.suffix_cons _ _)
  · exact List.suffix_rfl

theorem exponentSign_suffix (cs : List Char) : (exponentSign cs).2 <:+ cs := by
  unfold exponentSign
  split
  · exact List.suffix_cons _ _
  · exact List.suffix_cons _ _
  · exact List.suffix_rfl

theorem exponent_suffix (cs : List Char) : (exponent cs).2 <:+ cs := by
  unfold exponent
  split
  · next c rest =>
      split
      · dsimp only
        split
        · exact List.suffix_rfl
        · exact (List.dropWhile_suffix _).trans <|
            (exponentSign_suffix rest).trans (List.suffix_cons _ _)
      · exact List.suffix_rfl
  · exact List.suffix_rfl

theorem magnitude?_suffix {negative : Bool} {n : Number}
    (h : magnitude? negative cs = some (n, rest)) : rest <:+ cs := by
  unfold magnitude? at h
  obtain ⟨⟨whole, behind⟩, hwhole, h⟩ := Option.bind_eq_some_iff.1 h
  have hrest : rest = (exponent (fraction behind).2).2 := by
    dsimp only at h
    split at h
    · split at h
      · cases h
        rfl
      · cases h
    · cases h
      rfl
  rw [hrest]
  exact (exponent_suffix _).trans <| (fraction_suffix _).trans (wholePart?_suffix hwhole)

theorem number?_suffix {v : Value} (h : number? cs = some (v, rest)) : rest <:+ cs := by
  obtain ⟨⟨n, rest'⟩, hnumeral, heq⟩ := Option.map_eq_some_iff.1 h
  cases heq
  unfold numeral? at hnumeral
  split at hnumeral
  · exact (magnitude?_suffix hnumeral).trans (List.suffix_cons _ _)
  · exact magnitude?_suffix hnumeral

/-- What the readers leave is the end of what they are given. -/
structure Leaves (fuel : Nat) : Prop where
  value : ∀ ⦃room cs v rest⦄, value fuel room cs = .ok (v, rest) → rest <:+ cs
  items : ∀ ⦃room cs vs rest⦄, items fuel room cs = .ok (vs, rest) → rest <:+ cs
  fields : ∀ ⦃room cs fs rest⦄, fields fuel room cs = .ok (fs, rest) → rest <:+ cs

/-- What stands behind a mark is the end of what the mark was looked for in. -/
theorem suffix_of_skipBlanks {c : Char} (h : skipBlanks cs = c :: rest) : rest <:+ cs := by
  have hskipped := skipBlanks_suffix cs
  rw [h] at hskipped
  exact (List.suffix_cons _ _).trans hskipped

theorem Leaves.value_succ (h : Leaves fuel) {v : Value}
    (hread : Json.value (fuel + 1) room cs = .ok (v, rest)) : rest <:+ cs := by
  unfold Json.value at hread
  split at hread
  · obtain ⟨⟨t, rest'⟩, hliteral, heq⟩ := map_eq_ok_iff.1 hread
    cases heq
    exact (literal?_suffix (orInvalid_eq_ok_iff.1 hliteral)).trans (List.suffix_cons _ _)
  · split at hread
    · cases hread
    · split at hread
      · next hclosed =>
          cases hread
          exact (suffix_of_skipBlanks hclosed).trans (List.suffix_cons _ _)
      · obtain ⟨⟨vs, rest'⟩, hitems, heq⟩ := map_eq_ok_iff.1 hread
        cases heq
        exact (h.items hitems).trans <| (skipBlanks_suffix _).trans (List.suffix_cons _ _)
  · split at hread
    · cases hread
    · split at hread
      · next hclosed =>
          cases hread
          exact (suffix_of_skipBlanks hclosed).trans (List.suffix_cons _ _)
      · obtain ⟨⟨fs, rest'⟩, hfields, heq⟩ := map_eq_ok_iff.1 hread
        cases heq
        exact (h.fields hfields).trans <| (skipBlanks_suffix _).trans (List.suffix_cons _ _)
  · rcases Option.or_eq_some_iff.1 (orInvalid_eq_ok_iff.1 hread) with hword | ⟨-, hnumber⟩
    · exact word?_suffix hword
    · exact number?_suffix hnumber

theorem Leaves.items_succ (h : Leaves fuel) {vs : List Value}
    (hread : Json.items (fuel + 1) room cs = .ok (vs, rest)) : rest <:+ cs := by
  unfold Json.items at hread
  obtain ⟨⟨v, behind⟩, hvalue, hread⟩ := bind_eq_ok_iff.1 hread
  dsimp only at hread
  split at hread
  · next hclosed =>
      cases hread
      exact (suffix_of_skipBlanks hclosed).trans (h.value hvalue)
  · next hmore =>
      obtain ⟨⟨vs, rest'⟩, hitems, heq⟩ := bind_eq_ok_iff.1 hread
      cases heq
      exact (h.items hitems).trans <| (skipBlanks_suffix _).trans <|
        (suffix_of_skipBlanks hmore).trans (h.value hvalue)
  · cases hread

theorem Leaves.fields_succ (h : Leaves fuel) {fs : List (Text × Value)}
    (hread : Json.fields (fuel + 1) room cs = .ok (fs, rest)) : rest <:+ cs := by
  unfold Json.fields at hread
  obtain ⟨⟨key, behindKey⟩, hkey, hread⟩ := bind_eq_ok_iff.1 hread
  obtain ⟨⟨v, behind⟩, hvalue, hread⟩ := bind_eq_ok_iff.1 hread
  have hbehind : behind <:+ cs :=
    (h.value hvalue).trans (key?_suffix (orInvalid_eq_ok_iff.1 hkey))
  dsimp only at hread
  split at hread
  · next hclosed =>
      cases hread
      exact (suffix_of_skipBlanks hclosed).trans hbehind
  · next hmore =>
      obtain ⟨⟨fs, rest'⟩, hfields, heq⟩ := bind_eq_ok_iff.1 hread
      cases heq
      exact (h.fields hfields).trans <| (skipBlanks_suffix _).trans <|
        (suffix_of_skipBlanks hmore).trans hbehind
  · cases hread

theorem leaves (fuel : Nat) : Leaves fuel := by
  induction fuel with
  | zero =>
      constructor
      all_goals
        intro room cs a rest h
        cases h
  | succ fuel ih =>
      exact ⟨fun _ _ _ _ => ih.value_succ, fun _ _ _ _ => ih.items_succ,
        fun _ _ _ _ => ih.fields_succ⟩

/-! ## Fuel -/

/-- With fuel enough for the characters, more of it changes nothing. -/
structure Ample (fuel : Nat) : Prop where
  value : ∀ ⦃room cs⦄, 2 * cs.length + 1 ≤ fuel →
    Json.value (fuel + 1) room cs = Json.value fuel room cs
  items : ∀ ⦃room cs⦄, 2 * cs.length + 2 ≤ fuel →
    Json.items (fuel + 1) room cs = Json.items fuel room cs
  fields : ∀ ⦃room cs⦄, 2 * cs.length + 2 ≤ fuel →
    Json.fields (fuel + 1) room cs = Json.fields fuel room cs

/-- What stands behind an opening mark has enough fuel left. -/
theorem fuel_inside {c : Char} (h : 2 * (c :: rest).length + 1 ≤ fuel + 1) :
    2 * (skipBlanks rest).length + 2 ≤ fuel := by
  have hle := (skipBlanks_suffix rest).length_le
  rw [List.length_cons] at h
  omega

theorem Ample.value_succ (h : Ample fuel) (hfuel : 2 * cs.length + 1 ≤ fuel + 1) :
    Json.value (fuel + 1 + 1) room cs = Json.value (fuel + 1) room cs := by
  rw [Json.value.eq_def (fuel + 1 + 1), Json.value.eq_def (fuel + 1)]
  dsimp only
  split
  · rfl
  · split
    · rfl
    · split
      · rfl
      · rw [h.items (fuel_inside hfuel)]
  · split
    · rfl
    · split
      · rfl
      · rw [h.fields (fuel_inside hfuel)]
  · rfl

/-- A mark takes one character of what a reader has left. -/
theorem length_of_mark {c : Char} {behind : List Char} (hbehind : behind <:+ cs)
    (h : skipBlanks behind = c :: rest) : (skipBlanks rest).length < cs.length := by
  have hskipped := (skipBlanks_suffix behind).length_le
  rw [h, List.length_cons] at hskipped
  exact Nat.lt_of_le_of_lt (skipBlanks_suffix rest).length_le
    (Nat.lt_of_lt_of_le hskipped hbehind.length_le)

theorem Ample.items_succ (h : Ample fuel) (hfuel : 2 * cs.length + 2 ≤ fuel + 1) :
    Json.items (fuel + 1 + 1) room cs = Json.items (fuel + 1) room cs := by
  rw [Json.items.eq_def (fuel + 1 + 1), Json.items.eq_def (fuel + 1)]
  dsimp only
  rw [h.value (by omega)]
  cases hvalue : Json.value fuel room cs with
  | error fault => rfl
  | ok read =>
      dsimp only [bind, Except.bind]
      split
      · rfl
      · next hmore =>
          have hless := length_of_mark ((leaves fuel).value hvalue) hmore
          rw [h.items (by omega)]
      · rfl

theorem Ample.fields_succ (h : Ample fuel) (hfuel : 2 * cs.length + 2 ≤ fuel + 1) :
    Json.fields (fuel + 1 + 1) room cs = Json.fields (fuel + 1) room cs := by
  rw [Json.fields.eq_def (fuel + 1 + 1), Json.fields.eq_def (fuel + 1)]
  dsimp only
  cases hkey : key? cs with
  | none => rfl
  | some read =>
      obtain ⟨key, behindKey⟩ := read
      have hbehindKey := key?_suffix hkey
      have hle := hbehindKey.length_le
      dsimp only [orInvalid, bind, Except.bind]
      rw [h.value (by omega)]
      cases hvalue : Json.value fuel room behindKey with
      | error fault => rfl
      | ok read =>
          dsimp only
          split
          · rfl
          · next hmore =>
              have hless := length_of_mark (((leaves fuel).value hvalue).trans hbehindKey) hmore
              rw [h.fields (by omega)]
          · rfl

theorem ample (fuel : Nat) : Ample fuel := by
  induction fuel with
  | zero =>
      constructor
      all_goals
        intro room cs h
        exact absurd h (Nat.not_succ_le_zero _)
  | succ fuel ih =>
      exact ⟨fun _ _ => ih.value_succ, fun _ _ => ih.items_succ, fun _ _ => ih.fields_succ⟩

/-- A document has fuel enough: with more of it, its value would be the same. -/
theorem parse_of_fuelFor_le (h : fuelFor cs ≤ fuel) (room : Nat) :
    parse room cs = (value fuel room (skipBlanks cs) >>= fun (v, rest) =>
      if (skipBlanks rest).isEmpty then .ok v else .error .invalid) := by
  induction fuel, h using Nat.le_induction with
  | base => rfl
  | succ fuel hle ih =>
      have hshort := (skipBlanks_suffix cs).length_le
      have henough : 2 * (skipBlanks cs).length + 1 ≤ fuel := by
        rw [fuelFor] at hle
        omega
      rw [(ample fuel).value henough, ih]

/-! ## What opens too much -/

/-- The brackets and braces that open something, wherever they stand. -/
def openings (cs : List Char) : Nat := cs.countP fun c => c = '[' || c = '\x7b'

theorem openings_le_of_suffix {cs ds : List Char} (h : cs <:+ ds) : openings cs ≤ openings ds :=
  h.sublist.countP_le

/-- The readers run out of room only on what opens more than that. -/
structure RunsOut (fuel : Nat) : Prop where
  value : ∀ ⦃room cs nest⦄, value fuel room cs = .error (.tooDeep nest) → room < openings cs
  items : ∀ ⦃room cs nest⦄, items fuel room cs = .error (.tooDeep nest) → room < openings cs
  fields : ∀ ⦃room cs nest⦄, fields fuel room cs = .error (.tooDeep nest) → room < openings cs

theorem openings_bracket (cs : List Char) : openings ('[' :: cs) = openings cs + 1 := by
  simp [openings]

theorem openings_brace (cs : List Char) : openings ('\x7b' :: cs) = openings cs + 1 := by
  simp [openings]

variable {nest : Nest}

theorem RunsOut.value_succ (h : RunsOut fuel)
    (hread : Json.value (fuel + 1) room cs = .error (.tooDeep nest)) : room < openings cs := by
  unfold Json.value at hread
  split at hread
  · exact absurd (map_eq_error_iff.1 hread) (orInvalid_ne_tooDeep _ _)
  · next rest =>
      rw [openings_bracket]
      split at hread
      · exact Nat.succ_pos _
      · split at hread
        · cases hread
        · have hinside := h.items (map_eq_error_iff.1 hread)
          have hle := openings_le_of_suffix (skipBlanks_suffix rest)
          omega
  · next rest =>
      rw [openings_brace]
      split at hread
      · exact Nat.succ_pos _
      · split at hread
        · cases hread
        · have hinside := h.fields (map_eq_error_iff.1 hread)
          have hle := openings_le_of_suffix (skipBlanks_suffix rest)
          omega
  · exact absurd hread (orInvalid_ne_tooDeep _ _)

theorem RunsOut.items_succ (h : RunsOut fuel)
    (hread : Json.items (fuel + 1) room cs = .error (.tooDeep nest)) : room < openings cs := by
  unfold Json.items at hread
  rcases bind_eq_error_iff.1 hread with hvalue | ⟨⟨v, behind⟩, hvalue, hread⟩
  · exact h.value hvalue
  · dsimp only at hread
    split at hread
    · cases hread
    · next hmore =>
        rcases bind_eq_error_iff.1 hread with hitems | ⟨_, -, hread⟩
        · refine Nat.lt_of_lt_of_le (h.items hitems) (openings_le_of_suffix ?_)
          exact (skipBlanks_suffix _).trans <|
            (suffix_of_skipBlanks hmore).trans ((leaves fuel).value hvalue)
        · cases hread
    · cases hread

theorem RunsOut.fields_succ (h : RunsOut fuel)
    (hread : Json.fields (fuel + 1) room cs = .error (.tooDeep nest)) : room < openings cs := by
  unfold Json.fields at hread
  rcases bind_eq_error_iff.1 hread with hkey | ⟨⟨key, behindKey⟩, hkey, hread⟩
  · exact absurd hkey (orInvalid_ne_tooDeep _ _)
  · have hbehindKey : behindKey <:+ cs := key?_suffix (orInvalid_eq_ok_iff.1 hkey)
    rcases bind_eq_error_iff.1 hread with hvalue | ⟨⟨v, behind⟩, hvalue, hread⟩
    · exact Nat.lt_of_lt_of_le (h.value hvalue) (openings_le_of_suffix hbehindKey)
    · dsimp only at hread
      split at hread
      · cases hread
      · next hmore =>
          rcases bind_eq_error_iff.1 hread with hfields | ⟨_, -, hread⟩
          · refine Nat.lt_of_lt_of_le (h.fields hfields) (openings_le_of_suffix ?_)
            exact (skipBlanks_suffix _).trans <|
              (suffix_of_skipBlanks hmore).trans (((leaves fuel).value hvalue).trans hbehindKey)
          · cases hread
      · cases hread

theorem runsOut (fuel : Nat) : RunsOut fuel := by
  induction fuel with
  | zero =>
      constructor
      all_goals
        intro room cs nest h
        cases h
  | succ fuel ih =>
      exact ⟨fun _ _ _ => ih.value_succ, fun _ _ _ => ih.items_succ, fun _ _ _ => ih.fields_succ⟩

theorem lt_openings_of_parse (h : parse room cs = .error (.tooDeep nest)) : room < openings cs := by
  rcases bind_eq_error_iff.1 h with hvalue | ⟨⟨v, rest⟩, -, hend⟩
  · exact Nat.lt_of_lt_of_le ((runsOut _).value hvalue)
      (openings_le_of_suffix (skipBlanks_suffix cs))
  · dsimp only at hend
    split at hend <;> cases hend

theorem items_of_value_error {fault : Fault} (h : value fuel room cs = .error fault) :
    items (fuel + 1) room cs = .error fault := by
  rw [items, h]
  rfl

theorem value_brackets (fuel room n : Nat) (rest : List Char) :
    value (fuel + 2 * room + 1) room (List.replicate (n + room + 1) '[' ++ rest) =
      .error (.tooDeep .array) := by
  induction room with
  | zero => exact value_array_of_full _ _
  | succ room ih =>
      -- a bracket that is there is no blank, and closes nothing
      show value (fuel + 2 * room + 1 + 1 + 1) (room + 1)
        ('[' :: '[' :: (List.replicate (n + room) '[' ++ rest)) = _
      rw [value_array]
      exact map_eq_error_iff.2 (items_of_value_error ih)

/-- More brackets in a row than there is room for are refused, whatever stands behind them. -/
theorem parse_brackets {n : Nat} (h : room < n) (rest : List Char) :
    parse room (List.replicate n '[' ++ rest) = .error (.tooDeep .array) := by
  obtain ⟨n, rfl⟩ : ∃ k, n = k + room + 1 := ⟨n - room - 1, by omega⟩
  have hfuel : fuelFor (List.replicate (n + room + 1) '[' ++ rest) =
      2 * n + 2 * rest.length + 2 + 2 * room + 1 := by
    rw [fuelFor, List.length_append, List.length_replicate]
    omega
  refine bind_eq_error_iff.2 (.inl ?_)
  rw [hfuel]
  exact value_brackets _ room n rest

end Json

end OutlineChart
