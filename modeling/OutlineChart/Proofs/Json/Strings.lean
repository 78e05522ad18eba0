import OutlineChart.Json.Document
import OutlineChart.Proofs.Text.InvalidParts
import Mathlib.Data.List.TakeWhile

/-! # JSON strings

How texts are spelled as JSON strings: each character as itself, by a short escape, by a long one or
by a pair of long ones, and a lone surrogate by a long one.  Reading a document gives a string just
if the document spells that string.
-/

namespace OutlineChart

namespace Json

/-! ## Spellings -/

/-- Spells a number in four hexadecimal digits of either case. -/
inductive Escape : Nat → List Char → Prop
  | digits {a b c d : Char} {k l m n : Nat} : Hexadecimal.value? a = some k →
      Hexadecimal.value? b = some l → Hexadecimal.value? c = some m →
      Hexadecimal.value? d = some n →
      Escape (((k * 16 + l) * 16 + m) * 16 + n) ['\\', 'u', a, b, c, d]

/-- The letters of short escapes, and what they stand for. -/
def shortEscapes : List (Char × Char) :=
  [('"', '"'), ('\\', '\\'), ('/', '/'), ('b', '\x08'), ('f', '\x0c'), ('n', '\n'), ('r', '\r'),
    ('t', '\t')]

/-- Spells a character inside a literal. -/
inductive SpellsChar : Char → List Char → Prop
  | plain {c : Char} : c ≠ '"' → c ≠ '\\' → ' ' ≤ c → SpellsChar c [c]
  | short {letter c : Char} : (letter, c) ∈ shortEscapes → SpellsChar c ['\\', letter]
  | long {c : Char} {spelled : List Char} : Escape c.toNat spelled → SpellsChar c spelled
  | pair {c : Char} {high low : Nat} {first second : List Char} : high < 0x400 → low < 0x400 →
      Escape (0xD800 + high) first → Escape (0xDC00 + low) second →
      c.toNat = 0x10000 + high * 0x400 + low → SpellsChar c (first ++ second)

/-- A long escape of a low surrogate comes first. -/
def OpensLow (body : List Char) : Prop :=
  ∃ low second rest, low < 0x400 ∧ Escape (0xDC00 + low) second ∧ body = second ++ rest

/-- Spells a text inside a literal.  A high surrogate stays alone if no low one follows it. -/
inductive Spells : List Char → Text → Prop
  | nil : Spells [] []
  | char {c : Char} {spelled body : List Char} {t : Text} : SpellsChar c spelled → Spells body t →
      Spells (spelled ++ body) (.char c :: t)
  | half {unit : Fin 0x800} {spelled body : List Char} {t : Text} :
      Escape (0xD800 + unit.val) spelled → (unit.val < 0x400 → ¬ OpensLow body) → Spells body t →
      Spells (spelled ++ body) (.half unit :: t)

def blanks : List Char := [' ', '\t', '\n', '\r']

/-- A document that is one string, between blanks. -/
def StringDocument (cs : List Char) (t : Text) : Prop :=
  ∃ front body back, cs = front ++ '"' :: (body ++ '"' :: back) ∧
    (∀ c ∈ front ++ back, c ∈ blanks) ∧ Spells body t

/-! ## Pieces -/

/-- The pieces that a spelling is read into. -/
inductive Pieced : List Char → List Piece → Prop
  | nil : Pieced [] []
  | plain {c : Char} {body : List Char} {ps : List Piece} : c ≠ '"' → c ≠ '\\' → ' ' ≤ c →
      Pieced body ps → Pieced (c :: body) (.char c :: ps)
  | short {letter c : Char} {body : List Char} {ps : List Piece} : (letter, c) ∈ shortEscapes →
      Pieced body ps → Pieced ('\\' :: letter :: body) (.char c :: ps)
  | long {n : Nat} {spelled body : List Char} {ps : List Piece} : Escape n spelled →
      Pieced body ps → Pieced (spelled ++ body) (.unit n :: ps)

theorem unit?_eq_some_iff {a b c d : Char} {n : Nat} :
    unit? a b c d = some n ↔ Escape n ['\\', 'u', a, b, c, d] := by
  constructor
  · intro h
    unfold unit? at h
    simp only [Option.bind_eq_bind, Option.bind_eq_some_iff, Option.some.injEq] at h
    obtain ⟨k, hk, l, hl, m, hm, i, hi, rfl⟩ := h
    exact .digits hk hl hm hi
  · intro h
    cases h with
    | digits hk hl hm hi => simp [unit?, hk, hl, hm, hi]

theorem shortEscape?_eq_some_iff {letter c : Char} :
    shortEscape? letter = some c ↔ (letter, c) ∈ shortEscapes := by
  unfold shortEscape? shortEscapes
  constructor
  · intro h
    split at h <;> simp_all [eq_comm]
  · intro h
    simp only [List.mem_cons, Prod.mk.injEq, List.not_mem_nil, or_false] at h
    rcases h with ⟨rfl, rfl⟩ | ⟨rfl, rfl⟩ | ⟨rfl, rfl⟩ | ⟨rfl, rfl⟩ | ⟨rfl, rfl⟩ | ⟨rfl, rfl⟩ |
      ⟨rfl, rfl⟩ | ⟨rfl, rfl⟩ <;> rfl

theorem Pieced.of_pieces? {cs rest : List Char} {ps : List Piece}
    (h : pieces? cs = some (ps, rest)) : ∃ body, cs = body ++ '"' :: rest ∧ Pieced body ps := by
  fun_induction pieces? cs generalizing ps with
  | case1 => cases h
  | case2 => cases h; exact ⟨[], rfl, .nil⟩
  | case3 _ _ _ _ _ _ _ _ hrest hunit ih =>
      cases h
      obtain ⟨body, rfl, hbody⟩ := ih hrest
      exact ⟨_, rfl, .long (unit?_eq_some_iff.1 hunit) hbody⟩
  | case4 => cases h
  | case5 _ _ _ _ _ _ hrest hshort ih =>
      cases h
      obtain ⟨body, rfl, hbody⟩ := ih hrest
      exact ⟨_, rfl, .short (shortEscape?_eq_some_iff.1 hshort) hbody⟩
  | case6 => cases h
  | case7 => cases h
  | case8 c _ hquote _ _ hplain ih =>
      obtain ⟨⟨ps, rest⟩, hrest, heq⟩ := Option.map_eq_some_iff.1 h
      cases heq
      obtain ⟨body, rfl, hbody⟩ := ih hrest
      obtain ⟨hbackslash, hcontrol⟩ := not_or.1 hplain
      exact ⟨_, rfl, .plain hquote hbackslash (Char.not_lt.1 hcontrol) hbody⟩

theorem pieces?_plain {c : Char} (hquote : c ≠ '"') (hbackslash : c ≠ '\\') (hcontrol : ' ' ≤ c)
    (cs : List Char) :
    pieces? (c :: cs) = (pieces? cs).map fun (ps, rest) => (.char c :: ps, rest) := by
  have hplain : ¬ (c = '\\' ∨ c < ' ') := not_or.2 ⟨hbackslash, Char.not_lt.2 hcontrol⟩
  rw [pieces?, if_neg hplain]
  · exact hquote
  · exact fun _ _ _ _ _ h => absurd h hbackslash
  · exact fun _ _ h => absurd h hbackslash

theorem Pieced.pieces?_append {body : List Char} {ps : List Piece} (h : Pieced body ps)
    (rest : List Char) : pieces? (body ++ '"' :: rest) = some (ps, rest) := by
  induction h with
  | nil => rfl
  | plain hquote hbackslash hcontrol _ ih =>
      rw [List.cons_append, pieces?_plain hquote hbackslash hcontrol, ih]
      rfl
  | @short letter c body ps hshort _ ih =>
      have hletter : letter ≠ 'u' := by
        rintro rfl
        exact absurd hshort (by simp [shortEscapes])
      rw [List.cons_append, List.cons_append, pieces?, ih, shortEscape?_eq_some_iff.2 hshort]
      exact fun _ _ _ _ _ h => absurd h hletter
  | @long n spelled body ps hescape _ ih =>
      obtain @⟨a, b, c, d, k, l, m, n, ha, hb, hc, hd⟩ := hescape
      have hunit := unit?_eq_some_iff.2 (.digits ha hb hc hd)
      show pieces? ('\\' :: 'u' :: a :: b :: c :: d :: (body ++ '"' :: rest)) = _
      rw [pieces?, ih, hunit]

theorem pieces?_eq_some_iff {cs rest : List Char} {ps : List Piece} :
    pieces? cs = some (ps, rest) ↔ ∃ body, cs = body ++ '"' :: rest ∧ Pieced body ps := by
  constructor
  · exact Pieced.of_pieces?
  · rintro ⟨body, rfl, hbody⟩
    exact hbody.pieces?_append rest

/-- A long escape is read as one piece. -/
theorem Pieced.of_escape {n : Nat} {spelled rest : List Char} {ps : List Piece}
    (hescape : Escape n spelled) (h : Pieced (spelled ++ rest) ps) :
    ∃ ps', ps = .unit n :: ps' ∧ Pieced rest ps' := by
  obtain @⟨a, b, c, d, k, l, m, n, ha, hb, hc, hd⟩ := hescape
  generalize hcs : ['\\', 'u', a, b, c, d] ++ rest = cs at h
  cases h with
  | nil => cases hcs
  | plain _ hbackslash => cases hcs; exact absurd rfl hbackslash
  | short hshort => cases hcs; exact absurd hshort (by simp [shortEscapes])
  | long hescape hbody =>
      obtain ⟨ha', hb', hc', hd'⟩ := hescape
      cases hcs
      rw [ha] at ha'
      rw [hb] at hb'
      rw [hc] at hc'
      rw [hd] at hd'
      cases ha'
      cases hb'
      cases hc'
      cases hd'
      exact ⟨_, rfl, hbody⟩

/-! ## Joining pieces -/

theorem join_unit {n : Nat} {ps : List Piece}
    (h : ∀ m rest, ps = .unit m :: rest → pair? n m = none) :
    join (.unit n :: ps) = ofUnit n :: join ps := by
  cases ps with
  | nil => rfl
  | cons p ps =>
      cases p with
      | char c => rfl
      | unit m => rw [join, h m ps rfl]

theorem pair?_of_surrogates {high low : Nat} {c : Char} (hhigh : high < 0x400)
    (hlow : low < 0x400) (hc : c.toNat = 0x10000 + high * 0x400 + low) :
    pair? (0xD800 + high) (0xDC00 + low) = some c := by
  have hfirst : 0xD800 + high - 0xD800 = high := Nat.add_sub_cancel_left ..
  have hsecond : 0xDC00 + low - 0xDC00 = low := Nat.add_sub_cancel_left ..
  rw [pair?, if_pos (by omega), hfirst, hsecond, ← hc, Char.ofNat_toNat]

theorem exists_surrogates_of_pair? {first second : Nat} {c : Char}
    (h : pair? first second = some c) :
    ∃ high low, high < 0x400 ∧ low < 0x400 ∧ first = 0xD800 + high ∧ second = 0xDC00 + low ∧
      c.toNat = 0x10000 + high * 0x400 + low := by
  unfold pair? at h
  split at h
  · next hbounds =>
      obtain ⟨high, rfl⟩ := Nat.exists_eq_add_of_le hbounds.1
      obtain ⟨low, rfl⟩ := Nat.exists_eq_add_of_le hbounds.2.2.1
      rw [Nat.add_sub_cancel_left, Nat.add_sub_cancel_left, Option.some.injEq] at h
      refine ⟨high, low, by omega, by omega, rfl, rfl, ?_⟩
      rw [← h, Utf8.toNat_ofNat_of_valid (by omega)]
  · cases h

theorem Escape.lt {n : Nat} {spelled : List Char} (h : Escape n spelled) : n < 0x10000 := by
  obtain ⟨ha, hb, hc, hd⟩ := h
  have hfirst := Hexadecimal.value?_lt ha
  have hsecond := Hexadecimal.value?_lt hb
  have hthird := Hexadecimal.value?_lt hc
  have hfourth := Hexadecimal.value?_lt hd
  omega

theorem ofUnit_surrogate (unit : Fin 0x800) : ofUnit (0xD800 + unit.val) = .half unit := by
  have hlt := unit.isLt
  rw [ofUnit, if_pos (by omega), Nat.add_sub_cancel_left]
  exact congrArg CodePoint.half (Fin.ext (Nat.mod_eq_of_lt hlt))

/-- The pieces begin with a low surrogate just if the spelling does. -/
theorem Pieced.opensLow_iff {body : List Char} {ps : List Piece} (h : Pieced body ps) :
    OpensLow body ↔ ∃ low rest, low < 0x400 ∧ ps = .unit (0xDC00 + low) :: rest := by
  constructor
  · rintro ⟨low, second, rest, hlow, hescape, rfl⟩
    obtain ⟨ps, rfl, -⟩ := h.of_escape hescape
    exact ⟨low, ps, hlow, rfl⟩
  · rintro ⟨low, rest, hlow, rfl⟩
    cases h with
    | long hescape => exact ⟨low, _, _, hlow, hescape, rfl⟩

theorem Spells.exists_pieced {body : List Char} {t : Text} (h : Spells body t) :
    ∃ ps, Pieced body ps ∧ join ps = t := by
  induction h with
  | nil => exact ⟨[], .nil, rfl⟩
  | @char c spelled body t hspelled _ ih =>
      obtain ⟨ps, hps, rfl⟩ := ih
      cases hspelled with
      | plain hquote hbackslash hcontrol =>
          exact ⟨_, .plain hquote hbackslash hcontrol hps, rfl⟩
      | short hshort => exact ⟨_, .short hshort hps, rfl⟩
      | long hescape =>
          obtain ⟨hhigh, hgap⟩ := Utf8.toNat_lt c
          refine ⟨_, .long hescape hps, ?_⟩
          rw [join_unit, ofUnit, if_neg (by omega), Char.ofNat_toNat]
          intro m rest _
          rw [pair?, if_neg (by omega)]
      | pair hhigh hlow hfirst hsecond hc =>
          rw [List.append_assoc]
          refine ⟨_, .long hfirst (.long hsecond hps), ?_⟩
          rw [join, pair?_of_surrogates hhigh hlow hc]
  | @half unit spelled body t hescape halone _ ih =>
      obtain ⟨ps, hps, rfl⟩ := ih
      refine ⟨_, .long hescape hps, ?_⟩
      rw [join_unit, ofUnit_surrogate]
      rintro m rest rfl
      refine Option.eq_none_iff_forall_ne_some.2 fun c hpair => ?_
      obtain ⟨high, low, hhigh, hlow, hunit, rfl, -⟩ := exists_surrogates_of_pair? hpair
      exact halone (by omega) (hps.opensLow_iff.2 ⟨low, rest, hlow, rfl⟩)

theorem Pieced.exists_spellsChar {body : List Char} {c : Char} {ps : List Piece}
    (h : Pieced body (.char c :: ps)) :
    ∃ spelled rest, body = spelled ++ rest ∧ SpellsChar c spelled ∧ Pieced rest ps := by
  cases h with
  | plain hquote hbackslash hcontrol hps =>
      exact ⟨_, _, rfl, .plain hquote hbackslash hcontrol, hps⟩
  | short hshort hps => exact ⟨['\\', _], _, rfl, .short hshort, hps⟩

theorem Pieced.exists_escape {body : List Char} {n : Nat} {ps : List Piece}
    (h : Pieced body (.unit n :: ps)) :
    ∃ spelled rest, body = spelled ++ rest ∧ Escape n spelled ∧ Pieced rest ps := by
  cases h with
  | long hescape hps => exact ⟨_, _, rfl, hescape, hps⟩

/-- A unit that forms no pair with what follows spells a code point of its own. -/
theorem Spells.of_unit {n : Nat} {spelled body : List Char} {ps : List Piece} {t : Text}
    (hescape : Escape n spelled) (hps : Pieced body ps)
    (halone : ∀ m rest, ps = .unit m :: rest → pair? n m = none) (h : Spells body t) :
    Spells (spelled ++ body) (ofUnit n :: t) := by
  by_cases hsurrogate : 0xD800 ≤ n ∧ n < 0xE000
  · obtain ⟨unit, rfl⟩ : ∃ unit : Fin 0x800, n = 0xD800 + unit.val :=
      ⟨⟨n - 0xD800, by omega⟩, (Nat.add_sub_cancel' hsurrogate.1).symm⟩
    rw [ofUnit_surrogate]
    refine .half hescape (fun hhigh hopens => ?_) h
    obtain ⟨low, rest, hlow, rfl⟩ := hps.opensLow_iff.1 hopens
    have hpair := halone _ rest rfl
    rw [pair?, if_pos (by omega)] at hpair
    cases hpair
  · rw [ofUnit, if_neg hsurrogate]
    have hn := hescape.lt
    refine .char (.long ?_) h
    rwa [Utf8.toNat_ofNat_of_valid (by omega)]

theorem Pieced.spells {body : List Char} {ps : List Piece} (h : Pieced body ps) :
    Spells body (join ps) := by
  fun_induction join ps generalizing body with
  | case1 => cases h; exact .nil
  | case2 c ps ih =>
      obtain ⟨spelled, rest, rfl, hspelled, hps⟩ := h.exists_spellsChar
      exact .char hspelled (ih hps)
  | case3 n =>
      obtain ⟨spelled, rest, rfl, hescape, hps⟩ := h.exists_escape
      cases hps
      exact .of_unit hescape .nil (fun _ _ h => nomatch h) .nil
  | case4 n c ps ih =>
      obtain ⟨spelled, rest, rfl, hescape, hps⟩ := h.exists_escape
      refine .of_unit hescape hps (fun _ _ h => nomatch h) ?_
      obtain ⟨spelled', rest, rfl, hspelled, hps⟩ := hps.exists_spellsChar
      exact .char hspelled (ih hps)
  | case5 m n ps c hpair ih =>
      obtain ⟨high, low, hhigh, hlow, rfl, rfl, hc⟩ := exists_surrogates_of_pair? hpair
      obtain ⟨first, rest, rfl, hfirst, hps⟩ := h.exists_escape
      obtain ⟨second, rest, rfl, hsecond, hps'⟩ := hps.exists_escape
      rw [← List.append_assoc]
      exact .char (.pair hhigh hlow hfirst hsecond hc) (ih hps')
  | case6 m n ps hpair ih =>
      obtain ⟨spelled, rest, rfl, hescape, hps⟩ := h.exists_escape
      refine .of_unit hescape hps (fun k rest h => ?_) (ih hps)
      cases h
      exact hpair

theorem literal?_eq_some_iff {cs rest : List Char} {t : Text} :
    literal? cs = some (t, rest) ↔ ∃ body, cs = body ++ '"' :: rest ∧ Spells body t := by
  unfold literal?
  rw [Option.map_eq_some_iff]
  constructor
  · rintro ⟨⟨ps, rest'⟩, hpieces, heq⟩
    cases heq
    obtain ⟨body, rfl, hps⟩ := pieces?_eq_some_iff.1 hpieces
    exact ⟨body, rfl, hps.spells⟩
  · rintro ⟨body, rfl, hspells⟩
    obtain ⟨ps, hps, rfl⟩ := hspells.exists_pieced
    exact ⟨(ps, rest), hps.pieces?_append rest, rfl⟩

/-! ## Documents -/

/-- No word is a string. -/
theorem word?_ne_string {cs rest : List Char} {t : Text} : word? cs ≠ some (.string t, rest) := by
  intro h
  obtain ⟨⟨word, value⟩, hmem, hafter⟩ := List.exists_of_findSome?_eq_some h
  obtain ⟨rest', -, heq⟩ := Option.map_eq_some_iff.1 hafter
  cases heq
  simp [words] at hmem

theorem number?_ne_string {cs rest : List Char} {t : Text} :
    number? cs ≠ some (.string t, rest) := by
  intro h
  obtain ⟨_, -, heq⟩ := Option.map_eq_some_iff.1 h
  cases heq

theorem value_succ_eq_string_iff {fuel room : Nat} {cs rest : List Char} {t : Text} :
    value (fuel + 1) room cs = .ok (.string t, rest) ↔
      ∃ cs', cs = '"' :: cs' ∧ literal? cs' = some (t, rest) := by
  constructor
  · intro h
    unfold value at h
    split at h
    · next cs' =>
        obtain ⟨⟨t', rest'⟩, hliteral, heq⟩ := map_eq_ok_iff.1 h
        cases heq
        exact ⟨cs', rfl, orInvalid_eq_ok_iff.1 hliteral⟩
    · split at h
      · cases h
      · split at h
        · cases h
        · obtain ⟨_, -, heq⟩ := map_eq_ok_iff.1 h
          cases heq
    · split at h
      · cases h
      · split at h
        · cases h
        · obtain ⟨_, -, heq⟩ := map_eq_ok_iff.1 h
          cases heq
    · rcases Option.or_eq_some_iff.1 (orInvalid_eq_ok_iff.1 h) with hword | ⟨-, hnumber⟩
      · exact absurd hword word?_ne_string
      · exact absurd hnumber number?_ne_string
  · rintro ⟨cs', rfl, hliteral⟩
    rw [value_quote, hliteral]
    rfl

theorem isBlank_iff {c : Char} : isBlank c = true ↔ c ∈ blanks := by
  simp [isBlank, blanks, or_assoc]

theorem exists_skipBlanks (cs : List Char) :
    ∃ front, cs = front ++ skipBlanks cs ∧ ∀ c ∈ front, c ∈ blanks :=
  ⟨cs.takeWhile isBlank, List.takeWhile_append_dropWhile.symm, fun _ hc =>
    isBlank_iff.1 (List.mem_takeWhile_imp hc)⟩

theorem skipBlanks_append {front : List Char} (h : ∀ c ∈ front, c ∈ blanks)
    (cs : List Char) : skipBlanks (front ++ cs) = skipBlanks cs :=
  List.dropWhile_append_of_pos fun c hc => isBlank_iff.2 (h c hc)

/-- A string takes no room. -/
theorem parse_eq_string_iff {room : Nat} {cs : List Char} {t : Text} :
    parse room cs = .ok (.string t) ↔ StringDocument cs t := by
  constructor
  · intro h
    obtain ⟨⟨v, rest⟩, hvalue, hend⟩ := bind_eq_ok_iff.1 h
    dsimp only at hend
    split at hend
    · next hback =>
        cases hend
        obtain ⟨cs', hcs', hliteral⟩ := value_succ_eq_string_iff.1 hvalue
        obtain ⟨body, rfl, hspells⟩ := literal?_eq_some_iff.1 hliteral
        obtain ⟨front, hfront, hblank⟩ := exists_skipBlanks cs
        obtain ⟨back, hrest, hblank'⟩ := exists_skipBlanks rest
        rw [List.isEmpty_iff.1 hback, List.append_nil] at hrest
        cases hrest
        rw [hcs'] at hfront
        exact ⟨front, body, rest, hfront,
          List.forall_mem_append.2 ⟨hblank, hblank'⟩, hspells⟩
    · cases hend
  · rintro ⟨front, body, back, rfl, hblank, hspells⟩
    obtain ⟨hfront, hback⟩ := List.forall_mem_append.1 hblank
    have hvalue : value (fuelFor (front ++ '"' :: (body ++ '"' :: back))) room
        (skipBlanks (front ++ '"' :: (body ++ '"' :: back))) = .ok (.string t, back) := by
      rw [skipBlanks_append hfront]
      exact value_succ_eq_string_iff.2 ⟨_, rfl, literal?_eq_some_iff.2 ⟨body, rfl, hspells⟩⟩
    have hend : skipBlanks back = [] := by
      have hskip := skipBlanks_append hback []
      rwa [List.append_nil] at hskip
    refine bind_eq_ok_iff.2 ⟨_, hvalue, ?_⟩
    dsimp only
    rw [hend]
    rfl

-- two high surrogates, of which the second one is in a pair
example : StringDocument "\"\\ud83d\\ud83d\\ude00\"\n".toList [.half 0x3D, .char '😀'] := by
  have hread : parse 0 "\"\\ud83d\\ud83d\\ude00\"\n".toList =
      .ok (.string [.half 0x3D, .char '😀']) := by cbv
  exact parse_eq_string_iff.1 hread

end Json

end OutlineChart
