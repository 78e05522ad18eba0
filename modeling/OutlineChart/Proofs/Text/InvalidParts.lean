import OutlineChart.Text.Utf8
import Mathlib.Data.List.Induction

/-! # Reading bytes that are not UTF-8

What lossy reading makes of any bytes, said without a machine: they are taken apart from the left
into the bytes of characters and into maximal invalid parts, and each of the latter becomes U+FFFD.
-/

namespace OutlineChart

namespace Utf8

/-! ## Parts -/

/-- Bytes that a character begins with. -/
def Begins (part : Bytes) : Prop := ∃ c, part <+: encodeChar c

/-- No character stands at the front; its bytes are taken as long as a character could begin with
them, and the first one in any case. -/
structure InvalidPart (part rest : Bytes) : Prop where
  unreadable : ∀ c, ¬ encodeChar c <+: part ++ rest
  ne_nil : part ≠ []
  begins : part.length = 1 ∨ Begins part
  longest : ∀ longer, longer <+: part ++ rest → part.length < longer.length → ¬ Begins longer

/-- Bytes and the characters that they are read as. -/
inductive Reads : Bytes → List Char → Prop
  | nil : Reads [] []
  | char (c : Char) {bs : Bytes} {cs : List Char} : Reads bs cs →
      Reads (encodeChar c ++ bs) (c :: cs)
  | invalid {part bs : Bytes} {cs : List Char} : InvalidPart part bs → Reads bs cs →
      Reads (part ++ bs) ('\uFFFD' :: cs)

/-! ## The bytes of a character -/

theorem toNat_ofNat_of_valid {n : Nat} (h : n < 0xD800 ∨ 0xDFFF < n ∧ n < 0x110000) :
    (Char.ofNat n).toNat = n := by
  have hvalid : n.isValidChar := by
    unfold Nat.isValidChar
    omega
  unfold Char.ofNat
  rw [dif_pos hvalid]
  rfl

theorem encodeChar_of_two {k j : Nat} (hk : 2 ≤ k ∧ k < 32) (hj : j < 64) :
    encodeChar (Char.ofNat (k * 64 + j)) = [.ofNat (0xC0 + k), .ofNat (0x80 + j)] := by
  have hn : (Char.ofNat (k * 64 + j)).toNat = k * 64 + j := toNat_ofNat_of_valid (by omega)
  have hdiv : (k * 64 + j) / 64 = k := by omega
  have hmod : (k * 64 + j) % 64 = j := by omega
  unfold encodeChar
  dsimp only
  rw [hn, if_neg (by omega), if_pos (by omega), hdiv, hmod]

theorem encodeChar_of_three {k j i : Nat} (hk : k < 16) (hj : j < 64) (hi : i < 64)
    (hlow : k = 0 → 32 ≤ j) (hgap : k = 13 → j < 32) :
    encodeChar (Char.ofNat ((k * 64 + j) * 64 + i)) =
      [.ofNat (0xE0 + k), .ofNat (0x80 + j), .ofNat (0x80 + i)] := by
  have hn : (Char.ofNat ((k * 64 + j) * 64 + i)).toNat = (k * 64 + j) * 64 + i :=
    toNat_ofNat_of_valid (by omega)
  have hfirst : ((k * 64 + j) * 64 + i) / 4096 = k := by omega
  have hsecond : ((k * 64 + j) * 64 + i) / 64 % 64 = j := by omega
  have hthird : ((k * 64 + j) * 64 + i) % 64 = i := by omega
  unfold encodeChar
  dsimp only
  rw [hn, if_neg (by omega), if_neg (by omega), if_pos (by omega), hfirst, hsecond, hthird]

theorem encodeChar_of_four {k j i h : Nat} (hk : k < 5) (hj : j < 64) (hi : i < 64) (hh : h < 64)
    (hlow : k = 0 → 16 ≤ j) (hhigh : k = 4 → j < 16) :
    encodeChar (Char.ofNat (((k * 64 + j) * 64 + i) * 64 + h)) =
      [.ofNat (0xF0 + k), .ofNat (0x80 + j), .ofNat (0x80 + i), .ofNat (0x80 + h)] := by
  have hn : (Char.ofNat (((k * 64 + j) * 64 + i) * 64 + h)).toNat =
      ((k * 64 + j) * 64 + i) * 64 + h := toNat_ofNat_of_valid (by omega)
  have hfirst : (((k * 64 + j) * 64 + i) * 64 + h) / 262144 = k := by omega
  have hsecond : (((k * 64 + j) * 64 + i) * 64 + h) / 4096 % 64 = j := by omega
  have hthird : (((k * 64 + j) * 64 + i) * 64 + h) / 64 % 64 = i := by omega
  have hfourth : (((k * 64 + j) * 64 + i) * 64 + h) % 64 = h := by omega
  unfold encodeChar
  dsimp only
  rw [hn, if_neg (by omega), if_neg (by omega), if_neg (by omega), hfirst, hsecond, hthird,
    hfourth]

/-! ## Characters that are not complete -/

/-- Bytes that some character begins with and none is, and where they lead the machine. -/
inductive Pending : Bytes → State → Prop
  | two {k : Nat} : 2 ≤ k → k < 32 → Pending [.ofNat (0xC0 + k)] (.inside k 1 0x80 0xBF)
  | three {k : Nat} : k < 16 → Pending [.ofNat (0xE0 + k)]
      (.inside k 2 (if k = 0 then 0xA0 else 0x80) (if k = 13 then 0x9F else 0xBF))
  | threeSecond {k j : Nat} : k < 16 → j < 64 → (k = 0 → 32 ≤ j) → (k = 13 → j < 32) →
      Pending [.ofNat (0xE0 + k), .ofNat (0x80 + j)] (.inside (k * 64 + j) 1 0x80 0xBF)
  | four {k : Nat} : k < 5 → Pending [.ofNat (0xF0 + k)]
      (.inside k 3 (if k = 0 then 0x90 else 0x80) (if k = 4 then 0x8F else 0xBF))
  | fourSecond {k j : Nat} : k < 5 → j < 64 → (k = 0 → 16 ≤ j) → (k = 4 → j < 16) →
      Pending [.ofNat (0xF0 + k), .ofNat (0x80 + j)] (.inside (k * 64 + j) 2 0x80 0xBF)
  | fourThird {k j i : Nat} : k < 5 → j < 64 → i < 64 → (k = 0 → 16 ≤ j) → (k = 4 → j < 16) →
      Pending [.ofNat (0xF0 + k), .ofNat (0x80 + j), .ofNat (0x80 + i)]
        (.inside ((k * 64 + j) * 64 + i) 1 0x80 0xBF)

theorem opening_two {k : Nat} (h : 2 ≤ k ∧ k < 32) :
    opening (0xC0 + k) = ([], .inside k 1 0x80 0xBF) := by
  have hbits : 0xC0 + k - 0xC0 = k := by omega
  rw [opening, if_neg (by omega), if_neg (by omega), if_pos (by omega), hbits]

theorem opening_three {k : Nat} (h : k < 16) :
    opening (0xE0 + k) =
      ([], .inside k 2 (if k = 0 then 0xA0 else 0x80) (if k = 13 then 0x9F else 0xBF)) := by
  have hbits : 0xE0 + k - 0xE0 = k := by omega
  have hlow : (0xE0 + k = 0xE0) = (k = 0) := propext (by omega)
  have hhigh : (0xE0 + k = 0xED) = (k = 13) := propext (by omega)
  rw [opening, if_neg (by omega), if_neg (by omega), if_neg (by omega), if_pos (by omega), hbits]
  simp only [hlow, hhigh]

theorem opening_four {k : Nat} (h : k < 5) :
    opening (0xF0 + k) =
      ([], .inside k 3 (if k = 0 then 0x90 else 0x80) (if k = 4 then 0x8F else 0xBF)) := by
  have hbits : 0xF0 + k - 0xF0 = k := by omega
  have hlow : (0xF0 + k = 0xF0) = (k = 0) := propext (by omega)
  have hhigh : (0xF0 + k = 0xF4) = (k = 4) := propext (by omega)
  rw [opening, if_neg (by omega), if_neg (by omega), if_neg (by omega), if_neg (by omega),
    if_pos (by omega), hbits]
  simp only [hlow, hhigh]

theorem Pending.units_eq {part : Bytes} {state : State} (h : Pending part state) (bs : Bytes) :
    units (part ++ bs) = unitsFrom state bs := by
  unfold units
  have hsecond : ∀ j, 0x80 + j - 0x80 = j := fun j => by omega
  cases h with
  | two hlow hhigh =>
      rw [List.singleton_append, unitsFrom_start _ (by omega), opening_two ⟨hlow, hhigh⟩]
      rfl
  | three hk =>
      rw [List.singleton_append, unitsFrom_start _ (by omega), opening_three hk]
      rfl
  | threeSecond hk hj hlow hgap =>
      rw [List.cons_append, List.singleton_append, unitsFrom_start _ (by omega), opening_three hk,
        List.nil_append, unitsFrom_inside (by split <;> split <;> omega) (by omega) (by omega),
        hsecond]
  | four hk =>
      rw [List.singleton_append, unitsFrom_start _ (by omega), opening_four hk]
      rfl
  | fourSecond hk hj hlow hhigh =>
      rw [List.cons_append, List.singleton_append, unitsFrom_start _ (by omega), opening_four hk,
        List.nil_append, unitsFrom_inside (by split <;> split <;> omega) (by omega) (by omega),
        hsecond]
  | fourThird hk hj hi hlow hhigh =>
      rw [List.cons_append, List.cons_append, List.singleton_append,
        unitsFrom_start _ (by omega), opening_four hk, List.nil_append,
        unitsFrom_inside (by split <;> split <;> omega) (by omega) (by omega),
        unitsFrom_inside (by omega) (by omega) (by omega), hsecond, hsecond]

theorem Begins.of_eq {c : Char} {part rest : Bytes} (h : encodeChar c = part ++ rest) :
    Begins part := ⟨c, rest, h.symm⟩

/-- A byte within the bounds is one that a character goes on with. -/
theorem Pending.begins_concat {part : Bytes} {bits owed low high : Nat}
    (h : Pending part (.inside bits owed low high)) {b : UInt8} (hlow : low ≤ b.toNat)
    (hhigh : b.toNat ≤ high) : Begins (part ++ [b]) := by
  have hcontinues : 0x80 ≤ b.toNat ∧ b.toNat ≤ 0xBF := by
    cases h <;> grind
  obtain ⟨i, hi⟩ : ∃ i, b.toNat = 0x80 + i := ⟨b.toNat - 0x80, by omega⟩
  obtain rfl : b = .ofNat (0x80 + i) := by rw [← hi, UInt8.ofNat_toNat]
  rw [hi] at hlow hhigh hcontinues
  have hi : i < 64 := by omega
  have hzero : 0 < 64 := by omega
  -- the bytes that are still owed may all be the least ones
  cases h with
  | two hk hk' => exact .of_eq (encodeChar_of_two ⟨hk, hk'⟩ hi)
  | three hk =>
      exact .of_eq (encodeChar_of_three hk hi hzero (fun h0 => by grind) (fun h13 => by grind))
  | threeSecond hk hj hleast hgap => exact .of_eq (encodeChar_of_three hk hj hi hleast hgap)
  | four hk =>
      exact .of_eq
        (encodeChar_of_four hk hi hzero hzero (fun h0 => by grind) (fun h4 => by grind))
  | fourSecond hk hj hleast hmost =>
      exact .of_eq (encodeChar_of_four hk hj hi hzero hleast hmost)
  | fourThird hk hj hh hleast hmost => exact .of_eq (encodeChar_of_four hk hj hh hi hleast hmost)

/-- The bytes of a character, one to four of them. -/
inductive Shape : Bytes → Prop
  | one {n : Nat} : n < 0x80 → Shape [.ofNat n]
  | two {k j : Nat} : 2 ≤ k → k < 32 → j < 64 → Shape [.ofNat (0xC0 + k), .ofNat (0x80 + j)]
  | three {k j i : Nat} : k < 16 → j < 64 → i < 64 → (k = 0 → 32 ≤ j) → (k = 13 → j < 32) →
      Shape [.ofNat (0xE0 + k), .ofNat (0x80 + j), .ofNat (0x80 + i)]
  | four {k j i h : Nat} : k < 5 → j < 64 → i < 64 → h < 64 → (k = 0 → 16 ≤ j) →
      (k = 4 → j < 16) →
      Shape [.ofNat (0xF0 + k), .ofNat (0x80 + j), .ofNat (0x80 + i), .ofNat (0x80 + h)]

theorem shape_encodeChar (c : Char) : Shape (encodeChar c) := by
  obtain ⟨hhigh, hgap⟩ := toNat_lt c
  unfold encodeChar
  dsimp only
  split
  · next hone => exact .one hone
  · split
    · exact .two (by omega) (by omega) (by omega)
    · split
      · exact .three (by omega) (by omega) (by omega) (by omega) (by omega)
      · exact .four (by omega) (by omega) (by omega) (by omega) (by omega) (by omega)

theorem encodeChar_ne_nil (c : Char) : encodeChar c ≠ [] := by
  have hshape := shape_encodeChar c
  intro hnil
  rw [hnil] at hshape
  cases hshape

/-- Some but not all of the bytes of a character, from the first one on, are pending. -/
theorem exists_pending {part : Bytes} {c : Char} (h : part <+: encodeChar c) (hne : part ≠ [])
    (hproper : part ≠ encodeChar c) :
    ∃ bits owed low high, Pending part (.inside bits owed low high) := by
  have hshape := shape_encodeChar c
  generalize encodeChar c = bs at h hproper hshape
  cases hshape with
  | one hn => simp_all [List.prefix_cons_iff]
  | @two k j hk hk' hj =>
      obtain rfl : part = [.ofNat (0xC0 + k)] := by grind [List.prefix_cons_iff]
      exact ⟨_, _, _, _, .two hk hk'⟩
  | @three k j i hk hj hi hleast hgap =>
      obtain rfl | rfl : part = [.ofNat (0xE0 + k)] ∨
          part = [.ofNat (0xE0 + k), .ofNat (0x80 + j)] := by
        grind [List.prefix_cons_iff]
      · exact ⟨_, _, _, _, .three hk⟩
      · exact ⟨_, _, _, _, .threeSecond hk hj hleast hgap⟩
  | @four k j i h hk hj hi hh hleast hmost =>
      obtain rfl | rfl | rfl : part = [.ofNat (0xF0 + k)] ∨
          part = [.ofNat (0xF0 + k), .ofNat (0x80 + j)] ∨
          part = [.ofNat (0xF0 + k), .ofNat (0x80 + j), .ofNat (0x80 + i)] := by
        grind [List.prefix_cons_iff]
      · exact ⟨_, _, _, _, .four hk⟩
      · exact ⟨_, _, _, _, .fourSecond hk hj hleast hmost⟩
      · exact ⟨_, _, _, _, .fourThird hk hj hi hleast hmost⟩

/-! ## Invalid parts -/

/-- What no character begins with is told at once. -/
theorem opening_of_not_begins {b : UInt8} (h : ¬ Begins [b]) :
    opening b.toNat = ([none], .start) := by
  have hzero : 0 < 64 := by omega
  have hbyte : ∀ {c : Char} {n : Nat} {rest : Bytes}, encodeChar c = .ofNat n :: rest →
      b.toNat ≠ n := by
    rintro c n rest hc rfl
    rw [UInt8.ofNat_toNat] at hc
    exact h (.of_eq hc)
  have hone : ¬ b.toNat < 0x80 := by
    intro hlt
    have hn : (Char.ofNat b.toNat).toNat = b.toNat := toNat_ofNat_of_valid (by omega)
    have hchar : encodeChar (Char.ofNat b.toNat) = .ofNat b.toNat :: [] := by
      unfold encodeChar
      dsimp only
      rw [hn, if_pos hlt]
    exact hbyte hchar rfl
  have htwo : ∀ k, 2 ≤ k → k < 32 → b.toNat ≠ 0xC0 + k := fun k hk hk' =>
    hbyte (encodeChar_of_two ⟨hk, hk'⟩ hzero)
  have hthree : ∀ k, k < 16 → b.toNat ≠ 0xE0 + k := fun k hk => by
    have hbounds : (if k = 0 then 32 else 0) < 64 := by split <;> omega
    exact hbyte (encodeChar_of_three hk hbounds hzero (by grind) (by grind))
  have hfour : ∀ k, k < 5 → b.toNat ≠ 0xF0 + k := fun k hk => by
    have hbounds : (if k = 0 then 16 else 0) < 64 := by split <;> omega
    exact hbyte (encodeChar_of_four hk hbounds hzero hzero (by grind) (by grind))
  have htwo' := htwo (b.toNat - 0xC0)
  have hthree' := hthree (b.toNat - 0xE0)
  have hfour' := hfour (b.toNat - 0xF0)
  rw [opening, if_neg hone]
  by_cases hlead : b.toNat < 0xC2
  · rw [if_pos hlead]
  · rw [if_neg hlead, if_neg (by omega), if_neg (by omega), if_neg (by omega)]

/-- An invalid part is told once it cannot be gone on with, and what follows it is read anew. -/
theorem InvalidPart.units_eq {part rest : Bytes} (h : InvalidPart part rest) :
    units (part ++ rest) = none :: units rest := by
  by_cases hbegins : Begins part
  · obtain ⟨c, hc⟩ := hbegins
    have hproper : part ≠ encodeChar c := by
      rintro rfl
      exact h.unreadable c (List.prefix_append _ _)
    obtain ⟨bits, owed, low, high, hpending⟩ := exists_pending hc h.ne_nil hproper
    rw [hpending.units_eq]
    cases rest with
    | nil => rfl
    | cons b bs =>
        have hout : ¬ (low ≤ b.toNat ∧ b.toNat ≤ high) := by
          rintro ⟨hlow, hhigh⟩
          refine h.longest (part ++ [b]) ?_ (by simp) (hpending.begins_concat hlow hhigh)
          exact ⟨bs, by simp⟩
        rw [unitsFrom_cons, step, if_neg hout]
        rfl
  · obtain ⟨b, rfl⟩ := List.length_eq_one_iff.1 (h.begins.resolve_right hbegins)
    rw [units, List.singleton_append, unitsFrom_cons, step, opening_of_not_begins hbegins]
    rfl

theorem Reads.eq_decode {bs : Bytes} {cs : List Char} (h : Reads bs cs) : cs = decode bs := by
  induction h with
  | nil => rfl
  | char c _ ih => rw [decode, units_encodeChar, List.map_cons, ← decode, ← ih]; rfl
  | invalid hpart _ ih => rw [decode, hpart.units_eq, List.map_cons, ← decode, ← ih]; rfl

/-! ## Taking bytes apart -/

/-- Among the first bytes that a character could begin with, there are most. -/
theorem exists_longest_begins (bs : Bytes) :
    ∃ part rest, bs = part ++ rest ∧ Begins part ∧
      ∀ longer, longer <+: bs → part.length < longer.length → ¬ Begins longer := by
  induction bs using List.reverseRecOn with
  | nil =>
      refine ⟨[], [], rfl, ⟨'a', List.nil_prefix⟩, ?_⟩
      intro longer hlonger hlength
      simp [List.prefix_nil.1 hlonger] at hlength
  | append_singleton bs b ih =>
      by_cases hbegins : Begins (bs ++ [b])
      · refine ⟨bs ++ [b], [], (List.append_nil _).symm, hbegins, ?_⟩
        intro longer hlonger hlength
        exact absurd hlonger.length_le (Nat.not_le_of_lt hlength)
      · obtain ⟨part, rest, rfl, hpart, hlongest⟩ := ih
        refine ⟨part, rest ++ [b], List.append_assoc _ _ _, hpart, ?_⟩
        intro longer hlonger hlength
        rcases List.prefix_concat_iff.1 hlonger with rfl | hlonger
        · exact hbegins
        · exact hlongest longer hlonger hlength

/-- Bytes that no character stands in front of begin with an invalid part. -/
theorem exists_invalidPart {bs : Bytes} (hne : bs ≠ [])
    (hunreadable : ∀ c, ¬ encodeChar c <+: bs) :
    ∃ part rest, bs = part ++ rest ∧ InvalidPart part rest := by
  obtain ⟨part, rest, rfl, hpart, hlongest⟩ := exists_longest_begins bs
  by_cases hempty : part = []
  · subst hempty
    obtain ⟨b, rest, rfl⟩ := List.exists_cons_of_ne_nil hne
    refine ⟨[b], rest, rfl, hunreadable, List.cons_ne_nil _ _, Or.inl rfl, ?_⟩
    intro longer hlonger hlength
    exact hlongest longer hlonger (Nat.lt_of_succ_lt hlength)
  · exact ⟨part, rest, rfl, hunreadable, hempty, Or.inr hpart, hlongest⟩

theorem exists_reads (bs : Bytes) : ∃ cs, Reads bs cs := by
  induction hlength : bs.length using Nat.strongRecOn generalizing bs with
  | ind n ih =>
      subst hlength
      by_cases hne : bs = []
      · exact ⟨[], hne ▸ .nil⟩
      by_cases hreadable : ∃ c, encodeChar c <+: bs
      · obtain ⟨c, rest, rfl⟩ := hreadable
        have hshorter : rest.length < (encodeChar c ++ rest).length := by
          rw [List.length_append]
          exact Nat.lt_add_of_pos_left (List.length_pos_iff.2 (encodeChar_ne_nil c))
        obtain ⟨cs, hcs⟩ := ih _ hshorter rest rfl
        exact ⟨_, .char c hcs⟩
      · obtain ⟨part, rest, rfl, hpart⟩ := exists_invalidPart hne (not_exists.1 hreadable)
        have hshorter : rest.length < (part ++ rest).length := by
          rw [List.length_append]
          exact Nat.lt_add_of_pos_left (List.length_pos_iff.2 hpart.ne_nil)
        obtain ⟨cs, hcs⟩ := ih _ hshorter rest rfl
        exact ⟨_, .invalid hpart hcs⟩

/-- Lossy reading puts U+FFFD in the place of each maximal invalid part. -/
theorem reads_iff {bs : Bytes} {cs : List Char} : Reads bs cs ↔ cs = decode bs := by
  constructor
  · exact Reads.eq_decode
  · rintro rfl
    obtain ⟨cs, hcs⟩ := exists_reads bs
    exact hcs.eq_decode ▸ hcs

example : decode [0xE2, 0x82, 0x61, 0xE0, 0x80] = ['\uFFFD', 'a', '\uFFFD', '\uFFFD'] := by decide

end Utf8

end OutlineChart
