import OutlineChart.Text.Basic

/-! # UTF-8

A machine reads bytes one at a time and answers with units: a character, or nothing for a maximal
part that begins no character.  Strict reading refuses a text with such a part, lossy reading puts
U+FFFD in its place.  Writing a text and reading it back, either way, gives the text.
-/

namespace OutlineChart

abbrev Bytes := List UInt8

namespace Utf8

/-! ## Writing -/

def encodeChar (c : Char) : Bytes :=
  let n := c.toNat
  if n < 0x80 then [.ofNat n]
  else if n < 0x800 then [.ofNat (0xC0 + n / 64), .ofNat (0x80 + n % 64)]
  else if n < 0x10000 then
    [.ofNat (0xE0 + n / 4096), .ofNat (0x80 + n / 64 % 64), .ofNat (0x80 + n % 64)]
  else
    [.ofNat (0xF0 + n / 262144), .ofNat (0x80 + n / 4096 % 64), .ofNat (0x80 + n / 64 % 64),
      .ofNat (0x80 + n % 64)]

def encode (cs : List Char) : Bytes := cs.flatMap encodeChar

@[simp] theorem encode_nil : encode [] = [] := rfl

@[simp] theorem encode_cons (c : Char) (cs : List Char) :
    encode (c :: cs) = encodeChar c ++ encode cs := List.flatMap_cons ..

/-- The bytes of a text, unless a surrogate stands alone in it. -/
def encode? (t : Text) : Option Bytes := (Text.toChars? t).map encode

@[simp] theorem encode?_ofChars (cs : List Char) : encode? (Text.ofChars cs) = some (encode cs) := by
  simp [encode?]

theorem encode?_eq_none_iff {t : Text} : encode? t = none ↔ t.HasHalf := by
  rw [encode?, Option.map_eq_none_iff, Text.toChars?_eq_none_iff]

/-! ## Reading -/

inductive State where
  /-- Between characters. -/
  | start
  /-- Inside a character: the bits so far, the bytes owed, and the bounds of the next one. -/
  | inside (bits owed low high : Nat)
  deriving DecidableEq, Repr

/-- The units that are complete after a first byte, and the state it leads to. -/
def opening (b : Nat) : List (Option Char) × State :=
  if b < 0x80 then ([some (Char.ofNat b)], .start)
  else if b < 0xC2 then ([none], .start)
  else if b < 0xE0 then ([], .inside (b - 0xC0) 1 0x80 0xBF)
  else if b < 0xF0 then
    ([], .inside (b - 0xE0) 2 (if b = 0xE0 then 0xA0 else 0x80) (if b = 0xED then 0x9F else 0xBF))
  else if b < 0xF5 then
    ([], .inside (b - 0xF0) 3 (if b = 0xF0 then 0x90 else 0x80) (if b = 0xF4 then 0x8F else 0xBF))
  else ([none], .start)

/-- A byte out of bounds ends an invalid part and is read again as a first byte. -/
def step : State → Nat → List (Option Char) × State
  | .start, b => opening b
  | .inside bits owed low high, b =>
      if low ≤ b ∧ b ≤ high then
        let bits := bits * 64 + (b - 0x80)
        if owed ≤ 1 then ([some (Char.ofNat bits)], .start)
        else ([], .inside bits (owed - 1) 0x80 0xBF)
      else (none :: (opening b).1, (opening b).2)

/-- The units of a byte sequence read from a state. -/
def unitsFrom : State → Bytes → List (Option Char)
  | .start, [] => []
  | .inside .., [] => [none]
  | s, b :: bs => (step s b.toNat).1 ++ unitsFrom (step s b.toNat).2 bs

def units (bs : Bytes) : List (Option Char) := unitsFrom .start bs

/-- Strict reading. -/
def decode? (bs : Bytes) : Option (List Char) := (units bs).mapM id

/-- Lossy reading. -/
def decode (bs : Bytes) : List Char := (units bs).map (·.getD '\uFFFD')

@[simp] theorem units_nil : units [] = [] := rfl

theorem unitsFrom_cons (s : State) (b : UInt8) (bs : Bytes) :
    unitsFrom s (b :: bs) = (step s b.toNat).1 ++ unitsFrom (step s b.toNat).2 bs := by
  cases s <;> rfl

/-! ## Reading what was written -/

theorem toNat_ofNat_of_lt {n : Nat} (h : n < 256) : (UInt8.ofNat n).toNat = n := by
  simp [UInt8.toNat_ofNat', Nat.mod_eq_of_lt h]

theorem toNat_lt (c : Char) : c.toNat < 0x110000 ∧ (c.toNat < 0xD800 ∨ 0xDFFF < c.toNat) := by
  have h := c.valid
  simp only [UInt32.isValidChar, Nat.isValidChar] at h
  simp only [Char.toNat]
  omega

theorem unitsFrom_start (n : Nat) (h : n < 256) (bs : Bytes) :
    unitsFrom .start (.ofNat n :: bs) = (opening n).1 ++ unitsFrom (opening n).2 bs := by
  rw [unitsFrom_cons, toNat_ofNat_of_lt h]
  rfl

/-- A byte within bounds is taken, and more are owed. -/
theorem unitsFrom_inside {bits owed low high n : Nat} (within : low ≤ n ∧ n ≤ high)
    (byte : n < 256) (more : 1 < owed) (bs : Bytes) :
    unitsFrom (.inside bits owed low high) (.ofNat n :: bs) =
      unitsFrom (.inside (bits * 64 + (n - 0x80)) (owed - 1) 0x80 0xBF) bs := by
  rw [unitsFrom_cons, toNat_ofNat_of_lt byte]
  simp only [step]
  rw [if_pos within, if_neg (by omega)]
  rfl

/-- The last byte owed completes a character. -/
theorem unitsFrom_inside_last {bits low high n : Nat} (within : low ≤ n ∧ n ≤ high)
    (byte : n < 256) (bs : Bytes) :
    unitsFrom (.inside bits 1 low high) (.ofNat n :: bs) =
      some (Char.ofNat (bits * 64 + (n - 0x80))) :: units bs := by
  rw [unitsFrom_cons, toNat_ofNat_of_lt byte]
  simp only [step]
  rw [if_pos within, if_pos (by omega)]
  rfl

theorem units_encodeChar (c : Char) (bs : Bytes) :
    units (encodeChar c ++ bs) = some c :: units bs := by
  obtain ⟨high, gap⟩ := toNat_lt c
  have back : ∀ n, n = c.toNat → Char.ofNat n = c := by rintro n rfl; simp
  simp only [encodeChar, units]
  by_cases one : c.toNat < 0x80
  · rw [if_pos one, List.singleton_append, unitsFrom_start _ (by omega)]
    simp [opening, one]
  by_cases two : c.toNat < 0x800
  · rw [if_neg one, if_pos two, List.cons_append, List.singleton_append,
      unitsFrom_start _ (by omega)]
    rw [opening, if_neg (by omega), if_neg (by omega), if_pos (by omega)]
    rw [unitsFrom_inside_last (by omega) (by omega), back _ (by omega)]
    rfl
  by_cases three : c.toNat < 0x10000
  · rw [if_neg one, if_neg two, if_pos three, List.cons_append, List.cons_append,
      List.singleton_append, unitsFrom_start _ (by omega)]
    rw [opening, if_neg (by omega), if_neg (by omega), if_neg (by omega), if_pos (by omega),
      List.nil_append]
    rw [unitsFrom_inside (by split <;> split <;> omega) (by omega) (by omega),
      unitsFrom_inside_last (by omega) (by omega), back _ (by omega)]
    rfl
  · rw [if_neg one, if_neg two, if_neg three, List.cons_append, List.cons_append,
      List.cons_append, List.singleton_append, unitsFrom_start _ (by omega)]
    rw [opening, if_neg (by omega), if_neg (by omega), if_neg (by omega), if_neg (by omega),
      if_pos (by omega), List.nil_append]
    rw [unitsFrom_inside (by split <;> split <;> omega) (by omega) (by omega),
      unitsFrom_inside (by omega) (by omega) (by omega),
      unitsFrom_inside_last (by omega) (by omega), back _ (by omega)]
    rfl

theorem units_encode (cs : List Char) : units (encode cs) = cs.map some := by
  induction cs with
  | nil => rfl
  | cons c cs ih => rw [encode_cons, units_encodeChar, ih, List.map_cons]

/-- Lossy reading loses nothing of what was written. -/
@[simp] theorem decode_encode (cs : List Char) : decode (encode cs) = cs := by
  simp [decode, units_encode, Function.comp_def]

/-- Strict reading accepts what was written. -/
@[simp] theorem decode?_encode (cs : List Char) : decode? (encode cs) = some cs := by
  rw [decode?, units_encode]
  induction cs with
  | nil => rfl
  | cons c cs ih => simp [ih]

end Utf8

end OutlineChart
