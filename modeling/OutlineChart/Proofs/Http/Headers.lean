import OutlineChart.Http.Body
import OutlineChart.Http.Cors
import Mathlib.Data.List.TakeWhile

/-! # Headers of requests and responses

What a request declares, its type and its length, in terms of the characters of its headers, and the
values that a response gives under a name.  The headers on origins change none of the latter.
-/

namespace OutlineChart

namespace Http

/-! ## Values under a name -/

/-- The values of the headers with a name in lower case. -/
def Headers.values (hs : Headers) (name : String) : List String :=
  (hs.filter fun header => header.1.toLower = name).map (·.2)

theorem Headers.values_append (hs hs' : Headers) (name : String) :
    values (hs ++ hs') name = values hs name ++ values hs' name := by
  simp [values]

namespace Cors

theorem mem_headers {s : Settings} {r : Request} {header : String × String}
    (h : header ∈ headers s r) :
    header.1 = "vary" ∨ header.1 = "access-control-allow-origin" := by
  unfold headers allowOrigin at h
  rcases List.mem_cons.1 h with rfl | h
  · exact Or.inl rfl
  · refine Or.inr ?_
    cases horigin : r.headers.value? "origin" with
    | none =>
        rw [horigin] at h
        cases h
    | some origin =>
        rw [horigin, Option.map_some, Option.getD_some] at h
        split at h
        · rw [List.mem_singleton.1 h]
        · split at h
          · rw [List.mem_singleton.1 h]
          · cases h

/-- The headers on origins are none of those that tell what is sent. -/
theorem values_headers (s : Settings) (r : Request) {name : String} (hvary : name ≠ "vary")
    (hallow : name ≠ "access-control-allow-origin") : (headers s r).values name = [] := by
  have hlower : "vary".toLower = "vary" ∧
      "access-control-allow-origin".toLower = "access-control-allow-origin" := by decide +kernel
  unfold Headers.values
  rw [List.map_eq_nil_iff, List.filter_eq_nil_iff]
  intro header hmem hname
  rw [decide_eq_true_eq] at hname
  rcases mem_headers hmem with h | h
  · rw [h, hlower.1] at hname
    exact hvary hname.symm
  · rw [h, hlower.2] at hname
    exact hallow hname.symm

/-- So a response has the values under such a name that it had before them. -/
theorem values_adding (response : Response) (s : Settings) (r : Request) {name : String}
    (hvary : name ≠ "vary") (hallow : name ≠ "access-control-allow-origin") :
    (response.adding (headers s r)).headers.values name = response.headers.values name := by
  rw [Response.adding, Headers.values_append, values_headers s r hvary hallow, List.append_nil]

end Cors

/-! ## What is declared -/

/-- A length of digits is a number in decimal, and not too long a one to be read. -/
def Headers.LengthReadable (hs : Headers) : Prop :=
  ∀ value ∈ hs.value? "content-length", value.toList.all Body.isDigitLike = true →
    value.toList.all Json.isDigit = true ∧ value.toList.length ≤ 4300

/-- A string of decimal digits, not an empty one, declares a length over the limit. -/
def Headers.DeclaresOver (hs : Headers) (maxBytes : Int) : Prop :=
  ∃ value ∈ hs.value? "content-length", value.toList ≠ [] ∧ value.toList.all Json.isDigit = true ∧
    maxBytes < Json.ofDigits value.toList

/-- Where no length is declared, there is none to stand in the way. -/
theorem Headers.LengthReadable.of_undeclared {hs : Headers}
    (h : hs.value? "content-length" = none) : hs.LengthReadable := by
  intro value hvalue
  rw [h] at hvalue
  cases hvalue

theorem Headers.not_declaresOver_of_undeclared {hs : Headers}
    (h : hs.value? "content-length" = none) (maxBytes : Int) : ¬ hs.DeclaresOver maxBytes := by
  rintro ⟨value, hvalue, -⟩
  rw [h] at hvalue
  cases hvalue

def Headers.DeclaresJson (hs : Headers) : Prop :=
  ∃ value ∈ hs.value? "content-type", "application/json".toList <+: value.toList

namespace Body

variable {maxBytes : Int} {hs : Headers}

theorem isJson_iff : isJson hs = true ↔ hs.DeclaresJson := by
  unfold isJson Headers.DeclaresJson
  rw [List.isPrefixOf_iff_prefix]
  cases hs.value? "content-type" with
  | none => simp
  | some value => simp

instance (hs : Headers) : Decidable hs.DeclaresJson := decidable_of_iff _ isJson_iff

theorem all_isDigitLike {cs : List Char} (h : cs.all Json.isDigit = true) :
    cs.all isDigitLike = true := by
  rw [List.all_eq_true] at h ⊢
  intro c hc
  simp [isDigitLike, h c hc]

/-- What declares no digits declares no length. -/
theorem declared?_eq_none (h : ∀ value ∈ hs.value? "content-length", value.toList ≠ [] →
    value.toList.all isDigitLike = false) : declared? hs = .ok none := by
  unfold declared?
  cases hvalue : hs.value? "content-length" with
  | none => rfl
  | some value =>
      rw [Option.getD_some]
      refine if_pos ?_
      rw [Bool.or_eq_true, List.isEmpty_iff, Bool.not_eq_true', or_iff_not_imp_left]
      exact h value hvalue

section

variable {value : String} (hvalue : value ∈ hs.value? "content-length")
  (hne : value.toList ≠ [])

include hvalue hne

theorem declared?_of_digitLike (hlike : value.toList.all isDigitLike = true) :
    declared? hs =
      let decimal := value.toList.takeWhile Json.isDigit
      if decimal.length > Json.maxIntegerDigits then .error (.tooLong decimal.length)
      else if decimal.length < value.toList.length then .error (.notDecimal value)
      else .ok (some (Json.ofDigits value.toList)) := by
  unfold declared?
  rw [hvalue, Option.getD_some]
  exact if_neg (by simp [hne, hlike])

theorem declared?_of_decimal (hdecimal : value.toList.all Json.isDigit = true)
    (hshort : value.toList.length ≤ Json.maxIntegerDigits) :
    declared? hs = .ok (some (Json.ofDigits value.toList)) := by
  have hwhole : value.toList.takeWhile Json.isDigit = value.toList :=
    List.takeWhile_eq_self_iff.2 (List.all_eq_true.1 hdecimal)
  rw [declared?_of_digitLike hvalue hne (all_isDigitLike hdecimal), hwhole]
  dsimp only
  rw [if_neg (Nat.not_lt.2 hshort), if_neg (Nat.lt_irrefl _)]

/-- Digits that declare a length without an error are decimal and not too many. -/
theorem decimal_of_declared? (hlike : value.toList.all isDigitLike = true) {declared : Option Nat}
    (h : declared? hs = .ok declared) : value.toList.all Json.isDigit = true ∧
      value.toList.length ≤ Json.maxIntegerDigits ∧
      declared = some (Json.ofDigits value.toList) := by
  rw [declared?_of_digitLike hvalue hne hlike] at h
  dsimp only at h
  split at h
  · cases h
  · next hshort =>
      split at h
      · cases h
      · next hlong =>
          have hwhole : value.toList.takeWhile Json.isDigit = value.toList :=
            (List.takeWhile_prefix _).eq_of_length_le (Nat.not_lt.1 hlong)
          rw [hwhole] at hshort
          cases h
          exact ⟨List.all_eq_true.2 (List.takeWhile_eq_self_iff.1 hwhole), Nat.not_lt.1 hshort, rfl⟩

end

theorem declares_of_declared? {n : Nat} (h : declared? hs = .ok (some n)) :
    ∃ value ∈ hs.value? "content-length", value.toList ≠ [] ∧
      value.toList.all Json.isDigit = true ∧ Json.ofDigits value.toList = n := by
  by_contra hno
  rw [declared?_eq_none] at h
  · cases h
  · intro value hvalue hne
    refine Bool.eq_false_iff.2 fun hlike => hno ?_
    obtain ⟨hdecimal, -, heq⟩ := decimal_of_declared? hvalue hne hlike h
    exact ⟨value, hvalue, hne, hdecimal, (Option.some.inj heq).symm⟩

/-- The lengths that can be read are those that are not found to be none. -/
theorem lengthReadable_iff : hs.LengthReadable ↔ ∃ declared, declared? hs = .ok declared := by
  constructor
  · intro h
    by_cases hdigits : ∃ value ∈ hs.value? "content-length", value.toList ≠ [] ∧
        value.toList.all isDigitLike = true
    · obtain ⟨value, hvalue, hne, hlike⟩ := hdigits
      obtain ⟨hdecimal, hshort⟩ := h value hvalue hlike
      exact ⟨_, declared?_of_decimal hvalue hne hdecimal hshort⟩
    · refine ⟨none, declared?_eq_none fun value hvalue hne => ?_⟩
      exact Bool.eq_false_iff.2 fun hlike => hdigits ⟨value, hvalue, hne, hlike⟩
  · rintro ⟨declared, hdeclared⟩ value hvalue hlike
    by_cases hne : value.toList = []
    · simp [hne]
    · obtain ⟨hdecimal, hshort, -⟩ := decimal_of_declared? hvalue hne hlike hdeclared
      exact ⟨hdecimal, hshort⟩

/-- A length is found to be over the limit just if one over it is declared. -/
theorem exists_declared_iff (h : hs.LengthReadable) (maxBytes : Int) :
    ∃ declared, declared? hs = .ok declared ∧
      ((declared.any fun n => maxBytes < n) = true ↔ hs.DeclaresOver maxBytes) := by
  obtain ⟨declared, hdeclared⟩ := lengthReadable_iff.1 h
  refine ⟨declared, hdeclared, ?_⟩
  have hany : (declared.any fun n => maxBytes < n) = true ↔
      ∃ n : Nat, declared = some n ∧ maxBytes < n := by
    cases declared <;> simp
  rw [hany]
  constructor
  · rintro ⟨n, rfl, hover⟩
    obtain ⟨value, hvalue, hne, hdecimal, rfl⟩ := declares_of_declared? hdeclared
    exact ⟨value, hvalue, hne, hdecimal, hover⟩
  · rintro ⟨value, hvalue, hne, hdecimal, hover⟩
    have hlike := all_isDigitLike hdecimal
    obtain ⟨-, -, rfl⟩ := decimal_of_declared? hvalue hne hlike hdeclared
    exact ⟨_, rfl, hover⟩

end Body

end Http

end OutlineChart
