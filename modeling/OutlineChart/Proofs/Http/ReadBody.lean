import OutlineChart.Proofs.Http.Headers
import OutlineChart.Proofs.Json.Nesting
import OutlineChart.Proofs.Text.InvalidParts

/-! # What a body is read as

A body over the limit is no text, and is not even looked at if a length over the limit is declared.
Any other body is a text, the string that a document in JSON is, or else its characters as they are;
but a document that nests deeper than there is room for leaves a body unread.
-/

namespace OutlineChart

namespace Http

namespace Body

variable {room : Nat} {maxBytes : Int} {hs : Headers} {body : Bytes} {u : List Char}
  {outcome : Except Obstacle Reading}

theorem read_eq_length_iff {e : LengthError} :
    read room maxBytes hs body = .error (.length e) ↔ declared? hs = .error e := by
  unfold read
  cases declared? hs with
  | error e' => simp
  | ok declared =>
      dsimp only
      split
      · simp
      · split
        · simp
        · split <;> simp

theorem read_of_declaresOver (h : hs.LengthReadable) (hover : hs.DeclaresOver maxBytes)
    (room : Nat) (body : Bytes) : read room maxBytes hs body = .ok .declaredTooLarge := by
  obtain ⟨declared, hdeclared, hiff⟩ := exists_declared_iff h maxBytes
  unfold read
  rw [hdeclared]
  exact if_pos (hiff.2 hover)

theorem read_of_not_declaresOver (h : hs.LengthReadable) (hover : ¬ hs.DeclaresOver maxBytes)
    (room : Nat) (body : Bytes) : read room maxBytes hs body =
      if maxBytes < body.length then .ok .tooLarge
      else match interpret room hs (Utf8.decode body) with
        | .ok t => .ok (.text t)
        | .error nest => .error (.nesting nest) := by
  obtain ⟨declared, hdeclared, hiff⟩ := exists_declared_iff h maxBytes
  unfold read
  rw [hdeclared]
  exact if_neg (hover ∘ hiff.1)

/-! ## Texts -/

/-- What the characters of a body are passed on as, or else where they nest too deep. -/
inductive PassedOn (room : Nat) (hs : Headers) (u : List Char) : Except Json.Nest Text → Prop
  | unwrapped {t : Text} : hs.DeclaresJson → Json.StringDocument u t → PassedOn room hs u (.ok t)
  | nested {nest : Json.Nest} : hs.DeclaresJson → Json.parse room u = .error (.tooDeep nest) →
      PassedOn room hs u (.error nest)
  | verbatim : (hs.DeclaresJson → (∀ t, ¬ Json.StringDocument u t) ∧
      ∀ nest, Json.parse room u ≠ .error (.tooDeep nest)) →
      PassedOn room hs u (.ok (Text.ofChars u))

theorem interpret_of_json (h : hs.DeclaresJson) : interpret room hs u = unwrap room u :=
  if_pos (isJson_iff.2 h)

theorem unwrap_of_stringDocument {t : Text} (h : Json.StringDocument u t) :
    unwrap room u = .ok t := by
  rw [unwrap, Json.parse_eq_string_iff.2 h]

theorem passedOn_interpret (room : Nat) (hs : Headers) (u : List Char) :
    PassedOn room hs u (interpret room hs u) := by
  by_cases hjson : hs.DeclaresJson
  · rw [interpret_of_json hjson, unwrap]
    split
    · next t hstring => exact .unwrapped hjson (Json.parse_eq_string_iff.1 hstring)
    · next nest hdeep => exact .nested hjson hdeep
    · next hstring hdeep =>
        exact .verbatim fun _ => ⟨fun t ht => hstring t (Json.parse_eq_string_iff.2 ht), hdeep⟩
  · rw [interpret, if_neg (hjson ∘ isJson_iff.1)]
    exact .verbatim fun hjson' => absurd hjson' hjson

theorem PassedOn.interpret_eq {r : Except Json.Nest Text} (h : PassedOn room hs u r) :
    interpret room hs u = r := by
  cases h with
  | unwrapped hjson hstring => rw [interpret_of_json hjson, unwrap_of_stringDocument hstring]
  | nested hjson hdeep => rw [interpret_of_json hjson, unwrap, hdeep]
  | verbatim hother =>
      by_cases hjson : hs.DeclaresJson
      · obtain ⟨hstring, hdeep⟩ := hother hjson
        rw [interpret_of_json hjson, unwrap]
        split
        · next t ht => exact absurd (Json.parse_eq_string_iff.1 ht) (hstring t)
        · next nest hnest => exact absurd hnest (hdeep nest)
        · rfl
      · rw [interpret, if_neg (hjson ∘ isJson_iff.1)]

/-! ## Readings -/

/-- What a body is read as within a limit, or else where it nests too deep. -/
inductive ReadsAs (room : Nat) (maxBytes : Int) (hs : Headers) (body : Bytes) :
    Except Obstacle Reading → Prop
  | declaredTooLarge : hs.DeclaresOver maxBytes →
      ReadsAs room maxBytes hs body (.ok .declaredTooLarge)
  | tooLarge : ¬ hs.DeclaresOver maxBytes → maxBytes < body.length →
      ReadsAs room maxBytes hs body (.ok .tooLarge)
  | text {u : List Char} {t : Text} : ¬ hs.DeclaresOver maxBytes → body.length ≤ maxBytes →
      Utf8.Reads body u → PassedOn room hs u (.ok t) → ReadsAs room maxBytes hs body (.ok (.text t))
  | nested {u : List Char} {nest : Json.Nest} : ¬ hs.DeclaresOver maxBytes →
      body.length ≤ maxBytes → Utf8.Reads body u → PassedOn room hs u (.error nest) →
      ReadsAs room maxBytes hs body (.error (.nesting nest))

theorem readsAs_read (h : hs.LengthReadable) (room : Nat) (maxBytes : Int) (body : Bytes) :
    ReadsAs room maxBytes hs body (read room maxBytes hs body) := by
  by_cases hover : hs.DeclaresOver maxBytes
  · rw [read_of_declaresOver h hover]
    exact .declaredTooLarge hover
  · rw [read_of_not_declaresOver h hover]
    split
    · next hlarge => exact .tooLarge hover hlarge
    · next hwithin =>
        have hpassed := passedOn_interpret room hs (Utf8.decode body)
        split
        · next t htext =>
            rw [htext] at hpassed
            exact .text hover (Int.not_lt.1 hwithin) (Utf8.reads_iff.2 rfl) hpassed
        · next nest hnest =>
            rw [hnest] at hpassed
            exact .nested hover (Int.not_lt.1 hwithin) (Utf8.reads_iff.2 rfl) hpassed

theorem ReadsAs.read_eq (h : hs.LengthReadable) (hreads : ReadsAs room maxBytes hs body outcome) :
    read room maxBytes hs body = outcome := by
  cases hreads with
  | declaredTooLarge hover => exact read_of_declaresOver h hover room body
  | tooLarge hover hlarge => rw [read_of_not_declaresOver h hover, if_pos hlarge]
  | text hover hwithin hu hpassed =>
      rw [read_of_not_declaresOver h hover, if_neg (Int.not_lt.2 hwithin), ← Utf8.reads_iff.1 hu,
        hpassed.interpret_eq]
  | nested hover hwithin hu hpassed =>
      rw [read_of_not_declaresOver h hover, if_neg (Int.not_lt.2 hwithin), ← Utf8.reads_iff.1 hu,
        hpassed.interpret_eq]

theorem readsAs_iff (h : hs.LengthReadable) :
    ReadsAs room maxBytes hs body outcome ↔ read room maxBytes hs body = outcome := by
  constructor
  · exact ReadsAs.read_eq h
  · rintro rfl
    exact readsAs_read h room maxBytes body

/-- What does not run out of room is read. -/
theorem exists_read_of_parse (h : hs.LengthReadable)
    (hroom : ∀ nest, Json.parse room (Utf8.decode body) ≠ .error (.tooDeep nest)) :
    ∃ reading, read room maxBytes hs body = .ok reading := by
  have hreads := readsAs_read h room maxBytes body
  generalize read room maxBytes hs body = outcome at hreads
  cases hreads with
  | declaredTooLarge => exact ⟨_, rfl⟩
  | tooLarge => exact ⟨_, rfl⟩
  | text => exact ⟨_, rfl⟩
  | nested _ _ hu hpassed =>
      cases hpassed with
      | nested _ hdeep =>
          rw [Utf8.reads_iff.1 hu] at hdeep
          exact absurd hdeep (hroom _)

/-- What the room does to a body of the characters `u`: a reading that opens no more than there is
room for comes to an end, and so does that of a value that nests no deeper; one that nests deeper is
given up. -/
structure RoomCounts (room : Nat) (maxBytes : Int) (hs : Headers) (body : Bytes) (u : List Char) :
    Prop where
  of_openings : Json.openings u ≤ room → ∃ reading, read room maxBytes hs body = .ok reading
  of_depth_le : ∀ ⦃big v⦄, Json.parse big u = .ok v → v.depth ≤ room →
    ∃ reading, read room maxBytes hs body = .ok reading
  of_lt_depth : ∀ ⦃big v⦄, Json.parse big u = .ok v → room < v.depth → hs.DeclaresJson →
    ¬ hs.DeclaresOver maxBytes → body.length ≤ maxBytes →
    ∃ nest, read room maxBytes hs body = .error (.nesting nest)

theorem roomCounts (h : hs.LengthReadable) (room : Nat) (maxBytes : Int)
    (hu : Utf8.Reads body u) : RoomCounts room maxBytes hs body u where
  of_openings hfew := by
    refine exists_read_of_parse h fun nest hdeep => ?_
    rw [← Utf8.reads_iff.1 hu] at hdeep
    exact absurd (Json.lt_openings_of_parse hdeep) (Nat.not_lt.2 hfew)
  of_depth_le big v hv hfits := by
    refine exists_read_of_parse h fun nest hdeep => ?_
    rw [← Utf8.reads_iff.1 hu, (Json.fits_parse hv room).of_le hfits] at hdeep
    cases hdeep
  of_lt_depth big v hv hdeep hjson hover hwithin := by
    obtain ⟨nest, hnest⟩ := (Json.fits_parse hv room).of_lt hdeep
    exact ⟨nest, (ReadsAs.nested hover hwithin hu (.nested hjson hnest)).read_eq h⟩

/-- With a length that can be read, a body is read as one thing and nothing else, or given up for its
nesting.  It is not looked at if a length over the limit is declared. -/
theorem read_exact (h : hs.LengthReadable) (room : Nat) (maxBytes : Int) (body : Bytes) :
    (∀ outcome, ReadsAs room maxBytes hs body outcome ↔ read room maxBytes hs body = outcome) ∧
      (hs.DeclaresOver maxBytes →
        ∀ room' body', read room' maxBytes hs body' = .ok .declaredTooLarge) ∧
      ∀ u, Utf8.Reads body u → RoomCounts room maxBytes hs body u :=
  ⟨fun _ => readsAs_iff h, fun hover => read_of_declaresOver h hover,
    fun _ hu => roomCounts h room maxBytes hu⟩

/-- Headers of a JSON document that is just as long as is allowed. -/
def fitting : Headers :=
  [("Content-Length", "4"), ("Content-Type", "application/json; charset=utf-8"),
    ("content-length", "5")]

theorem read_exact_of_fitting :
    fitting.LengthReadable ∧
      read 0 4 fitting [0x22, 0x61, 0xFF, 0x22] = .ok (.text [.char 'a', .char '\uFFFD']) ∧
      ReadsAs 0 4 fitting [0x22, 0x61, 0xFF, 0x22] (.ok (.text [.char 'a', .char '\uFFFD'])) := by
  have hlength : fitting.LengthReadable := by
    have hvalue : fitting.value? "content-length" = some "4" := by decide +kernel
    intro value hmem _
    rw [hvalue, Option.mem_some_iff] at hmem
    subst hmem
    decide +kernel
  have hbody : read 0 4 fitting [0x22, 0x61, 0xFF, 0x22] =
      .ok (.text [.char 'a', .char '\uFFFD']) := by decide +kernel
  obtain ⟨hiff, -, -⟩ := read_exact hlength 0 4 [0x22, 0x61, 0xFF, 0x22]
  exact ⟨hlength, hbody, (hiff _).2 hbody⟩

/-! ## Brackets -/

def documented : Headers := [("content-type", "application/json")]

def brackets (n : Nat) : Bytes := Utf8.encode (List.replicate n '[')

theorem length_brackets (n : Nat) : (brackets n).length = n := by
  have hbyte : (Utf8.encodeChar '[').length = 1 := by decide
  unfold brackets
  induction n with
  | zero => rfl
  | succ n ih =>
      rw [List.replicate_succ, Utf8.encode_cons, List.length_append, hbyte, ih, Nat.add_comm]

theorem parse_brackets {room n : Nat} (h : room < n) :
    Json.parse room (Utf8.decode (brackets n)) = .error (.tooDeep .array) := by
  rw [brackets, Utf8.decode_encode]
  simpa using Json.parse_brackets h []

/-- Opening brackets are no string, but neither are they passed on if there are more of them than
there is room for. -/
theorem brackets_unread :
    documented.LengthReadable ∧ ¬ documented.DeclaresOver 100000 ∧
      (brackets 20000).length ≤ (100000 : Int) ∧
      (∀ t, ¬ Json.StringDocument (Utf8.decode (brackets 20000)) t) ∧
      read 1000 100000 documented (brackets 20000) = .error (.nesting .array) := by
  have hundeclared : documented.value? "content-length" = none := by decide +kernel
  have hlength : documented.LengthReadable := .of_undeclared hundeclared
  have hover := Headers.not_declaresOver_of_undeclared hundeclared 100000
  have hjson : documented.DeclaresJson := by decide +kernel
  have hwithin : (brackets 20000).length ≤ (100000 : Int) := by
    rw [length_brackets]
    decide
  have hdeep : Json.parse 1000 (Utf8.decode (brackets 20000)) = .error (.tooDeep .array) :=
    parse_brackets (by decide)
  refine ⟨hlength, hover, hwithin, fun t ht => ?_, ?_⟩
  · rw [Json.parse_eq_string_iff.2 ht] at hdeep
    cases hdeep
  · exact (ReadsAs.nested hover hwithin (Utf8.reads_iff.2 rfl) (.nested hjson hdeep)).read_eq hlength

end Body

/-! ## Requests -/

/-- A document in the body of a request, within the limit, nests deeper than there is room for. -/
structure Request.Overnested (r : Request) (maxBytes : Int) (nest : Json.Nest) : Prop where
  json : r.headers.DeclaresJson
  notOver : ¬ r.headers.DeclaresOver maxBytes
  within : r.body.length ≤ maxBytes
  tooDeep : Json.parse r.room (Utf8.decode r.body) = .error (.tooDeep nest)

variable {r : Request} {maxBytes : Int}

/-- Whatever such a body holds, it opens more than there is room for. -/
theorem Request.Overnested.room_lt_openings {nest : Json.Nest} (h : r.Overnested maxBytes nest) :
    r.room < Json.openings (Utf8.decode r.body) := Json.lt_openings_of_parse h.tooDeep

theorem Request.lengthReadable_of_read {outcome : Except Body.Obstacle Body.Reading}
    (h : r.read maxBytes = outcome) (houtcome : ∀ e, outcome ≠ .error (.length e)) :
    r.headers.LengthReadable := by
  rw [Body.lengthReadable_iff]
  cases hdeclared : Body.declared? r.headers with
  | ok declared => exact ⟨declared, rfl⟩
  | error e =>
      rw [Request.read, Body.read_eq_length_iff.2 hdeclared] at h
      exact absurd h.symm (houtcome e)

/-- With a length that can be read, nothing else leaves a body unread. -/
theorem Request.read_eq_nesting_iff (h : r.headers.LengthReadable) {nest : Json.Nest} :
    r.read maxBytes = .error (.nesting nest) ↔ r.Overnested maxBytes nest := by
  unfold Request.read
  rw [← Body.readsAs_iff h]
  constructor
  · rintro (_ | _ | _ | ⟨hover, hwithin, hu, hpassed⟩)
    cases hpassed with
    | nested hjson hdeep =>
        rw [Utf8.reads_iff.1 hu] at hdeep
        exact ⟨hjson, hover, hwithin, hdeep⟩
  · rintro ⟨hjson, hover, hwithin, hdeep⟩
    exact .nested hover hwithin (Utf8.reads_iff.2 rfl) (.nested hjson hdeep)

/-- A body is read, or there is no room for it. -/
theorem Request.read_cases (h : r.headers.LengthReadable) (maxBytes : Int) :
    (∃ nest, r.Overnested maxBytes nest ∧ r.read maxBytes = .error (.nesting nest)) ∨
      ∃ reading, r.read maxBytes = .ok reading := by
  cases hread : r.read maxBytes with
  | ok reading => exact .inr ⟨reading, rfl⟩
  | error obstacle =>
      cases obstacle with
      | nesting nest => exact .inl ⟨nest, (read_eq_nesting_iff h).1 hread, rfl⟩
      | length e =>
          obtain ⟨declared, hdeclared⟩ := Body.lengthReadable_iff.1 h
          rw [Body.read_eq_length_iff.1 hread] at hdeclared
          cases hdeclared

/-- Opening brackets that are posted as a document in JSON. -/
def bracketed (target : String) : Request where
  server := "test"
  method := "POST"
  target := target
  headers := Body.documented
  body := Body.brackets 20000
  room := 1000

theorem overnested_bracketed (target : String) :
    (bracketed target).Overnested ({} : Settings).maxBodyBytes .array := by
  have hjson : Body.documented.DeclaresJson := by decide +kernel
  have hundeclared : Body.documented.value? "content-length" = none := by decide +kernel
  have hwithin : (Body.brackets 20000).length ≤ ({} : Settings).maxBodyBytes := by
    rw [Body.length_brackets]
    decide
  have hroom : 1000 < 20000 := by decide
  exact {
    json := hjson
    notOver := Headers.not_declaresOver_of_undeclared hundeclared _
    within := hwithin
    tooDeep := Body.parse_brackets hroom }

end Http

end OutlineChart
