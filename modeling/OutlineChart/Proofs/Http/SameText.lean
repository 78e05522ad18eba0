import OutlineChart.Proofs.Http.Posted

/-! # Texts sent in two ways

A text is sent as it is, or as a JSON string in any of its spellings.  Both bodies are read as that
text, so whatever answers one request answers the other alike.
-/

namespace OutlineChart

open Browser

namespace Http

variable {services : Services} {s : Settings} {found : Route} {r r' : Request} {o : Oracle}
  {content : Bytes} {cs spelled : List Char}

/-! ## Answers -/

/-- What a reply says, headers apart. -/
def Reply.told (reply : Reply) : Except Crash (Nat × Bytes) :=
  reply.map fun response => (response.status, response.body)

theorem Reply.told_adding (reply : Reply) (hs : Headers) :
    (reply.adding hs).told = reply.told := by
  cases reply <;> rfl

/-- Two requests get the same status and body, by way of the same calls and logs. -/
structure AnsweredAlike (run run' : Run Reply) : Prop where
  result : run.result.map Reply.told = run'.result.map Reply.told
  trace : run.trace = run'.trace
  rest : run.rest = run'.rest

/-- Of a request to a service, what its body is read as is all that the answer depends on. -/
theorem route_eq_of_read (h : r.Posts s found content) {content' : Bytes}
    (h' : r'.Posts s found content')
    (hread : r.read s.maxBodyBytes = r'.read s.maxBodyBytes) :
    route services s r = route services s r' := by
  unfold route onText
  rw [h.route, h'.route, h.method, h'.method, hread]

theorem answeredAlike_of_route_eq (hmethod : r.method = "POST") (hmethod' : r'.method = "POST")
    (hroute : route services s r = route services s r') :
    AnsweredAlike (handle services s r o) (handle services s r' o) := by
  rw [handle_of_post services s o hmethod, handle_of_post services s o hmethod', hroute]
  refine ⟨?_, rfl, rfl⟩
  -- the headers on origins are the requests' own, but they are not told
  cases (route services s r' o).result with
  | error raised => rfl
  | ok reply =>
      show Except.ok (reply.adding _).told = Except.ok (reply.adding _).told
      rw [Reply.told_adding, Reply.told_adding]

/-- A JSON string, however it is spelled, is read as the text that it stands for, just as that text
is when it is sent as it is; and any services answer both requests alike. -/
theorem json_string_answered_as_text (hspelled : Json.StringDocument spelled (Text.ofChars cs))
    (h : r.Posts s found (Utf8.encode spelled)) (hjson : r.headers.DeclaresJson)
    (h' : r'.Posts s found (Utf8.encode cs)) (hplain : ¬ r'.headers.DeclaresJson)
    (services : Services) (o : Oracle) :
    r.read s.maxBodyBytes = .ok (.text (Text.ofChars cs)) ∧
      r'.read s.maxBodyBytes = .ok (.text (Text.ofChars cs)) ∧
      AnsweredAlike (handle services s r o) (handle services s r' o) := by
  have hread := h.read_json hjson hspelled
  have hread' := h'.read_plain hplain
  exact ⟨hread, hread', answeredAlike_of_route_eq h.method h'.method
    (route_eq_of_read h h' (hread.trans hread'.symm))⟩

/-- A spelling with escapes of all kinds, and the text. -/
def spelledOut : List Char × List Char :=
  (" \"1. \\u0041/\\/\\n- \\ud83D\\uDE00 \\\"é\\\"\"\r\n".toList, "1. A//\n- 😀 \"é\"".toList)

theorem stringDocument_spelledOut :
    Json.StringDocument spelledOut.1 (Text.ofChars spelledOut.2) := by
  have hread : Json.literal? (spelledOut.1.drop 2) =
      some (Text.ofChars spelledOut.2, ['\r', '\n']) := by decide +kernel
  obtain ⟨body, hbody, hspelled⟩ := Json.literal?_eq_some_iff.1 hread
  refine ⟨[' '], body, ['\r', '\n'], ?_, by simp [Json.blanks], hspelled⟩
  rw [← hbody]
  decide +kernel

theorem json_string_answered_as_text_of_spelledOut :
    Json.StringDocument spelledOut.1 (Text.ofChars spelledOut.2) ∧
      (outlined "application/json" spelledOut.1).Posts {} .diagram (Utf8.encode spelledOut.1) ∧
      (outlined "text/plain" spelledOut.2).Posts {} .diagram (Utf8.encode spelledOut.2) ∧
      AnsweredAlike
        (handle (.standard (.chromium []) {}) {} (outlined "application/json" spelledOut.1) .calm)
        (handle (.standard (.chromium []) {}) {} (outlined "text/plain" spelledOut.2) .calm) := by
  have hposts : (outlined "application/json" spelledOut.1).Posts {} .diagram
      (Utf8.encode spelledOut.1) :=
    .of_undeclared rfl (by decide +kernel) (by decide +kernel) (by decide +kernel)
  have hposts' : (outlined "text/plain" spelledOut.2).Posts {} .diagram
      (Utf8.encode spelledOut.2) :=
    .of_undeclared rfl (by decide +kernel) (by decide +kernel) (by decide +kernel)
  have hjson : (outlined "application/json" spelledOut.1).headers.DeclaresJson := by
    decide +kernel
  have hplain : ¬ (outlined "text/plain" spelledOut.2).headers.DeclaresJson := by
    decide +kernel
  obtain ⟨-, -, halike⟩ := json_string_answered_as_text stringDocument_spelledOut hposts hjson
    hposts' hplain (.standard (.chromium []) {}) .calm
  exact ⟨stringDocument_spelledOut, hposts, hposts', halike⟩

end Http

end OutlineChart
