import BoardFilter.Proofs.Json.Records
import BoardFilter.Proofs.Json.Wrapping
import BoardFilter.Proofs.Text.Trimming
import BoardFilter.Site.Answer

/-!
# What a reply comes to

A reply of success says what its body says, and the endpoint is asked for a part of that or for the
whole. Every other outcome is one failure of that endpoint. A reply of failure is explained in the
words of the site if there are any, and else by the beginning of its body.
-/

namespace BoardFilter

namespace Site

variable {endpoint : Endpoint} {reply : Reply} {status : Nat} {body : String} {v payload : Json}

/-- A reply of success and what its body says; a blank one says the same as an empty list. -/
inductive Tells : Reply → Nat → Json → Prop
  | blank {status : Nat} {body : String} (hstatus : 200 ≤ status ∧ status < 400)
      (h : Text.isBlankText body = true) : Tells (.received status body) status (.array [])
  | parsed {status : Nat} {body : String} (hstatus : 200 ≤ status ∧ status < 400)
      (h : Text.isBlankText body = false) {v : Json} (hv : Json.parse? body = some v) :
      Tells (.received status body) status v

/-- What is asked for at an endpoint: the node of an object, if the endpoint has one, and any other
value as a whole. -/
inductive Yields (endpoint : Endpoint) : Json → Json → Prop
  | node {name : String} (hnode : endpoint.node? = some name) {fields : List (String × Json)}
      {payload : Json} (h : (name, payload) ∈ fields) : Yields endpoint (.object fields) payload
  | whole {v : Json} (h : endpoint.node? = none ∨ ∀ fields, v ≠ .object fields) :
      Yields endpoint v v

inductive LacksNode (endpoint : Endpoint) : Json → String → Prop
  | object {name : String} (hnode : endpoint.node? = some name) {fields : List (String × Json)}
      (h : ∀ payload, (name, payload) ∉ fields) : LacksNode endpoint (.object fields) name

theorem Yields.not_lacksNode (h : Yields endpoint v payload) (name : String) :
    ¬ LacksNode endpoint v name := by
  rintro ⟨hnode, hlacks⟩
  cases h with
  | node hnode' h =>
    rw [hnode, Option.some.injEq] at hnode'
    exact hlacks _ (hnode' ▸ h)
  | whole h =>
    rcases h with h | h
    · rw [h] at hnode
      cases hnode
    · exact h _ rfl

theorem Tells.nodup {fields : List (String × Json)} (h : Tells reply status (.object fields)) :
    (fields.map Prod.fst).Nodup := by
  cases h with
  | parsed _ _ hv => exact Json.nodup_of_parse? hv

namespace Answer

theorem isSuccess_iff : isSuccess status = true ↔ 200 ≤ status ∧ status < 400 := by
  simp [isSuccess]

theorem unwrap_of_whole (h : endpoint.node? = none ∨ ∀ fields, v ≠ .object fields) :
    unwrap endpoint v = .ok v := by
  unfold unwrap
  split
  · next name fields hnode =>
    rcases h with h | h
    · rw [h] at hnode
      cases hnode
    · exact absurd rfl (h fields)
  · rfl

theorem unwrap_of_node {name : String} (hnode : endpoint.node? = some name)
    (fields : List (String × Json)) :
    unwrap endpoint (.object fields) =
      match Json.lookup name fields with
      | some payload => .ok payload
      | none => .error (.missingNode endpoint name) := by
  cases hread : Json.lookup name fields with
  | none => simp only [unwrap, hnode, hread]
  | some payload => simp only [unwrap, hnode, hread]

theorem unwrap_of_lacksNode {name : String} (h : LacksNode endpoint v name) :
    unwrap endpoint v = .error (.missingNode endpoint name) := by
  obtain ⟨hnode, h⟩ := h
  rw [unwrap_of_node hnode, Json.lookup_eq_none_iff.2 h]

end Answer

theorem Tells.unwrap_eq (h : Tells reply status v) (hyields : Yields endpoint v payload) :
    Answer.unwrap endpoint v = .ok payload := by
  cases hyields with
  | node hnode hmem =>
    rw [Answer.unwrap_of_node hnode, (Json.lookup_eq_some_iff h.nodup).2 hmem]
  | whole hwhole => exact Answer.unwrap_of_whole hwhole

theorem yields_or_lacksNode (endpoint : Endpoint) (v : Json) :
    (∃ payload, Yields endpoint v payload) ∨ ∃ name, LacksNode endpoint v name := by
  cases hnode : endpoint.node? with
  | none => exact .inl ⟨v, .whole (.inl hnode)⟩
  | some name =>
    cases v with
    | object fields =>
      by_cases h : ∃ payload, (name, payload) ∈ fields
      · exact .inl (h.imp fun payload => .node hnode)
      · exact .inr ⟨name, .object hnode (not_exists.1 h)⟩
    | null | bool | int | float | text | array =>
      exact .inl ⟨_, .whole (.inr fun _ => Json.noConfusion)⟩

theorem Tells.ofReply (h : Tells reply status v) (endpoint : Endpoint) :
    Answer.ofReply endpoint reply =
      (Answer.unwrap endpoint v).map fun payload => ⟨payload, status, endpoint⟩ := by
  cases h with
  | blank hstatus h =>
    rw [Answer.ofReply, if_pos (Answer.isSuccess_iff.2 hstatus), Answer.read, if_pos h,
      Answer.unwrap_of_whole (.inr fun _ => Json.noConfusion)]
  | parsed hstatus h hv =>
    rw [Answer.ofReply, if_pos (Answer.isSuccess_iff.2 hstatus), Answer.read, h, hv]
    rfl

def Explains (fields : List (String × Json)) (reason : String) : Prop :=
  ∃ before name after, ["reason", "message", "error"] = before ++ name :: after ∧
    (name, .text reason) ∈ fields ∧
      ∀ earlier ∈ before, ∀ other, (earlier, Json.text other) ∉ fields

def Says (body reason : String) : Prop :=
  ∃ fields, Json.parse? body = some (.object fields) ∧ Explains fields reason

/-- The reason that is found in the body of a reply of failure. Without the words of the site these
are the first 200 characters between the blanks at both ends of the body. -/
inductive Reasons (body : String) : String → Prop
  | said {reason : String} (h : Says body reason) : Reasons body reason
  | quoted {front quote rest back : List Char} (hsilent : ∀ reason, ¬ Says body reason)
      (hbody : body.toList = front ++ (quote ++ rest) ++ back)
      (hfront : ∀ c ∈ front, Text.isBlank c = true) (hback : ∀ c ∈ back, Text.isBlank c = true)
      (hclean : Text.HasCleanEnds (quote ++ rest)) (hne : quote ≠ [])
      (hlength : quote.length = min 200 (quote ++ rest).length) :
      Reasons body (String.ofList quote)
  | blank (h : Text.isBlankText body = true) : Reasons body "empty response"

theorem not_says_of_blank (h : Text.isBlankText body = true) (reason : String) :
    ¬ Says body reason := by
  rintro ⟨fields, hv, -⟩
  rw [Json.isBlankText_of_parse? hv] at h
  cases h

namespace Answer

theorem findSome?_reasonFields {fields : List (String × Json)}
    (hnodup : (fields.map Prod.fst).Nodup) {reason : String} :
    (reasonFields.findSome? fun name => (Json.lookup name fields).bind Json.asText?) =
      some reason ↔ Explains fields reason := by
  have htext : ∀ name t, (Json.lookup name fields).bind Json.asText? = some t ↔
      (name, .text t) ∈ fields := by
    intro name t
    rw [← Json.lookup_eq_some_iff hnodup]
    cases Json.lookup name fields with
    | none => simp
    | some v => cases v <;> simp [Json.asText?]
  have hnone : ∀ name, (Json.lookup name fields).bind Json.asText? = none ↔
      ∀ t, (name, Json.text t) ∉ fields := by
    intro name
    rw [Option.eq_none_iff_forall_ne_some]
    exact forall_congr' fun t => not_congr (htext name t)
  rw [List.findSome?_eq_some_iff]
  simp only [htext, hnone]
  rfl

theorem reason?_eq_some_iff {reason : String} : reason? body = some reason ↔ Says body reason := by
  constructor
  · intro h
    unfold reason? at h
    split at h
    · next fields hv => exact ⟨fields, hv, (findSome?_reasonFields (Json.nodup_of_parse? hv)).1 h⟩
    · cases h
  · rintro ⟨fields, hv, h⟩
    rw [reason?, hv]
    exact (findSome?_reasonFields (Json.nodup_of_parse? hv)).2 h

theorem reasonOf_of_silent (h : ∀ reason, ¬ Says body reason) :
    reasonOf body =
      if (Text.trim body).isEmpty then "empty response"
      else String.ofList ((Text.trimmed body.toList).take 200) := by
  have hnone : reason? body = none :=
    Option.eq_none_iff_forall_ne_some.2 fun reason hsome => h reason (reason?_eq_some_iff.1 hsome)
  simp only [reasonOf, hnone, Text.trim, String.toList_ofList, quoteLimit]
  rfl

theorem isEmpty_trim_iff :
    (Text.trim body).isEmpty = true ↔ Text.isBlankText body = true := by
  rw [String.isEmpty_iff, Text.trim, String.ofList_eq_empty_iff, Text.trimmed_eq_nil_iff,
    Text.isBlankText]

theorem reasons_reasonOf (body : String) : Reasons body (reasonOf body) := by
  by_cases hsays : ∃ reason, Says body reason
  · obtain ⟨reason, h⟩ := hsays
    rw [reasonOf, reason?_eq_some_iff.2 h]
    exact .said h
  · have hsilent := not_exists.1 hsays
    rw [reasonOf_of_silent hsilent]
    split
    · next hempty => exact .blank (isEmpty_trim_iff.1 hempty)
    · next hempty =>
      obtain ⟨front, back, hfront, hback, hbody⟩ := Text.exists_trimmed body.toList
      have hclean := Text.hasCleanEnds_trimmed body.toList
      have hne : Text.trimmed body.toList ≠ [] := fun hnil =>
        hempty (isEmpty_trim_iff.2 (Text.trimmed_eq_nil_iff.1 hnil))
      generalize Text.trimmed body.toList = text at hbody hclean hne
      rw [← List.take_append_drop 200 text] at hbody hclean
      refine .quoted hsilent hbody.symm hfront hback hclean ?_ ?_
      · simpa using hne
      · rw [List.take_append_drop, List.length_take]

end Answer

theorem Reasons.eq_reasonOf {reason : String} (h : Reasons body reason) :
    reason = Answer.reasonOf body := by
  cases h with
  | said h => rw [Answer.reasonOf, Answer.reason?_eq_some_iff.2 h]
  | @quoted front quote rest back hsilent hbody hfront hback hclean hne hlength =>
    have htrimmed : Text.trimmed body.toList = quote ++ rest := by
      rw [hbody, Text.trimmed_append_blanks hback, Text.trimmed_blanks_append hfront,
        Text.trimmed_of_hasCleanEnds hclean]
    have hfull : ¬ (Text.trim body).isEmpty = true := by
      rw [Answer.isEmpty_trim_iff, Text.isBlankText, ← Text.trimmed_eq_nil_iff, htrimmed]
      simp [hne]
    have htake : (quote ++ rest).take 200 = quote := by
      rw [List.take_eq_take_min, ← hlength, List.take_left']
      rfl
    rw [Answer.reasonOf_of_silent hsilent, if_neg hfull, htrimmed, htake]
  | blank h =>
    rw [Answer.reasonOf_of_silent (not_says_of_blank h), if_pos (Answer.isEmpty_trim_iff.2 h)]

theorem reasons_iff {reason : String} : Reasons body reason ↔ Answer.reasonOf body = reason :=
  ⟨fun h => h.eq_reasonOf.symm, fun h => h ▸ Answer.reasons_reasonOf body⟩

example :
    Answer.reasonOf "\x7b\"reason\":7,\"message\":\"too many tags\"\x7d" = "too many tags" := by
  decide +kernel

theorem reasons_empty_iff : Reasons body "" ↔ Says body "" := by
  refine ⟨fun h => ?_, .said⟩
  generalize hreason : "" = reason at h
  cases h with
  | said h => exact h
  | quoted _ _ _ _ _ hne _ => exact absurd (String.ofList_eq_empty_iff.1 hreason.symm) hne
  | blank _ => exact absurd hreason (by decide)

theorem Disconnect.message_ne_empty (why : Disconnect) : why.message ≠ "" := by
  have happend : ∀ {lead : String} (rest : String), lead ≠ "" → lead ++ rest ≠ "" :=
    fun _ hlead hempty => hlead (String.append_eq_empty_iff.1 hempty).1
  cases why with
  | invalidRequest reason => exact happend reason (by decide)
  | noConnection reason => exact happend reason (by decide)

/-- What the reply to a request at an endpoint comes to. -/
inductive ComesTo (endpoint : Endpoint) : Reply → Except Failure Answer → Prop
  | answer {reply : Reply} {status : Nat} {v payload : Json} (h : Tells reply status v)
      (hyields : Yields endpoint v payload) :
      ComesTo endpoint reply (.ok ⟨payload, status, endpoint⟩)
  | missing {reply : Reply} {status : Nat} {v : Json} {name : String} (h : Tells reply status v)
      (hlacks : LacksNode endpoint v name) :
      ComesTo endpoint reply (.error (.missingNode endpoint name))
  | malformed {status : Nat} {body : String} (hstatus : 200 ≤ status ∧ status < 400)
      (h : Text.isBlankText body = false) (hv : Json.parse? body = none) :
      ComesTo endpoint (.received status body) (.error (.malformed endpoint))
  | refused {status : Nat} {body reason : String} (hstatus : status < 200 ∨ 400 ≤ status)
      (h : Reasons body reason) :
      ComesTo endpoint (.received status body) (.error (.refused endpoint status reason))
  | disconnected (why : Disconnect) :
      ComesTo endpoint (.none why) (.error (.refused endpoint 0 why.message))
  | broken :
      ComesTo endpoint .broken
        (.error (.refused endpoint 0 "transport panicked while sending the request"))

theorem ComesTo.ofReply_eq {result : Except Failure Answer} (h : ComesTo endpoint reply result) :
    Answer.ofReply endpoint reply = result := by
  cases h with
  | answer h hyields =>
    rw [h.ofReply, h.unwrap_eq hyields]
    rfl
  | missing h hlacks =>
    rw [h.ofReply, Answer.unwrap_of_lacksNode hlacks]
    rfl
  | malformed hstatus h hv =>
    rw [Answer.ofReply, if_pos (Answer.isSuccess_iff.2 hstatus), Answer.read, h, hv]
    rfl
  | @refused status body reason hstatus h =>
    have hfailure : ¬ Answer.isSuccess status = true := by
      rw [Answer.isSuccess_iff]
      omega
    rw [Answer.ofReply, if_neg hfailure, h.eq_reasonOf]
  | disconnected why => rfl
  | broken => rfl

theorem exists_comesTo (endpoint : Endpoint) (reply : Reply) :
    ∃ result, ComesTo endpoint reply result := by
  have htells : ∀ {status v}, Tells reply status v → ∃ result, ComesTo endpoint reply result := by
    intro status v h
    rcases yields_or_lacksNode endpoint v with ⟨payload, hyields⟩ | ⟨name, hlacks⟩
    · exact ⟨_, .answer h hyields⟩
    · exact ⟨_, .missing h hlacks⟩
  cases reply with
  | none why => exact ⟨_, .disconnected why⟩
  | broken => exact ⟨_, .broken⟩
  | received status body =>
    by_cases hstatus : 200 ≤ status ∧ status < 400
    · cases hblank : Text.isBlankText body with
      | true => exact htells (.blank hstatus hblank)
      | false =>
        cases hv : Json.parse? body with
        | some v => exact htells (.parsed hstatus hblank hv)
        | none => exact ⟨_, .malformed hstatus hblank hv⟩
    · exact ⟨_, .refused (by omega) (Answer.reasons_reasonOf body)⟩

theorem ofReply_eq_iff {result : Except Failure Answer} :
    Answer.ofReply endpoint reply = result ↔ ComesTo endpoint reply result := by
  refine ⟨?_, ComesTo.ofReply_eq⟩
  rintro rfl
  obtain ⟨result, h⟩ := exists_comesTo endpoint reply
  rwa [h.ofReply_eq]

/-- A reply comes to an answer just if it tells of success and its body is blank or is JSON and not
an object that lacks the node of the endpoint. Every other outcome is one failure of the endpoint,
whose reason is empty only where the site says so. -/
theorem replies_come_to_answers (endpoint : Endpoint) (reply : Reply) :
    ((∃ answer, Answer.ofReply endpoint reply = .ok answer) ↔
      ∃ status body, reply = .received status body ∧ (200 ≤ status ∧ status < 400) ∧
        (Text.isBlankText body = true ∨
          ∃ v, Json.parse? body = some v ∧ ∀ name, ¬ LacksNode endpoint v name)) ∧
    (∀ result, Answer.ofReply endpoint reply = result ↔ ComesTo endpoint reply result) ∧
    ∀ status, Answer.ofReply endpoint reply = .error (.refused endpoint status "") ↔
      ∃ body, reply = .received status body ∧ (status < 200 ∨ 400 ≤ status) ∧ Says body "" := by
  refine ⟨⟨?_, ?_⟩, fun result => ofReply_eq_iff, fun status => ⟨fun hrefused => ?_, ?_⟩⟩
  · rintro ⟨answer, hanswer⟩
    cases ofReply_eq_iff.1 hanswer with
    | answer h hyields =>
      cases h with
      | blank hstatus h => exact ⟨_, _, rfl, hstatus, .inl h⟩
      | parsed hstatus _ hv => exact ⟨_, _, rfl, hstatus, .inr ⟨_, hv, hyields.not_lacksNode⟩⟩
  · rintro ⟨status, body, rfl, hstatus, hblank | ⟨v, hv, hlacks⟩⟩
    · have hwhole : Yields endpoint (.array []) (.array []) :=
        .whole (.inr fun _ => Json.noConfusion)
      exact ⟨_, ofReply_eq_iff.2 (.answer (.blank hstatus hblank) hwhole)⟩
    · have h := Tells.parsed hstatus (Json.isBlankText_of_parse? hv) hv
      obtain ⟨payload, hyields⟩ :=
        (yields_or_lacksNode endpoint v).resolve_right (not_exists.2 hlacks)
      exact ⟨_, ofReply_eq_iff.2 (.answer h hyields)⟩
  · generalize hresult : Except.error (Failure.refused endpoint status "") = result at hrefused
    cases ofReply_eq_iff.1 hrefused with
    | answer | missing | malformed => cases hresult
    | refused hstatus h =>
      rw [Except.error.injEq, Failure.refused.injEq] at hresult
      obtain ⟨-, rfl, rfl⟩ := hresult
      exact ⟨_, rfl, hstatus, reasons_empty_iff.1 h⟩
    | disconnected why =>
      rw [Except.error.injEq, Failure.refused.injEq] at hresult
      exact absurd hresult.2.2.symm why.message_ne_empty
    | broken =>
      rw [Except.error.injEq, Failure.refused.injEq] at hresult
      exact absurd hresult.2.2 (by decide)
  · rintro ⟨body, rfl, hstatus, h⟩
    exact ofReply_eq_iff.2 (.refused hstatus (.said h))

end Site

end BoardFilter
